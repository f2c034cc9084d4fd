import Mathlib.Algebra.BigOperators.Group.List.Basic

/-!
# Arrays of several dimensions

An `NdArray` is a shape and the elements in row-major order.  A shape of length 0 is
that of a single element.

`tolist` and `ofNested` convert between arrays and nested lists.  A one-dimensional
array that has other than one element survives dropping the unit dimensions
(`squeeze_line`), and the conversion to a list and back (`ofNested_line`).
-/

namespace UsrpWrapper.Lib

/-- An array: its shape, and its elements in row-major order. -/
structure NdArray (α : Type) where
  shape : List ℕ
  data : List α
  size_eq : data.length = shape.prod
  deriving DecidableEq

/-- A list whose items are lists in turn, or a single value. -/
inductive Nested (α : Type) where
  | scalar (value : α)
  | list (items : List (Nested α))

namespace NdArray

variable {α β γ : Type}

/-- Arrays are equal if their shapes and their elements are. -/
theorem ext' {a b : NdArray α} (hshape : a.shape = b.shape) (hdata : a.data = b.data) : a = b := by
  cases a
  cases b
  cases hshape
  cases hdata
  rfl

/-- The number of dimensions. -/
def ndim (a : NdArray α) : ℕ := a.shape.length

/-- The array of one dimension. -/
def line (xs : List α) : NdArray α := ⟨[xs.length], xs, by simp⟩

theorem eq_line_of_ndim {a : NdArray α} (h : a.ndim = 1) : a = line a.data := by
  obtain ⟨n, hn⟩ := List.length_eq_one_iff.mp h
  refine ext' ?_ rfl
  show a.shape = [a.data.length]
  rw [a.size_eq, hn, List.prod_singleton]

/-- Apply a function to all elements. -/
def map (f : α → β) (a : NdArray α) : NdArray β :=
  ⟨a.shape, a.data.map f, by rw [List.length_map, a.size_eq]⟩

@[simp] theorem map_line (f : α → β) (xs : List α) : (line xs).map f = line (xs.map f) :=
  ext' (by simp [map, line]) rfl

/-! ## Dropping unit dimensions -/

theorem prod_filter_ne_one (shape : List ℕ) : (shape.filter (· ≠ 1)).prod = shape.prod := by
  induction shape with
  | nil => rfl
  | cons n shape ih =>
      by_cases hn : n = 1
      · rw [List.filter_cons_of_neg (by simpa using hn), ih, List.prod_cons, hn, Nat.one_mul]
      · rw [List.filter_cons_of_pos (by simpa using hn), List.prod_cons, ih, List.prod_cons]

/-- The array without its dimensions of size 1. -/
def squeeze (a : NdArray α) : NdArray α :=
  ⟨a.shape.filter (· ≠ 1), a.data, by rw [prod_filter_ne_one, a.size_eq]⟩

/-- A line that is longer than 1 stays one. -/
theorem squeeze_line {xs : List α} (h : xs.length ≠ 1) : (line xs).squeeze = line xs :=
  ext' (by simp [squeeze, line, h]) rfl

/-- A line of one element loses its dimension. -/
theorem ndim_squeeze_line {xs : List α} (h : xs.length = 1) : (line xs).squeeze.ndim = 0 := by
  simp [ndim, squeeze, line, h]

/-! ## Nested lists -/

/-- Elements in row-major order, as a nested list. -/
def nest : List ℕ → List α → Nested α
  | [], x :: _ => .scalar x
  | [], [] => .list []
  | n :: shape, data => .list ((List.range n).map fun i =>
      nest shape ((data.drop (i * shape.prod)).take shape.prod))

/-- The array as nested lists. -/
def tolist (a : NdArray α) : Nested α := nest a.shape a.data

theorem tolist_line (xs : List α) : (line xs).tolist = .list (xs.map .scalar) := by
  show Nested.list _ = _
  congr 1
  apply List.ext_getElem
  · simp
  · intro i hi hi'
    have hlt : i < xs.length := by simpa using hi'
    rw [List.getElem_map, List.getElem_map, List.getElem_range, List.prod_nil, Nat.mul_one]
    show nest [] ((xs.drop i).take 1) = .scalar xs[i]
    rw [List.drop_eq_getElem_cons hlt]
    rfl

/-- An array without dimensions is a single value. -/
theorem tolist_of_ndim {a : NdArray α} (h : a.ndim = 0) : ∃ x, a.tolist = .scalar x := by
  obtain ⟨shape, data, hsize⟩ := a
  obtain rfl : shape = [] := List.length_eq_zero_iff.mp h
  obtain ⟨x, rfl⟩ := List.length_eq_one_iff.mp hsize
  exact ⟨x, rfl⟩

/-- Arrays of the same shape, one after the other along a new first dimension. -/
def stack (items : List (NdArray α)) : Option (NdArray α) :=
  let shape := (items.head?.map NdArray.shape).getD []
  if h : ∀ a ∈ items, a.shape = shape then
    some ⟨items.length :: shape, items.flatMap NdArray.data, by
      rw [List.length_flatMap, List.prod_cons,
        List.map_congr_left (g := fun _ => shape.prod) fun a ha => by rw [a.size_eq, h a ha]]
      simp⟩
  else none

/-- The elements of the stacked arrays, one after the other. -/
theorem data_of_stack {items : List (NdArray α)} {a : NdArray α} (h : stack items = some a) :
    a.data = items.flatMap NdArray.data := by
  rw [stack] at h
  split at h
  case isTrue => cases h; rfl
  case isFalse => cases h

/-- Arrays can be stacked if they all have the same shape. -/
theorem exists_stack_iff {items : List (NdArray α)} :
    (∃ a, stack items = some a) ↔ ∀ a ∈ items, ∀ b ∈ items, a.shape = b.shape := by
  rw [stack]
  split
  case isTrue h => exact iff_of_true ⟨_, rfl⟩ fun a ha b hb => (h a ha).trans (h b hb).symm
  case isFalse h =>
    refine iff_of_false (fun ⟨a, ha⟩ => nomatch ha) fun hall => h fun a ha => ?_
    cases items with
    | nil => cases ha
    | cons first items => exact hall a ha first List.mem_cons_self

mutual

/-- The array of a nested list, if all lists of one level have the same shape. -/
def ofNested : Nested α → Option (NdArray α)
  | .scalar x => some ⟨[], [x], rfl⟩
  | .list items => do stack (← ofItems items)

/-- The arrays of the items of a list. -/
def ofItems : List (Nested α) → Option (List (NdArray α))
  | [] => some []
  | item :: items => do return (← ofNested item) :: (← ofItems items)

end

/-- The array of a single value. -/
def single (x : α) : NdArray α := ⟨[], [x], rfl⟩

theorem ofItems_scalars (xs : List α) : ofItems (xs.map .scalar) = some (xs.map single) := by
  induction xs with
  | nil => simp [ofItems]
  | cons x xs ih => simp [ofItems, ofNested, ih, single]

theorem stack_singles (xs : List α) : stack (xs.map single) = some (line xs) := by
  have hfirst : (((xs.map single).head?).map NdArray.shape).getD [] = [] := by
    cases xs <;> rfl
  have hall : ∀ a ∈ xs.map single, a.shape =
      (((xs.map single).head?).map NdArray.shape).getD [] := by
    intro a ha
    obtain ⟨x, -, rfl⟩ := List.mem_map.mp ha
    exact hfirst.symm
  rw [stack, dif_pos hall]
  refine congrArg some (ext' ?_ ?_)
  · show (xs.map single).length :: _ = [xs.length]
    rw [hfirst, List.length_map]
  · show (xs.map single).flatMap NdArray.data = xs
    rw [List.flatMap_map]
    exact List.flatMap_singleton' xs

theorem ofNested_line (xs : List α) : ofNested (.list (xs.map .scalar)) = some (line xs) := by
  rw [ofNested, ofItems_scalars]
  exact stack_singles xs

/-! ## Elementwise operations -/

/-- The common shape of two reversed shapes: a dimension of size 1, or one that is
missing, is repeated. -/
def alignShapes : List ℕ → List ℕ → Option (List ℕ)
  | [], shape => some shape
  | shape, [] => some shape
  | m :: shape, n :: shape' => do
      let rest ← alignShapes shape shape'
      if m = n ∨ n = 1 then return m :: rest
      else if m = 1 then return n :: rest
      else none

/-- All indices of a shape, in row-major order. -/
def indices : List ℕ → List (List ℕ)
  | [] => [[]]
  | n :: shape => (List.range n).flatMap fun i => (indices shape).map fun idx => i :: idx

/-- The position of an index; a dimension of size 1 is repeated. -/
def position : List ℕ → List ℕ → ℕ
  | n :: shape, i :: idx => (if n = 1 then 0 else i) * shape.prod + position shape idx
  | _, _ => 0

/-- The element at an index of a common shape. -/
def get? (a : NdArray α) (idx : List ℕ) : Option α :=
  a.data[position a.shape (idx.drop (idx.length - a.ndim))]?

/-- An operation on the elements of two arrays; different shapes are broadcast to
their common shape. -/
def zipWith (f : α → β → γ) (a : NdArray α) (b : NdArray β) : Option (NdArray γ) :=
  if h : a.shape = b.shape then
    some ⟨a.shape, List.zipWith f a.data b.data, by
      rw [List.length_zipWith, a.size_eq, b.size_eq, h, Nat.min_self]⟩
  else do
    let shape ← (alignShapes a.shape.reverse b.shape.reverse).map List.reverse
    let data ← (indices shape).mapM fun idx => do return f (← a.get? idx) (← b.get? idx)
    if h : data.length = shape.prod then some ⟨shape, data, h⟩ else none

/-- Arrays of the same shape. -/
theorem zipWith_of_shape_eq (f : α → β → γ) {a : NdArray α} {b : NdArray β}
    (h : a.shape = b.shape) : ∃ c, zipWith f a b = some c ∧ c.shape = a.shape ∧
      c.data = List.zipWith f a.data b.data := by
  rw [zipWith, dif_pos h]
  exact ⟨_, rfl, rfl, rfl⟩

/-- Lines of one length are combined element by element. -/
theorem zipWith_line (f : α → β → γ) {xs : List α} {ys : List β} (h : xs.length = ys.length) :
    zipWith f (line xs) (line ys) = some (line (List.zipWith f xs ys)) := by
  have hshape : (line xs).shape = (line ys).shape := congrArg (fun n => [n]) h
  rw [zipWith, dif_pos hshape]
  refine congrArg some (ext' ?_ rfl)
  show [xs.length] = [(List.zipWith f xs ys).length]
  rw [List.length_zipWith, ← h, Nat.min_self]

end NdArray

end UsrpWrapper.Lib
