import Mathlib.Algebra.Order.BigOperators.Group.List
import Mathlib.Data.List.Basic
import Mathlib.Order.CompletePartialOrder
import Mathlib.Order.Interval.Set.Basic
import Mathlib.Tactic.Linarith

/-!
# Regions and consecutive layouts

Two general notions of a memory that is handed out in pieces.

* A `Region` is an offset and a size; its `addresses` are a half-open interval.
  Containment and disjointness of regions are those of the address sets.
* A *consecutive layout* places items of sizes `sizes` one behind the other, so
  item `i` starts at `start sizes i`, the sum of the sizes before it.  Appending
  an item leaves the starts of the others alone (`start_append`), and an item
  ends before every later one starts (`start_add_le_start`).
-/

namespace UsrpWrapper.Lib

/-! ## Regions -/

/-- A region of an address space. -/
structure Region where
  offset : ℕ
  size : ℕ
  deriving DecidableEq

namespace Region

/-- The addresses of a region. -/
def addresses (r : Region) : Set ℕ := Set.Ico r.offset (r.offset + r.size)

/-- The addresses of a region. -/
theorem mem_addresses {r : Region} {a : ℕ} :
    a ∈ r.addresses ↔ r.offset ≤ a ∧ a < r.offset + r.size := Iff.rfl

/-- A region starts no earlier and ends no later than another. -/
structure Inside (r r' : Region) : Prop where
  start_le : r'.offset ≤ r.offset
  end_le : r.offset + r.size ≤ r'.offset + r'.size

theorem Inside.trans {r r' r'' : Region} (h : r.Inside r') (h' : r'.Inside r'') :
    r.Inside r'' :=
  ⟨h'.start_le.trans h.start_le, h.end_le.trans h'.end_le⟩

theorem Inside.addresses_subset {r r' : Region} (h : r.Inside r') :
    r.addresses ⊆ r'.addresses := by
  intro a ha
  have hstart := h.start_le
  have hend := h.end_le
  rw [mem_addresses] at ha ⊢
  omega

/-- Regions inside disjoint regions are disjoint. -/
theorem disjoint_of_inside {r r' q q' : Region} (h : r.Inside q) (h' : r'.Inside q')
    (hq : Disjoint q.addresses q'.addresses) : Disjoint r.addresses r'.addresses :=
  Set.disjoint_of_subset h.addresses_subset h'.addresses_subset hq

/-- Two regions are disjoint when the first ends before the second starts. -/
theorem disjoint_of_le {r r' : Region} (h : r.offset + r.size ≤ r'.offset) :
    Disjoint r.addresses r'.addresses := by
  rw [Set.disjoint_left]
  intro a ha ha'
  rw [mem_addresses] at ha ha'
  omega

end Region

/-! ## Consecutive layouts -/

namespace Layout

/-- Where item `i` starts when items of these sizes are placed one behind the
other. -/
def start (sizes : List ℕ) (i : ℕ) : ℕ := (sizes.take i).sum

@[simp] theorem start_zero (sizes : List ℕ) : start sizes 0 = 0 := rfl

theorem start_length (sizes : List ℕ) : start sizes sizes.length = sizes.sum := by
  simp [start]

theorem start_succ {sizes : List ℕ} {i : ℕ} (h : i < sizes.length) :
    start sizes (i + 1) = start sizes i + sizes[i] := by
  rw [start, start, List.take_add_one, List.getElem?_eq_getElem h, List.sum_append]
  simp

/-- More parts do not move those before them. -/
theorem start_append {sizes : List ℕ} {i : ℕ} (more : List ℕ) (h : i ≤ sizes.length) :
    start (sizes ++ more) i = start sizes i := by
  simp [start, List.take_append_of_le_length h]

theorem start_mono (sizes : List ℕ) {i j : ℕ} (h : i ≤ j) : start sizes i ≤ start sizes j := by
  obtain ⟨k, rfl⟩ := Nat.exists_eq_add_of_le h
  rw [start, start, List.take_add, List.sum_append]
  exact Nat.le_add_right _ _

theorem start_le_sum (sizes : List ℕ) (i : ℕ) : start sizes i ≤ sizes.sum := by
  rcases Nat.le_total i sizes.length with h | h
  · rw [← start_length]
    exact start_mono sizes h
  · simp [start, List.take_of_length_le h]

/-- An item ends before every later item starts. -/
theorem start_add_le_start {sizes : List ℕ} {i j : ℕ} (hi : i < sizes.length) (hij : i < j) :
    start sizes i + sizes[i] ≤ start sizes j := by
  rw [← start_succ hi]
  exact start_mono sizes hij

theorem start_add_le_sum {sizes : List ℕ} {i : ℕ} (hi : i < sizes.length) :
    start sizes i + sizes[i] ≤ sizes.sum := by
  rw [← start_succ hi]
  exact start_le_sum sizes (i + 1)

/-! ### Items of several equal parts

When every item stands for `n` parts of its size, one behind the other, part `s`
of item `i` starts at `start sizes i * n + sizes[i] * s`. -/

/-- The share of a stream ends before the next part. -/
theorem part_end_le {sizes : List ℕ} {n i s : ℕ} (hi : i < sizes.length) (hs : s < n) :
    start sizes i * n + sizes[i] * s + sizes[i] ≤ start sizes (i + 1) * n := by
  rw [start_succ hi, Nat.add_mul, Nat.add_assoc, ← Nat.mul_succ]
  exact Nat.add_le_add_left (Nat.mul_le_mul_left _ hs) _

/-- A part ends before the parts of every later item start. -/
theorem part_end_le_start {sizes : List ℕ} {n i j s : ℕ} (hi : i < sizes.length) (hs : s < n)
    (hij : i < j) : start sizes i * n + sizes[i] * s + sizes[i] ≤ start sizes j * n :=
  (part_end_le hi hs).trans (Nat.mul_le_mul_right n (start_mono sizes hij))

theorem part_end_le_sum {sizes : List ℕ} {n i s : ℕ} (hi : i < sizes.length) (hs : s < n) :
    start sizes i * n + sizes[i] * s + sizes[i] ≤ sizes.sum * n :=
  (part_end_le hi hs).trans (Nat.mul_le_mul_right n (start_le_sum sizes (i + 1)))

/-- A part ends before every later part of the same item starts. -/
theorem part_end_le_part {sizes : List ℕ} {n i s s' : ℕ} (hi : i < sizes.length) (hs : s < s') :
    start sizes i * n + sizes[i] * s + sizes[i] ≤ start sizes i * n + sizes[i] * s' := by
  rw [Nat.add_assoc, ← Nat.mul_succ]
  exact Nat.add_le_add_left (Nat.mul_le_mul_left _ hs) _

/-! ### Enumerating the parts of the items

Reading the same list as the number of parts each item consists of, the parts
are numbered one after the other: part `j` of item `i` has the number
`start sizes i + j`.  The numbering determines item and part. -/

/-- The number of a part determines its item. -/
theorem item_eq_of_number_eq {sizes : List ℕ} {i j i' j' : ℕ} (hi : i < sizes.length)
    (hj : j < sizes[i]) (hi' : i' < sizes.length) (hj' : j' < sizes[i'])
    (h : start sizes i + j = start sizes i' + j') : i = i' ∧ j = j' := by
  rcases Nat.lt_trichotomy i i' with hlt | heq | hgt
  · have := start_add_le_start hi hlt
    omega
  · subst heq
    exact ⟨rfl, by omega⟩
  · have := start_add_le_start hi' hgt
    omega

theorem start_cons_succ (size : ℕ) (sizes : List ℕ) (i : ℕ) :
    start (size :: sizes) (i + 1) = size + start sizes i := by
  simp [start]

/-- Items of one part each. -/
theorem start_of_forall_one {sizes : List ℕ} {i : ℕ} (h : ∀ size ∈ sizes, size = 1)
    (hi : i ≤ sizes.length) : start sizes i = i := by
  have htake : sizes.take i = List.replicate i 1 := by
    refine List.eq_replicate_iff.mpr
      ⟨by rw [List.length_take, Nat.min_eq_left hi], fun size hsize => ?_⟩
    exact h size (List.mem_of_mem_take hsize)
  rw [start, htake]
  simp

/-- In a list that contains every item once for each of its parts, the items stand
at the numbers of their parts. -/
theorem getElem?_flatMap_replicate {α : Type} {count : α → ℕ} {l : List α} {i j : ℕ} {a : α}
    (h : l[i]? = some a) (hj : j < count a) :
    (l.flatMap fun a => List.replicate (count a) a)[start (l.map count) i + j]? = some a := by
  induction l generalizing i with
  | nil => cases h
  | cons b l ih =>
      rw [List.flatMap_cons, List.map_cons]
      cases i with
      | zero =>
          obtain rfl : b = a := by simpa using h
          rw [start_zero, Nat.zero_add, List.getElem?_append_left (by simpa using hj)]
          simp [hj]
      | succ i =>
          rw [start_cons_succ, Nat.add_assoc,
            List.getElem?_append_right (by rw [List.length_replicate]; omega),
            List.length_replicate, Nat.add_sub_cancel_left]
          exact ih h

/-- Numbers with the same sum, where one list lies below the other, are equal. -/
theorem eq_of_sum_le {α : Type} {f g : α → ℕ} {l : List α} (hle : ∀ a ∈ l, g a ≤ f a)
    (hsum : (l.map f).sum ≤ (l.map g).sum) : ∀ a ∈ l, g a = f a := by
  induction l with
  | nil => exact fun a ha => nomatch ha
  | cons b l ih =>
      rw [List.map_cons, List.map_cons, List.sum_cons, List.sum_cons] at hsum
      have hb := hle b List.mem_cons_self
      have htail : (l.map g).sum ≤ (l.map f).sum :=
        List.sum_le_sum fun a ha => hle a (List.mem_cons_of_mem b ha)
      intro a ha
      rcases List.mem_cons.mp ha with rfl | ha
      · omega
      · exact ih (fun a ha => hle a (List.mem_cons_of_mem b ha)) (by omega) a ha

end Layout

end UsrpWrapper.Lib
