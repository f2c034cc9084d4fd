import UsrpWrapper.Serialization
import Mathlib.Data.List.Zip

/-!
# Equality of signals

`MimoSignal.__eq__` (`config.py`) zips the arrays of two signals, compares each pair
element by element, and returns the sum of the outcomes.  The sum is the number of
samples that agree: it is truthy as soon as one sample does.

`eq_eq` says what `==` returns.  From it follows where `==` means equality (`meets_iff`), and
which laws of an equivalence it keeps.

`np.sum` makes one array of the outcomes first, which NumPy refuses if their shapes
differ (since 1.24).  A comparison that raises is neither true nor false.
-/

namespace UsrpWrapper

open Lib Lib.Command

/-! ## Numbers and arrays -/

/-- `==` of numbers. -/
def Float64.eq : Float64 → Float64 → Bool
  | .finite x, .finite y => decide (x = y)
  | .inf negative, .inf negative' => negative == negative'
  | _, _ => false

/-- `==` of samples. -/
def Sample.eq (a b : Sample) : Bool := a.re.eq b.re && a.im.eq b.im

/-- A number equals itself, unless it is not-a-number. -/
theorem Float64.eq_self_iff (x : Float64) : x.eq x = true ↔ x ≠ .nan := by
  cases x <;> simp [Float64.eq]

theorem Float64.eq_comm (x y : Float64) : x.eq y = y.eq x := by
  cases x with
  | finite x =>
      cases y with
      | finite y => exact decide_eq_decide.mpr Eq.comm
      | _ => rfl
  | inf negative =>
      cases y with
      | inf negative' => exact Bool.beq_comm
      | _ => rfl
  | nan => cases y <;> rfl

theorem Float64.eq_trans {x y z : Float64} (hxy : x.eq y = true) (hyz : y.eq z = true) :
    x.eq z = true := by
  cases y with
  | finite y =>
      cases x with
      | finite x => rwa [of_decide_eq_true hxy]
      | _ => cases hxy
  | inf negative =>
      cases x with
      | inf negative' => rwa [eq_of_beq hxy]
      | _ => cases hxy
  | nan => cases hyz

/-- A sample equals itself if both parts do. -/
theorem Sample.eq_self_iff (z : Sample) : z.eq z = true ↔ z.re ≠ .nan ∧ z.im ≠ .nan := by
  rw [Sample.eq, Bool.and_eq_true, Float64.eq_self_iff, Float64.eq_self_iff]

theorem Sample.eq_comm (a b : Sample) : a.eq b = b.eq a := by
  rw [Sample.eq, Sample.eq, Float64.eq_comm a.re, Float64.eq_comm a.im]

theorem Sample.eq_trans {x y z : Sample} (hxy : x.eq y = true) (hyz : y.eq z = true) :
    x.eq z = true := by
  rw [Sample.eq, Bool.and_eq_true] at *
  exact ⟨Float64.eq_trans hxy.1 hyz.1, Float64.eq_trans hxy.2 hyz.2⟩

/-- `==` of two arrays. -/
def npEqual (a b : NdArray Sample) : Except PythonError (NdArray Bool) :=
  match NdArray.zipWith Sample.eq a b with
  | none => .error .numpy
  | some array => .ok array

/-- `np.sum` of a list of Boolean arrays. -/
def npSum (arrays : List (NdArray Bool)) : Except PythonError ℕ :=
  match NdArray.stack arrays with
  | none => .error .numpy
  | some array => .ok (array.data.count true)

namespace PyMimoSignal

/-! ## The comparison of signals -/

/-- What a signal is compared with. -/
inductive Operand where
  | mimoSignal (m : PyMimoSignal)
  | other

/-- The pairs of `zip`, which leaves out the rest of the longer list. -/
def zip (self other : PyMimoSignal) : List (NdArray Sample × NdArray Sample) :=
  self.signals.zip other.signals

/-- `__eq__`.  The number 0 is also `False`. -/
def eq (self : PyMimoSignal) : Operand → Except PythonError ℕ
  | .other => .ok 0
  | .mimoSignal other => do
      let equal ← (self.zip other).mapM fun p => npEqual p.1 p.2
      npSum equal

/-- `a == b` returns something truthy. -/
def IsEq (a b : PyMimoSignal) : Prop := ∃ n, a.eq (.mimoSignal b) = .ok n ∧ n ≠ 0

/-! ## Properties of two signals -/

/-- The corresponding arrays are equally long, in each dimension. -/
def SameLengths (a b : PyMimoSignal) : Prop := ∀ p ∈ a.zip b, p.1.shape = p.2.shape

/-- The samples that are compared. -/
def samples (a b : PyMimoSignal) : List (Sample × Sample) :=
  (a.zip b).flatMap fun p => p.1.data.zip p.2.data

/-- As many antenna signals, and all corresponding samples are equal. -/
def Same (a b : PyMimoSignal) : Prop :=
  a.signals.length = b.signals.length ∧ ∀ q ∈ samples a b, Sample.eq q.1 q.2 = true

/-- The arrays that are compared are all equally long. -/
def OneLength (a b : PyMimoSignal) : Prop :=
  ∀ p ∈ a.zip b, ∀ q ∈ a.zip b, p.1.shape = q.1.shape

/-- Some corresponding samples are equal. -/
def SomeAgree (a b : PyMimoSignal) : Prop := ∃ q ∈ samples a b, Sample.eq q.1 q.2 = true

/-- `a == b` returns, and what it returns is truthy exactly if the signals are the same. -/
def Meets (a b : PyMimoSignal) : Prop :=
  ∃ n, a.eq (.mimoSignal b) = .ok n ∧ (n ≠ 0 ↔ Same a b)

instance (a b : PyMimoSignal) : Decidable (SameLengths a b) :=
  inferInstanceAs (Decidable (∀ p ∈ a.zip b, p.1.shape = p.2.shape))

instance (a b : PyMimoSignal) : Decidable (Same a b) := inferInstanceAs (Decidable (_ ∧ _))

instance (a b : PyMimoSignal) : Decidable (OneLength a b) :=
  inferInstanceAs (Decidable (∀ p ∈ a.zip b, ∀ q ∈ a.zip b, p.1.shape = q.1.shape))

instance (a b : PyMimoSignal) : Decidable (SomeAgree a b) :=
  inferInstanceAs (Decidable (∃ q ∈ samples a b, Sample.eq q.1 q.2 = true))

/-! ## What `==` returns -/

section

variable {a b c : PyMimoSignal}

/-- The arrays of outcomes: their shapes, and what they contain. -/
theorem exists_outcomes (h : SameLengths a b) :
    ∃ outcomes, ((a.zip b).mapM fun p => npEqual p.1 p.2) = .ok outcomes ∧
      (a.zip b).map (·.1.shape) = outcomes.map NdArray.shape ∧
      (samples a b).map (fun q => Sample.eq q.1 q.2) = outcomes.flatMap NdArray.data := by
  have hreturns : ∀ p ∈ a.zip b, ∃ o, npEqual p.1 p.2 = .ok o ∧ o.shape = p.1.shape ∧
      o.data = List.zipWith Sample.eq p.1.data p.2.data := by
    intro p hp
    obtain ⟨o, ho, hshape, hdata⟩ := NdArray.zipWith_of_shape_eq Sample.eq (h p hp)
    exact ⟨o, by rw [npEqual, ho], hshape, hdata⟩
  obtain ⟨outcomes, houtcomes, hall⟩ := exists_mapM_eq_ok hreturns
  refine ⟨outcomes, houtcomes, ?_, ?_⟩
  · rw [← List.forall₂_eq_eq_eq, List.forall₂_map_left_iff, List.forall₂_map_right_iff]
    exact hall.imp fun p o ho => ho.1.symm
  · have hdata : (a.zip b).map (fun p => List.zipWith Sample.eq p.1.data p.2.data) =
        outcomes.map NdArray.data := by
      rw [← List.forall₂_eq_eq_eq, List.forall₂_map_left_iff, List.forall₂_map_right_iff]
      exact hall.imp fun p o ho => ho.2.symm
    rw [List.flatMap_def, ← hdata, samples, List.map_flatMap, List.flatMap_def]
    simp only [List.map_zip_eq_zipWith]
    rfl

/-- The sum returns exactly if the arrays have one shape; it counts what is `True`. -/
theorem npSum_eq (arrays : List (NdArray Bool)) : npSum arrays =
    if ∀ x ∈ arrays, ∀ y ∈ arrays, x.shape = y.shape
    then .ok ((arrays.flatMap NdArray.data).count true) else .error .numpy := by
  rw [npSum]
  cases hstack : NdArray.stack arrays with
  | none =>
      rw [if_neg]
      rw [← NdArray.exists_stack_iff, hstack]
      rintro ⟨_, h⟩
      cases h
  | some array =>
      rw [if_pos (NdArray.exists_stack_iff.mp ⟨array, hstack⟩)]
      exact congrArg (fun data => Except.ok (data.count true)) (NdArray.data_of_stack hstack)

/-- **What `==` returns**: the number of samples that agree, if the arrays that are compared are
all equally long; else `np.sum` raises. -/
theorem eq_eq (h : SameLengths a b) : a.eq (.mimoSignal b) =
    if OneLength a b then .ok ((samples a b).countP fun q => Sample.eq q.1 q.2)
    else .error .numpy := by
  obtain ⟨outcomes, houtcomes, hshapes, hdata⟩ := exists_outcomes h
  have hone : (∀ x ∈ outcomes, ∀ y ∈ outcomes, x.shape = y.shape) ↔ OneLength a b := by
    calc (∀ x ∈ outcomes, ∀ y ∈ outcomes, x.shape = y.shape)
        ↔ ∀ s ∈ outcomes.map NdArray.shape, ∀ t ∈ outcomes.map NdArray.shape, s = t := by
          simp only [List.forall_mem_map]
      _ ↔ OneLength a b := by
          rw [← hshapes]
          simp only [List.forall_mem_map, OneLength]
  have hcount : (outcomes.flatMap NdArray.data).count true =
      (samples a b).countP fun q => Sample.eq q.1 q.2 := by
    rw [← hdata, List.count, List.countP_map]
    exact List.countP_congr fun q _ => by simp
  have heq : a.eq (.mimoSignal b) = npSum outcomes := by
    rw [eq, houtcomes]
    rfl
  rw [heq, npSum_eq, hcount]
  exact if_congr hone rfl rfl

/-- `==` returns the number of samples that agree, if all pairs of signals have one length. -/
theorem eq_eq_ok_iff (h : SameLengths a b) {n : ℕ} : a.eq (.mimoSignal b) = .ok n ↔
    OneLength a b ∧ (samples a b).countP (fun q => Sample.eq q.1 q.2) = n := by
  rw [eq_eq h]
  split
  · rename_i hone
    exact ⟨fun heq => ⟨hone, Except.ok.inj heq⟩, fun heq => congrArg Except.ok heq.2⟩
  · rename_i hone
    exact ⟨fun heq => (nomatch heq), fun heq => absurd heq.1 hone⟩

theorem count_ne_zero_iff :
    ((samples a b).countP fun q => Sample.eq q.1 q.2) ≠ 0 ↔ SomeAgree a b := by
  rw [← Nat.pos_iff_ne_zero, List.countP_pos_iff]
  rfl

/-- `==` is truthy exactly if the arrays are all equally long and some samples agree. -/
theorem isEq_iff (h : SameLengths a b) : IsEq a b ↔ OneLength a b ∧ SomeAgree a b := by
  simp only [IsEq, eq_eq_ok_iff h]
  rw [← count_ne_zero_iff]
  exact ⟨fun ⟨_, ⟨hone, heq⟩, hne⟩ => ⟨hone, heq ▸ hne⟩,
    fun ⟨hone, hne⟩ => ⟨_, ⟨hone, rfl⟩, hne⟩⟩

/-! ## When `==` means equality -/

/-- Signals that are the same have a sample that agrees if they have one at all. -/
theorem Same.someAgree_iff (h : Same a b) : SomeAgree a b ↔ samples a b ≠ [] := by
  constructor
  · rintro ⟨q, hq, -⟩
    exact List.ne_nil_of_mem hq
  · intro hne
    obtain ⟨q, hq⟩ := List.exists_mem_of_ne_nil _ hne
    exact ⟨q, hq, h.2 q hq⟩

/-- `==` is right if it returns, and some sample agrees exactly if the signals are the same. -/
theorem meets_iff_agree (h : SameLengths a b) :
    Meets a b ↔ OneLength a b ∧ (SomeAgree a b ↔ Same a b) := by
  simp only [Meets, eq_eq_ok_iff h]
  rw [← count_ne_zero_iff]
  exact ⟨fun ⟨_, ⟨hone, heq⟩, hsame⟩ => ⟨hone, heq ▸ hsame⟩,
    fun ⟨hone, hsame⟩ => ⟨_, ⟨hone, rfl⟩, hsame⟩⟩

/-- `==` means equality of signals that agree in all samples, if there is one, and of signals
that agree in none. -/
theorem meets_iff (h : SameLengths a b) : Meets a b ↔
    OneLength a b ∧ (Same a b → samples a b ≠ []) ∧ (¬ Same a b → ¬ SomeAgree a b) := by
  rw [meets_iff_agree h]
  refine and_congr_right fun _ => ?_
  by_cases hsame : Same a b
  · rw [iff_true_right hsame, hsame.someAgree_iff]
    exact ⟨fun hagree => ⟨fun _ => hagree, fun hdiffer => absurd hsame hdiffer⟩,
      fun hcond => hcond.1 hsame⟩
  · rw [iff_false_right hsame]
    exact ⟨fun hagree => ⟨fun hs => absurd hs hsame, fun _ => hagree⟩, fun hcond => hcond.2 hsame⟩

/-! ## Reflexivity -/

theorem zip_self (a : PyMimoSignal) : a.zip a = a.signals.map fun x => (x, x) := List.zipWith_self

theorem sameLengths_self (a : PyMimoSignal) : SameLengths a a := by
  rw [SameLengths, zip_self, List.forall_mem_map]
  exact fun _ _ => rfl

/-- A signal equals itself exactly if its arrays are equally long and it has a sample
that is a number. -/
theorem isEq_self_iff (a : PyMimoSignal) : IsEq a a ↔
    (∀ x ∈ a.signals, ∀ y ∈ a.signals, x.shape = y.shape) ∧
      ∃ x ∈ a.signals, ∃ z ∈ x.data, z.re ≠ .nan ∧ z.im ≠ .nan := by
  have hsamples : samples a a = a.signals.flatMap fun x => x.data.map fun z => (z, z) := by
    rw [samples, zip_self, List.flatMap_map]
    exact congrArg (List.flatMap · a.signals) (funext fun x => List.zipWith_self)
  have hone : OneLength a a ↔ ∀ x ∈ a.signals, ∀ y ∈ a.signals, x.shape = y.shape := by
    rw [OneLength, zip_self]
    simp only [List.forall_mem_map]
  have hsome : SomeAgree a a ↔
      ∃ x ∈ a.signals, ∃ z ∈ x.data, z.re ≠ .nan ∧ z.im ≠ .nan := by
    rw [SomeAgree, hsamples]
    constructor
    · rintro ⟨q, hq, heq⟩
      obtain ⟨x, hx, hmap⟩ := List.mem_flatMap.mp hq
      obtain ⟨z, hz, rfl⟩ := List.mem_map.mp hmap
      exact ⟨x, hx, z, hz, z.eq_self_iff.mp heq⟩
    · rintro ⟨x, hx, z, hz, hnumber⟩
      exact ⟨(z, z), List.mem_flatMap.mpr ⟨x, hx, List.mem_map_of_mem hz⟩,
        z.eq_self_iff.mpr hnumber⟩
  rw [isEq_iff (sameLengths_self a), hone, hsome]

/-! ## Symmetry -/

theorem zip_swap (a b : PyMimoSignal) : b.zip a = (a.zip b).map Prod.swap :=
  (List.zip_swap _ _).symm

theorem SameLengths.symm (h : SameLengths a b) : SameLengths b a := by
  rw [SameLengths, zip_swap, List.forall_mem_map]
  exact fun p hp => (h p hp).symm

theorem samples_swap (a b : PyMimoSignal) : samples b a = (samples a b).map Prod.swap := by
  rw [samples, samples, zip_swap, List.flatMap_map, List.map_flatMap]
  simp only [Prod.fst_swap, Prod.snd_swap, List.zip_swap]

theorem OneLength.symm (hlengths : SameLengths a b) (h : OneLength a b) : OneLength b a := by
  rw [OneLength, zip_swap]
  simp only [List.forall_mem_map]
  intro p hp q hq
  calc p.2.shape = p.1.shape := (hlengths p hp).symm
    _ = q.1.shape := h p hp q hq
    _ = q.2.shape := hlengths q hq

/-- `==` ends the same way in both orders. -/
theorem eq_symm (h : SameLengths a b) : a.eq (.mimoSignal b) = b.eq (.mimoSignal a) := by
  have hcount : (samples b a).countP (fun q => Sample.eq q.1 q.2) =
      (samples a b).countP fun q => Sample.eq q.1 q.2 := by
    rw [samples_swap, List.countP_map]
    exact List.countP_congr fun q _ => by
      rw [Function.comp_apply, Prod.fst_swap, Prod.snd_swap, Sample.eq_comm]
  rw [eq_eq h, eq_eq h.symm, hcount]
  exact if_congr ⟨OneLength.symm h, OneLength.symm h.symm⟩ rfl rfl

/-! ## Transitivity -/

/-- The element between those of a pair, in a third list of the length of the first one. -/
theorem exists_between {β : Type} {xs ys zs : List β} (hlength : xs.length = ys.length)
    {p : β × β} (hp : p ∈ xs.zip zs) : ∃ y, (p.1, y) ∈ xs.zip ys ∧ (y, p.2) ∈ ys.zip zs := by
  obtain ⟨i, hi, rfl⟩ := List.mem_iff_getElem.mp hp
  have hbound := hi
  rw [List.length_zip] at hbound
  have hy : i < ys.length := by omega
  refine ⟨ys[i], List.mem_iff_getElem.mpr ⟨i, ?_, ?_⟩, List.mem_iff_getElem.mpr ⟨i, ?_, ?_⟩⟩
  · rw [List.length_zip]
    omega
  · simp
  · rw [List.length_zip]
    omega
  · simp

theorem exists_partner {β : Type} {xs ys : List β} (hlength : xs.length = ys.length) {x : β}
    (hx : x ∈ xs) : ∃ y, (x, y) ∈ xs.zip ys := by
  have hfst : (xs.zip ys).map Prod.fst = xs := List.map_fst_zip hlength.le
  rw [← hfst] at hx
  obtain ⟨p, hp, rfl⟩ := List.mem_map.mp hx
  exact ⟨p.2, hp⟩

theorem length_data_of_shape {x y : NdArray Sample} (h : x.shape = y.shape) :
    x.data.length = y.data.length := by
  rw [x.size_eq, y.size_eq, h]

/-- Lengths that are compared pairwise agree throughout. -/
theorem SameLengths.trans (hab : SameLengths a b) (hbc : SameLengths b c)
    (hlength : a.signals.length = b.signals.length) : SameLengths a c := by
  intro p hp
  obtain ⟨y, hy, hy'⟩ := exists_between hlength hp
  calc p.1.shape = y.shape := hab _ hy
    _ = p.2.shape := hbc _ hy'

theorem Same.trans (hab : SameLengths a b) (h : Same a b) (h' : Same b c) : Same a c := by
  refine ⟨h.1.trans h'.1, fun q hq => ?_⟩
  obtain ⟨p, hp, hmem⟩ := List.mem_flatMap.mp hq
  obtain ⟨y, hy, hy'⟩ := exists_between h.1 hp
  obtain ⟨z, hz, hz'⟩ := exists_between (length_data_of_shape (hab _ hy)) hmem
  have hfirst : Sample.eq q.1 z = true := h.2 (q.1, z) (List.mem_flatMap.mpr ⟨_, hy, hz⟩)
  have hsecond : Sample.eq z q.2 = true := h'.2 (z, q.2) (List.mem_flatMap.mpr ⟨_, hy', hz'⟩)
  exact Sample.eq_trans hfirst hsecond

/-- Where `==` means equality of `a` and `b`, and of `b` and `c`, it passes from these pairs to
`a` and `c`. -/
theorem IsEq.trans (hab : SameLengths a b) (hbc : SameLengths b c) (hmeets : Meets a b)
    (hmeets' : Meets b c) (h : IsEq a b) (h' : IsEq b c) : IsEq a c := by
  obtain ⟨hone, hagree⟩ := (isEq_iff hab).mp h
  obtain ⟨-, hagree'⟩ := (isEq_iff hbc).mp h'
  have hsame : Same a b := ((meets_iff_agree hab).mp hmeets).2.mp hagree
  have hsame' : Same b c := ((meets_iff_agree hbc).mp hmeets').2.mp hagree'
  have hlengths := SameLengths.trans hab hbc hsame.1
  refine (isEq_iff hlengths).mpr ⟨fun p hp q hq => ?_, ?_⟩
  · obtain ⟨x, hx, -⟩ := exists_between hsame.1 hp
    obtain ⟨y, hy, -⟩ := exists_between hsame.1 hq
    exact hone (p.1, x) hx (q.1, y) hy
  · -- the sample of `a` that agrees with one of `b` has a partner in `c`
    obtain ⟨q, hq, -⟩ := hagree
    obtain ⟨p, hp, hmem⟩ := List.mem_flatMap.mp hq
    obtain ⟨y, hy⟩ := exists_partner (hsame.1.trans hsame'.1) (List.of_mem_zip hp).1
    obtain ⟨z, hz⟩ := exists_partner (length_data_of_shape (hlengths _ hy)) (List.of_mem_zip hmem).1
    refine ((Same.trans hab hsame hsame').someAgree_iff).mpr ?_
    exact List.ne_nil_of_mem (List.mem_flatMap.mpr ⟨_, hy, hz⟩)

/-- **Equality of signals.**  `==` returns and means equality exactly of signals whose arrays are
all equally long, and that agree in all samples (and have one) or in none.  It is reflexive
exactly for signals with a sample that is a number and arrays of one length; it is symmetric,
down to the exceptions; and it is transitive where it means equality. -/
theorem equality_correct_iff (hab : SameLengths a b) (hbc : SameLengths b c) :
    (Meets a b ↔ OneLength a b ∧ (Same a b → samples a b ≠ []) ∧ (¬ Same a b → ¬ SomeAgree a b)) ∧
      (IsEq a a ↔ (∀ x ∈ a.signals, ∀ y ∈ a.signals, x.shape = y.shape) ∧
        ∃ x ∈ a.signals, ∃ z ∈ x.data, z.re ≠ .nan ∧ z.im ≠ .nan) ∧
      a.eq (.mimoSignal b) = b.eq (.mimoSignal a) ∧
      (Meets a b → Meets b c → IsEq a b → IsEq b c → IsEq a c) :=
  ⟨meets_iff hab, isEq_self_iff a, eq_symm hab, IsEq.trans hab hbc⟩

/-- One antenna with the real samples `x` and `y`. -/
def exampleSignal (x y : ℚ) : PyMimoSignal :=
  ⟨[.line [⟨.finite x, .finite 0⟩, ⟨.finite y, .finite 0⟩]]⟩

/-- Two signals that differ in a sample are equal, a signal without antennas is not equal
to itself, and `==` is not transitive. -/
theorem equality_fails :
    SameLengths (exampleSignal 1 2) (exampleSignal 1 3) ∧
      IsEq (exampleSignal 1 2) (exampleSignal 1 3) ∧
      ¬ Same (exampleSignal 1 2) (exampleSignal 1 3) ∧ ¬ IsEq ⟨[]⟩ ⟨[]⟩ ∧
      IsEq (exampleSignal 1 3) (exampleSignal 4 3) ∧
      ¬ IsEq (exampleSignal 1 2) (exampleSignal 4 3) := by
  rw [isEq_iff (by decide), isEq_iff (by decide), isEq_iff (by decide), isEq_iff (by decide)]
  decide

/-- Signals that agree in all samples are equal, and signals that agree in none are not. -/
theorem equality_correct_example :
    Meets (exampleSignal 1 2) (exampleSignal 1 2) ∧ Meets (exampleSignal 1 2) (exampleSignal 3 4) :=
  ⟨(equality_correct_iff (a := exampleSignal 1 2) (b := exampleSignal 1 2)
      (c := exampleSignal 1 2) (by decide) (by decide)).1.mpr (by decide),
    (equality_correct_iff (a := exampleSignal 1 2) (b := exampleSignal 3 4)
      (c := exampleSignal 3 4) (by decide) (by decide)).1.mpr (by decide)⟩

end

end PyMimoSignal

end UsrpWrapper
