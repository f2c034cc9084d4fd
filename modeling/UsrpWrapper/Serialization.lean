import UsrpWrapper.Lib.Command
import UsrpWrapper.Lib.NdArray
import Mathlib.Data.Rat.Floor

/-!
# Transport of signals

Signals travel between client and server as pairs of nested lists
(`serialization.py`), one pair for each array of a `MimoSignal` (`config.py`).  The
encoder squeezes an array before it converts it to lists; the decoder takes the
lengths of both lists and computes `re + 1j * im`.

Floating point numbers are rationals, infinities and `nan`; the two operations the
decoder uses have 0 or 1 as an operand and do not round.  The sign of a zero, which
`==` does not see either, is not kept.
-/

namespace UsrpWrapper

open Lib Lib.Command

/-- The exceptions of the Python code. -/
inductive PythonError where
  | typeError (text : String)
  | valueError (text : String)
  /-- A `ValueError` with a text of NumPy. -/
  | numpy
  | runtimeError (text : String)
  deriving DecidableEq

/-! ## Numbers -/

/-- A `double`, with exact arithmetic: a rational, an infinity or not-a-number. -/
inductive Float64 where
  | finite (x : ℚ)
  | inf (negative : Bool)
  | nan
  deriving DecidableEq

namespace Float64

/-- The sum, with the cases of the infinities. -/
def add : Float64 → Float64 → Float64
  | .finite x, .finite y => .finite (x + y)
  | .finite _, .inf negative => .inf negative
  | .inf negative, .finite _ => .inf negative
  | .inf negative, .inf negative' => if negative = negative' then .inf negative else .nan
  | .nan, _ => .nan
  | _, .nan => .nan

/-- The opposite. -/
def neg : Float64 → Float64
  | .finite x => .finite (-x)
  | .inf negative => .inf !negative
  | .nan => .nan

/-- The product; zero times an infinity is not-a-number. -/
def mul : Float64 → Float64 → Float64
  | .finite x, .finite y => .finite (x * y)
  | .finite x, .inf negative => if x = 0 then .nan else .inf (negative ^^ decide (x < 0))
  | .inf negative, .finite y => if y = 0 then .nan else .inf (negative ^^ decide (y < 0))
  | .inf negative, .inf negative' => .inf (negative ^^ negative')
  | .nan, _ => .nan
  | _, .nan => .nan

/-- Neither an infinity nor not-a-number. -/
def isFinite : Float64 → Bool
  | .finite _ => true
  | _ => false

@[simp] theorem add_zero (x : Float64) : x.add (.finite 0) = x := by
  cases x <;> simp [add]

@[simp] theorem zero_add (x : Float64) : add (.finite 0) x = x := by
  cases x <;> simp [add]

@[simp] theorem one_mul (x : Float64) : mul (.finite 1) x = x := by
  cases x <;> simp [mul, not_lt.mpr (zero_le_one (α := ℚ))]

@[simp] theorem zero_mul_finite (x : ℚ) : mul (.finite 0) (.finite x) = .finite 0 := by
  rw [mul, Rat.zero_mul]

@[simp] theorem neg_zero : neg (.finite 0) = .finite 0 := rfl

end Float64

/-- A complex sample. -/
structure Sample where
  re : Float64
  im : Float64
  deriving DecidableEq

namespace Sample

/-- The sum of complex numbers. -/
def add (a b : Sample) : Sample := ⟨a.re.add b.re, a.im.add b.im⟩

/-- The product of complex numbers, by its four real products. -/
def mul (a b : Sample) : Sample :=
  ⟨(a.re.mul b.re).add (a.im.mul b.im).neg, (a.re.mul b.im).add (a.im.mul b.re)⟩

/-- A real number as a complex one. -/
def ofReal (x : Float64) : Sample := ⟨x, .finite 0⟩

/-- `1j`. -/
def j : Sample := ⟨.finite 0, .finite 1⟩

end Sample

/-! ## Serialization -/

/-- The real and the imaginary parts. -/
abbrev SerializedComplexArray := Nested Float64 × Nested Float64

/-- `serializeComplexArray`. -/
def serializeComplexArray (data : NdArray Sample) : Except PythonError SerializedComplexArray := do
  let data := data.squeeze
  -- two dimensions, not more than one
  check (data.shape.length = 2) (.valueError "Array must be one dimensional!")
  return ((data.map Sample.re).tolist, (data.map Sample.im).tolist)

/-- `len` of a list. -/
def len : Nested Float64 → Except PythonError ℕ
  | .scalar _ => .error (.typeError "object of type 'float' has no len()")
  | .list items => .ok items.length

/-- `np.array` of nested lists. -/
def npArray (data : Nested Float64) : Except PythonError (NdArray Float64) :=
  match NdArray.ofNested data with
  | none => .error .numpy
  | some array => .ok array

/-- The sum of two arrays. -/
def npAdd (a b : NdArray Sample) : Except PythonError (NdArray Sample) :=
  match NdArray.zipWith Sample.add a b with
  | none => .error .numpy
  | some array => .ok array

/-- `deserializeComplexArray`. -/
def deserializeComplexArray (data : SerializedComplexArray) :
    Except PythonError (NdArray Sample) := do
  let numReal ← len data.1
  let numImag ← len data.2
  check (numReal ≠ numImag) (.valueError ("Number of imaginary samples\n" ++
    "                            mismatches number of real samples."))
  let re ← npArray data.1
  let im ← npArray data.2
  npAdd (re.map Sample.ofReal) (im.map fun x => Sample.j.mul (.ofReal x))

/-- `MimoSignal` of the Python code. -/
structure PyMimoSignal where
  signals : List (NdArray Sample)
  deriving DecidableEq

namespace PyMimoSignal

/-- `MimoSignal.serialize`: one pair of lists for each antenna. -/
def serialize (m : PyMimoSignal) : Except PythonError (List SerializedComplexArray) :=
  m.signals.mapM serializeComplexArray

/-- `MimoSignal.deserialize`. -/
def deserialize (serialized : List SerializedComplexArray) : Except PythonError PyMimoSignal := do
  return ⟨← serialized.mapM deserializeComplexArray⟩

end PyMimoSignal

/-! ## One array -/

/-- What the decoder computes of a sample. -/
def Sample.decoded (z : Sample) : Sample := (Sample.ofReal z.re).add (Sample.j.mul (.ofReal z.im))

/-- The decoder adds zero times the imaginary part to the real part. -/
theorem Sample.decoded_eq (z : Sample) :
    z.decoded = ⟨z.re.add (Float64.mul (.finite 0) z.im), z.im⟩ := by
  simp [decoded, add, mul, ofReal, j]

/-- An imaginary part that is not finite spoils the real part. -/
def Sample.Transportable (z : Sample) : Prop := z.re = .nan ∨ z.im.isFinite = true

instance (z : Sample) : Decidable z.Transportable := inferInstanceAs (Decidable (_ ∨ _))

theorem Sample.decoded_eq_iff (z : Sample) : z.decoded = z ↔ z.Transportable := by
  obtain ⟨re, im⟩ := z
  rw [decoded_eq, Sample.mk.injEq, and_iff_left rfl]
  cases im with
  -- the product with 0 is 0, or `nan` if it is not finite
  | finite y => exact iff_of_true (by simp) (Or.inr rfl)
  | inf negative =>
      have hproduct : Float64.mul (.finite 0) (.inf negative) = .nan := rfl
      rw [hproduct]
      cases re <;> simp [Float64.add, Float64.isFinite, Transportable]
  | nan => cases re <;> simp [Float64.add, Float64.mul, Float64.isFinite, Transportable]

section

variable {xs : List Sample}

/-- A line of other than one sample is converted to two lists. -/
theorem serializeComplexArray_line (h : xs.length ≠ 1) :
    serializeComplexArray (.line xs) =
      .ok (.list ((xs.map Sample.re).map .scalar), .list ((xs.map Sample.im).map .scalar)) := by
  rw [serializeComplexArray, NdArray.squeeze_line h]
  show (check (1 = 2) _ >>= _) = _
  rw [NdArray.map_line, NdArray.map_line, NdArray.tolist_line, NdArray.tolist_line]
  rfl

/-- A flat list of numbers is an array of one dimension. -/
theorem npArray_line (xs : List Float64) :
    npArray (.list (xs.map .scalar)) = .ok (.line xs) := by
  rw [npArray, NdArray.ofNested_line]

/-- The decoder returns the decoded samples. -/
theorem deserializeComplexArray_lists (xs : List Sample) :
    deserializeComplexArray (.list ((xs.map Sample.re).map .scalar),
      .list ((xs.map Sample.im).map .scalar)) = .ok (.line (xs.map Sample.decoded)) := by
  have hsum : npAdd ((NdArray.line (xs.map Sample.re)).map Sample.ofReal)
      ((NdArray.line (xs.map Sample.im)).map fun x => Sample.j.mul (.ofReal x)) =
        .ok (.line (xs.map Sample.decoded)) := by
    have hlen : ((xs.map Sample.re).map Sample.ofReal).length =
        ((xs.map Sample.im).map fun x => Sample.j.mul (.ofReal x)).length := by simp
    rw [npAdd, NdArray.map_line, NdArray.map_line, NdArray.zipWith_line Sample.add hlen,
      List.map_map, List.map_map, List.zipWith_map, List.zipWith_self]
    rfl
  refine except_bind_eq_ok_iff.mpr ⟨_, rfl, except_bind_eq_ok_iff.mpr ⟨_, rfl,
    check_bind_eq_ok_iff.mpr ⟨by simp, ?_⟩⟩⟩
  exact except_bind_eq_ok_iff.mpr ⟨_, npArray_line _,
    except_bind_eq_ok_iff.mpr ⟨_, npArray_line _, hsum⟩⟩

/-- A single sample is converted to two numbers, which have no length. -/
theorem deserializeComplexArray_single (h : xs.length = 1) {data : SerializedComplexArray}
    (hdata : serializeComplexArray (.line xs) = .ok data) (a : NdArray Sample) :
    deserializeComplexArray data ≠ .ok a := by
  obtain ⟨_, -, hpure⟩ := except_bind_eq_ok_iff.mp hdata
  cases hpure
  obtain ⟨x, hx⟩ := NdArray.tolist_of_ndim (a := (NdArray.line xs).squeeze.map Sample.re)
    (NdArray.ndim_squeeze_line h)
  rw [hx]
  intro hok
  cases hok

/-- One array arrives unchanged exactly if it has other than one sample and all its
samples do. -/
theorem roundTrip_line_iff : (∃ data, serializeComplexArray (.line xs) = .ok data ∧
      deserializeComplexArray data = .ok (.line xs)) ↔
    xs.length ≠ 1 ∧ ∀ z ∈ xs, z.Transportable := by
  have hsame : xs.map Sample.decoded = xs ↔ ∀ z ∈ xs, z.Transportable := by
    calc xs.map Sample.decoded = xs
        ↔ xs.map Sample.decoded = xs.map id := by rw [List.map_id]
      _ ↔ ∀ z ∈ xs, z.decoded = id z := List.map_inj_left
      _ ↔ ∀ z ∈ xs, z.Transportable := forall₂_congr fun z _ => z.decoded_eq_iff
  constructor
  · rintro ⟨data, hserialize, hdeserialize⟩
    have hlen : xs.length ≠ 1 := fun h =>
      deserializeComplexArray_single h hserialize _ hdeserialize
    rw [serializeComplexArray_line hlen] at hserialize
    cases hserialize
    rw [deserializeComplexArray_lists] at hdeserialize
    exact ⟨hlen, hsame.mp (congrArg NdArray.data (Except.ok.inj hdeserialize))⟩
  · rintro ⟨hlen, htransportable⟩
    refine ⟨_, serializeComplexArray_line hlen, ?_⟩
    rw [deserializeComplexArray_lists, hsame.mpr htransportable]

end

/-! ## Whole signals -/

namespace PyMimoSignal

/-- The signal arrives with the same arrays. -/
def RoundTrips (m : PyMimoSignal) : Prop :=
  ∃ data, m.serialize = .ok data ∧ deserialize data = .ok m

/-- An array that is not one-dimensional once its unit dimensions are dropped is
rejected with a `ValueError`. -/
def RejectsUnlessLine (a : NdArray Sample) : Prop :=
  a.squeeze.ndim ≠ 1 → ∃ text, serializeComplexArray a = .error (.valueError text)

/-- For arrays of one dimension, the round trip is one of lengths and samples. -/
theorem roundTrips_iff {m : PyMimoSignal} (hlines : ∀ a ∈ m.signals, a.ndim = 1) :
    m.RoundTrips ↔ ∀ a ∈ m.signals, a.data.length ≠ 1 ∧ ∀ z ∈ a.data, z.Transportable := by
  have harrays : m.RoundTrips ↔ ∃ data, m.signals.mapM serializeComplexArray = .ok data ∧
      data.mapM deserializeComplexArray = .ok m.signals := by
    refine exists_congr fun data => and_congr_right fun _ => ?_
    constructor
    · intro h
      obtain ⟨signals, hsignals, hpure⟩ := except_bind_eq_ok_iff.mp h
      cases hpure
      exact hsignals
    · intro h
      exact except_bind_eq_ok_iff.mpr ⟨_, h, rfl⟩
  rw [harrays, exists_mapM_mapM_iff]
  refine forall₂_congr fun a ha => ?_
  have hline := NdArray.eq_line_of_ndim (hlines a ha)
  rw [← roundTrip_line_iff, ← hline]

/-- The check of the encoder, in terms of the dimensions that are left. -/
theorem rejectsUnlessLine_iff (a : NdArray Sample) :
    RejectsUnlessLine a ↔ a.squeeze.ndim = 1 ∨ a.squeeze.ndim = 2 := by
  constructor
  · intro h
    by_contra hother
    obtain ⟨hone, htwo⟩ := not_or.mp hother
    obtain ⟨text, herror⟩ := h hone
    have hreturns : ∃ data, serializeComplexArray a = .ok data :=
      ⟨_, check_bind_eq_ok_iff.mpr ⟨htwo, rfl⟩⟩
    obtain ⟨data, hok⟩ := hreturns
    rw [hok] at herror
    cases herror
  · rintro (hone | htwo) hne
    · exact absurd hone hne
    · refine ⟨"Array must be one dimensional!", ?_⟩
      have hfails : check (a.squeeze.shape.length = 2)
          (PythonError.valueError "Array must be one dimensional!") = .error _ :=
        check_eq_error_iff.mpr ⟨htwo, rfl⟩
      rw [serializeComplexArray, hfails]
      rfl

/-- **Transport of signals.**  A signal of one-dimensional arrays arrives unchanged
exactly if no array has a single sample and all imaginary parts are finite (or the
real part is `nan` anyway); and an array that is not one-dimensional is rejected
exactly if it has two dimensions. -/
theorem transport_iff {m : PyMimoSignal} (hlines : ∀ a ∈ m.signals, a.ndim = 1)
    (a : NdArray Sample) :
    (m.RoundTrips ↔
        ∀ b ∈ m.signals, b.data.length ≠ 1 ∧ ∀ z ∈ b.data, z.Transportable) ∧
      (RejectsUnlessLine a ↔ a.squeeze.ndim = 1 ∨ a.squeeze.ndim = 2) :=
  ⟨roundTrips_iff hlines, rejectsUnlessLine_iff a⟩

/-- A signal of one array with the single sample `0.5 + 0.5j`. -/
def exampleSingle : PyMimoSignal := ⟨[.line [⟨.finite (1 / 2), .finite (1 / 2)⟩]]⟩

/-- A cube of eight samples. -/
def exampleCube : NdArray Sample := ⟨[2, 2, 2], List.replicate 8 ⟨.finite 1, .finite 0⟩, rfl⟩

/-- A single sample does not arrive, and a cube is not rejected. -/
theorem transport_fails :
    (∀ a ∈ exampleSingle.signals, a.ndim = 1) ∧ ¬ exampleSingle.RoundTrips ∧
      ¬ RejectsUnlessLine exampleCube := by
  have hline : ∀ a ∈ exampleSingle.signals, a.ndim = 1 := by decide
  refine ⟨hline, fun h => ?_, fun h => ?_⟩
  · have hlength := (roundTrips_iff hline).mp h _ List.mem_cons_self
    exact hlength.1 rfl
  · have hndim := (rejectsUnlessLine_iff _).mp h
    revert hndim
    decide

/-- Two arrays, one of them empty, arrive; and a matrix is rejected. -/
theorem transport_example :
    (⟨[.line [⟨.finite 1, .finite 2⟩, ⟨.finite (1 / 2), .finite 0⟩], .line []]⟩ :
        PyMimoSignal).RoundTrips ∧
      RejectsUnlessLine ⟨[2, 1, 3], List.replicate 6 ⟨.finite 1, .finite 0⟩, rfl⟩ := by
  have hiff := transport_iff (m := ⟨[.line [⟨.finite 1, .finite 2⟩, ⟨.finite (1 / 2), .finite 0⟩],
    .line []]⟩) (by decide) ⟨[2, 1, 3], List.replicate 6 ⟨.finite 1, .finite 0⟩, rfl⟩
  exact ⟨hiff.1.mpr (by decide), hiff.2.mpr (by decide)⟩

end PyMimoSignal

end UsrpWrapper
