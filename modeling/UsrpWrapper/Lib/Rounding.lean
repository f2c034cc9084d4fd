import Mathlib.Algebra.Order.Floor.Ring
import Mathlib.Algebra.Order.Floor.Semiring
import Mathlib.Data.Rat.Floor
import Mathlib.Tactic.Linarith
import Mathlib.Tactic.Positivity

/-!
# Rounding to a binary format

A number of a binary format is an integer of at most `digits` bits times a power of two, of
which `2 ^ -scale` is the smallest one.  `round` is the rounding of IEEE 754 to the nearest
number of the format; of two that are equally near it takes the one whose last bit is zero.
The exponents have no upper bound: what overflows in the format is still a number here.

`representable_round` and `round_eq_self_iff` say that the results are the numbers of the
format, and that these are left as they are.
-/

namespace UsrpWrapper.Lib

/-- The nearest integer; of two, the even one. -/
def roundEven (x : ℚ) : ℤ :=
  if x - ⌊x⌋ < 1 / 2 ∨ x - ⌊x⌋ = 1 / 2 ∧ ⌊x⌋ % 2 = 0 then ⌊x⌋ else ⌊x⌋ + 1

theorem roundEven_intCast (n : ℤ) : roundEven n = n := by
  have hsmall : (n : ℚ) - ⌊(n : ℚ)⌋ < 1 / 2 := by
    rw [Int.floor_intCast, sub_self]
    norm_num
  rw [roundEven, if_pos (Or.inl hsmall), Int.floor_intCast]

/-- Rounding does not pass an integer bound. -/
theorem abs_roundEven_le {x : ℚ} {bound : ℤ} (hx : |x| < bound) : |roundEven x| ≤ bound := by
  obtain ⟨hlower, hupper⟩ := abs_lt.mp hx
  have hfloor : -bound ≤ ⌊x⌋ := Int.le_floor.mpr (by push_cast; exact hlower.le)
  have hnext : ⌊x⌋ < bound := Int.floor_lt.mpr hupper
  rw [abs_le, roundEven]
  split <;> omega

/-- A binary format. -/
structure BinaryFormat where
  digits : ℕ
  scale : ℕ
  digits_pos : 0 < digits

namespace BinaryFormat

/-- `binary32`, the format of a `float`. -/
def single : BinaryFormat := ⟨24, 149, by decide⟩

variable (F : BinaryFormat)

/-- The numbers of the format around `x` are `2 ^ (exponent x - scale)` apart. -/
def exponent (x : ℚ) : ℕ := Nat.log2 ⌊|x| * 2 ^ F.scale⌋₊ - (F.digits - 1)

/-- The number of the format that is nearest to `x`. -/
def round (x : ℚ) : ℚ :=
  roundEven (x * 2 ^ F.scale / 2 ^ F.exponent x) * 2 ^ F.exponent x / 2 ^ F.scale

/-- The numbers of the format. -/
def Representable (x : ℚ) : Prop :=
  ∃ (n : ℤ) (k : ℕ), |n| ≤ 2 ^ F.digits ∧ x * 2 ^ F.scale = n * 2 ^ k

variable {F} {x : ℚ}

theorem representable_round (F : BinaryFormat) (x : ℚ) : F.Representable (F.round x) := by
  have hscale : (0 : ℚ) < 2 ^ F.scale := by positivity
  have hpow : (0 : ℚ) < 2 ^ F.exponent x := by positivity
  refine ⟨roundEven (x * 2 ^ F.scale / 2 ^ F.exponent x), F.exponent x, ?_, ?_⟩
  · -- what is rounded has no more bits than the format
    refine abs_roundEven_le ?_
    have hlog : ⌊|x| * 2 ^ F.scale⌋₊ < 2 ^ (F.exponent x + F.digits) := by
      refine Nat.lt_log2_self.trans_le (Nat.pow_le_pow_right (by decide) ?_)
      have hdigits := F.digits_pos
      unfold exponent
      omega
    have hlt : |x| * 2 ^ F.scale < 2 ^ (F.exponent x + F.digits) := by
      have hfloor := (Nat.floor_lt (by positivity)).mp hlog
      exact_mod_cast hfloor
    rw [abs_div, abs_mul, abs_of_pos hscale, abs_of_pos hpow, div_lt_iff₀ hpow]
    push_cast
    rwa [← pow_add, Nat.add_comm]
  · rw [round, div_mul_cancel₀ _ hscale.ne']

/-- An integer of at most `d` bits, shifted, is a multiple of the last place it has with `d`
bits. -/
theorem two_pow_dvd {a d : ℕ} (hd : 0 < d) (ha : a ≤ 2 ^ d) (k : ℕ) :
    2 ^ (Nat.log2 (a * 2 ^ k) - (d - 1)) ∣ a * 2 ^ k := by
  rcases Nat.eq_zero_or_pos a with rfl | hpos
  · rw [Nat.zero_mul]
    exact dvd_zero _
  rcases ha.lt_or_eq with hlt | rfl
  · have hlog : Nat.log2 (a * 2 ^ k) < d + k := by
      rw [Nat.log2_lt (by positivity), pow_add]
      exact Nat.mul_lt_mul_of_pos_right hlt (by positivity)
    exact (pow_dvd_pow 2 (by omega)).mul_left a
  · rw [← pow_add, Nat.log2_two_pow]
    exact pow_dvd_pow 2 (by omega)

/-- Numbers of the format are not changed. -/
theorem round_eq_self (h : F.Representable x) : F.round x = x := by
  obtain ⟨n, k, hn, hx⟩ := h
  have hscale : (0 : ℚ) < 2 ^ F.scale := by positivity
  have hpow : (0 : ℚ) < 2 ^ F.exponent x := by positivity
  have habs : |x| * 2 ^ F.scale = ((n.natAbs * 2 ^ k : ℕ) : ℚ) := by
    calc |x| * 2 ^ F.scale
        = |x * 2 ^ F.scale| := by rw [abs_mul, abs_of_pos hscale]
      _ = |((n * 2 ^ k : ℤ) : ℚ)| := by rw [hx]; push_cast; rfl
      _ = (((n * 2 ^ k).natAbs : ℕ) : ℚ) := by rw [Nat.cast_natAbs, Int.cast_abs]
      _ = ((n.natAbs * 2 ^ k : ℕ) : ℚ) := by rw [Int.natAbs_mul, Int.natAbs_pow]; rfl
  have hexponent : F.exponent x = Nat.log2 (n.natAbs * 2 ^ k) - (F.digits - 1) := by
    rw [exponent, habs, Nat.floor_natCast]
  -- at this exponent, the number is an integer
  have hdvd : (2 ^ F.exponent x : ℤ) ∣ n * 2 ^ k := by
    have hbits : n.natAbs ≤ 2 ^ F.digits := by
      have hcast : ((n.natAbs : ℕ) : ℤ) ≤ ((2 ^ F.digits : ℕ) : ℤ) := by
        rw [Int.natCast_natAbs]
        exact_mod_cast hn
      exact_mod_cast hcast
    have hnat := two_pow_dvd F.digits_pos hbits k
    rw [← hexponent] at hnat
    rw [← Int.natAbs_dvd_natAbs, Int.natAbs_mul, Int.natAbs_pow, Int.natAbs_pow]
    exact hnat
  obtain ⟨m, hm⟩ := hdvd
  have hnumber : x * 2 ^ F.scale = m * 2 ^ F.exponent x := by
    have hcast : ((n * 2 ^ k : ℤ) : ℚ) = ((2 ^ F.exponent x * m : ℤ) : ℚ) := by rw [hm]
    push_cast at hcast
    rw [hx, hcast, mul_comm]
  rw [round, hnumber, mul_div_cancel_right₀ _ hpow.ne', roundEven_intCast, ← hnumber,
    mul_div_cancel_right₀ _ hscale.ne']

/-- The representable numbers are those that rounding leaves alone. -/
theorem round_eq_self_iff : F.round x = x ↔ F.Representable x :=
  ⟨fun h => h ▸ F.representable_round x, round_eq_self⟩

end BinaryFormat

example : BinaryFormat.single.round 2400000100 = 2400000000 := by decide +kernel

end UsrpWrapper.Lib
