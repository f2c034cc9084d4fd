import UsrpWrapper.RfConfiguration
import Mathlib.Tactic.FieldSimp

/-!
# Accepted sampling rates

`assertSamplingRate` takes the remainder of the ratio of master clock rate and
sampling rate by two, and accepts it within a hundredth of both ends of the period.
`fmod_near_iff` says what this means for the ratio: it lies within a hundredth of an
even number, zero included.  A negative ratio has a negative remainder, which is
always accepted.
-/

namespace UsrpWrapper

open Lib.Command

/-! ## Remainders -/

/-- The remainder of a number that is not negative, from the multiple below it. -/
theorem fmod_eq_of_between {x y : ℚ} {k : ℤ} (hx : 0 ≤ x) (hy : 0 < y) (hle : y * k ≤ x)
    (hlt : x < y * (k + 1)) : fmod x y = x - y * k := by
  have hfloor : ⌊x / y⌋ = k := by
    rw [Int.floor_eq_iff]
    constructor
    · rw [le_div_iff₀ hy, mul_comm]
      exact hle
    · rw [div_lt_iff₀ hy, mul_comm]
      exact hlt
  rw [fmod, trunc, if_pos (div_nonneg hx hy.le), hfloor]

/-- The remainder has the sign of the number. -/
theorem fmod_nonpos {x y : ℚ} (hx : x ≤ 0) (hy : 0 < y) : fmod x y ≤ 0 := by
  have hquotient : x / y ≤ trunc (x / y) := by
    unfold trunc
    split
    · rename_i hnonneg
      have hzero : x / y = 0 := le_antisymm (div_nonpos_of_nonpos_of_nonneg hx hy.le) hnonneg
      rw [hzero, Int.floor_zero, Int.cast_zero]
    · exact Int.le_ceil _
  rw [div_le_iff₀ hy] at hquotient
  rw [fmod]
  linarith only [hquotient]

/-- **A remainder close to an end of the period**: the number is close to a
multiple. -/
theorem fmod_near_iff {x y d : ℚ} (hx : 0 ≤ x) (hy : 0 < y) (hd : d ≤ y) :
    fmod x y < d ∨ y - d < fmod x y ↔ ∃ k : ℕ, |x - y * k| < d := by
  constructor
  · intro h
    have hfloor := Int.floor_nonneg.mpr (div_nonneg hx hy.le)
    have hle := Int.floor_le (x / y)
    have hlt := Int.lt_floor_add_one (x / y)
    rw [le_div_iff₀ hy, mul_comm] at hle
    rw [div_lt_iff₀ hy, mul_comm] at hlt
    obtain ⟨k, hk⟩ := Int.eq_ofNat_of_zero_le hfloor
    have hmod := fmod_eq_of_between hx hy hle hlt
    rw [hk] at hle hlt hmod
    rw [hmod] at h
    push_cast at hle hlt h
    rcases h with hlow | hhigh
    · exact ⟨k, by rw [abs_of_nonneg (by linarith only [hle])]; exact hlow⟩
    · refine ⟨k + 1, ?_⟩
      push_cast
      rw [abs_of_neg (by linarith only [hlt])]
      linarith only [hhigh]
  · rintro ⟨k, hk⟩
    obtain ⟨hlow, hhigh⟩ := abs_lt.mp hk
    by_cases hle : y * k ≤ x
    · refine Or.inl ?_
      rw [fmod_eq_of_between (k := k) hx hy (by exact_mod_cast hle)
        (by push_cast; linarith only [hhigh, hd])]
      exact_mod_cast hhigh
    · refine Or.inr ?_
      rw [not_le] at hle
      rw [fmod_eq_of_between (k := k - 1) hx hy (by push_cast; linarith only [hlow, hd])
        (by push_cast; linarith only [hle])]
      push_cast
      linarith only [hlow]

/-! ## Rates -/

section

variable {rate masterClockRate : ℚ}

theorem samplingRateOk_iff_mod (hrate : rate ≠ 0) :
    SamplingRateOk rate masterClockRate true ↔ rate = masterClockRate ∨
      fmod (masterClockRate / rate) 2 < 1 / 100 ∨
        2 - 1 / 100 < fmod (masterClockRate / rate) 2 := by
  have hbound : (2 - 1 / 100 : ℚ) = 199 / 100 := by norm_num
  rw [SamplingRateOk, assertSamplingRate, check_bind_eq_ok_iff, check_eq_ok_iff, samplingRateMod,
    if_neg hrate, modAccepted, hbound, eq_comm (a := rate)]
  simp only [reduceCtorEq, false_and, not_false_eq_true, true_and, not_and, Bool.not_eq_false,
    Bool.or_eq_true, decide_eq_true_eq]
  exact (Decidable.or_iff_not_imp_left).symm

/-- The rate is the master clock rate, or within a tolerance an even fraction of it. -/
def EvenFraction (rate masterClockRate : ℚ) : Prop :=
  rate = masterClockRate ∨ ∃ k : ℕ, 1 ≤ k ∧ |masterClockRate / rate - 2 * k| < 1 / 100

/-- An even fraction lies between zero and the master clock rate. -/
theorem EvenFraction.between (hm : 0 < masterClockRate) (h : EvenFraction rate masterClockRate) :
    0 < rate ∧ rate ≤ masterClockRate := by
  rcases h with rfl | ⟨k, hk, hnear⟩
  · exact ⟨hm, le_refl _⟩
  · obtain ⟨hlow, -⟩ := abs_lt.mp hnear
    have hk' : (1 : ℚ) ≤ k := by exact_mod_cast hk
    have hratio : 1 < masterClockRate / rate := by linarith only [hlow, hk']
    have hpos : 0 < rate := by
      by_contra hneg
      have hle := div_nonpos_of_nonneg_of_nonpos hm.le (not_lt.mp hneg)
      linarith only [hratio, hle]
    exact ⟨hpos, ((one_lt_div hpos).mp hratio).le⟩

/-- Rates up to a hundred times the clock pass if the clock is nearly an even multiple. -/
theorem samplingRateOk_iff_evenFraction (hpos : 0 < rate) (hle : rate ≤ 100 * masterClockRate) :
    SamplingRateOk rate masterClockRate true ↔ EvenFraction rate masterClockRate := by
  have hratio : 1 / 100 ≤ masterClockRate / rate := by
    rw [le_div_iff₀ hpos]
    linarith only [hle]
  rw [samplingRateOk_iff_mod hpos.ne', EvenFraction,
    fmod_near_iff (by linarith only [hratio]) (by norm_num) (by norm_num)]
  refine or_congr_right ⟨?_, fun ⟨k, _, hnear⟩ => ⟨k, hnear⟩⟩
  rintro ⟨k, hnear⟩
  refine ⟨k, Nat.one_le_iff_ne_zero.mpr ?_, hnear⟩
  -- the ratio is too large to be close to zero
  rintro rfl
  rw [Nat.cast_zero, mul_zero, sub_zero] at hnear
  exact absurd (lt_of_le_of_lt (le_abs_self _) hnear) (not_lt.mpr hratio)

/-- Without decimation there is one rate: a rate near the master clock rate but not equal to it
is no even fraction of it. -/
theorem eq_of_samplingRateOk (h : SamplingRateOk rate masterClockRate false) :
    rate = masterClockRate := by
  by_contra hne
  obtain ⟨hnear, haccepted⟩ := check_bind_eq_ok_iff.mp h
  rw [check_eq_ok_iff] at haccepted
  have hclose : |rate / masterClockRate - 1| ≤ 1 / 100 := not_lt.mp fun hlt => hnear ⟨rfl, hlt⟩
  obtain ⟨hlow, hhigh⟩ := abs_le.mp hclose
  have hinverse : masterClockRate / rate = (rate / masterClockRate)⁻¹ := (inv_div _ _).symm
  have hpos : 0 < rate / masterClockRate := by linarith only [hlow]
  have hrate : rate ≠ 0 := by
    rintro rfl
    rw [zero_div] at hpos
    exact lt_irrefl _ hpos
  have hlower : 1 / 2 < masterClockRate / rate := by
    rw [hinverse, lt_inv_comm₀ (by norm_num) hpos]
    linarith only [hhigh]
  have hupper : masterClockRate / rate < 3 / 2 := by
    rw [hinverse, inv_lt_comm₀ hpos (by norm_num)]
    linarith only [hlow]
  have hmod : fmod (masterClockRate / rate) 2 < 1 / 100 ∨
      2 - 1 / 100 < fmod (masterClockRate / rate) 2 := by
    have hok : SamplingRateOk rate masterClockRate true := by
      rw [SamplingRateOk, assertSamplingRate, check_bind_eq_ok_iff, check_eq_ok_iff]
      exact ⟨fun hfalse => Bool.noConfusion hfalse.1, haccepted⟩
    exact ((samplingRateOk_iff_mod hrate).mp hok).resolve_left hne
  -- the ratio is closer to one than to any even number
  obtain ⟨k, hk⟩ := (fmod_near_iff (by linarith only [hlower]) (by norm_num) (by norm_num)).mp hmod
  obtain ⟨hkLow, hkHigh⟩ := abs_lt.mp hk
  rcases Nat.eq_zero_or_pos k with rfl | hk'
  · rw [Nat.cast_zero] at hkHigh
    linarith only [hkHigh, hlower]
  · have hone : (1 : ℚ) ≤ k := by exact_mod_cast hk'
    linarith only [hkLow, hupper, hone]

/-- Negative rates pass. -/
theorem samplingRateOk_of_neg (hm : 0 < masterClockRate) (hneg : rate < 0) :
    SamplingRateOk rate masterClockRate true := by
  have hmod : fmod (masterClockRate / rate) 2 ≤ 0 :=
    fmod_nonpos (div_nonpos_of_nonneg_of_nonpos hm.le hneg.le) (by norm_num)
  refine (samplingRateOk_iff_mod hneg.ne).mpr (Or.inr (Or.inl ?_))
  linarith only [hmod]

/-- So do rates more than a hundred times the clock. -/
theorem samplingRateOk_of_lt (hm : 0 < masterClockRate) (hlt : 100 * masterClockRate < rate) :
    SamplingRateOk rate masterClockRate true := by
  have hpos : 0 < rate := by linarith only [hm, hlt]
  have hratio : masterClockRate / rate < 1 / 100 := by
    rw [div_lt_iff₀ hpos]
    linarith only [hlt]
  have hnonneg : 0 ≤ masterClockRate / rate := div_nonneg hm.le hpos.le
  refine (samplingRateOk_iff_mod hpos.ne').mpr (Or.inr ?_)
  refine (fmod_near_iff hnonneg (by norm_num) (by norm_num)).mpr ⟨0, ?_⟩
  rw [Nat.cast_zero, mul_zero, sub_zero, abs_of_nonneg hnonneg]
  exact hratio

end

/-- `getSupportedSampleRates`. -/
def RFConfiguration.getSupportedSampleRates (b : RfNocBlocks) : List ℚ :=
  b.masterClockRate ::
    if b.supportsDecimation then
      (List.range' 2 28 2).map fun i : ℕ => b.masterClockRate / i
    else []

/-- **The sampling rate check.**  All supported rates are accepted.  That a rate is
accepted exactly as an even fraction of the master clock rate, and neither below zero nor
above the master clock rate, is true of the positive rates up to a hundred times the
master clock rate, and of no others. -/
theorem samplingRate_correct_iff {masterClockRate : ℚ} (hm : 0 < masterClockRate) :
    (∀ b : RfNocBlocks, b.masterClockRate = masterClockRate →
      ∀ rate ∈ RFConfiguration.getSupportedSampleRates b,
        SamplingRateOk rate masterClockRate true) ∧
      ∀ rate : ℚ, rate ≠ 0 →
        ((SamplingRateOk rate masterClockRate true ↔ EvenFraction rate masterClockRate) ∧
            (rate < 0 ∨ masterClockRate < rate → ¬ SamplingRateOk rate masterClockRate true) ↔
          0 < rate ∧ rate ≤ 100 * masterClockRate) := by
  refine ⟨fun b hb rate hrate => ?_, fun rate hne => ⟨?_, ?_⟩⟩
  · rw [RFConfiguration.getSupportedSampleRates, hb] at hrate
    rcases List.mem_cons.mp hrate with rfl | hdecimated
    · exact (samplingRateOk_iff_mod hm.ne').mpr (Or.inl rfl)
    · split at hdecimated
      · obtain ⟨i, hi, rfl⟩ := List.mem_map.mp hdecimated
        obtain ⟨k, hk, rfl⟩ := List.mem_range'.mp hi
        have hpos : (0 : ℚ) < (2 + 2 * k : ℕ) := by positivity
        have hone : (1 : ℚ) ≤ (2 + 2 * k : ℕ) := by
          rw [Nat.one_le_cast]
          omega
        have hle := div_le_self hm.le hone
        refine (samplingRateOk_iff_evenFraction (div_pos hm hpos)
          (by linarith only [hle, hm])).mpr (Or.inr ⟨1 + k, Nat.le_add_right 1 k, ?_⟩)
        rw [div_div_cancel₀ hm.ne']
        push_cast
        rw [show (2 + 2 * k - 2 * (1 + k) : ℚ) = 0 by ring, abs_zero]
        norm_num
      · exact nomatch hdecimated
  · rintro ⟨hiff, -⟩
    by_contra hcond
    -- outside of the interval the rate is accepted, and is no even fraction
    have hok : SamplingRateOk rate masterClockRate true := by
      rcases lt_or_gt_of_ne hne with hneg | hpos
      · exact samplingRateOk_of_neg hm hneg
      · exact samplingRateOk_of_lt hm (not_le.mp fun hle => hcond ⟨hpos, hle⟩)
    obtain ⟨hpos, hle⟩ := (hiff.mp hok).between hm
    exact hcond ⟨hpos, by linarith only [hle, hm]⟩
  · rintro ⟨hpos, hle⟩
    have hiff := samplingRateOk_iff_evenFraction hpos hle
    refine ⟨hiff, fun hout hok => ?_⟩
    obtain ⟨-, hbelow⟩ := (hiff.mp hok).between hm
    rcases hout with hneg | habove
    · exact absurd hpos (not_lt.mpr hneg.le)
    · exact absurd hbelow (not_le.mpr habove)

/-- A negative rate and a rate of 100 GHz pass the check. -/
theorem samplingRate_accepted_outside :
    (SamplingRateOk (-1000000) 250000000 true ∧ ¬ EvenFraction (-1000000) 250000000) ∧
      SamplingRateOk 100000000000 250000000 true ∧ ¬ EvenFraction 100000000000 250000000 := by
  refine ⟨⟨by decide +kernel, fun h => ?_⟩, by decide +kernel, fun h => ?_⟩
  · exact absurd (h.between (by norm_num)).1 (by norm_num)
  · exact absurd (h.between (by norm_num)).2 (by norm_num)

/-- A quarter of a master clock rate of 250 MHz is accepted. -/
theorem samplingRate_correct_example :
    SamplingRateOk 62500000 250000000 true ↔ EvenFraction 62500000 250000000 :=
  (((samplingRate_correct_iff (by norm_num)).2 62500000 (by norm_num)).mpr
    ⟨by norm_num, by norm_num⟩).1

end UsrpWrapper
