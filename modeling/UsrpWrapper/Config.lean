import UsrpWrapper.UsrpException
import UsrpWrapper.Lib.Command
import UsrpWrapper.Lib.Rounding
import Mathlib.Tactic.Linarith

/-!
# Streaming and RF configurations

The data types of `include/config.hpp` and the functions of `lib/config.cpp`:
word alignment, the validators of RF, TX and RX configurations, and the padding
and shortening of signals.

A `double` is a rational number and a `float` one that a `float` can hold: what
is written to a `float` is rounded (`toFloat`).  The arithmetic of the validators
is exact, over the rational numbers.  An `unsigned int` is a `UInt32`, an `int` an
`Int32` and a `size_t` a `UInt64`, so that a product wraps exactly where the
product of the source does.  A `std::vector` is a `List`.  The validators are
given the sampling rate of a configured device, which `assertSamplingRate` keeps
away from `0`.
-/

namespace UsrpWrapper

open Lib Lib.Command

variable {α : Type}

/-! ## Data types -/

/-- The conversion of a `double` to a `float`. -/
def toFloat (x : ℚ) : ℚ := BinaryFormat.single.round x

/-- What was a `float` already stays what it is. -/
@[simp] theorem toFloat_toFloat (x : ℚ) : toFloat (toFloat x) = toFloat x :=
  BinaryFormat.round_eq_self (BinaryFormat.single.representable_round x)

/-- `bi::MimoSignal`: one list of samples for each antenna. -/
abbrev MimoSignal (α : Type) := List (List α)

/-- `RfConfig`; its numbers are `float`s (`RfConfig.IsFloat`). -/
structure RfConfig where
  txGain : ℚ
  rxGain : ℚ
  txCarrierFrequency : ℚ
  rxCarrierFrequency : ℚ
  txAnalogFilterBw : ℚ
  rxAnalogFilterBw : ℚ
  txSamplingRate : ℚ
  rxSamplingRate : ℚ
  noTxStreams : Int32
  noRxStreams : Int32
  txAntennaMapping : List Int32
  rxAntennaMapping : List Int32
  deriving DecidableEq

/-- `TxStreamingConfig`, with a list of samples for each antenna. -/
structure TxStreamingConfig (α : Type) where
  samples : MimoSignal α
  sendTimeOffset : ℚ
  numRepetitions : Int32
  deriving DecidableEq

/-- `RxStreamingConfig`; a period of `0` stands for the word-aligned length. -/
structure RxStreamingConfig where
  numSamples : UInt32
  receiveTimeOffset : ℚ
  numRepetitions : UInt32
  repetitionPeriod : UInt32
  antennaPort : String
  deriving DecidableEq

/-- A config with all its numbers rounded to `float`s. -/
def RfConfig.rounded (c : RfConfig) : RfConfig :=
  { c with
    txGain := toFloat c.txGain
    rxGain := toFloat c.rxGain
    txCarrierFrequency := toFloat c.txCarrierFrequency
    rxCarrierFrequency := toFloat c.rxCarrierFrequency
    txAnalogFilterBw := toFloat c.txAnalogFilterBw
    rxAnalogFilterBw := toFloat c.rxAnalogFilterBw
    txSamplingRate := toFloat c.txSamplingRate
    rxSamplingRate := toFloat c.rxSamplingRate }

/-- All numbers of the config are `float`s.  The configs that the wrapper builds are: those
of the binding (`isFloat_of_rfConfigToBinding`), and those that are read back
(`RFConfiguration.isFloat_readBack`). -/
def RfConfig.IsFloat (c : RfConfig) : Prop := c.rounded = c

instance (c : RfConfig) : Decidable c.IsFloat := inferInstanceAs (Decidable (_ = _))

/-- `operator==` of two RF configs: the analog filter bandwidths, the stream
counts and the mappings are not compared. -/
def RfConfig.equal (a b : RfConfig) : Bool :=
  a.txGain == b.txGain && a.rxGain == b.rxGain &&
    a.txCarrierFrequency == b.txCarrierFrequency &&
    a.rxCarrierFrequency == b.rxCarrierFrequency &&
    a.txSamplingRate == b.txSamplingRate && a.rxSamplingRate == b.rxSamplingRate

/-- The comparison of the code, field by field. -/
theorem RfConfig.equal_iff {conf conf' : RfConfig} :
    conf.equal conf' = true ↔ conf.txGain = conf'.txGain ∧ conf.rxGain = conf'.rxGain ∧
      conf.txCarrierFrequency = conf'.txCarrierFrequency ∧
      conf.rxCarrierFrequency = conf'.rxCarrierFrequency ∧
      conf.txSamplingRate = conf'.txSamplingRate ∧ conf.rxSamplingRate = conf'.rxSamplingRate := by
  simp [RfConfig.equal, and_assoc]

/-! ## Word alignment -/

/-- `nextMultipleOfWordSize`: the next multiple of 8. -/
def nextMultipleOfWordSize (count : UInt64) : UInt64 :=
  let rem := count % 8
  if rem = 0 then count else count + 8 - rem

/-- Below the last word of a `size_t` the function computes the next multiple of
8 without a wrap. -/
theorem nextMultipleOfWordSize_toNat {count : UInt64} (h : count.toNat + 8 ≤ 2 ^ 64) :
    (nextMultipleOfWordSize count).toNat = (count.toNat + 7) / 8 * 8 := by
  have hrem : (count % 8).toNat = count.toNat % 8 := by simp
  unfold nextMultipleOfWordSize
  by_cases hz : count % 8 = 0
  · have hz' : count.toNat % 8 = 0 := by rw [← hrem, hz]; rfl
    simp only [hz, if_true]
    omega
  · have hz' : count.toNat % 8 ≠ 0 := by
      intro hc
      exact hz (UInt64.toNat_inj.mp (by rw [hrem, hc]; rfl))
    simp only [hz, if_false]
    rw [UInt64.toNat_sub, UInt64.toNat_add, hrem]
    simp only [UInt64.reduceToNat]
    omega

/-- The result is a multiple of 8, for every count. -/
theorem nextMultipleOfWordSize_mod (count : UInt64) :
    (nextMultipleOfWordSize count).toNat % 8 = 0 := by
  have hrem : (count % 8).toNat = count.toNat % 8 := by simp
  have hlt := count.toNat_lt
  unfold nextMultipleOfWordSize
  by_cases hz : count % 8 = 0
  · have hz' : count.toNat % 8 = 0 := by rw [← hrem, hz]; rfl
    simpa only [hz, if_true] using hz'
  · simp only [hz, if_false]
    rw [UInt64.toNat_sub, UInt64.toNat_add, hrem]
    simp only [UInt64.reduceToNat]
    omega

/-- A count is left alone exactly when it is a multiple of 8. -/
theorem nextMultipleOfWordSize_eq_self_iff (count : UInt64) :
    nextMultipleOfWordSize count = count ↔ count.toNat % 8 = 0 := by
  constructor
  · intro h
    rw [← h]
    exact nextMultipleOfWordSize_mod count
  · intro h
    have hz : count % 8 = 0 := UInt64.toNat_inj.mp (by simpa using h)
    simp [nextMultipleOfWordSize, hz]

/-! ## Lengths of an RX config -/

namespace RxStreamingConfig

/-- `wordAlignedNoSamples`: the number of samples, rounded up to words. -/
def wordAlignedNoSamples (c : RxStreamingConfig) : UInt64 :=
  nextMultipleOfWordSize c.numSamples.toUInt64

/-- `totalWordAlignedSamples`: the samples one stream delivers during the
config.  Without a period the product is one of `size_t`; with a period both
factors are `unsigned int`, and so is their product. -/
def totalWordAlignedSamples (c : RxStreamingConfig) : Except Fault UInt64 :=
  if c.repetitionPeriod = 0 then
    .ok (c.wordAlignedNoSamples * c.numRepetitions.toUInt64)
  else if c.repetitionPeriod.toUInt64 ≠ nextMultipleOfWordSize c.repetitionPeriod.toUInt64 then
    .error (.usrp .periodNotWordAligned)
  else
    .ok (c.repetitionPeriod * c.numRepetitions).toUInt64

/-- `totalSamples`: the samples the config spans, computed in `unsigned int`. -/
def totalSamples (c : RxStreamingConfig) : UInt64 :=
  if c.repetitionPeriod = 0 then
    (c.numSamples * c.numRepetitions).toUInt64
  else
    (c.repetitionPeriod * c.numRepetitions).toUInt64

/-- The number of samples from the start of one repetition to the start of the
next: the period, or the word-aligned length when no period is given. -/
def period (c : RxStreamingConfig) : ℕ :=
  if c.repetitionPeriod = 0 then c.wordAlignedNoSamples.toNat else c.repetitionPeriod.toNat

/-- The number of samples, up to the next multiple of 8. -/
theorem wordAlignedNoSamples_toNat (c : RxStreamingConfig) :
    c.wordAlignedNoSamples.toNat = (c.numSamples.toNat + 7) / 8 * 8 := by
  have hlt := c.numSamples.toNat_lt
  rw [wordAlignedNoSamples, nextMultipleOfWordSize_toNat (by simp; omega)]
  simp

/-- The product of the lengths of all repetitions, which is exact without a
period: a multiple of 8 up to `2 ^ 32`, times a 32-bit count. -/
theorem totalWordAlignedSamples_of_noPeriod {c : RxStreamingConfig} (h : c.repetitionPeriod = 0) :
    ∃ n, c.totalWordAlignedSamples = .ok n ∧ n.toNat = c.period * c.numRepetitions.toNat := by
  refine ⟨_, by rw [totalWordAlignedSamples, if_pos h], ?_⟩
  have haligned : c.wordAlignedNoSamples.toNat ≤ 2 ^ 32 := by
    have hlt := c.numSamples.toNat_lt
    rw [wordAlignedNoSamples_toNat]
    omega
  have hreps := c.numRepetitions.toNat_lt
  rw [period, if_pos h, UInt64.toNat_mul, UInt32.toNat_toUInt64, Nat.mod_eq_of_lt]
  calc c.wordAlignedNoSamples.toNat * c.numRepetitions.toNat
      ≤ 2 ^ 32 * c.numRepetitions.toNat := Nat.mul_le_mul_right _ haligned
    _ < 2 ^ 64 := by omega

/-- With a period the product wraps at `2 ^ 32`, and the period must be a
multiple of 8. -/
theorem totalWordAlignedSamples_of_period {c : RxStreamingConfig} {n : UInt64}
    (h : c.repetitionPeriod ≠ 0) :
    c.totalWordAlignedSamples = .ok n ↔
      c.repetitionPeriod.toNat % 8 = 0 ∧
        n = (c.repetitionPeriod * c.numRepetitions).toUInt64 := by
  have haligned := nextMultipleOfWordSize_eq_self_iff c.repetitionPeriod.toUInt64
  rw [UInt32.toNat_toUInt64] at haligned
  rw [totalWordAlignedSamples, if_neg h]
  by_cases hmod : c.repetitionPeriod.toNat % 8 = 0
  · simp [haligned.mpr hmod, hmod, eq_comm]
  · have hne : c.repetitionPeriod.toUInt64 ≠
        nextMultipleOfWordSize c.repetitionPeriod.toUInt64 :=
      fun heq => hmod (haligned.mp heq.symm)
    simp [hne, hmod]

/-- `totalWordAlignedSamples` throws in one way. -/
theorem totalWordAlignedSamples_eq_error {c : RxStreamingConfig} {e : Fault}
    (h : c.totalWordAlignedSamples = .error e) : e = .usrp .periodNotWordAligned := by
  unfold totalWordAlignedSamples at h
  split at h
  · cases h
  · split at h
    · cases h
      rfl
    · cases h

/-- Aligning loses no sample. -/
theorem numSamples_le_wordAlignedNoSamples (c : RxStreamingConfig) :
    c.numSamples.toNat ≤ c.wordAlignedNoSamples.toNat := by
  rw [wordAlignedNoSamples_toNat]
  omega

end RxStreamingConfig

/-! ## Validators -/

/-- `x` rounded towards zero. -/
def trunc (x : ℚ) : ℤ := if 0 ≤ x then ⌊x⌋ else ⌈x⌉

/-- `std::fmod`: the remainder of a division that truncates towards zero. -/
def fmod (x y : ℚ) : ℚ := x - y * trunc (x / y)

/-- `std::fmod(masterClockRate / actualSamplingRate, 2.0)`; at a sampling rate of
`0` the quotient is infinite and the remainder is not a number. -/
def samplingRateMod (actualSamplingRate masterClockRate : ℚ) : Option ℚ :=
  if actualSamplingRate = 0 then none
  else some (fmod (masterClockRate / actualSamplingRate) 2)

/-- The comparisons `mod < 0.01` and `mod > 1.99`; both fail for not-a-number. -/
def modAccepted : Option ℚ → Bool
  | none => false
  | some mod => decide (mod < 1 / 100) || decide (199 / 100 < mod)

/-- `assertSamplingRate`: without decimation the rate is the clock within one percent, and in both
cases the clock is the rate or nearly an even multiple of it. -/
def assertSamplingRate (actualSamplingRate masterClockRate : ℚ)
    (supportsDecimation : Bool) : Except Fault Unit := do
  let ratio := actualSamplingRate / masterClockRate
  check (supportsDecimation = false ∧ 1 / 100 < |ratio - 1|) (.usrp .decimationNotSupported)
  check (masterClockRate ≠ actualSamplingRate ∧
      modAccepted (samplingRateMod actualSamplingRate masterClockRate) = false)
    (.usrp (.samplingRateNotEvenFraction masterClockRate))

/-- `samples[0]`, which is undefined for a signal without antennas. -/
def firstSignal : MimoSignal α → Except Fault (List α)
  | [] => .error .outOfBounds
  | antSignal :: _ => .ok antSignal

theorem mem_of_firstSignal {samples : MimoSignal α} {first : List α}
    (h : firstSignal samples = .ok first) : first ∈ samples := by
  cases samples with
  | nil => cases h
  | cons signal rest =>
      cases h
      exact List.mem_cons_self

/-- The first signal is the head of the list. -/
theorem headD_of_firstSignal {samples : MimoSignal α} {first : List α}
    (h : firstSignal samples = .ok first) (signal : List α) : samples.headD signal = first := by
  cases samples with
  | nil => cases h
  | cons head rest =>
      cases h
      rfl

/-- The offset a config needs after its predecessor, or its own offset when it
has none. -/
def minimumTxOffset (prevConfig : Option (TxStreamingConfig α))
    (newConfig : TxStreamingConfig α) (guardOffset fs : ℚ) : Except Fault ℚ :=
  match prevConfig with
  | none => .ok newConfig.sendTimeOffset
  | some prev => do
      let first ← firstSignal prev.samples
      return prev.sendTimeOffset + guardOffset +
        first.length / fs * prev.numRepetitions.toInt

/-- `assertValidTxStreamingConfig`: the offset against the last config, the repetitions, and whole
words when the signal is repeated. -/
def assertValidTxStreamingConfig (prevConfig : Option (TxStreamingConfig α))
    (newConfig : TxStreamingConfig α) (guardOffset fs : ℚ) : Except Fault Unit := do
  let minimumRequiredOffset ← minimumTxOffset prevConfig newConfig guardOffset fs
  check (newConfig.sendTimeOffset < minimumRequiredOffset) (.usrp .txOffsetTooSmall)
  check (newConfig.numRepetitions ≤ 0) (.usrp .txNumRepetitionsNotPositive)
  if newConfig.numRepetitions ≠ 1 then
    let first ← firstSignal newConfig.samples
    let L := UInt64.ofNat first.length
    check (nextMultipleOfWordSize L ≠ L) (.usrp .txRepetitionsNotWordAligned)
  else
    return ()

/-- The offset an RX config needs after its predecessor. -/
def minimumRxOffset (prevConfig : Option RxStreamingConfig) (newConfig : RxStreamingConfig)
    (guardOffset fs : ℚ) : ℚ :=
  match prevConfig with
  | none => newConfig.receiveTimeOffset
  | some prev => prev.receiveTimeOffset + guardOffset + prev.totalSamples.toNat / fs

/-- `assertValidRxStreamingConfig`: the repetitions, their period, whole words when there are
several, and the offset against the last config. -/
def assertValidRxStreamingConfig (prevConfig : Option RxStreamingConfig)
    (newConfig : RxStreamingConfig) (guardOffset fs : ℚ) : Except Fault Unit := do
  check (newConfig.numRepetitions < 1) (.usrp .rxNumRepetitionsZero)
  check (newConfig.repetitionPeriod ≠ 0 ∧ newConfig.repetitionPeriod < newConfig.numSamples)
    (.usrp .rxRepetitionPeriodTooSmall)
  check (1 < newConfig.numRepetitions ∧ 0 < newConfig.repetitionPeriod ∧
      newConfig.repetitionPeriod.toUInt64 ≠
        nextMultipleOfWordSize newConfig.repetitionPeriod.toUInt64)
    (.usrp .rxRepetitionPeriodNotWordAligned)
  check (1 < newConfig.numRepetitions ∧ ¬ 0 < newConfig.repetitionPeriod ∧
      newConfig.wordAlignedNoSamples ≠ newConfig.numSamples.toUInt64)
    (.usrp .rxNumSamplesNotWordAligned)
  check (newConfig.receiveTimeOffset <
      minimumRxOffset prevConfig newConfig guardOffset fs) (.usrp .rxOffsetTooSmall)

/-- The checks of one antenna signal, in the order of the source. -/
def assertValidAntSignal (isnan : α → Bool) (maxSamples lengthSignal : ℕ)
    (antSignal : List α) : Except Fault Unit := do
  check (maxSamples < antSignal.length) (.usrp (.signalTooLong maxSamples))
  check (antSignal.length ≠ lengthSignal) (.usrp .signalLengthsDiffer)
  check (antSignal.any isnan = true) (.usrp .signalContainsNan)

/-- `assertValidTxSignal`: one signal for each stream, all of one length, none of them too long or
with a value that is not a number. -/
def assertValidTxSignal (isnan : α → Bool) (streamSamples : MimoSignal α)
    (maxSamples noTxStreams : ℕ) : Except Fault Unit :=
  match streamSamples with
  | [] => .error (.usrp .noSignalProvided)
  | first :: _ => do
      check (streamSamples.length ≠ noTxStreams) (.usrp .signalCountMismatch)
      streamSamples.forM (assertValidAntSignal isnan maxSamples first.length)

/-- `assertValidRfConfig`: between one and four streams in each direction. -/
def assertValidRfConfig (conf : RfConfig) : Except Fault Unit := do
  check (4 < conf.noTxStreams ∨ conf.noTxStreams < 1)
    (.usrp (.invalidNumTxStreams conf.noTxStreams.toInt))
  check (4 < conf.noRxStreams ∨ conf.noRxStreams < 1)
    (.usrp (.invalidNumRxStreams conf.noRxStreams.toInt))

/-! ## Signals -/

/-- `std::vector::resize`: cut, or fill up with zeros. -/
def resize (zero : α) (length : ℕ) (s : List α) : List α :=
  s.take length ++ List.replicate (length - s.length) zero

/-- `_resizeSignal`. -/
def resizeSignal (zero : α) (samples : MimoSignal α) (length : UInt64) : MimoSignal α :=
  samples.map (resize zero length.toNat)

/-- `extendToWordSize`: fill all signals with zeros up to a whole number of words. -/
def extendToWordSize (zero : α) (samples : MimoSignal α) : Except Fault (MimoSignal α) := do
  let first ← firstSignal samples
  return resizeSignal zero samples (nextMultipleOfWordSize (UInt64.ofNat first.length))

/-- `shortenSignal`: cut all signals; the first one has to be long enough. -/
def shortenSignal (zero : α) (samples : MimoSignal α) (length : UInt64) :
    Except Fault (MimoSignal α) := do
  let first ← firstSignal samples
  check (UInt64.ofNat first.length < length) (.usrp .signalTooShort)
  return resizeSignal zero samples length

/-- `TxStreamingConfig::alignToWordSize`. -/
def TxStreamingConfig.alignToWordSize (zero : α) (c : TxStreamingConfig α) :
    Except Fault (TxStreamingConfig α) := do
  let samples ← extendToWordSize zero c.samples
  return { c with samples }

@[simp] theorem resize_length (zero : α) (length : ℕ) (s : List α) :
    (resize zero length s).length = length := by
  simp [resize]
  omega

/-- Cutting a longer list is taking its front. -/
theorem resize_of_le {zero : α} {length : ℕ} {s : List α} (h : length ≤ s.length) :
    resize zero length s = s.take length := by
  simp [resize, Nat.sub_eq_zero_of_le h]

/-- Filling up a shorter list keeps it as the front. -/
theorem resize_of_ge {zero : α} {length : ℕ} {s : List α} (h : s.length ≤ length) :
    resize zero length s = s ++ List.replicate (length - s.length) zero := by
  rw [resize, List.take_of_length_le h]

theorem shortenSignal_eq_ok {zero : α} {samples short : MimoSignal α} {length : UInt64}
    (h : shortenSignal zero samples length = .ok short) :
    short = resizeSignal zero samples length := by
  obtain ⟨_, -, hrest⟩ := except_bind_eq_ok_iff.mp h
  obtain ⟨-, hpure⟩ := check_bind_eq_ok_iff.mp hrest
  cases hpure
  rfl

/-! ## What the validators accept -/

/-- A rate that `assertSamplingRate` accepts. -/
def SamplingRateOk (rate masterClockRate : ℚ) (supportsDecimation : Bool) : Prop :=
  assertSamplingRate rate masterClockRate supportsDecimation = .ok ()

instance (rate masterClockRate : ℚ) (supportsDecimation : Bool) :
    Decidable (SamplingRateOk rate masterClockRate supportsDecimation) :=
  inferInstanceAs (Decidable (_ = _))

/-- The stream counts that `assertValidRfConfig` accepts. -/
structure StreamCountsOk (conf : RfConfig) : Prop where
  tx_pos : 1 ≤ conf.noTxStreams.toInt
  tx_le : conf.noTxStreams.toInt ≤ 4
  rx_pos : 1 ≤ conf.noRxStreams.toInt
  rx_le : conf.noRxStreams.toInt ≤ 4

/-- The counts a config may have. -/
theorem assertValidRfConfig_eq_ok_iff (conf : RfConfig) :
    assertValidRfConfig conf = .ok () ↔ StreamCountsOk conf := by
  unfold assertValidRfConfig
  rw [check_bind_eq_ok_iff, check_eq_ok_iff]
  simp only [Int32.lt_iff_toInt_lt]
  have h4 : (4 : Int32).toInt = 4 := by decide
  have h1 : (1 : Int32).toInt = 1 := by decide
  rw [h4, h1]
  constructor
  · rintro ⟨htx, hrx⟩
    exact ⟨by omega, by omega, by omega, by omega⟩
  · rintro ⟨h₁, h₂, h₃, h₄⟩
    exact ⟨by omega, by omega⟩

/-- What `assertValidRxStreamingConfig` accepts, apart from the time offset. -/
structure RxLengthsOk (c : RxStreamingConfig) : Prop where
  numRepetitions_pos : 1 ≤ c.numRepetitions.toNat
  numSamples_le : c.repetitionPeriod ≠ 0 → c.numSamples.toNat ≤ c.repetitionPeriod.toNat
  period_aligned : 1 < c.numRepetitions.toNat → c.repetitionPeriod.toNat % 8 = 0
  numSamples_aligned : 1 < c.numRepetitions.toNat → c.repetitionPeriod = 0 →
    c.numSamples.toNat % 8 = 0

/-- The lengths and the offset a config may have. -/
theorem assertValidRxStreamingConfig_eq_ok_iff (prevConfig : Option RxStreamingConfig)
    (c : RxStreamingConfig) (guardOffset fs : ℚ) :
    assertValidRxStreamingConfig prevConfig c guardOffset fs = .ok () ↔
      RxLengthsOk c ∧ minimumRxOffset prevConfig c guardOffset fs ≤ c.receiveTimeOffset := by
  unfold assertValidRxStreamingConfig
  simp only [check_bind_eq_ok_iff, check_eq_ok_iff, not_and, not_lt, not_not]
  have hperiod : c.repetitionPeriod.toUInt64 =
      nextMultipleOfWordSize c.repetitionPeriod.toUInt64 ↔ c.repetitionPeriod.toNat % 8 = 0 := by
    rw [eq_comm, nextMultipleOfWordSize_eq_self_iff]
    simp
  have hsamples : c.wordAlignedNoSamples = c.numSamples.toUInt64 ↔
      c.numSamples.toNat % 8 = 0 := by
    rw [RxStreamingConfig.wordAlignedNoSamples, nextMultipleOfWordSize_eq_self_iff]
    simp
  have hzero : c.repetitionPeriod = 0 ↔ c.repetitionPeriod.toNat = 0 := by
    rw [← UInt32.toNat_inj]
    rfl
  rw [hperiod, hsamples]
  simp only [UInt32.lt_iff_toNat_lt, UInt32.reduceToNat, not_lt]
  constructor
  · rintro ⟨h₁, h₂, h₃, h₄, h₅⟩
    refine ⟨⟨h₁, h₂, fun h => ?_, fun h hz => h₄ h (hzero.mp hz).le⟩, h₅⟩
    by_cases hz : 0 < c.repetitionPeriod.toNat
    · exact h₃ h hz
    · omega
  · rintro ⟨⟨h₁, h₂, h₃, h₄⟩, h₅⟩
    exact ⟨h₁, h₂, fun h _ => h₃ h, fun h hz => h₄ h (hzero.mpr (by omega)), h₅⟩

/-- The signals `assertValidTxSignal` accepts. -/
theorem assertValidTxSignal_eq_ok {isnan : α → Bool} {samples : MimoSignal α}
    {maxSamples noTxStreams : ℕ}
    (h : assertValidTxSignal isnan samples maxSamples noTxStreams = .ok ()) :
    ∃ first, firstSignal samples = .ok first ∧ samples.length = noTxStreams ∧
      ∀ signal ∈ samples, signal.length ≤ maxSamples ∧ signal.length = first.length := by
  cases samples with
  | nil => cases h
  | cons first rest =>
      obtain ⟨hcount, hsignals⟩ := check_bind_eq_ok_iff.mp h
      refine ⟨first, rfl, not_not.mp hcount, ?_⟩
      intro signal hmem
      have hsignal := forM_except_eq_ok hsignals signal hmem
      obtain ⟨hlen, hrest⟩ := check_bind_eq_ok_iff.mp hsignal
      obtain ⟨hsame, -⟩ := check_bind_eq_ok_iff.mp hrest
      exact ⟨not_lt.mp hlen, not_not.mp hsame⟩

/-- What `assertValidTxStreamingConfig` accepts, apart from the time offset. -/
theorem assertValidTxStreamingConfig_eq_ok {prevConfig : Option (TxStreamingConfig α)}
    {c : TxStreamingConfig α} {guardOffset fs : ℚ} {first : List α}
    (h : assertValidTxStreamingConfig prevConfig c guardOffset fs = .ok ())
    (hfirst : firstSignal c.samples = .ok first) :
    1 ≤ c.numRepetitions.toInt ∧
      (1 < c.numRepetitions.toInt → first.length % 2 ^ 64 % 8 = 0) := by
  obtain ⟨_, -, hrest⟩ := except_bind_eq_ok_iff.mp h
  obtain ⟨-, hrest⟩ := check_bind_eq_ok_iff.mp hrest
  obtain ⟨hpos, haligned⟩ := check_bind_eq_ok_iff.mp hrest
  rw [Int32.le_iff_toInt_le, Int32.toInt_zero] at hpos
  refine ⟨by omega, fun hmany => ?_⟩
  have hne : c.numRepetitions ≠ 1 := by
    intro hone
    rw [hone] at hmany
    exact absurd hmany (by decide)
  rw [if_pos hne, hfirst] at haligned
  rw [← UInt64.toNat_ofNat', ← nextMultipleOfWordSize_eq_self_iff]
  exact not_not.mp (check_eq_ok_iff.mp haligned)

theorem TxStreamingConfig.alignToWordSize_eq_ok_iff {zero : α} {c c' : TxStreamingConfig α}
    {first : List α} (hfirst : firstSignal c.samples = .ok first) :
    c.alignToWordSize zero = .ok c' ↔ c' =
      { c with
        samples := resizeSignal zero c.samples
          (nextMultipleOfWordSize (UInt64.ofNat first.length)) } := by
  rw [alignToWordSize, extendToWordSize, hfirst, eq_comm (a := c')]
  show Except.ok _ = Except.ok c' ↔ _
  rw [Except.ok.injEq]

end UsrpWrapper
