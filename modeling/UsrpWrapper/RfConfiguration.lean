import UsrpWrapper.StreamMapper
import Mathlib.Logic.Function.Basic

/-!
# The RF configuration

`RFConfiguration` (`rf_configuration.cpp`) applies an `RfConfig` to the channels
of the mapped antennas, sets the rates of the DDCs and DUCs and reads the result
back from the channels of the first streams.

UHD is the environment: `RfAnswers` says which calls it carries out and what the
channels report, both for one call of `setRfConfig`.  Of its state the model keeps
the decimation property of the DDC channels, which `set_output_rate` changes for
one channel.

`configure_decides` says when the middle part, which talks to the blocks,
returns; `setRfConfig_cases` lists the ways `setRfConfig` ends and what it leaves.
-/

namespace UsrpWrapper

open Lib.Command StreamMapper

/-! ## The blocks -/

/-- The calls that set a property of a radio, DDC or DUC channel. -/
inductive RadioCall where
  | setRxFrequency (frequency : ℚ) (radio : Channel)
  | setRxGain (gain : ℚ) (radio : Channel)
  | setRxBandwidth (bandwidth : ℚ) (radio : Channel)
  | setTxFrequency (frequency : ℚ) (radio : Channel)
  | setTxGain (gain : ℚ) (radio : Channel)
  | setTxBandwidth (bandwidth : ℚ) (radio : Channel)
  | setOutputRate (rate : ℚ) (ddc : Channel)
  | setInputRate (rate : ℚ) (duc : Channel)
  deriving DecidableEq

/-- What UHD answers during a call: the calls it carries out, throwing on the
others, and what the channels of the first streams report. -/
structure RfAnswers where
  accepts : RadioCall → Bool
  txGain : ℚ
  rxGain : ℚ
  txCarrierFrequency : ℚ
  rxCarrierFrequency : ℚ
  txAnalogFilterBw : ℚ
  rxAnalogFilterBw : ℚ
  txSamplingRate : ℚ
  rxSamplingRate : ℚ

/-- The class: the config it has read back, the counts of the last request, and what its DDCs were
set to. -/
structure RFConfiguration where
  rfConfig : RfConfig
  numTxStreams : Int32
  numRxStreams : Int32
  /-- The `decim` property of each DDC channel. -/
  ddcDecim : Channel → ℤ

namespace RFConfiguration

/-- A member function of the class. -/
abbrev RfM := EStateM Fault RFConfiguration

/-- A call on a block. -/
def call (a : RfAnswers) (c : RadioCall) : RfM Unit :=
  liftE (check (a.accepts c = false) .uhd)

/-- `set_output_rate`, which sets the decimation of its channel. -/
def setOutputRate (b : RfNocBlocks) (a : RfAnswers) (rate : ℚ) (ddc : Channel) : RfM Unit := do
  call a (.setOutputRate rate ddc)
  modify fun r => { r with ddcDecim := Function.update r.ddcDecim ddc (b.decimation rate) }

/-! ## The class -/

section

variable (b : RfNocBlocks) (m : StreamMapper) (a : RfAnswers)

/-- The loops over the streams of a direction, in terms of their antennas. -/
def forStreams (numStreams : Int32) (mapping : List Int32) (body : Int32 → RfM Unit) :
    RfM Unit :=
  forM (List.range numStreams.toInt.toNat) fun s => do
    let antenna ← liftE (mapStreamToAntenna (UInt32.ofNat s) mapping)
    body antenna.toInt32

/-- `setRfConfigForRxAntenna`: frequency, gain and bandwidth of one radio channel, in this order.
-/
def setRfConfigForRxAntenna (conf : RfConfig) (rxAntennaIdx : Int32) : RfM Unit := do
  let radio ← liftE (b.getRadioChannelPair rxAntennaIdx)
  call a (.setRxFrequency conf.rxCarrierFrequency radio)
  call a (.setRxGain conf.rxGain radio)
  call a (.setRxBandwidth conf.rxAnalogFilterBw radio)

/-- `setRfConfigForTxAntenna`, in the same order. -/
def setRfConfigForTxAntenna (conf : RfConfig) (txAntennaIdx : Int32) : RfM Unit := do
  let radio ← liftE (b.getRadioChannelPair txAntennaIdx)
  call a (.setTxFrequency conf.txCarrierFrequency radio)
  call a (.setTxGain conf.txGain radio)
  call a (.setTxBandwidth conf.txAnalogFilterBw radio)

/-- `setRxSampleRate` and `setTxSampleRate`: check the rate, and set it for the
mapped antennas. -/
def setSampleRate (numStreams : Int32) (mapping : List Int32) (rate : ℚ)
    (setRate : Int32 → RfM Unit) : RfM Unit := do
  liftE (check (numStreams = 0) (.usrp .numAntennasUnknown))
  liftE (assertSamplingRate rate b.masterClockRate b.supportsDecimation)
  if b.supportsDecimation then forStreams numStreams mapping setRate
  else pure ()

/-- `setRxSampleRate`: the output rate of the DDCs. -/
def setRxSampleRate (rate : ℚ) : RfM Unit := do
  let r ← get
  setSampleRate b r.numRxStreams m.rxMapping rate fun antenna =>
    setOutputRate b a rate (b.getDDCChannelPair antenna)

/-- `setTxSampleRate`: the input rate of the DUCs. -/
def setTxSampleRate (rate : ℚ) : RfM Unit := do
  let r ← get
  setSampleRate b r.numTxStreams m.txMapping rate fun antenna =>
    call a (.setInputRate rate (b.getDUCChannelPair antenna))

/-- `readRxSampleRate`: without decimation the rate is the clock. -/
def readRxSampleRate : ℚ :=
  if b.supportsDecimation then a.rxSamplingRate else b.masterClockRate

/-- `readTxSampleRate`, likewise. -/
def readTxSampleRate : ℚ :=
  if b.supportsDecimation then a.txSamplingRate else b.masterClockRate

/-- The config the blocks report: their `double`s, written to the `float`s of a config, whose
mappings stay empty. -/
def readBack : RfConfig where
  txGain := toFloat a.txGain
  rxGain := toFloat a.rxGain
  txCarrierFrequency := toFloat a.txCarrierFrequency
  rxCarrierFrequency := toFloat a.rxCarrierFrequency
  txAnalogFilterBw := toFloat a.txAnalogFilterBw
  rxAnalogFilterBw := toFloat a.rxAnalogFilterBw
  txSamplingRate := toFloat (readTxSampleRate b a)
  rxSamplingRate := toFloat (readRxSampleRate b a)
  noTxStreams := m.getNumTxStreams.toInt32
  noRxStreams := m.getNumRxStreams.toInt32
  txAntennaMapping := []
  rxAntennaMapping := []

/-- `readFromGraph`, for the channels of the first streams. -/
def readFromGraph : Except Fault RfConfig := do
  let rxAntenna ← m.mapRxStreamToAntenna 0
  let _ ← b.getRadioChannelPair rxAntenna.toInt32
  let txAntenna ← m.mapTxStreamToAntenna 0
  let _ ← b.getRadioChannelPair txAntenna.toInt32
  return readBack b m a

/-- The RX half of the part of `setRfConfig` that talks to the blocks. -/
def configureRx (conf : RfConfig) : RfM Unit := do
  let r ← get
  forStreams r.numRxStreams m.rxMapping (setRfConfigForRxAntenna b a conf)
  setRxSampleRate b m a conf.rxSamplingRate

/-- The TX half. -/
def configureTx (conf : RfConfig) : RfM Unit := do
  let r ← get
  forStreams r.numTxStreams m.txMapping (setRfConfigForTxAntenna b a conf)
  setTxSampleRate b m a conf.txSamplingRate

/-- The part of `setRfConfig` that talks to the blocks. -/
def configure (conf : RfConfig) : RfM Unit := do
  configureRx b m a conf
  configureTx b m a conf

/-- `setRfConfig`: the stored config is overwritten before it is compared with
the request. -/
def setRfConfig (conf : RfConfig) : RfM Unit := do
  liftE (assertValidRfConfig conf)
  modify fun r => { r with numTxStreams := conf.noTxStreams, numRxStreams := conf.noRxStreams }
  configure b m a conf
  let actual ← liftE (readFromGraph b m a)
  modify fun r => { r with rfConfig := actual }
  liftE (check (actual.equal conf = false) (.usrp .rfConfigMismatch))

/-- `renewSampleRateSettings`: the rates that were read back are requested again, before every
streaming. -/
def renewSampleRateSettings : RfM Unit := do
  let r ← get
  setRxSampleRate b m a r.rfConfig.rxSamplingRate
  setTxSampleRate b m a r.rfConfig.txSamplingRate

end

/-- The number of TX streams that was read back. -/
def getNumTxStreams (r : RFConfiguration) : Int32 := r.rfConfig.noTxStreams

/-- The number of RX streams that was read back. -/
def getNumRxStreams (r : RFConfiguration) : Int32 := r.rfConfig.noRxStreams

/-- The TX rate that was read back. -/
def getTxSamplingRate (r : RFConfiguration) : ℚ := r.rfConfig.txSamplingRate

/-- The RX rate that was read back. -/
def getRxSamplingRate (r : RFConfiguration) : ℚ := r.rfConfig.rxSamplingRate

/-- How long this number of samples lasts at the stored rate. -/
def getTxSignalDuration (numSamples : ℕ) (r : RFConfiguration) : ℚ :=
  numSamples / r.getTxSamplingRate

/-- The same for the receive side. -/
def getRxSignalDuration (numSamples : ℕ) (r : RFConfiguration) : ℚ :=
  numSamples / r.getRxSamplingRate

/-- `getRxDecimationRatio` reads the first channel of the first DDC. -/
def getRxDecimationRatio (b : RfNocBlocks) (r : RFConfiguration) : ℤ :=
  if b.supportsDecimation then r.ddcDecim (.first, 0) else 1

/-- The config that is read back consists of `float`s, whatever the getters return. -/
theorem isFloat_readBack (b : RfNocBlocks) (m : StreamMapper) (a : RfAnswers) :
    (readBack b m a).IsFloat := by
  simp only [RfConfig.IsFloat, RfConfig.rounded, readBack, toFloat_toFloat]

/-! ## When the blocks accept a config -/

/-- The radio of an RX antenna exists and takes the config. -/
def RxAccepts (b : RfNocBlocks) (a : RfAnswers) (conf : RfConfig) (antenna : Int32) : Prop :=
  ∃ radio, b.getRadioChannelPair antenna = .ok radio ∧
    a.accepts (.setRxFrequency conf.rxCarrierFrequency radio) = true ∧
    a.accepts (.setRxGain conf.rxGain radio) = true ∧
    a.accepts (.setRxBandwidth conf.rxAnalogFilterBw radio) = true

/-- The radio of a TX antenna exists and takes the config. -/
def TxAccepts (b : RfNocBlocks) (a : RfAnswers) (conf : RfConfig) (antenna : Int32) : Prop :=
  ∃ radio, b.getRadioChannelPair antenna = .ok radio ∧
    a.accepts (.setTxFrequency conf.txCarrierFrequency radio) = true ∧
    a.accepts (.setTxGain conf.txGain radio) = true ∧
    a.accepts (.setTxBandwidth conf.txAnalogFilterBw radio) = true

/-- A rate that passes the check and that the DDCs or DUCs of the antennas
take. -/
def RateAccepts (b : RfNocBlocks) (rate : ℚ) (mapping : List Int32) (accepts : Int32 → Bool) :
    Prop :=
  SamplingRateOk rate b.masterClockRate b.supportsDecimation ∧
    (b.supportsDecimation = true → ∀ antenna ∈ mapping, accepts antenna = true)

/-- The antennas exist, the rates are possible, and UHD carries out the calls. -/
structure BlocksAccept (b : RfNocBlocks) (m : StreamMapper) (a : RfAnswers) (conf : RfConfig) :
    Prop where
  rx : ∀ antenna ∈ m.rxMapping, RxAccepts b a conf antenna
  rxRate : RateAccepts b conf.rxSamplingRate m.rxMapping fun antenna =>
    a.accepts (.setOutputRate conf.rxSamplingRate (b.getDDCChannelPair antenna))
  tx : ∀ antenna ∈ m.txMapping, TxAccepts b a conf antenna
  txRate : RateAccepts b conf.txSamplingRate m.txMapping fun antenna =>
    a.accepts (.setInputRate conf.txSamplingRate (b.getDUCChannelPair antenna))

theorem toNat_toUInt32_of_pos {n : Int32} (h : 1 ≤ n.toInt) :
    n.toUInt32.toNat = n.toInt.toNat := by
  refine Int32.toNat_toUInt32_of_le ?_
  rw [Int32.le_iff_toInt_le, Int32.toInt_zero]
  omega

section

variable {b : RfNocBlocks} {m : StreamMapper} {a : RfAnswers} {I : RFConfiguration → Prop}

/-- A call succeeds if the block accepts it. -/
theorem call_decides (c : RadioCall) : Decides I (call a c) (a.accepts c = true) := by
  refine Decides.ofLiftE ?_
  rw [check_eq_ok_iff]
  simp

/-- A loop over the streams visits the antennas of the mapping. -/
theorem forStreams_decides {numStreams : Int32} {mapping : List Int32} {body : Int32 → RfM Unit}
    {P : Int32 → Prop} (hlen : mapping.length = numStreams.toInt.toNat)
    (hbody : ∀ antenna ∈ mapping, Decides I (body antenna) (P antenna)) :
    Decides I (forStreams numStreams mapping body) (∀ antenna ∈ mapping, P antenna) := by
  have hlt := numStreams.toInt_lt
  have hmap {s : ℕ} (hs : s ∈ List.range numStreams.toInt.toNat) :
      ∃ h : s < mapping.length, mapStreamToAntenna (UInt32.ofNat s) mapping =
        .ok (mapping[s]).toUInt32 := by
    have hs' : s < mapping.length := by rw [hlen]; exact List.mem_range.mp hs
    exact ⟨hs', mapStreamToAntenna_of_lt hs' (by omega)⟩
  refine (Decides.ofForM (P := fun s => ∃ antenna,
    mapStreamToAntenna (UInt32.ofNat s) mapping = .ok antenna ∧ P antenna.toInt32)
      fun s hs => Decides.bindReads (fun _ _ => rfl) fun antenna hantenna => ?_).congr ?_
  · obtain ⟨h, hok⟩ := hmap hs
    rw [hok] at hantenna
    cases hantenna
    simpa using hbody _ (List.getElem_mem h)
  · constructor
    · intro hall antenna hmem
      obtain ⟨s, hs, rfl⟩ := List.getElem_of_mem hmem
      obtain ⟨antenna, hantenna, hP⟩ := hall s (List.mem_range.mpr (by rw [← hlen]; exact hs))
      rw [mapStreamToAntenna_of_lt hs (by omega)] at hantenna
      cases hantenna
      simpa using hP
    · intro hall s hs
      obtain ⟨h, hok⟩ := hmap hs
      exact ⟨_, hok, by simpa using hall _ (List.getElem_mem h)⟩

/-- An RX antenna takes the config if its radio exists and accepts the three values. -/
theorem setRfConfigForRxAntenna_decides (conf : RfConfig) (antenna : Int32) :
    Decides I (setRfConfigForRxAntenna b a conf antenna) (RxAccepts b a conf antenna) :=
  Decides.bindReads (fun _ _ => rfl) fun _ _ =>
    (call_decides _).seq ((call_decides _).seq (call_decides _))

theorem setRfConfigForTxAntenna_decides (conf : RfConfig) (antenna : Int32) :
    Decides I (setRfConfigForTxAntenna b a conf antenna) (TxAccepts b a conf antenna) :=
  Decides.bindReads (fun _ _ => rfl) fun _ _ =>
    (call_decides _).seq ((call_decides _).seq (call_decides _))

/-- A rate is set if it is admissible and, with decimation, accepted for all antennas. -/
theorem setSampleRate_decides {numStreams : Int32} {mapping : List Int32} {rate : ℚ}
    {setRate : Int32 → RfM Unit} {accepts : Int32 → Bool} (hpos : numStreams ≠ 0)
    (hlen : mapping.length = numStreams.toInt.toNat)
    (hset : ∀ antenna ∈ mapping, Decides I (setRate antenna) (accepts antenna = true)) :
    Decides I (setSampleRate b numStreams mapping rate setRate)
      (RateAccepts b rate mapping accepts) := by
  have hcount : Decides I
      (liftE (check (numStreams = 0) (.usrp .numAntennasUnknown)) : RfM Unit) True :=
    Decides.ofLiftE (by simp [hpos])
  have hrate : Decides I (liftE (assertSamplingRate rate b.masterClockRate b.supportsDecimation)
      : RfM Unit) (SamplingRateOk rate b.masterClockRate b.supportsDecimation) :=
    Decides.ofLiftE Iff.rfl
  have hloop : Decides I (if b.supportsDecimation then forStreams numStreams mapping setRate
      else pure ())
      (b.supportsDecimation = true → ∀ antenna ∈ mapping, accepts antenna = true) := by
    by_cases hdec : b.supportsDecimation = true
    · simp only [hdec, if_true, forall_const]
      exact forStreams_decides hlen hset
    · simp only [hdec]
      exact (Decides.ofModify (f := id) fun _ h => h).congr (by simp)
  exact (hcount.seq (hrate.seq hloop)).congr (by rw [true_and, RateAccepts])

/-- The invariant of `configure`: the counts of the request are stored, and the
stored config is still the old one. -/
def Configuring (conf old : RfConfig) (r : RFConfiguration) : Prop :=
  r.numTxStreams = conf.noTxStreams ∧ r.numRxStreams = conf.noRxStreams ∧ r.rfConfig = old

/-- The decimation is set with the rate. -/
theorem setOutputRate_decides {conf old : RfConfig} (rate : ℚ) (ddc : Channel) :
    Decides (Configuring conf old) (setOutputRate b a rate ddc)
      (a.accepts (.setOutputRate rate ddc) = true) :=
  ((call_decides _).seq (Decides.ofModify
    (f := fun r => { r with ddcDecim := Function.update r.ddcDecim ddc (b.decimation rate) })
    fun _ h => h)).congr (and_iff_left trivial)

theorem ne_zero_of_pos {n : Int32} (h : 1 ≤ n.toInt) : n ≠ 0 := by
  rintro rfl
  rw [Int32.toInt_zero] at h
  omega

/-- The transmit side is configured if its radios and its rate are accepted. -/
theorem configureTx_decides {conf : RfConfig} (hcounts : StreamCountsOk conf)
    (htx : m.txMapping.length = conf.noTxStreams.toUInt32.toNat)
    (hI : ∀ r, I r → r.numTxStreams = conf.noTxStreams) :
    Decides I (configureTx b m a conf)
      ((∀ antenna ∈ m.txMapping, TxAccepts b a conf antenna) ∧
        RateAccepts b conf.txSamplingRate m.txMapping fun antenna =>
          a.accepts (.setInputRate conf.txSamplingRate (b.getDUCChannelPair antenna))) := by
  rw [toNat_toUInt32_of_pos hcounts.tx_pos] at htx
  have hloop : Decides I
      (forStreams conf.noTxStreams m.txMapping (setRfConfigForTxAntenna b a conf))
      (∀ antenna ∈ m.txMapping, TxAccepts b a conf antenna) :=
    forStreams_decides htx fun _ _ => setRfConfigForTxAntenna_decides _ _
  have hrate : Decides I (setTxSampleRate b m a conf.txSamplingRate)
      (RateAccepts b conf.txSamplingRate m.txMapping fun antenna =>
        a.accepts (.setInputRate conf.txSamplingRate (b.getDUCChannelPair antenna))) :=
    Decides.bindGet (fun r hr => by rw [hI r hr])
      (setSampleRate_decides (ne_zero_of_pos hcounts.tx_pos) htx fun _ _ => call_decides _)
  exact Decides.bindGet (fun r hr => by rw [hI r hr]) (hloop.seq hrate)

/-- The loop over the RX radios, under any invariant. -/
theorem rxLoop_decides {conf : RfConfig} (hcounts : StreamCountsOk conf)
    (hrx : m.rxMapping.length = conf.noRxStreams.toUInt32.toNat) :
    Decides I (forStreams conf.noRxStreams m.rxMapping (setRfConfigForRxAntenna b a conf))
      (∀ antenna ∈ m.rxMapping, RxAccepts b a conf antenna) := by
  rw [toNat_toUInt32_of_pos hcounts.rx_pos] at hrx
  exact forStreams_decides hrx fun _ _ => setRfConfigForRxAntenna_decides _ _

theorem setRxSampleRate_decides {conf old : RfConfig} (hcounts : StreamCountsOk conf)
    (hrx : m.rxMapping.length = conf.noRxStreams.toUInt32.toNat) :
    Decides (Configuring conf old) (setRxSampleRate b m a conf.rxSamplingRate)
      (RateAccepts b conf.rxSamplingRate m.rxMapping fun antenna =>
        a.accepts (.setOutputRate conf.rxSamplingRate (b.getDDCChannelPair antenna))) := by
  rw [toNat_toUInt32_of_pos hcounts.rx_pos] at hrx
  exact Decides.bindGet (fun r hr => by rw [hr.2.1])
    (setSampleRate_decides (ne_zero_of_pos hcounts.rx_pos) hrx fun _ _ =>
      setOutputRate_decides _ _)

/-- **When the blocks take a config**: exactly if all antennas exist, the rates
are possible and UHD carries out the calls. -/
theorem configure_decides {conf old : RfConfig} (hcounts : StreamCountsOk conf)
    (htx : m.txMapping.length = conf.noTxStreams.toUInt32.toNat)
    (hrx : m.rxMapping.length = conf.noRxStreams.toUInt32.toNat) :
    Decides (Configuring conf old) (configure b m a conf) (BlocksAccept b m a conf) := by
  have hconfigureRx : Decides (Configuring conf old) (configureRx b m a conf) _ :=
    Decides.bindGet (fun r hr => by rw [hr.2.1])
      ((rxLoop_decides hcounts hrx).seq (setRxSampleRate_decides hcounts hrx))
  refine (hconfigureRx.seq (configureTx_decides hcounts htx fun _ hr => hr.1)).congr ?_
  exact ⟨fun ⟨⟨h₁, h₂⟩, h₃, h₄⟩ => ⟨h₁, h₂, h₃, h₄⟩,
    fun h => ⟨⟨h.rx, h.rxRate⟩, h.tx, h.txRate⟩⟩

end

/-- If the blocks take the config, there is a first stream to read back. -/
theorem readFromGraph_of_accept {b : RfNocBlocks} {m : StreamMapper} {a : RfAnswers}
    {conf : RfConfig} (haccept : BlocksAccept b m a conf) (htx : m.txMapping ≠ [])
    (hrx : m.rxMapping ≠ []) : readFromGraph b m a = .ok (readBack b m a) := by
  have hfirst {mapping : List Int32} {P : Int32 → Prop} (hne : mapping ≠ [])
      (hP : ∀ antenna ∈ mapping, P antenna) :
      ∃ antenna, mapStreamToAntenna 0 mapping = .ok antenna ∧ P antenna.toInt32 := by
    obtain ⟨antenna, rest, rfl⟩ := List.exists_cons_of_ne_nil hne
    exact ⟨antenna.toUInt32, rfl, by simpa using hP antenna List.mem_cons_self⟩
  obtain ⟨rxAntenna, hrxMap, rxRadio, hrxRadio, -⟩ := hfirst hrx haccept.rx
  obtain ⟨txAntenna, htxMap, txRadio, htxRadio, -⟩ := hfirst htx haccept.tx
  rw [readFromGraph, mapRxStreamToAntenna, hrxMap, mapTxStreamToAntenna, htxMap]
  simp only [bind, Except.bind, hrxRadio, htxRadio]
  rfl

/-- The state once the counts of a request are stored. -/
def withCounts (r : RFConfiguration) (conf : RfConfig) : RFConfiguration :=
  { r with numTxStreams := conf.noTxStreams, numRxStreams := conf.noRxStreams }

/-- The ways `setRfConfig` ends. -/
inductive Outcome (b : RfNocBlocks) (m : StreamMapper) (a : RfAnswers) (conf : RfConfig)
    (r : RFConfiguration) : EStateM.Result Fault RFConfiguration Unit → Prop
  /-- The stream counts are rejected. -/
  | counts (hcounts : ¬ StreamCountsOk conf) (e : Fault) : Outcome b m a conf r (.error e r)
  /-- An antenna, a rate or a call is rejected. -/
  | blocks (hcounts : StreamCountsOk conf) (haccept : ¬ BlocksAccept b m a conf) (e : Fault)
      (r' : RFConfiguration) (hkept : Configuring conf r.rfConfig r') :
      Outcome b m a conf r (.error e r')
  /-- The blocks report something else. -/
  | mismatch (hcounts : StreamCountsOk conf) (haccept : BlocksAccept b m a conf)
      (hequal : (readBack b m a).equal conf = false) (r' : RFConfiguration)
      (hkept : Configuring conf (readBack b m a) r') :
      Outcome b m a conf r (.error (.usrp .rfConfigMismatch) r')
  /-- The call returns. -/
  | returned (hcounts : StreamCountsOk conf) (haccept : BlocksAccept b m a conf)
      (hequal : (readBack b m a).equal conf = true) (r' : RFConfiguration)
      (hkept : Configuring conf (readBack b m a) r') :
      Outcome b m a conf r (.ok () r')

/-- **What `setRfConfig` leaves**, for a mapping of the requested lengths. -/
theorem setRfConfig_outcome {b : RfNocBlocks} {m : StreamMapper} {a : RfAnswers}
    {conf : RfConfig} (htx : m.txMapping.length = conf.noTxStreams.toUInt32.toNat)
    (hrx : m.rxMapping.length = conf.noRxStreams.toUInt32.toNat) (r : RFConfiguration) :
    Outcome b m a conf r (setRfConfig b m a conf r) := by
  unfold setRfConfig
  cases hvalid : assertValidRfConfig conf with
  | error e =>
      rw [bind_of_error (liftE_error e r)]
      refine .counts (fun hcounts => ?_) e
      rw [(assertValidRfConfig_eq_ok_iff conf).mpr hcounts] at hvalid
      cases hvalid
  | ok u =>
      have hcounts := (assertValidRfConfig_eq_ok_iff conf).mp hvalid
      rw [bind_of_ok (liftE_ok u r), bind_of_ok (modify_apply _ _)]
      have hdecides : Decides (Configuring conf r.rfConfig) (configure b m a conf)
          (BlocksAccept b m a conf) := configure_decides hcounts htx hrx
      have hstart : Configuring conf r.rfConfig (r.withCounts conf) := ⟨rfl, rfl, rfl⟩
      have hkept := hdecides.keeps _ hstart
      have hreturns := hdecides.returns_iff _ hstart
      show Outcome b m a conf r ((configure b m a conf >>= _) (r.withCounts conf))
      cases hconfigure : configure b m a conf (r.withCounts conf) with
      | error e r₁ =>
          rw [hconfigure] at hkept hreturns
          rw [bind_of_error hconfigure]
          refine .blocks hcounts (fun haccept => ?_) e r₁ hkept
          obtain ⟨_, h⟩ := hreturns.mpr haccept
          cases h
      | ok u r₁ =>
          rw [hconfigure] at hkept hreturns
          have haccept := hreturns.mp ⟨r₁, rfl⟩
          have hne {n : Int32} {mapping : List Int32} (hlen : mapping.length = n.toUInt32.toNat)
              (hpos : 1 ≤ n.toInt) : mapping ≠ [] := by
            rintro rfl
            rw [toNat_toUInt32_of_pos hpos, List.length_nil] at hlen
            omega
          rw [bind_of_ok hconfigure, readFromGraph_of_accept haccept (hne htx hcounts.tx_pos)
            (hne hrx hcounts.rx_pos), bind_of_ok (liftE_ok _ _), bind_of_ok (modify_apply _ _)]
          cases hequal : (readBack b m a).equal conf with
          | false => exact .mismatch hcounts haccept hequal _ ⟨hkept.1, hkept.2.1, rfl⟩
          | true => exact .returned hcounts haccept hequal _ ⟨hkept.1, hkept.2.1, rfl⟩

/-! ## Decimation -/

/-- A decimation that was set for exactly these channels. -/
def DecimSet (channels : List Channel) (value : ℤ) (old new : Channel → ℤ) : Prop :=
  ∀ ch, (ch ∈ channels → new ch = value) ∧ (ch ∉ channels → new ch = old ch)

/-- Setting the rate of some antennas changes the decimation of their channels
and of no other channel. -/
theorem decimSet_of_loop {b : RfNocBlocks} {a : RfAnswers} {rate : ℚ} {mapping : List Int32}
    (streams : List ℕ) (hstreams : ∀ s ∈ streams, s < mapping.length)
    (hsize : mapping.length ≤ 2 ^ 32) {r r' : RFConfiguration}
    (h : (forM streams fun s => do
      let antenna ← liftE (mapStreamToAntenna (UInt32.ofNat s) mapping)
      setOutputRate b a rate (b.getDDCChannelPair antenna.toInt32)) r = .ok () r') :
    DecimSet (streams.map fun s => b.getDDCChannelPair (mapping.getD s 0)) (b.decimation rate)
      r.ddcDecim r'.ddcDecim := by
  induction streams generalizing r with
  | nil =>
      cases h
      exact fun ch => ⟨fun h => (nomatch h), fun _ => rfl⟩
  | cons s streams ih =>
      rw [List.forM_cons] at h
      obtain ⟨_, r₁, hbody, htail⟩ := bind_eq_ok_iff.mp h
      have hs := hstreams s List.mem_cons_self
      obtain ⟨antenna, r₂, hmap, hset⟩ := bind_eq_ok_iff.mp hbody
      obtain ⟨hantenna, rfl⟩ := liftE_eq_ok_iff.mp hmap
      rw [mapStreamToAntenna_of_lt hs hsize] at hantenna
      cases hantenna
      obtain ⟨_, r₃, hcall, hmodify⟩ := bind_eq_ok_iff.mp hset
      obtain ⟨-, rfl⟩ := liftE_eq_ok_iff.mp hcall
      rw [modify_apply] at hmodify
      cases hmodify
      have hrest := ih (fun s' hs' => hstreams s' (List.mem_cons_of_mem s hs')) htail
      have hkey : mapping.getD s 0 = (mapping[s]).toUInt32.toInt32 := by
        rw [Int32.toInt32_toUInt32, List.getD_eq_getElem?_getD, List.getElem?_eq_getElem hs]
        rfl
      intro ch
      obtain ⟨hin, hout⟩ := hrest ch
      rw [List.map_cons, List.mem_cons, hkey]
      refine ⟨fun hch => ?_, fun hch => ?_⟩
      · by_cases htailMem : ch ∈ streams.map fun s => b.getDDCChannelPair (mapping.getD s 0)
        · exact hin htailMem
        · rw [hout htailMem]
          rcases hch with rfl | hmem
          · exact Function.update_self _ _ _
          · exact absurd hmem htailMem
      · rw [not_or] at hch
        rw [hout hch.2]
        exact Function.update_of_ne hch.1 _ _

/-- The decimation after the rates are set, on a device with DDCs. -/
theorem decimSet_of_setRxSampleRate {b : RfNocBlocks} {m : StreamMapper} {a : RfAnswers}
    {rate : ℚ} {r r' : RFConfiguration} (hdec : b.supportsDecimation = true)
    (hrx : m.rxMapping.length = r.numRxStreams.toInt.toNat)
    (h : setRxSampleRate b m a rate r = .ok () r') :
    DecimSet (m.rxMapping.map b.getDDCChannelPair) (b.decimation rate) r.ddcDecim r'.ddcDecim := by
  have hlt := r.numRxStreams.toInt_lt
  rw [setRxSampleRate, bind_of_ok (get_apply r)] at h
  obtain ⟨_, r₁, hcheck, hafterCheck⟩ := bind_eq_ok_iff.mp h
  obtain ⟨-, rfl⟩ := liftE_eq_ok_iff.mp hcheck
  obtain ⟨_, r₂, hrate, hloop⟩ := bind_eq_ok_iff.mp hafterCheck
  obtain ⟨-, rfl⟩ := liftE_eq_ok_iff.mp hrate
  rw [hdec, if_pos rfl] at hloop
  have hset := decimSet_of_loop _ (fun s hs => by rw [hrx]; exact List.mem_range.mp hs)
    (by omega) hloop
  have hchannels : (List.range r₂.numRxStreams.toInt.toNat).map
      (fun s => b.getDDCChannelPair (m.rxMapping.getD s 0)) =
        m.rxMapping.map b.getDDCChannelPair := by
    rw [← hrx]
    apply List.ext_getElem
    · simp
    · intro s hs hs'
      simp [List.getElem?_eq_getElem (by simpa using hs' : s < m.rxMapping.length)]
  rw [hchannels] at hset
  exact hset

/-- The decimation after a call that returned, on a device with DDCs. -/
theorem decimSet_of_setRfConfig {b : RfNocBlocks} {m : StreamMapper} {a : RfAnswers}
    {conf : RfConfig} {r r' : RFConfiguration} (hdec : b.supportsDecimation = true)
    (htx : m.txMapping.length = conf.noTxStreams.toUInt32.toNat)
    (hrx : m.rxMapping.length = conf.noRxStreams.toUInt32.toNat)
    (h : setRfConfig b m a conf r = .ok () r') :
    DecimSet (m.rxMapping.map b.getDDCChannelPair) (b.decimation conf.rxSamplingRate)
      r.ddcDecim r'.ddcDecim := by
  obtain ⟨_, r₁, hvalid, hafterValid⟩ := bind_eq_ok_iff.mp h
  obtain ⟨hvalid', rfl⟩ := liftE_eq_ok_iff.mp hvalid
  have hcounts := (assertValidRfConfig_eq_ok_iff conf).mp hvalid'
  rw [bind_of_ok (modify_apply _ _)] at hafterValid
  obtain ⟨_, r₂, hconfigure, hafter⟩ := bind_eq_ok_iff.mp hafterValid
  -- reading back and storing the config leaves the blocks alone
  have hlast : r'.ddcDecim = r₂.ddcDecim := by
    obtain ⟨actual, r₃, hread, hstore⟩ := bind_eq_ok_iff.mp hafter
    obtain ⟨-, rfl⟩ := liftE_eq_ok_iff.mp hread
    rw [bind_of_ok (modify_apply _ _)] at hstore
    obtain ⟨-, rfl⟩ := liftE_eq_ok_iff.mp hstore
    rfl
  obtain ⟨_, r₃, hconfigureRx, hconfigureTx⟩ := bind_eq_ok_iff.mp hconfigure
  rw [configureRx, bind_of_ok (get_apply _)] at hconfigureRx
  obtain ⟨_, r₄, hrxLoop, hrxRate⟩ := bind_eq_ok_iff.mp hconfigureRx
  have hstart : Configuring conf r₁.rfConfig (r₁.withCounts conf) ∧
      (r₁.withCounts conf).ddcDecim = r₁.ddcDecim := ⟨⟨rfl, rfl, rfl⟩, rfl⟩
  have hloop : Configuring conf r₁.rfConfig r₄ ∧ r₄.ddcDecim = r₁.ddcDecim :=
    (rxLoop_decides hcounts hrx).keeps_ok
      (I := fun r => Configuring conf r₁.rfConfig r ∧ r.ddcDecim = r₁.ddcDecim) hstart hrxLoop
  have hset := decimSet_of_setRxSampleRate hdec
    (by rw [hloop.1.2.1, hrx, toNat_toUInt32_of_pos hcounts.rx_pos]) hrxRate
  have hkept := (setRxSampleRate_decides hcounts hrx).keeps_ok hloop.1 hrxRate
  have htxPart : Configuring conf r₁.rfConfig r₂ ∧ r₂.ddcDecim = r₃.ddcDecim :=
    (configureTx_decides hcounts htx fun _ hr => hr.1.1).keeps_ok
      (I := fun r => Configuring conf r₁.rfConfig r ∧ r.ddcDecim = r₃.ddcDecim)
      ⟨hkept, rfl⟩ hconfigureTx
  rw [hlast, htxPart.2, ← hloop.2]
  exact hset

end RFConfiguration

end UsrpWrapper
