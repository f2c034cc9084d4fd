import UsrpWrapper.RfReadback
import UsrpWrapper.SamplingRates

/-!
# What the channels hold after the RF configuration

`RFConfiguration::setRfConfig` (`rf_configuration.cpp`) once more, with the channels
of the radios, DDCs and DUCs as part of the state (`RfDevice`).  A call that sets a
property of a channel leaves there what the channel makes of the value, and a getter
returns what the channel holds.

Seen from the class it is the `setRfConfig` of `RfConfiguration`, with the answers
that `UhdRadios.answers` gives (`setRfConfig_refines`).

The values are set for every mapped stream, and read back for the first one only, as `float`s.
`readBack_coversEvery_iff` says what a call that returns leaves open then: the values of the
other streams, and coercions of the first one that are lost in the rounding.
-/

namespace UsrpWrapper

open Lib Lib.Command StreamMapper

/-! ## The channels -/

/-- A property of a channel of a radio, or of a DDC or DUC. -/
inductive RadioProperty where
  | frequency (dir : Direction)
  | gain (dir : Direction)
  | bandwidth (dir : Direction)
  | samplingRate (dir : Direction)
  deriving DecidableEq

namespace RadioProperty

/-- The value a config asks for. -/
def requested (conf : RfConfig) : RadioProperty → ℚ
  | .frequency .tx => conf.txCarrierFrequency
  | .frequency .rx => conf.rxCarrierFrequency
  | .gain .tx => conf.txGain
  | .gain .rx => conf.rxGain
  | .bandwidth .tx => conf.txAnalogFilterBw
  | .bandwidth .rx => conf.rxAnalogFilterBw
  | .samplingRate .tx => conf.txSamplingRate
  | .samplingRate .rx => conf.rxSamplingRate

/-- The call that sets it on a channel. -/
def call (conf : RfConfig) (ch : Channel) : RadioProperty → RadioCall
  | .frequency .tx => .setTxFrequency conf.txCarrierFrequency ch
  | .frequency .rx => .setRxFrequency conf.rxCarrierFrequency ch
  | .gain .tx => .setTxGain conf.txGain ch
  | .gain .rx => .setRxGain conf.rxGain ch
  | .bandwidth .tx => .setTxBandwidth conf.txAnalogFilterBw ch
  | .bandwidth .rx => .setRxBandwidth conf.rxAnalogFilterBw ch
  | .samplingRate .tx => .setInputRate conf.txSamplingRate ch
  | .samplingRate .rx => .setOutputRate conf.rxSamplingRate ch

end RadioProperty

/-- The class and what the channels hold. -/
structure RfDevice where
  rfConfiguration : RFConfiguration
  held : RadioProperty × Channel → ℚ

namespace RfDevice

open RadioProperty UhdRadios

/-- A member function of the class, with the channels it acts on. -/
abbrev DeviceM := EStateM Fault RfDevice

/-! ## The class on the device -/

/-- Change the members of the class. -/
def onClass (f : RFConfiguration → RFConfiguration) (d : RfDevice) : RfDevice :=
  { d with rfConfiguration := f d.rfConfiguration }

/-- What the channels of the first streams report. -/
def readings (U : UhdRadios) (b : RfNocBlocks) (m : StreamMapper) (d : RfDevice) : RfAnswers where
  accepts := U.accepts
  txGain := d.held (.gain .tx, firstRadio b m.txMapping)
  rxGain := d.held (.gain .rx, firstRadio b m.rxMapping)
  txCarrierFrequency := d.held (.frequency .tx, firstRadio b m.txMapping)
  rxCarrierFrequency := d.held (.frequency .rx, firstRadio b m.rxMapping)
  txAnalogFilterBw := d.held (.bandwidth .tx, firstRadio b m.txMapping)
  rxAnalogFilterBw := d.held (.bandwidth .rx, firstRadio b m.rxMapping)
  txSamplingRate := d.held (.samplingRate .tx, firstConverter b m.txMapping)
  rxSamplingRate := d.held (.samplingRate .rx, firstConverter b m.rxMapping)

/-- The loops over the streams of a direction, in terms of their antennas. -/
def forStreams (numStreams : Int32) (mapping : List Int32) (body : Int32 → DeviceM Unit) :
    DeviceM Unit :=
  forM (List.range numStreams.toInt.toNat) fun s => do
    let antenna ← liftE (mapStreamToAntenna (UInt32.ofNat s) mapping)
    body antenna.toInt32

/-- `setRxSampleRate` and `setTxSampleRate`. -/
def setSampleRate (b : RfNocBlocks) (numStreams : Int32) (mapping : List Int32) (rate : ℚ)
    (setRate : Int32 → DeviceM Unit) : DeviceM Unit := do
  liftE (check (numStreams = 0) (.usrp .numAntennasUnknown))
  liftE (assertSamplingRate rate b.masterClockRate b.supportsDecimation)
  if b.supportsDecimation then forStreams numStreams mapping setRate
  else pure ()

section

variable (U : UhdRadios) (b : RfNocBlocks) (m : StreamMapper) (conf : RfConfig)

/-- Set a property of a channel to the value of the config. -/
def perform (p : RadioProperty) (ch : Channel) : DeviceM Unit := do
  liftE (check (U.accepts (p.call conf ch) = false) .uhd)
  modify fun d => { d with
    held := Function.update d.held (p, ch) (U.reports (p.call conf ch)) }

/-- `setRfConfigForRxAntenna` and `setRfConfigForTxAntenna`. -/
def setRfConfigForAntenna (dir : Direction) (antenna : Int32) : DeviceM Unit := do
  let radio ← liftE (b.getRadioChannelPair antenna)
  perform U conf (.frequency dir) radio
  perform U conf (.gain dir) radio
  perform U conf (.bandwidth dir) radio

/-- `setRfConfigForRxAntenna`. -/
def setRfConfigForRxAntenna : Int32 → DeviceM Unit := setRfConfigForAntenna U b conf .rx

/-- `setRfConfigForTxAntenna`. -/
def setRfConfigForTxAntenna : Int32 → DeviceM Unit := setRfConfigForAntenna U b conf .tx

/-- `set_output_rate`, which also sets the decimation of its channel. -/
def setOutputRate (ddc : Channel) : DeviceM Unit := do
  perform U conf (.samplingRate .rx) ddc
  modify (onClass fun r => { r with
    ddcDecim := Function.update r.ddcDecim ddc (b.decimation conf.rxSamplingRate) })

/-- `setRxSampleRate` on the DDCs of the mapped antennas. -/
def setRxSampleRate : DeviceM Unit := do
  let d ← get
  setSampleRate b d.rfConfiguration.numRxStreams m.rxMapping conf.rxSamplingRate fun antenna =>
    setOutputRate U b conf (b.getDDCChannelPair antenna)

/-- `setTxSampleRate` on the DUCs of the mapped antennas. -/
def setTxSampleRate : DeviceM Unit := do
  let d ← get
  setSampleRate b d.rfConfiguration.numTxStreams m.txMapping conf.txSamplingRate fun antenna =>
    perform U conf (.samplingRate .tx) (b.getDUCChannelPair antenna)

/-- The RX half of the part of `setRfConfig` that talks to the blocks. -/
def configureRx : DeviceM Unit := do
  let d ← get
  forStreams d.rfConfiguration.numRxStreams m.rxMapping (setRfConfigForRxAntenna U b conf)
  setRxSampleRate U b m conf

/-- The TX half. -/
def configureTx : DeviceM Unit := do
  let d ← get
  forStreams d.rfConfiguration.numTxStreams m.txMapping (setRfConfigForTxAntenna U b conf)
  setTxSampleRate U b m conf

/-- The part of `setRfConfig` that talks to the blocks, the receive side first. -/
def configure : DeviceM Unit := do
  configureRx U b m conf
  configureTx U b m conf

/-- `readFromGraph` on what the channels hold now. -/
def readFromGraph : DeviceM RfConfig :=
  reads fun d => RFConfiguration.readFromGraph b m (readings U b m d)

/-- `setRfConfig` on the device; the comparison at its end is the only check of what the channels
took. -/
def setRfConfig : DeviceM Unit := do
  liftE (assertValidRfConfig conf)
  modify (onClass fun r => r.withCounts conf)
  configure U b m conf
  let actual ← readFromGraph U b m
  modify (onClass fun r => { r with rfConfig := actual })
  liftE (check (actual.equal conf = false) (.usrp .rfConfigMismatch))

end

/-! ## Seen from the class -/

section

variable {U : UhdRadios} {b : RfNocBlocks} {m : StreamMapper} {conf : RfConfig} {a : RfAnswers}

/-- Setting a property of a channel is the call of the class without channels. -/
theorem perform_refines (ha : a.accepts = U.accepts) (p : RadioProperty) (ch : Channel) :
    Refines rfConfiguration (perform U conf p ch) (RFConfiguration.call a (p.call conf ch)) := by
  intro d
  rw [perform, RFConfiguration.call, ha]
  cases U.accepts (p.call conf ch) <;> rfl

/-- A loop over the streams, if its body is so. -/
theorem forStreams_refines {numStreams : Int32} {mapping : List Int32}
    {body : Int32 → DeviceM Unit} {body' : Int32 → RFConfiguration.RfM Unit}
    (h : ∀ antenna, Refines rfConfiguration (body antenna) (body' antenna)) :
    Refines rfConfiguration (forStreams numStreams mapping body)
      (RFConfiguration.forStreams numStreams mapping body') :=
  Refines.forM fun _ _ => (Refines.liftE _).bind fun _ => h _

theorem setRfConfigForRxAntenna_refines (ha : a.accepts = U.accepts) (antenna : Int32) :
    Refines rfConfiguration (setRfConfigForRxAntenna U b conf antenna)
      (RFConfiguration.setRfConfigForRxAntenna b a conf antenna) :=
  (Refines.liftE _).bind fun radio =>
    (perform_refines ha (.frequency .rx) radio).bind fun _ =>
      (perform_refines ha (.gain .rx) radio).bind fun _ =>
        perform_refines ha (.bandwidth .rx) radio

theorem setRfConfigForTxAntenna_refines (ha : a.accepts = U.accepts) (antenna : Int32) :
    Refines rfConfiguration (setRfConfigForTxAntenna U b conf antenna)
      (RFConfiguration.setRfConfigForTxAntenna b a conf antenna) :=
  (Refines.liftE _).bind fun radio =>
    (perform_refines ha (.frequency .tx) radio).bind fun _ =>
      (perform_refines ha (.gain .tx) radio).bind fun _ =>
        perform_refines ha (.bandwidth .tx) radio

theorem setSampleRate_refines {numStreams : Int32} {mapping : List Int32} {rate : ℚ}
    {setRate : Int32 → DeviceM Unit} {setRate' : Int32 → RFConfiguration.RfM Unit}
    (h : ∀ antenna, Refines rfConfiguration (setRate antenna) (setRate' antenna)) :
    Refines rfConfiguration (setSampleRate b numStreams mapping rate setRate)
      (RFConfiguration.setSampleRate b numStreams mapping rate setRate') := by
  refine (Refines.liftE _).bind fun _ => (Refines.liftE _).bind fun _ => ?_
  split
  · exact forStreams_refines h
  · exact Refines.pure ()

/-- The part that talks to the blocks. -/
theorem configure_refines (ha : a.accepts = U.accepts) :
    Refines rfConfiguration (configure U b m conf) (RFConfiguration.configure b m a conf) := by
  have hrx : Refines rfConfiguration (configureRx U b m conf)
      (RFConfiguration.configureRx b m a conf) := by
    refine Refines.bindGet fun d => ?_
    refine (forStreams_refines fun antenna => setRfConfigForRxAntenna_refines ha antenna).bind
      fun _ => Refines.bindGet fun d => setSampleRate_refines fun antenna => ?_
    exact (perform_refines ha (.samplingRate .rx) _).bind fun _ => Refines.modify fun _ => rfl
  have htx : Refines rfConfiguration (configureTx U b m conf)
      (RFConfiguration.configureTx b m a conf) := by
    refine Refines.bindGet fun d => ?_
    refine (forStreams_refines fun antenna => setRfConfigForTxAntenna_refines ha antenna).bind
      fun _ => Refines.bindGet fun d => setSampleRate_refines fun antenna => ?_
    exact perform_refines ha (.samplingRate .tx) _
  exact hrx.bind fun _ => htx

end

/-! ## What the channels hold -/

section

variable (U : UhdRadios) (conf : RfConfig)

/-- The channel holds what it makes of the value of the config. -/
def Taken (p : RadioProperty) (ch : Channel) (d : RfDevice) : Prop :=
  d.held (p, ch) = U.reports (p.call conf ch)

/-- A later state of the same configuration. -/
structure Later (d d' : RfDevice) : Prop where
  countTx : d'.rfConfiguration.numTxStreams = d.rfConfiguration.numTxStreams
  countRx : d'.rfConfiguration.numRxStreams = d.rfConfiguration.numRxStreams
  taken : ∀ p ch, Taken U conf p ch d → Taken U conf p ch d'

/-- The command only leads to later states. -/
def Advances (x : DeviceM Unit) : Prop := ∀ d₀, Preserves (Later U conf d₀) x

end

section

variable {U : UhdRadios} {b : RfNocBlocks} {m : StreamMapper} {conf : RfConfig}
  {d d' : RfDevice}

theorem later_refl (d : RfDevice) : Later U conf d d := ⟨rfl, rfl, fun _ _ h => h⟩

/-- What advances a device leaves a later one. -/
theorem Advances.of_ok {x : DeviceM Unit} (h : Advances U conf x) (hx : x d = .ok () d') :
    Later U conf d d' := (h d).of_ok (later_refl d) hx

/-- What later states inherit is kept. -/
theorem Advances.preserves {x : DeviceM Unit} (h : Advances U conf x) {I : RfDevice → Prop}
    (hI : ∀ d d', Later U conf d d' → I d → I d') : Preserves I x :=
  fun d hd => hI d _ (h d d (later_refl d)) hd

/-- A property is set once and for all: later ones of a config ask for the same values. -/
theorem advances_perform (p : RadioProperty) (ch : Channel) :
    Advances U conf (perform U conf p ch) := by
  intro d₀
  refine (Preserves.liftE _).bind fun _ => Preserves.modify fun d hd => ?_
  refine ⟨hd.countTx, hd.countRx, fun p' ch' htaken => ?_⟩
  show Function.update d.held (p, ch) _ (p', ch') = _
  by_cases hsame : (p', ch') = (p, ch)
  · obtain ⟨rfl, rfl⟩ := Prod.mk.inj hsame
    exact Function.update_self _ _ _
  · rw [Function.update_of_ne hsame]
    exact hd.taken p' ch' htaken

/-- A channel that was set has taken the value. -/
theorem taken_of_perform {p : RadioProperty} {ch : Channel}
    (h : perform U conf p ch d = .ok () d') : Taken U conf p ch d' := by
  obtain ⟨_, d₁, -, hmodify⟩ := bind_eq_ok_iff.mp h
  cases hmodify
  exact Function.update_self _ _ _

theorem advances_setRfConfigForAntenna (dir : Direction) (antenna : Int32) :
    Advances U conf (setRfConfigForAntenna U b conf dir antenna) := fun d₀ =>
  (Preserves.liftE _).bind fun _ => (advances_perform _ _ d₀).bind fun _ =>
    (advances_perform _ _ d₀).bind fun _ => advances_perform _ _ d₀

theorem advances_setOutputRate (ddc : Channel) : Advances U conf (setOutputRate U b conf ddc) :=
  fun d₀ => (advances_perform _ _ d₀).bind fun _ =>
    Preserves.modify fun _ hd => ⟨hd.countTx, hd.countRx, hd.taken⟩

/-- A loop over the streams advances the device if its body does. -/
theorem advances_forStreams {numStreams : Int32} {mapping : List Int32}
    {body : Int32 → DeviceM Unit} (h : ∀ antenna, Advances U conf (body antenna)) :
    Advances U conf (forStreams numStreams mapping body) := fun d₀ =>
  Preserves.forM fun _ _ => (Preserves.liftE _).bind fun antenna => h antenna.toInt32 d₀

theorem advances_setSampleRate {numStreams : Int32} {mapping : List Int32} {rate : ℚ}
    {setRate : Int32 → DeviceM Unit} (h : ∀ antenna, Advances U conf (setRate antenna)) :
    Advances U conf (setSampleRate b numStreams mapping rate setRate) := by
  intro d₀
  refine (Preserves.liftE _).bind fun _ => (Preserves.liftE _).bind fun _ => ?_
  split
  · exact advances_forStreams h d₀
  · exact Preserves.pure ()

theorem advances_setRxSampleRate : Advances U conf (setRxSampleRate U b m conf) := fun d₀ =>
  Preserves.get.bind fun _ => advances_setSampleRate (fun _ => advances_setOutputRate _) d₀

theorem advances_setTxSampleRate : Advances U conf (setTxSampleRate U b m conf) := fun d₀ =>
  Preserves.get.bind fun _ => advances_setSampleRate (fun _ => advances_perform _ _) d₀

theorem advances_configureTx : Advances U conf (configureTx U b m conf) := fun d₀ =>
  Preserves.get.bind fun _ => (advances_forStreams
    (fun _ => advances_setRfConfigForAntenna .tx _) d₀).bind fun _ => advances_setTxSampleRate d₀

/-! ### The loops over the streams -/

/-- A loop over the streams establishes, for the antenna of each of them, what its
body establishes. -/
theorem forStreams_establishes {numStreams : Int32} {mapping : List Int32}
    {body : Int32 → DeviceM Unit} {J : Int32 → RfDevice → Prop}
    (hadvances : ∀ antenna, Advances U conf (body antenna))
    (hlater : ∀ antenna d d', Later U conf d d' → J antenna d → J antenna d')
    (hset : ∀ antenna d d', body antenna d = .ok () d' → J antenna d')
    (h : forStreams numStreams mapping body d = .ok () d') {s : ℕ}
    (hs : s < numStreams.toInt.toNat) :
    ∃ antenna, mapStreamToAntenna (UInt32.ofNat s) mapping = .ok antenna ∧
      J antenna.toInt32 d' := by
  have hround (i : ℕ) : Advances U conf (do
      let antenna ← liftE (mapStreamToAntenna (UInt32.ofNat i) mapping)
      body antenna.toInt32) :=
    fun d₀ => (Preserves.liftE _).bind fun antenna => hadvances antenna.toInt32 d₀
  refine Preserves.forM_establishes (I := fun d => ∃ antenna,
    mapStreamToAntenna (UInt32.ofNat s) mapping = .ok antenna ∧ J antenna.toInt32 d)
    (fun i _ => (hround i).preserves ?_) (List.mem_range.mpr hs) ?_ h
  · rintro d d' hd ⟨antenna, hantenna, hJ⟩
    exact ⟨antenna, hantenna, hlater _ _ _ hd hJ⟩
  · intro d d' hbody
    obtain ⟨antenna, d₁, hmap, hrest⟩ := bind_eq_ok_iff.mp hbody
    obtain ⟨hantenna, rfl⟩ := liftE_eq_ok_iff.mp hmap
    exact ⟨antenna, hantenna, hset _ _ _ hrest⟩

/-- The radio of an antenna has taken the values of a direction. -/
def RadioTaken (U : UhdRadios) (b : RfNocBlocks) (conf : RfConfig) (dir : Direction)
    (antenna : Int32) (d : RfDevice) : Prop :=
  ∃ radio, b.getRadioChannelPair antenna = .ok radio ∧ Taken U conf (.frequency dir) radio d ∧
    Taken U conf (.gain dir) radio d ∧ Taken U conf (.bandwidth dir) radio d

/-- The DDC or DUC of an antenna has taken the rate of a direction. -/
def RateTaken (U : UhdRadios) (b : RfNocBlocks) (conf : RfConfig) (dir : Direction)
    (antenna : Int32) (d : RfDevice) : Prop :=
  Taken U conf (.samplingRate dir) (b.getDDCChannelPair antenna) d

theorem RadioTaken.later {dir : Direction} {antenna : Int32} (hd : Later U conf d d')
    (h : RadioTaken U b conf dir antenna d) : RadioTaken U b conf dir antenna d' := by
  obtain ⟨radio, hradio, hfrequency, hgain, hbandwidth⟩ := h
  exact ⟨radio, hradio, hd.taken _ _ hfrequency, hd.taken _ _ hgain, hd.taken _ _ hbandwidth⟩

/-- A radio that was configured has taken the config. -/
theorem radioTaken_of_setRfConfigForAntenna {dir : Direction} {antenna : Int32}
    (h : setRfConfigForAntenna U b conf dir antenna d = .ok () d') :
    RadioTaken U b conf dir antenna d' := by
  obtain ⟨radio, d₁, hlift, hrest⟩ := bind_eq_ok_iff.mp h
  obtain ⟨hradio, rfl⟩ := liftE_eq_ok_iff.mp hlift
  obtain ⟨_, d₂, hfrequency, hrest⟩ := bind_eq_ok_iff.mp hrest
  obtain ⟨_, d₃, hgain, hbandwidth⟩ := bind_eq_ok_iff.mp hrest
  have hlater₂ := (advances_perform _ _).of_ok hgain
  have hlater₃ := (advances_perform _ _).of_ok hbandwidth
  refine ⟨radio, hradio, ?_, ?_, taken_of_perform hbandwidth⟩
  · exact hlater₃.taken _ _ (hlater₂.taken _ _ (taken_of_perform hfrequency))
  · exact hlater₃.taken _ _ (taken_of_perform hgain)

theorem rateTaken_of_setOutputRate {antenna : Int32}
    (h : setOutputRate U b conf (b.getDDCChannelPair antenna) d = .ok () d') :
    RateTaken U b conf .rx antenna d' := by
  obtain ⟨_, d₁, hperform, hmodify⟩ := bind_eq_ok_iff.mp h
  cases hmodify
  have htaken := taken_of_perform hperform
  exact htaken

/-- The antennas of the streams of a direction. -/
def antennaMapping (m : StreamMapper) : Direction → List Int32
  | .tx => m.txMapping
  | .rx => m.rxMapping

/-- The number of streams a config asks for in a direction. -/
def streamCount (conf : RfConfig) : Direction → ℕ
  | .tx => conf.noTxStreams.toInt.toNat
  | .rx => conf.noRxStreams.toInt.toNat

/-- The channels of a stream have taken the values of its direction. -/
def StreamTaken (U : UhdRadios) (b : RfNocBlocks) (m : StreamMapper) (conf : RfConfig)
    (dir : Direction) (s : ℕ) (d : RfDevice) : Prop :=
  ∃ antenna, mapStreamToAntenna (UInt32.ofNat s) (antennaMapping m dir) = .ok antenna ∧
    RadioTaken U b conf dir antenna.toInt32 d ∧
    (b.supportsDecimation = true → RateTaken U b conf dir antenna.toInt32 d) ∧
    (b.supportsDecimation = false →
      b.masterClockRate = (RadioProperty.samplingRate dir).requested conf)

/-- One direction of `configure`: the loop over the radios, and then the rates. -/
theorem streamTaken_of_loops {dir : Direction} {numStreams : Int32} {mapping : List Int32}
    {setRate : Int32 → DeviceM Unit} {d₁ : RfDevice}
    (hadvances : ∀ antenna, Advances U conf (setRate antenna))
    (hset : ∀ antenna d d', setRate antenna d = .ok () d' → RateTaken U b conf dir antenna d')
    (hradios : forStreams numStreams mapping (setRfConfigForAntenna U b conf dir) d = .ok () d₁)
    (hrates : setSampleRate b numStreams mapping ((RadioProperty.samplingRate dir).requested conf)
      setRate d₁ = .ok () d') {s : ℕ} (hs : s < numStreams.toInt.toNat) :
    ∃ antenna, mapStreamToAntenna (UInt32.ofNat s) mapping = .ok antenna ∧
      RadioTaken U b conf dir antenna.toInt32 d' ∧
      (b.supportsDecimation = true → RateTaken U b conf dir antenna.toInt32 d') ∧
      (b.supportsDecimation = false →
        b.masterClockRate = (RadioProperty.samplingRate dir).requested conf) := by
  obtain ⟨antenna, hantenna, hradio⟩ := forStreams_establishes
    (advances_setRfConfigForAntenna dir) (fun _ _ _ hd h => h.later hd)
    (fun _ _ _ h => radioTaken_of_setRfConfigForAntenna h) hradios hs
  have hlater := (advances_setSampleRate hadvances).of_ok hrates
  obtain ⟨_, d₂, hcheck, hrest⟩ := bind_eq_ok_iff.mp hrates
  obtain ⟨-, rfl⟩ := liftE_eq_ok_iff.mp hcheck
  obtain ⟨_, d₃, hassert, hloop⟩ := bind_eq_ok_iff.mp hrest
  obtain ⟨hrateOk, rfl⟩ := liftE_eq_ok_iff.mp hassert
  refine ⟨antenna, hantenna, hradio.later hlater, fun hdec => ?_, fun hdec => ?_⟩
  swap
  · rw [hdec] at hrateOk
    exact (eq_of_samplingRateOk hrateOk).symm
  rw [if_pos hdec] at hloop
  obtain ⟨antenna', hantenna', hrate⟩ := forStreams_establishes (J := RateTaken U b conf dir)
    hadvances (fun _ _ _ hd h => hd.taken _ _ h) hset hloop hs
  rw [hantenna] at hantenna'
  cases hantenna'
  exact hrate

/-- What the channels of a stream have taken they keep. -/
theorem StreamTaken.later {dir : Direction} {s : ℕ} (hd : Later U conf d d')
    (h : StreamTaken U b m conf dir s d) : StreamTaken U b m conf dir s d' := by
  obtain ⟨antenna, hantenna, hradio, hrate, hclock⟩ := h
  exact ⟨antenna, hantenna, hradio.later hd, fun hdec => hd.taken _ _ (hrate hdec), hclock⟩

/-- **What `configure` does**: the channels of all streams take the values. -/
theorem streamTaken_of_configure (hcountTx : d.rfConfiguration.numTxStreams = conf.noTxStreams)
    (hcountRx : d.rfConfiguration.numRxStreams = conf.noRxStreams)
    (h : configure U b m conf d = .ok () d') (dir : Direction) {s : ℕ}
    (hs : s < streamCount conf dir) : StreamTaken U b m conf dir s d' := by
  obtain ⟨_, d₁, hrx, htx⟩ := bind_eq_ok_iff.mp h
  rw [configureRx, bind_of_ok (get_apply d)] at hrx
  obtain ⟨_, d₂, hrxRadios, hrxRates⟩ := bind_eq_ok_iff.mp hrx
  have hlater₂ : Later U conf d d₂ :=
    (advances_forStreams (advances_setRfConfigForAntenna .rx)).of_ok hrxRadios
  have hlater₁ : Later U conf d₂ d₁ := advances_setRxSampleRate.of_ok hrxRates
  cases dir with
  | rx =>
      rw [hcountRx] at hrxRadios
      rw [setRxSampleRate, bind_of_ok (get_apply d₂), hlater₂.countRx, hcountRx] at hrxRates
      have htaken : StreamTaken U b m conf .rx s d₁ := streamTaken_of_loops
        (fun _ => advances_setOutputRate _) (fun _ _ _ h => rateTaken_of_setOutputRate h)
        hrxRadios hrxRates hs
      exact htaken.later (advances_configureTx.of_ok htx)
  | tx =>
      rw [configureTx, bind_of_ok (get_apply d₁), hlater₁.countTx, hlater₂.countTx,
        hcountTx] at htx
      obtain ⟨_, d₃, htxRadios, htxRates⟩ := bind_eq_ok_iff.mp htx
      have hlater₃ : Later U conf d₁ d₃ :=
        (advances_forStreams (advances_setRfConfigForAntenna .tx)).of_ok htxRadios
      rw [setTxSampleRate, bind_of_ok (get_apply d₃), hlater₃.countTx, hlater₁.countTx,
        hlater₂.countTx, hcountTx] at htxRates
      exact streamTaken_of_loops (fun _ => advances_perform _ _)
        (fun _ _ _ h => taken_of_perform h) htxRadios htxRates hs

/-! ### Reading back -/

/-- The radio that is read back is that of the first stream. -/
theorem firstRadio_eq {mapping : List Int32} {antenna : UInt32} {radio : Channel}
    (hantenna : mapStreamToAntenna 0 mapping = .ok antenna)
    (hradio : b.getRadioChannelPair antenna.toInt32 = .ok radio) :
    firstRadio b mapping = radio := by
  rw [firstRadio, radioOfStream, hantenna]
  simp only [bind, Except.bind, hradio]
  rfl

theorem firstConverter_eq {mapping : List Int32} {antenna : UInt32}
    (hantenna : mapStreamToAntenna 0 mapping = .ok antenna) :
    firstConverter b mapping = b.getDDCChannelPair antenna.toInt32 := by
  rw [firstConverter, ddcOfStream, hantenna]
  rfl

/-- What the DDCs and DUCs hold, or the only rate of a device without them. -/
def heldRate (b : RfNocBlocks) (dir : Direction) (ch : Channel) (d : RfDevice) : ℚ :=
  if b.supportsDecimation then d.held (.samplingRate dir, ch) else b.masterClockRate

/-- The blocks report the requested values for the first stream of a direction, as far as a
`float` can tell. -/
theorem reported_of_equal
    (hequal : (RFConfiguration.readBack b m (readings U b m d)).equal conf = true)
    (dir : Direction) :
    toFloat (d.held (.frequency dir, firstRadio b (antennaMapping m dir))) =
        (RadioProperty.frequency dir).requested conf ∧
      toFloat (d.held (.gain dir, firstRadio b (antennaMapping m dir))) =
        (RadioProperty.gain dir).requested conf ∧
      toFloat (heldRate b dir (firstConverter b (antennaMapping m dir)) d) =
        (RadioProperty.samplingRate dir).requested conf := by
  obtain ⟨htxGain, hrxGain, htxFrequency, hrxFrequency, htxRate, hrxRate⟩ :=
    RfConfig.equal_iff.mp hequal
  cases dir with
  | tx => exact ⟨htxFrequency, htxGain, htxRate⟩
  | rx => exact ⟨hrxFrequency, hrxGain, hrxRate⟩

/-- `readFromGraph` returns what the channels report, or throws. -/
theorem readFromGraph_eq_ok {a : RfAnswers} {actual : RfConfig}
    (h : RFConfiguration.readFromGraph b m a = .ok actual) :
    actual = RFConfiguration.readBack b m a := by
  obtain ⟨_, -, hrest⟩ := except_bind_eq_ok_iff.mp h
  obtain ⟨_, -, hrest⟩ := except_bind_eq_ok_iff.mp hrest
  obtain ⟨_, -, hrest⟩ := except_bind_eq_ok_iff.mp hrest
  obtain ⟨_, -, hpure⟩ := except_bind_eq_ok_iff.mp hrest
  exact (Except.ok.inj hpure).symm

/-- **A configuration that returns**: its stream counts are valid, the channels of all streams
have taken the values, and those of the first streams report them. -/
theorem setRfConfig_eq_ok (h : setRfConfig U b m conf d = .ok () d') :
    StreamCountsOk conf ∧
      (∀ dir s, s < streamCount conf dir → StreamTaken U b m conf dir s d') ∧
      (RFConfiguration.readBack b m (readings U b m d')).equal conf = true := by
  obtain ⟨_, d₁, hvalid, hafterValid⟩ := bind_eq_ok_iff.mp h
  obtain ⟨hcounts, rfl⟩ := liftE_eq_ok_iff.mp hvalid
  rw [bind_of_ok (modify_apply _ _)] at hafterValid
  obtain ⟨_, d₂, hconfigure, hafter⟩ := bind_eq_ok_iff.mp hafterValid
  obtain ⟨actual, d₃, hread, hstore⟩ := bind_eq_ok_iff.mp hafter
  obtain ⟨hactual, rfl⟩ := reads_eq_ok_iff.mp hread
  rw [bind_of_ok (modify_apply _ _)] at hstore
  obtain ⟨hequal, rfl⟩ := liftE_eq_ok_iff.mp hstore
  rw [check_eq_ok_iff, Bool.not_eq_false, readFromGraph_eq_ok hactual] at hequal
  refine ⟨(assertValidRfConfig_eq_ok_iff conf).mp hcounts, fun dir s hs => ?_, hequal⟩
  exact streamTaken_of_configure rfl rfl hconfigure dir hs

/-- There is a first stream in both directions. -/
theorem streamCount_pos (h : StreamCountsOk conf) (dir : Direction) : 0 < streamCount conf dir := by
  have htx := h.tx_pos
  have hrx := h.rx_pos
  cases dir with
  | tx => exact Int.lt_toNat.mpr (by exact_mod_cast htx)
  | rx => exact Int.lt_toNat.mpr (by exact_mod_cast hrx)

/-! ## Every stream -/

/-- The channels of a stream hold the requested values. -/
def HoldsRequested (b : RfNocBlocks) (m : StreamMapper) (conf : RfConfig) (dir : Direction)
    (s : ℕ) (d : RfDevice) : Prop :=
  ∃ antenna radio, mapStreamToAntenna (UInt32.ofNat s) (antennaMapping m dir) = .ok antenna ∧
    b.getRadioChannelPair antenna.toInt32 = .ok radio ∧
    d.held (.frequency dir, radio) = (RadioProperty.frequency dir).requested conf ∧
    d.held (.gain dir, radio) = (RadioProperty.gain dir).requested conf ∧
    heldRate b dir (b.getDDCChannelPair antenna.toInt32) d =
      (RadioProperty.samplingRate dir).requested conf

/-- What the channels of a stream make of the requested values is related to them. -/
def ChannelsTake (related : ℚ → ℚ → Prop) (U : UhdRadios) (b : RfNocBlocks) (m : StreamMapper)
    (conf : RfConfig) (dir : Direction) (s : ℕ) : Prop :=
  ∀ antenna radio, mapStreamToAntenna (UInt32.ofNat s) (antennaMapping m dir) = .ok antenna →
    b.getRadioChannelPair antenna.toInt32 = .ok radio →
    related (U.reports ((RadioProperty.frequency dir).call conf radio))
        ((RadioProperty.frequency dir).requested conf) ∧
      related (U.reports ((RadioProperty.gain dir).call conf radio))
        ((RadioProperty.gain dir).requested conf) ∧
      (b.supportsDecimation = true →
        related (U.reports ((RadioProperty.samplingRate dir).call conf
            (b.getDDCChannelPair antenna.toInt32)))
          ((RadioProperty.samplingRate dir).requested conf))

/-- The channels of a stream take the requested values as they are. -/
def TakesExactly : UhdRadios → RfNocBlocks → StreamMapper → RfConfig → Direction → ℕ → Prop :=
  ChannelsTake fun value requested => value = requested

/-- No value that the channels of a stream coerce to is rounded to the requested one. -/
def RoundingTells : UhdRadios → RfNocBlocks → StreamMapper → RfConfig → Direction → ℕ → Prop :=
  ChannelsTake fun value requested => toFloat value = requested → value = requested

/-- A weaker relation between the values of the channels and the requested ones. -/
theorem ChannelsTake.mp {dir : Direction} {s : ℕ} {related related' : ℚ → ℚ → Prop}
    (h : ChannelsTake (fun value requested => related value requested → related' value requested)
      U b m conf dir s) (hrelated : ChannelsTake related U b m conf dir s) :
    ChannelsTake related' U b m conf dir s := by
  intro antenna radio hantenna hradio
  obtain ⟨hfrequency, hgain, hrate⟩ := h antenna radio hantenna hradio
  obtain ⟨hfrequency', hgain', hrate'⟩ := hrelated antenna radio hantenna hradio
  exact ⟨hfrequency hfrequency', hgain hgain', fun hdec => hrate hdec (hrate' hdec)⟩

/-- A value that was taken exactly survives the rounding as well as the request does. -/
theorem TakesExactly.roundingTells {dir : Direction} {s : ℕ}
    (h : TakesExactly U b m conf dir s) : RoundingTells U b m conf dir s := by
  refine ChannelsTake.mp (fun _ _ _ _ => ?_) h
  exact ⟨fun hexact _ => hexact, fun hexact _ => hexact, fun _ hexact _ => hexact⟩

/-- Channels that have taken the values hold them if they took them as they are. -/
theorem holdsRequested_iff {dir : Direction} {s : ℕ} (htaken : StreamTaken U b m conf dir s d) :
    HoldsRequested b m conf dir s d ↔ TakesExactly U b m conf dir s := by
  obtain ⟨antenna, hantenna, ⟨radio, hradio, hfrequency, hgain, -⟩, hrate, hclock⟩ := htaken
  rw [Taken] at hfrequency hgain
  constructor
  · rintro ⟨antenna', radio', hantenna', hradio', hheld⟩ antenna'' radio'' hantenna'' hradio''
    rw [hantenna'] at hantenna''
    rw [hantenna'] at hantenna
    cases hantenna''
    cases hantenna
    rw [hradio'] at hradio''
    rw [hradio'] at hradio
    cases hradio''
    cases hradio
    rw [hfrequency, hgain] at hheld
    refine ⟨hheld.1, hheld.2.1, fun hdec => ?_⟩
    have hheldRate := hheld.2.2
    rw [heldRate, if_pos hdec, hrate hdec] at hheldRate
    exact hheldRate
  · intro hexact
    obtain ⟨hexactFrequency, hexactGain, hexactRate⟩ := hexact antenna radio hantenna hradio
    refine ⟨antenna, radio, hantenna, hradio, hfrequency.trans hexactFrequency,
      hgain.trans hexactGain, ?_⟩
    rw [heldRate]
    split
    · rename_i hdec
      exact (hrate hdec).trans (hexactRate hdec)
    · rename_i hdec
      exact hclock (Bool.not_eq_true _ ▸ hdec)

/-- After a configuration that returns, the channels of the first stream report the requested
values, rounded. -/
theorem channelsTake_rounded {dir : Direction} (htaken : StreamTaken U b m conf dir 0 d)
    (hequal : (RFConfiguration.readBack b m (readings U b m d)).equal conf = true) :
    ChannelsTake (fun value requested => toFloat value = requested) U b m conf dir 0 := by
  obtain ⟨antenna, hantenna, ⟨radio, hradio, hfrequency, hgain, -⟩, hrate, -⟩ := htaken
  have hreported := reported_of_equal hequal dir
  rw [firstRadio_eq hantenna hradio, firstConverter_eq hantenna, hfrequency, hgain] at hreported
  intro antenna' radio' hantenna' hradio'
  obtain rfl : antenna = antenna' := Except.ok.inj (hantenna.symm.trans hantenna')
  obtain rfl : radio = radio' := Except.ok.inj (hradio.symm.trans hradio')
  refine ⟨hreported.1, hreported.2.1, fun hdec => ?_⟩
  have hreportedRate := hreported.2.2
  rw [heldRate, if_pos hdec, hrate hdec] at hreportedRate
  exact hreportedRate

/-- **What reading back the first streams says about all of them.**  After a configuration that
returns, every mapped channel holds the requested frequency, gain and rate, if and only if the
channels of the streams behind the first one take these values as they are, and those of the
first one make nothing of them that only the rounding turns into the requested value. -/
theorem readBack_coversEvery_iff (h : setRfConfig U b m conf d = .ok () d') :
    (∀ dir s, s < streamCount conf dir → HoldsRequested b m conf dir s d') ↔
      (∀ dir s, 1 ≤ s → s < streamCount conf dir → TakesExactly U b m conf dir s) ∧
        ∀ dir, RoundingTells U b m conf dir 0 := by
  obtain ⟨hcounts, htaken, hequal⟩ := setRfConfig_eq_ok h
  have hfirst (dir : Direction) : StreamTaken U b m conf dir 0 d' :=
    htaken dir 0 (streamCount_pos hcounts dir)
  constructor
  · intro hall
    refine ⟨fun dir s _ hs => (holdsRequested_iff (htaken dir s hs)).mp (hall dir s hs),
      fun dir => ?_⟩
    have hexact : TakesExactly U b m conf dir 0 :=
      (holdsRequested_iff (hfirst dir)).mp (hall dir 0 (streamCount_pos hcounts dir))
    exact hexact.roundingTells
  · rintro ⟨hexact, htells⟩ dir s hs
    refine (holdsRequested_iff (htaken dir s hs)).mpr ?_
    rcases Nat.eq_zero_or_pos s with rfl | hpos
    · exact ChannelsTake.mp (htells dir) (channelsTake_rounded (hfirst dir) hequal)
    · exact hexact dir s hpos hs

/-! ### The class and its answers -/

/-- Once the first streams have taken the values, the blocks report what
`UhdRadios.answers` says. -/
theorem readings_eq (h : ∀ dir, StreamTaken U b m conf dir 0 d) :
    RFConfiguration.readFromGraph b m (readings U b m d) =
      RFConfiguration.readFromGraph b m (U.answers b m conf) := by
  obtain ⟨rxAntenna, hrxAntenna, ⟨rxRadio, hrxRadio, hrxFrequency, hrxGain, hrxBandwidth⟩,
    hrxRate, -⟩ := h .rx
  obtain ⟨txAntenna, htxAntenna, ⟨txRadio, htxRadio, htxFrequency, htxGain, htxBandwidth⟩,
    htxRate, -⟩ := h .tx
  have hreadBack : RFConfiguration.readBack b m (readings U b m d) =
      RFConfiguration.readBack b m (U.answers b m conf) := by
    have hrxFirst := firstRadio_eq hrxAntenna hrxRadio
    have htxFirst := firstRadio_eq htxAntenna htxRadio
    have hrates : RFConfiguration.readRxSampleRate b (readings U b m d) =
          RFConfiguration.readRxSampleRate b (U.answers b m conf) ∧
        RFConfiguration.readTxSampleRate b (readings U b m d) =
          RFConfiguration.readTxSampleRate b (U.answers b m conf) := by
      rw [RFConfiguration.readRxSampleRate, RFConfiguration.readRxSampleRate,
        RFConfiguration.readTxSampleRate, RFConfiguration.readTxSampleRate]
      split
      · rename_i hdec
        have hrx := hrxRate hdec
        have htx := htxRate hdec
        rw [RateTaken, ← firstConverter_eq hrxAntenna] at hrx
        rw [RateTaken, ← firstConverter_eq htxAntenna] at htx
        exact ⟨hrx, htx⟩
      · exact ⟨rfl, rfl⟩
    rw [← hrxFirst] at hrxFrequency hrxGain hrxBandwidth
    rw [← htxFirst] at htxFrequency htxGain htxBandwidth
    rw [RFConfiguration.readBack, RFConfiguration.readBack, hrates.1, hrates.2]
    rw [show (readings U b m d).txGain = _ from htxGain,
      show (readings U b m d).rxGain = _ from hrxGain,
      show (readings U b m d).txCarrierFrequency = _ from htxFrequency,
      show (readings U b m d).rxCarrierFrequency = _ from hrxFrequency,
      show (readings U b m d).txAnalogFilterBw = _ from htxBandwidth,
      show (readings U b m d).rxAnalogFilterBw = _ from hrxBandwidth]
    rfl
  rw [RFConfiguration.readFromGraph, RFConfiguration.readFromGraph, hreadBack]

/-- **Seen from the class**, `setRfConfig` on the device is `setRfConfig` with the
answers of the radios. -/
theorem setRfConfig_refines :
    Refines rfConfiguration (setRfConfig U b m conf)
      (RFConfiguration.setRfConfig b m (U.answers b m conf) conf) := by
  intro d
  refine Refines.bind_of_ok (Refines.liftE _) fun _ d₁ hvalid => ?_
  have hcounts : StreamCountsOk conf :=
    (assertValidRfConfig_eq_ok_iff conf).mp (liftE_eq_ok_iff.mp hvalid).1
  refine Refines.bind_of_ok (Refines.modify fun _ => rfl) fun _ d₂ hstored => ?_
  cases hstored
  refine Refines.bind_of_ok (configure_refines rfl) fun _ d₃ hconfigure => ?_
  have hfirst (dir : Direction) : StreamTaken U b m conf dir 0 d₃ :=
    streamTaken_of_configure rfl rfl hconfigure dir (streamCount_pos hcounts dir)
  -- at this state, and in general at no other, the blocks report the given answers
  have hread : readFromGraph U b m d₃ =
      (liftE (RFConfiguration.readFromGraph b m (U.answers b m conf)) : DeviceM RfConfig) d₃ := by
    rw [readFromGraph]
    unfold liftE reads
    simp only [readings_eq hfirst]
  rw [bind_apply, hread, ← bind_apply]
  refine Refines.bind_of_ok (Refines.liftE _) fun actual d₄ _ => ?_
  refine Refines.bind_of_ok (Refines.modify fun _ => rfl) fun _ d₅ _ => ?_
  exact Refines.liftE _ d₅

end

/-! ### An example -/

/-- Two TX streams on the channels of the first radio, and one RX stream. -/
def exampleTwoStreams : RfConfig :=
  { Components.exampleConfig 122880000 122880000 with noTxStreams := 2 }

/-- Two TX streams and one RX stream, on the antennas of the first radio. -/
def exampleMapper : StreamMapper := ⟨[0, 1], [0]⟩

/-- Radios whose second TX channel has no gain above 20. -/
def exampleWeakRadios : UhdRadios where
  accepts := fun _ => true
  reports
    | .setTxGain value (.first, 1) => min value 20
    | c => Components.exampleRadios.reports c

/-- A device before its first configuration. -/
def exampleDeviceState : RfDevice :=
  ⟨⟨Components.exampleConfig 0 0, 0, 0, fun _ => 1⟩, fun _ => 0⟩

/-- One stream in each direction, at 2.4 GHz. -/
def exampleOneStream : RfConfig :=
  { Components.exampleConfig 122880000 122880000 with txCarrierFrequency := 2400000000 }

/-- Radios whose synthesiser is 100 Hz beside the frequency: a `float` has steps of 256 Hz
there. -/
def exampleDriftingRadios : UhdRadios where
  accepts := fun _ => true
  reports
    | .setTxFrequency value _ => value + 100
    | c => Components.exampleRadios.reports c

/-- The gain of the second TX stream is coerced to 20, and the call returns; and so it does when
the frequency of the only TX stream is coerced by 100 Hz. -/
theorem readBack_misses :
    (∃ d', setRfConfig exampleWeakRadios Components.exampleDevice exampleMapper exampleTwoStreams
        exampleDeviceState = .ok () d' ∧
      ¬ ∀ dir s, s < streamCount exampleTwoStreams dir →
        HoldsRequested Components.exampleDevice exampleMapper exampleTwoStreams dir s d') ∧
    ∃ d', setRfConfig exampleDriftingRadios Components.exampleDevice ⟨[0], [0]⟩ exampleOneStream
        exampleDeviceState = .ok () d' ∧
      ¬ ∀ dir s, s < streamCount exampleOneStream dir →
        HoldsRequested Components.exampleDevice ⟨[0], [0]⟩ exampleOneStream dir s d' := by
  constructor
  · obtain ⟨⟨⟩, hreturns⟩ := exists_of_returned
      (by decide +kernel : returned (setRfConfig exampleWeakRadios Components.exampleDevice
        exampleMapper exampleTwoStreams exampleDeviceState) = true)
    refine ⟨_, hreturns, fun hall => ?_⟩
    obtain ⟨-, htaken, -⟩ := setRfConfig_eq_ok hreturns
    have hsecond : 1 < streamCount exampleTwoStreams .tx := by decide
    have hexact := (holdsRequested_iff (htaken .tx 1 hsecond)).mp (hall .tx 1 hsecond)
    have hgain := (hexact 1 (.first, 1) rfl rfl).2.1
    revert hgain
    decide +kernel
  · obtain ⟨⟨⟩, hreturns⟩ := exists_of_returned
      (by decide +kernel : returned (setRfConfig exampleDriftingRadios Components.exampleDevice
        ⟨[0], [0]⟩ exampleOneStream exampleDeviceState) = true)
    refine ⟨_, hreturns, fun hall => ?_⟩
    obtain ⟨-, htaken, -⟩ := setRfConfig_eq_ok hreturns
    have hfirst : 0 < streamCount exampleOneStream .tx := by decide
    have hexact := (holdsRequested_iff (htaken .tx 0 hfirst)).mp (hall .tx 0 hfirst)
    have hfrequency := (hexact 0 (.first, 0) rfl rfl).1
    revert hfrequency
    decide +kernel

/-- Radios that take every value as it is. -/
theorem readBack_coversEvery_example :
    ∃ d', setRfConfig Components.exampleRadios Components.exampleDevice exampleMapper
        exampleTwoStreams exampleDeviceState = .ok () d' ∧
      ∀ dir s, s < streamCount exampleTwoStreams dir →
        HoldsRequested Components.exampleDevice exampleMapper exampleTwoStreams dir s d' := by
  obtain ⟨⟨⟩, hreturns⟩ := exists_of_returned
    (by decide +kernel : returned (setRfConfig Components.exampleRadios Components.exampleDevice
      exampleMapper exampleTwoStreams exampleDeviceState) = true)
  have hexact (dir : Direction) (s : ℕ) : TakesExactly Components.exampleRadios
      Components.exampleDevice exampleMapper exampleTwoStreams dir s := by
    intro antenna radio _ _
    cases dir with
    | tx => exact ⟨rfl, rfl, fun _ => rfl⟩
    | rx => exact ⟨rfl, rfl, fun _ => rfl⟩
  refine ⟨_, hreturns, (readBack_coversEvery_iff hreturns).mpr
    ⟨fun dir s _ _ => hexact dir s, fun dir => ?_⟩⟩
  exact (hexact dir 0).roundingTells

end RfDevice

end UsrpWrapper
