import UsrpWrapper.AntennaRouting

/-!
# Reading the RF configuration back

`getRfConfig` rebuilds a config from the channels of the first streams and from the
stream mapper.  `readFromGraph` fills in everything but the antenna mappings, which
stay empty; and `setRfConfig` reads an empty mapping as the default one.

UHD is a pair of functions here (`UhdRadios`): which calls it carries out, and what
a getter returns after the last call on its channel.  `rfConfig_reapplicable_iff`
says which configs can be read back and applied again without an effect.
-/

namespace UsrpWrapper

open Lib.Command

/-! ## What the radios report -/

/-- The radios, DDCs and DUCs: the calls they carry out, and the value their getter
returns after a call was the last one to set this property of this channel. -/
structure UhdRadios where
  accepts : RadioCall → Bool
  reports : RadioCall → ℚ

namespace UhdRadios

/-- A bandwidth that a getter has returned can be set on every channel, as the `float` it has
become in the config. -/
structure TakesReported (U : UhdRadios) : Prop where
  tx : ∀ bandwidth radio radio',
    U.accepts (.setTxBandwidth (toFloat (U.reports (.setTxBandwidth bandwidth radio))) radio') =
      true
  rx : ∀ bandwidth radio radio',
    U.accepts (.setRxBandwidth (toFloat (U.reports (.setRxBandwidth bandwidth radio))) radio') =
      true

/-- The channel `readFromGraph` reads, if it does not throw. -/
def firstRadio (b : RfNocBlocks) (mapping : List Int32) : Channel :=
  (StreamMapper.radioOfStream b mapping 0).toOption.getD (.first, 0)

/-- The DDC or DUC channel of the same stream. -/
def firstConverter (b : RfNocBlocks) (mapping : List Int32) : Channel :=
  (StreamMapper.ddcOfStream b mapping 0).toOption.getD (.first, 0)

/-- What the channels of the first streams report once a config is applied to the
channels of these mappings. -/
def answers (U : UhdRadios) (b : RfNocBlocks) (m : StreamMapper) (conf : RfConfig) :
    RfAnswers where
  accepts := U.accepts
  txGain := U.reports (.setTxGain conf.txGain (firstRadio b m.txMapping))
  rxGain := U.reports (.setRxGain conf.rxGain (firstRadio b m.rxMapping))
  txCarrierFrequency :=
    U.reports (.setTxFrequency conf.txCarrierFrequency (firstRadio b m.txMapping))
  rxCarrierFrequency :=
    U.reports (.setRxFrequency conf.rxCarrierFrequency (firstRadio b m.rxMapping))
  txAnalogFilterBw :=
    U.reports (.setTxBandwidth conf.txAnalogFilterBw (firstRadio b m.txMapping))
  rxAnalogFilterBw :=
    U.reports (.setRxBandwidth conf.rxAnalogFilterBw (firstRadio b m.rxMapping))
  txSamplingRate := U.reports (.setInputRate conf.txSamplingRate (firstConverter b m.txMapping))
  rxSamplingRate := U.reports (.setOutputRate conf.rxSamplingRate (firstConverter b m.rxMapping))

/-- The mapping a call stores before it talks to the radios. -/
def storedMapping (mapping : List Int32) (numStreams : Int32) : List Int32 :=
  (StreamMapper.chooseMapping mapping numStreams).toOption.getD []

/-- The answers to a call of `setRfConfig`. -/
def answersTo (U : UhdRadios) (b : RfNocBlocks) (conf : RfConfig) : RfAnswers :=
  U.answers b ⟨storedMapping conf.txAntennaMapping conf.noTxStreams,
    storedMapping conf.rxAntennaMapping conf.noRxStreams⟩ conf

end UhdRadios

/-! ## Reading and applying again -/

namespace Components

/-- `Usrp::getRfConfig`. -/
def getRfConfig (b : RfNocBlocks) (a : RfAnswers) (c : Components) : Except Fault RfConfig :=
  RFConfiguration.readFromGraph b c.streamMapper a

/-- The mappings, the stream counts, and the gains, frequencies and rates are the
same. -/
structure SameRf (c c' : Components) : Prop where
  streamMapper : c'.streamMapper = c.streamMapper
  countTx : c'.rfConfig.numTxStreams = c.rfConfig.numTxStreams
  countRx : c'.rfConfig.numRxStreams = c.rfConfig.numRxStreams
  storedTx : c'.rfConfig.getNumTxStreams = c.rfConfig.getNumTxStreams
  storedRx : c'.rfConfig.getNumRxStreams = c.rfConfig.getNumRxStreams
  replayConfig : c'.replayConfig = c.replayConfig
  values : c'.rfConfig.rfConfig.equal c.rfConfig.rfConfig = true

/-- After `conf` was applied, the config that is read back can be applied as well
and changes nothing. -/
def Reapplicable (U : UhdRadios) (b : RfNocBlocks) (conf : RfConfig) (c : Components) : Prop :=
  ∃ conf' c', getRfConfig b (U.answersTo b conf) c = .ok conf' ∧
    setRfConfig b conf' (U.answersTo b conf') c = .ok () c' ∧ SameRf c c'

/-- A mapping that asks for the default one. -/
def DefaultMapped (mapping : List Int32) (numStreams : Int32) : Prop :=
  mapping = [] ∨ mapping = StreamMapper.defaultMapping numStreams.toUInt32

instance (mapping : List Int32) (numStreams : Int32) :
    Decidable (DefaultMapped mapping numStreams) :=
  inferInstanceAs (Decidable (_ ∨ _))

/-! ## What is read back -/

section

variable {U : UhdRadios} {b : RfNocBlocks} {tx rx : List Int32} {conf : RfConfig}

/-- The stream mapper has as many streams as a config whose mapping it stores. -/
theorem toInt32_length {n : Int32} {mapping : List Int32}
    (hlen : mapping.length = n.toUInt32.toNat) : (UInt32.ofNat mapping.length).toInt32 = n := by
  rw [hlen, UInt32.ofNat_toNat, Int32.toInt32_toUInt32]

/-- A mapping that is chosen for at least one stream is not empty. -/
theorem chosen_ne_nil {n : Int32} {mapping chosen : List Int32} (hpos : 1 ≤ n.toInt)
    (h : StreamMapper.chooseMapping mapping n = .ok chosen) : chosen ≠ [] := by
  rintro rfl
  have hlen := StreamMapper.length_of_chooseMapping h
  rw [RFConfiguration.toNat_toUInt32_of_pos hpos, List.length_nil] at hlen
  omega

/-- The config that is read back: the one that was applied, with other bandwidths
and without mappings. -/
def withoutMappings (conf : RfConfig) (a : RfAnswers) : RfConfig :=
  { conf with
    txAnalogFilterBw := toFloat a.txAnalogFilterBw
    rxAnalogFilterBw := toFloat a.rxAnalogFilterBw
    txAntennaMapping := []
    rxAntennaMapping := [] }

/-- What is read back of a config that was accepted. -/
theorem readBack_eq {a : RfAnswers} (haccepted : Accepted b ⟨tx, rx⟩ a conf)
    (htx : tx.length = conf.noTxStreams.toUInt32.toNat)
    (hrx : rx.length = conf.noRxStreams.toUInt32.toNat) :
    RFConfiguration.readBack b ⟨tx, rx⟩ a = withoutMappings conf a := by
  obtain ⟨htxGain, hrxGain, htxFrequency, hrxFrequency, htxRate, hrxRate⟩ :=
    RfConfig.equal_iff.mp haccepted.equal
  unfold withoutMappings
  rw [← htxGain, ← hrxGain, ← htxFrequency, ← hrxFrequency, ← htxRate, ← hrxRate,
    ← toInt32_length htx, ← toInt32_length hrx]
  rfl

end

/-! ## When a config can be applied again -/

section

variable {U : UhdRadios} {b : RfNocBlocks} {tx rx : List Int32} {conf : RfConfig}

/-- The answers to a call whose mappings are chosen like this. -/
theorem answersTo_eq
    (htx : StreamMapper.chooseMapping conf.txAntennaMapping conf.noTxStreams = .ok tx)
    (hrx : StreamMapper.chooseMapping conf.rxAntennaMapping conf.noRxStreams = .ok rx) :
    U.answersTo b conf = U.answers b ⟨tx, rx⟩ conf := by
  rw [UhdRadios.answersTo, UhdRadios.storedMapping, UhdRadios.storedMapping, htx, hrx]
  rfl

/-- The config that was read back asks for the default mappings. -/
theorem chooseMapping_withoutMappings (conf : RfConfig) (a : RfAnswers) :
    StreamMapper.chooseMapping (withoutMappings conf a).txAntennaMapping
        (withoutMappings conf a).noTxStreams =
      .ok (StreamMapper.defaultMapping conf.noTxStreams.toUInt32) ∧
    StreamMapper.chooseMapping (withoutMappings conf a).rxAntennaMapping
        (withoutMappings conf a).noRxStreams =
      .ok (StreamMapper.defaultMapping conf.noRxStreams.toUInt32) :=
  ⟨rfl, rfl⟩

/-- The chosen mapping is the default one exactly if the config asks for it. -/
theorem defaultMapped_iff {n : Int32} {mapping chosen : List Int32}
    (h : StreamMapper.chooseMapping mapping n = .ok chosen) :
    chosen = StreamMapper.defaultMapping n.toUInt32 ↔ DefaultMapped mapping n := by
  unfold StreamMapper.chooseMapping at h
  split at h
  · rename_i hpos
    obtain ⟨_, -, hpure⟩ := except_bind_eq_ok_iff.mp h
    cases hpure
    exact ⟨Or.inr, fun h => h.resolve_left (List.ne_nil_of_length_pos hpos)⟩
  · rename_i hempty
    cases h
    exact ⟨fun _ => Or.inl (List.length_eq_zero_iff.mp (Nat.eq_zero_of_not_pos hempty)),
      fun _ => rfl⟩

/-- On the channels of the same mappings, the config that was read back passes all
checks as well. -/
theorem accepted_withoutMappings (htakes : U.TakesReported)
    (h : Accepted b ⟨tx, rx⟩ (U.answers b ⟨tx, rx⟩ conf) conf) :
    Accepted b ⟨tx, rx⟩
      (U.answers b ⟨tx, rx⟩ (withoutMappings conf (U.answers b ⟨tx, rx⟩ conf)))
      (withoutMappings conf (U.answers b ⟨tx, rx⟩ conf)) := by
  refine ⟨⟨h.counts.tx_pos, h.counts.tx_le, h.counts.rx_pos, h.counts.rx_le⟩,
    ⟨fun antenna hmem => ?_, h.blocks.rxRate, fun antenna hmem => ?_, h.blocks.txRate⟩, ?_⟩
  · obtain ⟨radio, hradio, hfrequency, hgain, -⟩ := h.blocks.rx antenna hmem
    exact ⟨radio, hradio, hfrequency, hgain, htakes.rx _ _ _⟩
  · obtain ⟨radio, hradio, hfrequency, hgain, -⟩ := h.blocks.tx antenna hmem
    exact ⟨radio, hradio, hfrequency, hgain, htakes.tx _ _ _⟩
  · -- the bandwidths, in which the two readings differ, are not compared
    exact RfConfig.equal_iff.mpr (RfConfig.equal_iff.mp h.equal)

/-- What `getRfConfig` returns after a call that returned. -/
theorem getRfConfig_eq {c c' : Components}
    (h : setRfConfig b conf (U.answersTo b conf) c = .ok () c') :
    getRfConfig b (U.answersTo b conf) c' =
      .ok (withoutMappings conf (U.answersTo b conf)) := by
  obtain ⟨tx, rx, r, htx, hrx, haccepted, -, -, rfl⟩ := setRfConfig_eq_ok h
  rw [getRfConfig, RFConfiguration.readFromGraph_of_accept haccepted.blocks
    (chosen_ne_nil haccepted.counts.tx_pos htx) (chosen_ne_nil haccepted.counts.rx_pos hrx),
    readBack_eq haccepted (StreamMapper.length_of_chooseMapping htx)
      (StreamMapper.length_of_chooseMapping hrx)]

/-- Applied again, a config has moved all streams to the default antennas. -/
theorem defaultMapped_of_reapplicable {c c' : Components}
    (h : setRfConfig b conf (U.answersTo b conf) c = .ok () c')
    (hagain : Reapplicable U b conf c') :
    DefaultMapped conf.txAntennaMapping conf.noTxStreams ∧
      DefaultMapped conf.rxAntennaMapping conf.noRxStreams := by
  obtain ⟨conf', c'', hread, happly, hsame⟩ := hagain
  rw [getRfConfig_eq h] at hread
  cases hread
  obtain ⟨tx, rx, r, htx, hrx, -, -, -, rfl⟩ := setRfConfig_eq_ok h
  obtain ⟨tx', rx', r', htx', hrx', -, -, -, rfl⟩ := setRfConfig_eq_ok happly
  obtain ⟨hdefaultTx, hdefaultRx⟩ := chooseMapping_withoutMappings conf (U.answersTo b conf)
  rw [hdefaultTx] at htx'
  rw [hdefaultRx] at hrx'
  cases htx'
  cases hrx'
  have hmapper := hsame.streamMapper
  exact ⟨(defaultMapped_iff htx).mp (congrArg StreamMapper.txMapping hmapper).symm,
    (defaultMapped_iff hrx).mp (congrArg StreamMapper.rxMapping hmapper).symm⟩

/-- A config that asks for the default mappings is applied to the same channels
again. -/
theorem reapplicable_of_defaultMapped {c c' : Components} (htakes : U.TakesReported)
    (h : setRfConfig b conf (U.answersTo b conf) c = .ok () c')
    (hmappedTx : DefaultMapped conf.txAntennaMapping conf.noTxStreams)
    (hmappedRx : DefaultMapped conf.rxAntennaMapping conf.noRxStreams) :
    Reapplicable U b conf c' := by
  have hread := getRfConfig_eq h
  obtain ⟨tx, rx, r, htx, hrx, haccepted, -, hkept, rfl⟩ := setRfConfig_eq_ok h
  have htxLen := StreamMapper.length_of_chooseMapping htx
  have hrxLen := StreamMapper.length_of_chooseMapping hrx
  rw [readBack_eq haccepted htxLen hrxLen] at hkept
  rw [answersTo_eq htx hrx] at haccepted hkept hread
  obtain ⟨hchooseTx, hchooseRx⟩ :=
    chooseMapping_withoutMappings conf (U.answers b ⟨tx, rx⟩ conf)
  rw [← (defaultMapped_iff htx).mpr hmappedTx] at hchooseTx
  rw [← (defaultMapped_iff hrx).mpr hmappedRx] at hchooseRx
  have hagain := accepted_withoutMappings htakes haccepted
  rw [← answersTo_eq hchooseTx hchooseRx] at hagain
  obtain ⟨c', hcall⟩ := setRfConfig_of_accepted hchooseTx hchooseRx hagain
    ⟨⟨tx, rx⟩, r, c.replayConfig.setStreamCount (UInt64.ofInt conf.noTxStreams.toInt)
      (UInt64.ofInt conf.noRxStreams.toInt)⟩
  refine ⟨_, c', by rw [answersTo_eq htx hrx]; exact hread, hcall, ?_⟩
  obtain ⟨tx', rx', r', htx', hrx', -, -, hkept', rfl⟩ := setRfConfig_eq_ok hcall
  obtain rfl : tx = tx' := Except.ok.inj (hchooseTx.symm.trans htx')
  obtain rfl : rx = rx' := Except.ok.inj (hchooseRx.symm.trans hrx')
  rw [readBack_eq hagain htxLen hrxLen] at hkept'
  have hstored : r'.rfConfig = withoutMappings r.rfConfig
      (U.answersTo b (withoutMappings conf (U.answers b ⟨tx, rx⟩ conf))) := by
    rw [hkept'.2.2, hkept.2.2]
  refine ⟨rfl, hkept'.1.trans hkept.1.symm, hkept'.2.1.trans hkept.2.1.symm, ?_, ?_, rfl, ?_⟩
  · exact (congrArg RfConfig.noTxStreams hstored :)
  · exact (congrArg RfConfig.noRxStreams hstored :)
  · rw [hstored]
    exact RfConfig.equal_iff.mpr ⟨rfl, rfl, rfl, rfl, rfl, rfl⟩

/-- **When a config can be read back and applied again.**  After a call of
`setRfConfig` that returns, the config `getRfConfig` returns is accepted and changes
nothing, if and only if the call asked for the default mapping in both
directions. -/
theorem rfConfig_reapplicable_iff {c c' : Components} (htakes : U.TakesReported)
    (h : setRfConfig b conf (U.answersTo b conf) c = .ok () c') :
    Reapplicable U b conf c' ↔ DefaultMapped conf.txAntennaMapping conf.noTxStreams ∧
      DefaultMapped conf.rxAntennaMapping conf.noRxStreams :=
  ⟨defaultMapped_of_reapplicable h,
    fun hmapped => reapplicable_of_defaultMapped htakes h hmapped.1 hmapped.2⟩

end

/-! ### An example -/

/-- Radios that carry out every call and report what was set. -/
def exampleRadios : UhdRadios where
  accepts := fun _ => true
  reports
    | .setRxFrequency frequency _ => frequency
    | .setRxGain gain _ => gain
    | .setRxBandwidth bandwidth _ => bandwidth
    | .setTxFrequency frequency _ => frequency
    | .setTxGain gain _ => gain
    | .setTxBandwidth bandwidth _ => bandwidth
    | .setOutputRate rate _ => rate
    | .setInputRate rate _ => rate

/-- A config with one stream in each direction, the TX stream on this antenna. -/
def exampleTxAntenna (antenna : Int32) : RfConfig :=
  { exampleConfig 122880000 122880000 with txAntennaMapping := [antenna] }

/-- The example device accepts its antennas. -/
theorem exampleTxAntenna_accepted (antenna : Int32) {radio : Channel}
    (hmapping : StreamMapper.chooseMapping [antenna] 1 = .ok [antenna])
    (hradio : exampleDevice.getRadioChannelPair antenna = .ok radio) :
    ∃ c, setRfConfig exampleDevice (exampleTxAntenna antenna)
      (exampleRadios.answersTo exampleDevice (exampleTxAntenna antenna)) exampleStart =
        .ok () c := by
  have hexists {x : Int32} {ch : Channel} (hx : exampleDevice.getRadioChannelPair x = .ok ch) :
      ∀ y ∈ [x], ∃ ch, exampleDevice.getRadioChannelPair y = .ok ch := by
    intro y hy
    rw [List.mem_singleton.mp hy]
    exact ⟨ch, hx⟩
  have hone : (1 : ℤ) ≤ (1 : Int32).toInt ∧ (1 : Int32).toInt ≤ 4 := by decide
  have hcounts : StreamCountsOk (exampleTxAntenna antenna) := ⟨hone.1, hone.2, hone.1, hone.2⟩
  have hrate : SamplingRateOk 122880000 245760000 true := by decide +kernel
  have hfirst : exampleDevice.getRadioChannelPair 0 = .ok (.first, 0) := rfl
  have hexample : (exampleConfig 122880000 122880000).IsFloat := by decide +kernel
  have hfloat : (exampleTxAntenna antenna).IsFloat := by
    show { (exampleConfig 122880000 122880000).rounded with txAntennaMapping := [antenna] } = _
    rw [hexample]
    rfl
  have haccepted :=
    accepted_obedient hfloat hcounts (hexists hradio) (hexists hfirst) hrate hrate
  exact setRfConfig_of_accepted hmapping rfl haccepted exampleStart

/-- TX antenna 1 is read back as the default mapping, and applied again as
antenna 0. -/
theorem rfConfig_notReapplicable :
    ∃ c, setRfConfig exampleDevice (exampleTxAntenna 1)
        (exampleRadios.answersTo exampleDevice (exampleTxAntenna 1)) exampleStart = .ok () c ∧
      ¬ Reapplicable exampleRadios exampleDevice (exampleTxAntenna 1) c := by
  obtain ⟨c, hcall⟩ := exampleTxAntenna_accepted 1 rfl rfl
  refine ⟨c, hcall, fun hagain => ?_⟩
  have hdefault := defaultMapped_of_reapplicable hcall hagain
  revert hdefault
  decide

/-- TX antenna 0 is the default one. -/
theorem rfConfig_reapplicable_example :
    ∃ c, setRfConfig exampleDevice (exampleTxAntenna 0)
        (exampleRadios.answersTo exampleDevice (exampleTxAntenna 0)) exampleStart = .ok () c ∧
      Reapplicable exampleRadios exampleDevice (exampleTxAntenna 0) c := by
  obtain ⟨c, hcall⟩ := exampleTxAntenna_accepted 0 rfl rfl
  exact ⟨c, hcall, (rfConfig_reapplicable_iff ⟨fun _ _ _ => rfl, fun _ _ _ => rfl⟩ hcall).mpr
    (by decide)⟩

end Components

end UsrpWrapper
