import UsrpWrapper.RfConfiguration
import UsrpWrapper.ReplayBlockConfig

/-!
# Changing the RF configuration

`Usrp::setRfConfig` updates three components one after another: the stream
mapper, the RF configuration and the stream counts of the replay configuration.
Each of them can throw, and nothing is rolled back.

## All or nothing

A call is safe (`StepSafe`) if the components agree on the stream counts after
it, and if it changes nothing when it throws.  `setRfConfig_safe_iff` says which
sequences of calls are safe throughout: those in which every call either stops
before it stores anything, returns, or only stores what is stored already.

## Decimation

`getRxDecimationRatio` reads one fixed DDC channel, while the rate is set for the
channels of the mapped antennas.  `decimation_agrees_iff` says in which sequences
of calls both are always the same.
-/

namespace UsrpWrapper

open Lib Lib.Command

/-! ## The components -/

/-- The members of `Usrp` that `setRfConfig` changes. -/
structure Components where
  streamMapper : StreamMapper
  rfConfig : RFConfiguration
  replayConfig : ReplayBlockConfig

namespace Components

/-- `Usrp::setRfConfig`; the counts are `int`s that become `size_t`s. -/
def setRfConfig (b : RfNocBlocks) (conf : RfConfig) (a : RfAnswers) :
    EStateM Fault Components Unit := do
  onField (fun c => c.streamMapper) (fun m c => { c with streamMapper := m })
    (StreamMapper.setRfConfig conf)
  let c ← get
  onField (fun c => c.rfConfig) (fun r c => { c with rfConfig := r })
    (RFConfiguration.setRfConfig b c.streamMapper a conf)
  modify fun c => { c with
    replayConfig := c.replayConfig.setStreamCount (UInt64.ofInt conf.noTxStreams.toInt)
      (UInt64.ofInt conf.noRxStreams.toInt) }

/-- The components hold these numbers of streams. -/
structure StreamCounts (c : Components) (tx rx : ℕ) : Prop where
  mapperTx : c.streamMapper.txMapping.length = tx
  mapperRx : c.streamMapper.rxMapping.length = rx
  storedTx : c.rfConfig.getNumTxStreams.toInt = tx
  storedRx : c.rfConfig.getNumRxStreams.toInt = rx
  countTx : c.rfConfig.numTxStreams.toInt = tx
  countRx : c.rfConfig.numRxStreams.toInt = rx
  replayTx : c.replayConfig.numTxStreams.toNat = tx
  replayRx : c.replayConfig.numRxStreams.toNat = rx
  trackerTx : c.replayConfig.txBlocks.numStreams.toNat = tx
  trackerRx : c.replayConfig.rxBlocks.numStreams.toNat = rx

/-- The components agree on the stream counts. -/
def Agree (c : Components) : Prop := ∃ tx rx, StreamCounts c tx rx

/-- The mappings, the stored config and all stream counts are the same. -/
structure Unchanged (c c' : Components) : Prop where
  streamMapper : c'.streamMapper = c.streamMapper
  stored : c'.rfConfig.rfConfig = c.rfConfig.rfConfig
  countTx : c'.rfConfig.numTxStreams = c.rfConfig.numTxStreams
  countRx : c'.rfConfig.numRxStreams = c.rfConfig.numRxStreams
  replayConfig : c'.replayConfig = c.replayConfig

theorem Unchanged.agree {c c' : Components} (h : Unchanged c c') (hagree : Agree c) :
    Agree c' := by
  obtain ⟨tx, rx, h₁, h₂, h₃, h₄, h₅, h₆, h₇, h₈, h₉, h₁₀⟩ := hagree
  refine ⟨tx, rx, ?_, ?_, ?_, ?_, ?_, ?_, ?_, ?_, ?_, ?_⟩
  · rw [h.streamMapper, h₁]
  · rw [h.streamMapper, h₂]
  · rw [RFConfiguration.getNumTxStreams, h.stored]
    exact h₃
  · rw [RFConfiguration.getNumRxStreams, h.stored]
    exact h₄
  · rw [h.countTx, h₅]
  · rw [h.countRx, h₆]
  · rw [h.replayConfig, h₇]
  · rw [h.replayConfig, h₈]
  · rw [h.replayConfig, h₉]
  · rw [h.replayConfig, h₁₀]

/-! ## What a call does -/

/-- The call gets past all its checks: the blocks take the config and report the
requested values. -/
structure Accepted (b : RfNocBlocks) (m : StreamMapper) (a : RfAnswers) (conf : RfConfig) :
    Prop where
  counts : StreamCountsOk conf
  blocks : RFConfiguration.BlocksAccept b m a conf
  equal : (RFConfiguration.readBack b m a).equal conf = true

/-- A configuration that throws was not accepted. -/
theorem not_accepted_of_error {b : RfNocBlocks} {m : StreamMapper} {a : RfAnswers} {conf : RfConfig}
    {r r' : RFConfiguration} {e : Fault}
    (houtcome : RFConfiguration.Outcome b m a conf r (.error e r')) : ¬ Accepted b m a conf := by
  intro haccepted
  cases houtcome with
  | counts hcounts => exact hcounts haccepted.counts
  | blocks _ haccept => exact haccept haccepted.blocks
  | mismatch _ _ hequal =>
      rw [haccepted.equal] at hequal
      cases hequal

/-- How the configuration ends for mappings that were chosen. -/
theorem outcome_of_mappings {b : RfNocBlocks} {conf : RfConfig} {a : RfAnswers}
    {tx rx : List Int32}
    (htx : StreamMapper.chooseMapping conf.txAntennaMapping conf.noTxStreams = .ok tx)
    (hrx : StreamMapper.chooseMapping conf.rxAntennaMapping conf.noRxStreams = .ok rx)
    (r : RFConfiguration) :
    RFConfiguration.Outcome b ⟨tx, rx⟩ a conf r
      (RFConfiguration.setRfConfig b ⟨tx, rx⟩ a conf r) :=
  RFConfiguration.setRfConfig_outcome (StreamMapper.length_of_chooseMapping htx)
    (StreamMapper.length_of_chooseMapping hrx) r

/-- A call with mappings `m` that were stored. -/
theorem setRfConfig_of_mappings {b : RfNocBlocks} {conf : RfConfig} {a : RfAnswers}
    {tx rx : List Int32}
    (htx : StreamMapper.chooseMapping conf.txAntennaMapping conf.noTxStreams = .ok tx)
    (hrx : StreamMapper.chooseMapping conf.rxAntennaMapping conf.noRxStreams = .ok rx)
    (c : Components) :
    setRfConfig b conf a c =
      match RFConfiguration.setRfConfig b ⟨tx, rx⟩ a conf c.rfConfig with
      | .ok _ r => .ok () ⟨⟨tx, rx⟩, r, c.replayConfig.setStreamCount
          (UInt64.ofInt conf.noTxStreams.toInt) (UInt64.ofInt conf.noRxStreams.toInt)⟩
      | .error e r => .error e ⟨⟨tx, rx⟩, r, c.replayConfig⟩ := by
  have hmap : StreamMapper.setRfConfig conf c.streamMapper = .ok () ⟨tx, rx⟩ := by
    rw [StreamMapper.setRfConfig_apply, htx, hrx]
  have hfirst : onField (fun c : Components => c.streamMapper)
      (fun m c => { c with streamMapper := m }) (StreamMapper.setRfConfig conf) c =
        .ok () { c with streamMapper := ⟨tx, rx⟩ } := onField_of_ok hmap
  rw [setRfConfig, bind_of_ok hfirst, bind_of_ok (get_apply _)]
  cases hrf : RFConfiguration.setRfConfig b ⟨tx, rx⟩ a conf c.rfConfig with
  | ok u r =>
      have hsecond : onField (fun c : Components => c.rfConfig)
          (fun r c => { c with rfConfig := r })
          (RFConfiguration.setRfConfig b ⟨tx, rx⟩ a conf)
          { c with streamMapper := ⟨tx, rx⟩ } = .ok u ⟨⟨tx, rx⟩, r, c.replayConfig⟩ :=
        onField_of_ok hrf
      rw [bind_of_ok hsecond]
      rfl
  | error e r =>
      have hsecond : onField (fun c : Components => c.rfConfig)
          (fun r c => { c with rfConfig := r })
          (RFConfiguration.setRfConfig b ⟨tx, rx⟩ a conf)
          { c with streamMapper := ⟨tx, rx⟩ } = .error e ⟨⟨tx, rx⟩, r, c.replayConfig⟩ :=
        onField_of_error hrf
      rw [bind_of_error hsecond]

/-- A call whose mapping check fails; the TX mapping may be stored. -/
theorem setRfConfig_of_rejectedMapping {b : RfNocBlocks} {conf : RfConfig} {a : RfAnswers}
    {c : Components} {m : StreamMapper} {e : Fault}
    (h : StreamMapper.setRfConfig conf c.streamMapper = .error e m) :
    setRfConfig b conf a c = .error e { c with streamMapper := m } := by
  have hfirst : onField (fun c : Components => c.streamMapper)
      (fun m c => { c with streamMapper := m }) (StreamMapper.setRfConfig conf) c =
        .error e { c with streamMapper := m } := onField_of_error h
  rw [setRfConfig, bind_of_error hfirst]

/-- A call that returns leaves components that agree, whatever they were
before. -/
theorem agree_of_counts {b : RfNocBlocks} {conf : RfConfig} {a : RfAnswers} {tx rx : List Int32}
    (htx : tx.length = conf.noTxStreams.toUInt32.toNat)
    (hrx : rx.length = conf.noRxStreams.toUInt32.toNat) (hcounts : StreamCountsOk conf)
    {r : RFConfiguration}
    (hr : RFConfiguration.Configuring conf (RFConfiguration.readBack b ⟨tx, rx⟩ a) r)
    (replay : ReplayBlockConfig) :
    StreamCounts ⟨⟨tx, rx⟩, r, replay.setStreamCount (UInt64.ofInt conf.noTxStreams.toInt)
      (UInt64.ofInt conf.noRxStreams.toInt)⟩ tx.length rx.length := by
  obtain ⟨hcountTx, hcountRx, hstored⟩ := hr
  obtain ⟨htx₁, htx₄, hrx₁, hrx₄⟩ := hcounts
  have htx' := RFConfiguration.toNat_toUInt32_of_pos htx₁
  have hrx' := RFConfiguration.toNat_toUInt32_of_pos hrx₁
  have hback {n : ℕ} (hn : n ≤ 4) : ((UInt32.ofNat n).toInt32).toInt = n := by
    obtain rfl | rfl | rfl | rfl | rfl : n = 0 ∨ n = 1 ∨ n = 2 ∨ n = 3 ∨ n = 4 := by omega
    all_goals rfl
  have hword {n : Int32} (h₁ : 1 ≤ n.toInt) (h₄ : n.toInt ≤ 4) :
      (UInt64.ofInt n.toInt).toNat = n.toInt.toNat := by
    rw [UInt64.ofInt, UInt64.toNat_ofNat']
    omega
  refine ⟨rfl, rfl, ?_, ?_, ?_, ?_, ?_, ?_, ?_, ?_⟩
  · rw [RFConfiguration.getNumTxStreams, hstored]
    exact hback (n := tx.length) (by omega)
  · rw [RFConfiguration.getNumRxStreams, hstored]
    exact hback (n := rx.length) (by omega)
  · rw [hcountTx]
    omega
  · rw [hcountRx]
    omega
  · show (UInt64.ofInt conf.noTxStreams.toInt).toNat = _
    rw [hword htx₁ htx₄]
    omega
  · show (UInt64.ofInt conf.noRxStreams.toInt).toNat = _
    rw [hword hrx₁ hrx₄]
    omega
  · show (UInt64.ofInt conf.noTxStreams.toInt).toNat = _
    rw [hword htx₁ htx₄]
    omega
  · show (UInt64.ofInt conf.noRxStreams.toInt).toNat = _
    rw [hword hrx₁ hrx₄]
    omega

/-- **When `setRfConfig` returns**, and what it leaves. -/
theorem setRfConfig_eq_ok {b : RfNocBlocks} {conf : RfConfig} {a : RfAnswers} {c c' : Components}
    (h : setRfConfig b conf a c = .ok () c') :
    ∃ tx rx r, StreamMapper.chooseMapping conf.txAntennaMapping conf.noTxStreams = .ok tx ∧
      StreamMapper.chooseMapping conf.rxAntennaMapping conf.noRxStreams = .ok rx ∧
      Accepted b ⟨tx, rx⟩ a conf ∧
      RFConfiguration.setRfConfig b ⟨tx, rx⟩ a conf c.rfConfig = .ok () r ∧
      RFConfiguration.Configuring conf (RFConfiguration.readBack b ⟨tx, rx⟩ a) r ∧
      c' = ⟨⟨tx, rx⟩, r, c.replayConfig.setStreamCount (UInt64.ofInt conf.noTxStreams.toInt)
        (UInt64.ofInt conf.noRxStreams.toInt)⟩ := by
  cases htx : StreamMapper.chooseMapping conf.txAntennaMapping conf.noTxStreams with
  | error e =>
      rw [setRfConfig_of_rejectedMapping (m := c.streamMapper) (e := e)
        (by rw [StreamMapper.setRfConfig_apply, htx])] at h
      cases h
  | ok tx =>
      cases hrx : StreamMapper.chooseMapping conf.rxAntennaMapping conf.noRxStreams with
      | error e =>
          rw [setRfConfig_of_rejectedMapping (e := e)
            (by rw [StreamMapper.setRfConfig_apply, htx, hrx])] at h
          cases h
      | ok rx =>
          have houtcome := outcome_of_mappings (b := b) (a := a) htx hrx c.rfConfig
          rw [setRfConfig_of_mappings htx hrx] at h
          cases hrf : RFConfiguration.setRfConfig b ⟨tx, rx⟩ a conf c.rfConfig with
          | error e r =>
              rw [hrf] at h
              cases h
          | ok u r =>
              rw [hrf] at h houtcome
              cases h
              cases houtcome with
              | returned hcounts haccept hequal _ hkept =>
                  exact ⟨tx, rx, r, rfl, rfl, ⟨hcounts, haccept, hequal⟩, hrf, hkept, rfl⟩

/-- The sampling rates the class stores after a call that returns are the requested ones: they
were read back, and found equal to the request. -/
theorem storedRates_of_accepted {b : RfNocBlocks} {m : StreamMapper} {conf : RfConfig}
    {a : RfAnswers} {r : RFConfiguration} (haccepted : Accepted b m a conf)
    (hkept : RFConfiguration.Configuring conf (RFConfiguration.readBack b m a) r) :
    r.getTxSamplingRate = conf.txSamplingRate ∧ r.getRxSamplingRate = conf.rxSamplingRate := by
  obtain ⟨-, -, -, -, htxRate, hrxRate⟩ := RfConfig.equal_iff.mp haccepted.equal
  rw [RFConfiguration.getTxSamplingRate, RFConfiguration.getRxSamplingRate, hkept.2.2]
  exact ⟨htxRate, hrxRate⟩

/-- After a call that returns, all components agree on the config. -/
theorem agree_of_returned {b : RfNocBlocks} {conf : RfConfig} {a : RfAnswers} {c c' : Components}
    (h : setRfConfig b conf a c = .ok () c') : Agree c' := by
  obtain ⟨tx, rx, r, htx, hrx, haccepted, -, hkept, rfl⟩ := setRfConfig_eq_ok h
  exact ⟨_, _, agree_of_counts (StreamMapper.length_of_chooseMapping htx)
    (StreamMapper.length_of_chooseMapping hrx) haccepted.counts hkept c.replayConfig⟩

/-- A call with mappings and answers that pass all checks returns. -/
theorem setRfConfig_of_accepted {b : RfNocBlocks} {conf : RfConfig} {a : RfAnswers}
    {tx rx : List Int32}
    (htx : StreamMapper.chooseMapping conf.txAntennaMapping conf.noTxStreams = .ok tx)
    (hrx : StreamMapper.chooseMapping conf.rxAntennaMapping conf.noRxStreams = .ok rx)
    (haccepted : Accepted b ⟨tx, rx⟩ a conf) (c : Components) :
    ∃ c', setRfConfig b conf a c = .ok () c' := by
  have houtcome := outcome_of_mappings (b := b) (a := a) htx hrx c.rfConfig
  rw [setRfConfig_of_mappings htx hrx]
  cases hrf : RFConfiguration.setRfConfig b ⟨tx, rx⟩ a conf c.rfConfig with
  | ok u r => exact ⟨_, rfl⟩
  | error e r =>
      rw [hrf] at houtcome
      exact absurd haccepted (not_accepted_of_error houtcome)

/-! ## All or nothing -/

/-- A call: the requested config and the answers of UHD. -/
abbrev RfInput := RfConfig × RfAnswers

/-- The components after a call, whether it returns or throws. -/
def rfStep (b : RfNocBlocks) (c : Components) (i : RfInput) : Components :=
  finalState (setRfConfig b i.1 i.2 c)

/-- A call leaves components that agree, and if it throws it changed nothing. -/
structure StepSafe (b : RfNocBlocks) (c : Components) (i : RfInput) : Prop where
  agree : Agree (rfStep b c i)
  unchanged : ∀ e c', setRfConfig b i.1 i.2 c = .error e c' → Unchanged c c'

/-- A call stops at the TX mapping; or what it stores before it stops is stored
already; or it passes all checks. -/
def AllOrNothing (b : RfNocBlocks) (c : Components) (i : RfInput) : Prop :=
  ∀ tx, StreamMapper.chooseMapping i.1.txAntennaMapping i.1.noTxStreams = .ok tx →
    match StreamMapper.chooseMapping i.1.rxAntennaMapping i.1.noRxStreams with
    | .error _ => tx = c.streamMapper.txMapping
    | .ok rx => Accepted b ⟨tx, rx⟩ i.2 i.1 ∨
        ⟨tx, rx⟩ = c.streamMapper ∧
          (StreamCountsOk i.1 → RFConfiguration.BlocksAccept b ⟨tx, rx⟩ i.2 i.1 →
            RFConfiguration.readBack b ⟨tx, rx⟩ i.2 = c.rfConfig.rfConfig)

/-- A call that throws is safe exactly if it changed nothing. -/
theorem stepSafe_iff_unchanged {b : RfNocBlocks} {c c' : Components} {i : RfInput} {e : Fault}
    (hagree : Agree c) (h : setRfConfig b i.1 i.2 c = .error e c') :
    StepSafe b c i ↔ Unchanged c c' := by
  constructor
  · intro hsafe
    exact hsafe.unchanged e c' h
  · intro hunchanged
    refine ⟨?_, fun e' c'' h' => ?_⟩
    · rw [rfStep, h]
      exact hunchanged.agree hagree
    · rw [h] at h'
      cases h'
      exact hunchanged

/-- Stored counts of the same mappings are the same counts. -/
theorem count_eq_of_length {n n' : Int32} {mapping : List Int32} (hpos : 1 ≤ n.toInt)
    (hlen : mapping.length = n.toUInt32.toNat) (hcount : n'.toInt = (mapping.length : ℕ)) :
    n = n' := by
  rw [RFConfiguration.toNat_toUInt32_of_pos hpos] at hlen
  apply Int32.toInt_inj.mp
  omega

/-- With the stored mappings, the counts that are stored after the count check
are the old ones. -/
theorem unchanged_of_configuring {conf old : RfConfig} {c : Components} {r : RFConfiguration}
    (hagree : Agree c) (hcounts : StreamCountsOk conf)
    (htx : c.streamMapper.txMapping.length = conf.noTxStreams.toUInt32.toNat)
    (hrx : c.streamMapper.rxMapping.length = conf.noRxStreams.toUInt32.toNat)
    (hr : RFConfiguration.Configuring conf old r) :
    Unchanged c ⟨c.streamMapper, r, c.replayConfig⟩ ↔ old = c.rfConfig.rfConfig := by
  obtain ⟨hcountTx, hcountRx, hstored⟩ := hr
  obtain ⟨_, _, hcountsOf⟩ := hagree
  constructor
  · intro h
    exact hstored.symm.trans h.stored
  · intro hold
    refine ⟨rfl, hstored.trans hold, ?_, ?_, rfl⟩
    · exact hcountTx.trans (count_eq_of_length hcounts.tx_pos htx
        (by rw [hcountsOf.countTx, hcountsOf.mapperTx]))
    · exact hcountRx.trans (count_eq_of_length hcounts.rx_pos hrx
        (by rw [hcountsOf.countRx, hcountsOf.mapperRx]))

/-- A configuration that throws has changed nothing exactly if the mappings are stored
already, and so is what the blocks report if it comes to that. -/
theorem unchanged_iff_of_error {b : RfNocBlocks} {conf : RfConfig} {a : RfAnswers}
    {tx rx : List Int32} {c : Components} {r' : RFConfiguration} {e : Fault} (hagree : Agree c)
    (htx : tx.length = conf.noTxStreams.toUInt32.toNat)
    (hrx : rx.length = conf.noRxStreams.toUInt32.toNat)
    (houtcome : RFConfiguration.Outcome b ⟨tx, rx⟩ a conf c.rfConfig (.error e r')) :
    Unchanged c ⟨⟨tx, rx⟩, r', c.replayConfig⟩ ↔ ⟨tx, rx⟩ = c.streamMapper ∧
      (StreamCountsOk conf → RFConfiguration.BlocksAccept b ⟨tx, rx⟩ a conf →
        RFConfiguration.readBack b ⟨tx, rx⟩ a = c.rfConfig.rfConfig) := by
  -- with other mappings both sides are false, else the counts that are stored are the old ones
  by_cases hm : (⟨tx, rx⟩ : StreamMapper) = c.streamMapper
  swap
  · exact iff_of_false (fun h => hm h.streamMapper) fun h => hm h.1
  have htx' : c.streamMapper.txMapping.length = conf.noTxStreams.toUInt32.toNat := by
    rw [← hm]
    exact htx
  have hrx' : c.streamMapper.rxMapping.length = conf.noRxStreams.toUInt32.toNat := by
    rw [← hm]
    exact hrx
  rw [hm]
  cases houtcome with
  | counts hcounts => exact iff_of_true ⟨rfl, rfl, rfl, rfl, rfl⟩ ⟨rfl, fun h => absurd h hcounts⟩
  | blocks hcounts haccept e r' hkept =>
      rw [hm] at haccept
      rw [unchanged_of_configuring hagree hcounts htx' hrx' hkept]
      exact iff_of_true rfl ⟨rfl, fun _ h => absurd h haccept⟩
  | mismatch hcounts haccept hequal r' hkept =>
      rw [hm] at haccept hkept
      rw [unchanged_of_configuring hagree hcounts htx' hrx' hkept]
      exact ⟨fun h => ⟨rfl, fun _ _ => h⟩, fun h => h.2 hcounts haccept⟩

/-- A step is safe if it happens as a whole or not at all. -/
theorem stepSafe_iff {b : RfNocBlocks} {c : Components} {i : RfInput} (hagree : Agree c) :
    StepSafe b c i ↔ AllOrNothing b c i := by
  unfold AllOrNothing
  cases htx : StreamMapper.chooseMapping i.1.txAntennaMapping i.1.noTxStreams with
  | error e =>
      have hcall := setRfConfig_of_rejectedMapping (b := b) (a := i.2) (c := c)
        (m := c.streamMapper) (e := e) (by rw [StreamMapper.setRfConfig_apply, htx])
      rw [stepSafe_iff_unchanged hagree hcall]
      exact ⟨fun _ _ h => (nomatch h), fun _ => ⟨rfl, rfl, rfl, rfl, rfl⟩⟩
  | ok tx =>
      simp only [Except.ok.injEq, forall_eq']
      cases hrx : StreamMapper.chooseMapping i.1.rxAntennaMapping i.1.noRxStreams with
      | error e =>
          -- the TX mapping is stored, the RX mapping is not
          have hcall := setRfConfig_of_rejectedMapping (b := b) (a := i.2) (c := c) (e := e)
            (by rw [StreamMapper.setRfConfig_apply, htx, hrx])
          rw [stepSafe_iff_unchanged hagree hcall]
          refine ⟨fun h => congrArg StreamMapper.txMapping h.streamMapper, ?_⟩
          rintro rfl
          exact ⟨rfl, rfl, rfl, rfl, rfl⟩
      | ok rx =>
          have houtcome := outcome_of_mappings (b := b) (a := i.2) htx hrx c.rfConfig
          have hcall := setRfConfig_of_mappings (b := b) (a := i.2) htx hrx c
          show _ ↔ Accepted b ⟨tx, rx⟩ i.2 i.1 ∨ _
          cases hrf : RFConfiguration.setRfConfig b ⟨tx, rx⟩ i.2 i.1 c.rfConfig with
          | error e r' =>
              rw [hrf] at houtcome hcall
              rw [stepSafe_iff_unchanged hagree hcall, unchanged_iff_of_error hagree
                (StreamMapper.length_of_chooseMapping htx)
                (StreamMapper.length_of_chooseMapping hrx) houtcome]
              exact (or_iff_right (not_accepted_of_error houtcome)).symm
          | ok u r' =>
              rw [hrf] at houtcome hcall
              cases houtcome with
              | returned hcounts haccept hequal _ hkept =>
                  refine iff_of_true ⟨?_, fun e c' h => ?_⟩ (Or.inl ⟨hcounts, haccept, hequal⟩)
                  · rw [rfStep, hcall]
                    exact agree_of_returned hcall
                  · rw [hcall] at h
                    cases h

/-- **When RF reconfiguration is all or nothing.**  After a call that returned,
every further call leaves components that agree on the stream counts, and changes
nothing if it throws, if and only if every call stops at the TX mapping, stores
only what is stored already before it stops, or passes all its checks. -/
theorem setRfConfig_safe_iff (b : RfNocBlocks) (first : RfInput) (c₀ c : Components)
    (hfirst : setRfConfig b first.1 first.2 c₀ = .ok () c) (calls : List RfInput) :
    Machine.AllSteps (rfStep b) (StepSafe b) c calls ↔
      Machine.AllSteps (rfStep b) (AllOrNothing b) c calls :=
  Machine.AllSteps.iff_of_invariant Agree (fun _ _ => stepSafe_iff)
    (fun _ _ hagree hcall => ((stepSafe_iff hagree).mpr hcall).agree) (agree_of_returned hfirst)

/-! ### A device -/

/-- Two radios with two ports each, and a master clock of 245.76 MHz. -/
def exampleDevice : RfNocBlocks where
  numAntennasPerRadio := 2
  masterClockRate := 245760000
  supportsDecimation := true
  decimation := fun rate => ⌊245760000 / rate⌋

/-- One stream in each direction, at the given rates. -/
def exampleConfig (txRate rxRate : ℚ) : RfConfig where
  txGain := 30
  rxGain := 20
  txCarrierFrequency := 2000000000
  rxCarrierFrequency := 2000000000
  txAnalogFilterBw := 400000000
  rxAnalogFilterBw := 400000000
  txSamplingRate := txRate
  rxSamplingRate := rxRate
  noTxStreams := 1
  noRxStreams := 1
  txAntennaMapping := []
  rxAntennaMapping := []

/-- Blocks that carry out every call and report the requested values. -/
def obedient (conf : RfConfig) : RfAnswers where
  accepts := fun _ => true
  txGain := conf.txGain
  rxGain := conf.rxGain
  txCarrierFrequency := conf.txCarrierFrequency
  rxCarrierFrequency := conf.rxCarrierFrequency
  txAnalogFilterBw := conf.txAnalogFilterBw
  rxAnalogFilterBw := conf.rxAnalogFilterBw
  txSamplingRate := conf.txSamplingRate
  rxSamplingRate := conf.rxSamplingRate

/-- The components after start-up, with all DDC channels at decimation 1. -/
def exampleStart : Components where
  streamMapper := StreamMapper.applyDefaultMapping 4
  rfConfig := ⟨exampleConfig 0 0, 0, 0, fun _ => 1⟩
  replayConfig := ReplayBlockConfig.make 0x100000000

/-- A config with mappings to existing antennas and possible rates passes on
obedient blocks. -/
theorem accepted_obedient {conf : RfConfig} {tx rx : List Int32} (hfloat : conf.IsFloat)
    (hcounts : StreamCountsOk conf)
    (htx : ∀ antenna ∈ tx, ∃ radio, exampleDevice.getRadioChannelPair antenna = .ok radio)
    (hrx : ∀ antenna ∈ rx, ∃ radio, exampleDevice.getRadioChannelPair antenna = .ok radio)
    (htxRate : SamplingRateOk conf.txSamplingRate 245760000 true)
    (hrxRate : SamplingRateOk conf.rxSamplingRate 245760000 true) :
    Accepted exampleDevice ⟨tx, rx⟩ (obedient conf) conf := by
  refine ⟨hcounts, ⟨fun antenna h => ?_, ⟨hrxRate, fun _ _ _ => rfl⟩, fun antenna h => ?_,
    ⟨htxRate, fun _ _ _ => rfl⟩⟩, ?_⟩
  · obtain ⟨radio, hradio⟩ := hrx antenna h
    exact ⟨radio, hradio, rfl, rfl, rfl⟩
  · obtain ⟨radio, hradio⟩ := htx antenna h
    exact ⟨radio, hradio, rfl, rfl, rfl⟩
  · rw [show RFConfiguration.readBack exampleDevice ⟨tx, rx⟩ (obedient conf) =
      { conf.rounded with
        noTxStreams := (UInt32.ofNat tx.length).toInt32
        noRxStreams := (UInt32.ofNat rx.length).toInt32
        txAntennaMapping := []
        rxAntennaMapping := [] } from rfl, hfloat]
    simp [RfConfig.equal]

/-- A request for RX antenna `antenna` at the given rate, with obedient blocks. -/
def rxRequest (antenna : Int32) (rate : ℚ) : RfInput :=
  ({ exampleConfig 122880000 rate with rxAntennaMapping := [antenna] },
    obedient { exampleConfig 122880000 rate with rxAntennaMapping := [antenna] })

/-- The numbers of `exampleConfig` are `float`s if the rates are. -/
theorem isFloat_exampleConfig {txRate rxRate : ℚ} (htx : toFloat txRate = txRate)
    (hrx : toFloat rxRate = rxRate) : (exampleConfig txRate rxRate).IsFloat := by
  have hgains : toFloat 30 = 30 ∧ toFloat 20 = 20 := by decide +kernel
  have hradio : toFloat 2000000000 = 2000000000 ∧ toFloat 400000000 = 400000000 := by
    decide +kernel
  simp only [RfConfig.IsFloat, RfConfig.rounded, exampleConfig, hgains, hradio, htx, hrx]

/-- The example device accepts an RX antenna with an admissible rate. -/
theorem rxRequest_accepted {antenna : Int32} {rate : ℚ} {radio : Channel}
    (hradio : exampleDevice.getRadioChannelPair antenna = .ok radio)
    (hfloat : toFloat rate = rate) (hrate : SamplingRateOk rate 245760000 true) :
    Accepted exampleDevice ⟨[0], [antenna]⟩ (rxRequest antenna rate).2
      (rxRequest antenna rate).1 := by
  have hrx : ∀ x ∈ [antenna], ∃ radio, exampleDevice.getRadioChannelPair x = .ok radio := by
    intro x hx
    rw [List.mem_singleton.mp hx]
    exact ⟨radio, hradio⟩
  have htx : ∀ x ∈ [(0 : Int32)], ∃ radio, exampleDevice.getRadioChannelPair x = .ok radio := by
    intro x hx
    rw [List.mem_singleton.mp hx]
    exact ⟨_, rfl⟩
  have hone : (1 : ℤ) ≤ (1 : Int32).toInt ∧ (1 : Int32).toInt ≤ 4 := by decide
  have hcounts : StreamCountsOk (rxRequest antenna rate).1 :=
    ⟨hone.1, hone.2, hone.1, hone.2⟩
  have hexample : (exampleConfig 122880000 rate).IsFloat :=
    isFloat_exampleConfig (by decide +kernel) hfloat
  have hrounded : (rxRequest antenna rate).1.IsFloat := by
    show { (exampleConfig 122880000 rate).rounded with rxAntennaMapping := [antenna] } = _
    rw [hexample]
    rfl
  have htxRate : SamplingRateOk 122880000 245760000 true := by decide +kernel
  exact accepted_obedient hrounded hcounts htx hrx htxRate hrate

theorem rxRequest_returns {antenna : Int32} {rate : ℚ} {radio : Channel}
    (hmapping : StreamMapper.chooseMapping [antenna] 1 = .ok [antenna])
    (hradio : exampleDevice.getRadioChannelPair antenna = .ok radio)
    (hfloat : toFloat rate = rate) (hrate : SamplingRateOk rate 245760000 true)
    (c : Components) : ∃ c', setRfConfig exampleDevice (rxRequest antenna rate).1
      (rxRequest antenna rate).2 c = .ok () c' :=
  setRfConfig_of_accepted rfl hmapping (rxRequest_accepted hradio hfloat hrate) c

theorem exampleFirst : ∃ c, setRfConfig exampleDevice (exampleConfig 122880000 122880000)
    (obedient (exampleConfig 122880000 122880000)) exampleStart = .ok () c := by
  have hantenna : ∀ antenna ∈ [(0 : Int32)],
      ∃ radio, exampleDevice.getRadioChannelPair antenna = .ok radio := by
    intro antenna h
    rw [List.mem_singleton] at h
    subst h
    exact ⟨_, rfl⟩
  have hone : (1 : ℤ) ≤ (1 : Int32).toInt ∧ (1 : Int32).toInt ≤ 4 := by decide
  have hcounts : StreamCountsOk (exampleConfig 122880000 122880000) :=
    ⟨hone.1, hone.2, hone.1, hone.2⟩
  have hrate : SamplingRateOk 122880000 245760000 true := by decide +kernel
  exact setRfConfig_of_accepted rfl rfl
    (accepted_obedient (by decide +kernel) hcounts hantenna hantenna hrate hrate) exampleStart

/-- Five TX streams: the default mapping for five streams is stored before the
stream count is rejected. -/
theorem setRfConfig_halfApplied :
    ∃ c, setRfConfig exampleDevice (exampleConfig 122880000 122880000)
        (obedient (exampleConfig 122880000 122880000)) exampleStart = .ok () c ∧
      ¬ Machine.AllSteps (rfStep exampleDevice) (StepSafe exampleDevice) c
        [({ exampleConfig 122880000 122880000 with noTxStreams := 5 },
          obedient (exampleConfig 122880000 122880000))] := by
  obtain ⟨c, hfirst⟩ := exampleFirst
  refine ⟨c, hfirst, fun hall => ?_⟩
  obtain ⟨tx, rx, r, htx, -, -, -, -, rfl⟩ := setRfConfig_eq_ok hfirst
  cases htx
  rcases (stepSafe_iff (agree_of_returned hfirst)).mp hall.1 [0, 1, 2, 3, 4] rfl with
    haccepted | ⟨hm, -⟩
  · exact absurd haccepted.counts.tx_le (by decide)
  · cases hm

/-- RX antenna 1 and another rate, which the call accepts; and then a TX mapping to an antenna
that does not exist, which it rejects before anything is stored. -/
theorem setRfConfig_safe_example :
    ∃ c, setRfConfig exampleDevice (exampleConfig 122880000 122880000)
        (obedient (exampleConfig 122880000 122880000)) exampleStart = .ok () c ∧
      Machine.AllSteps (rfStep exampleDevice) (StepSafe exampleDevice) c
        [rxRequest 1 61440000,
          ({ exampleConfig 122880000 122880000 with txAntennaMapping := [7] },
            obedient (exampleConfig 122880000 122880000))] := by
  obtain ⟨c, hfirst⟩ := exampleFirst
  refine ⟨c, hfirst, (setRfConfig_safe_iff exampleDevice (_, _) exampleStart c hfirst _).mpr
    ⟨fun tx htx => ?_, fun tx htx => ?_, trivial⟩⟩
  · cases htx
    exact Or.inl (rxRequest_accepted rfl (by decide +kernel) (by decide +kernel))
  · cases htx

/-! ## Decimation -/

/-- The factor that `getRxDecimationRatio` returns is the decimation of the DDC
channel of every mapped RX stream. -/
def DecimationAgrees (b : RfNocBlocks) (c : Components) : Prop :=
  ∀ antenna ∈ c.streamMapper.rxMapping,
    c.rfConfig.ddcDecim (b.getDDCChannelPair antenna) = c.rfConfig.getRxDecimationRatio b

/-- The channel that is read belongs to a mapped antenna, or it is at the
decimation of the requested rate already. -/
def FirstChannelFollows (b : RfNocBlocks) (c : Components) (i : RfInput) : Prop :=
  (∃ rx, StreamMapper.chooseMapping i.1.rxAntennaMapping i.1.noRxStreams = .ok rx ∧
    ∃ antenna ∈ rx, b.getDDCChannelPair antenna = (.first, 0)) ∨
  c.rfConfig.ddcDecim (.first, 0) = b.decimation i.1.rxSamplingRate

/-- A call that returns. -/
def Returns (b : RfNocBlocks) (c : Components) (i : RfInput) : Prop :=
  ∃ c', setRfConfig b i.1 i.2 c = .ok () c'

/-- A call that returns leaves the mapped channels at the decimation of its
rate, and the other channels as they were. -/
theorem decimation_agrees_step_iff {b : RfNocBlocks} (hdec : b.supportsDecimation = true)
    {c : Components} {i : RfInput} (hreturns : Returns b c i) :
    DecimationAgrees b (rfStep b c i) ↔ FirstChannelFollows b c i := by
  obtain ⟨c', hcall⟩ := hreturns
  obtain ⟨tx, rx, r, htx, hrx, haccepted, hrf, hkept, rfl⟩ := setRfConfig_eq_ok hcall
  have hrxLen := StreamMapper.length_of_chooseMapping hrx
  have hset := RFConfiguration.decimSet_of_setRfConfig hdec
    (StreamMapper.length_of_chooseMapping htx) hrxLen hrf
  have hmapped : ∀ antenna ∈ rx, r.ddcDecim (b.getDDCChannelPair antenna) =
      b.decimation i.1.rxSamplingRate :=
    fun antenna h => (hset _).1 (List.mem_map_of_mem h)
  have hstep : DecimationAgrees b (rfStep b c i) ↔
      r.ddcDecim (.first, 0) = b.decimation i.1.rxSamplingRate := by
    rw [rfStep, hcall]
    simp only [DecimationAgrees, finalState_ok, RFConfiguration.getRxDecimationRatio, hdec, if_true]
    constructor
    · intro h
      -- there is a mapped antenna, because a config without RX streams is rejected
      have hpos : rx ≠ [] := by
        rintro rfl
        have hone := haccepted.counts.rx_pos
        rw [RFConfiguration.toNat_toUInt32_of_pos hone, List.length_nil] at hrxLen
        omega
      obtain ⟨antenna, rest, rfl⟩ := List.exists_cons_of_ne_nil hpos
      exact (h antenna List.mem_cons_self).symm.trans (hmapped antenna List.mem_cons_self)
    · intro h antenna hantenna
      rw [hmapped antenna hantenna, h]
  rw [hstep, FirstChannelFollows]
  simp only [hrx, Except.ok.injEq, exists_eq_left']
  by_cases hread : ∃ antenna ∈ rx, b.getDDCChannelPair antenna = (.first, 0)
  · obtain ⟨antenna, hantenna, hchannel⟩ := hread
    have hvalue := hmapped antenna hantenna
    rw [hchannel] at hvalue
    exact ⟨fun _ => Or.inl ⟨antenna, hantenna, hchannel⟩, fun _ => hvalue⟩
  · have hkeep := (hset (.first, 0)).2 (by simpa using hread)
    rw [hkeep]
    exact ⟨Or.inr, fun h => h.resolve_left hread⟩

/-- **When the decimation factor agrees.**  Along calls that return, the factor
is the decimation of the channels of all mapped RX streams after every call, if
and only if every call maps an antenna to the channel that is read, or leaves
that channel at the decimation of the new rate. -/
theorem decimation_agrees_iff (b : RfNocBlocks) (hdec : b.supportsDecimation = true)
    (c : Components) (calls : List RfInput)
    (hreturns : Machine.AllSteps (rfStep b) (Returns b) c calls) :
    Machine.AllSteps (rfStep b) (fun c i => DecimationAgrees b (rfStep b c i)) c calls ↔
      Machine.AllSteps (rfStep b) (FirstChannelFollows b) c calls :=
  Machine.AllSteps.iff_of_steps (fun _ _ => decimation_agrees_step_iff hdec) hreturns

/-- Antenna 0 at half the master clock, then antenna 1 at a quarter: the factor
stays 2, and the DDC channel of antenna 1 decimates by 4. -/
theorem decimation_disagrees :
    Machine.AllSteps (rfStep exampleDevice) (Returns exampleDevice) exampleStart
        [rxRequest 0 122880000, rxRequest 1 61440000] ∧
      ¬ Machine.AllSteps (rfStep exampleDevice)
        (fun c i => DecimationAgrees exampleDevice (rfStep exampleDevice c i)) exampleStart
        [rxRequest 0 122880000, rxRequest 1 61440000] := by
  have hfirst : Returns exampleDevice exampleStart (rxRequest 0 122880000) :=
    rxRequest_returns rfl rfl (by decide +kernel) (by decide +kernel) _
  have hsecond : Returns exampleDevice
      (rfStep exampleDevice exampleStart (rxRequest 0 122880000)) (rxRequest 1 61440000) :=
    rxRequest_returns rfl rfl (by decide +kernel) (by decide +kernel) _
  refine ⟨⟨hfirst, hsecond, trivial⟩, ?_⟩
  rintro ⟨-, hagrees, -⟩
  rcases (decimation_agrees_step_iff rfl hsecond).mp hagrees with
    ⟨rx, hrx, antenna, hantenna, hchannel⟩ | hdecim
  · cases hrx
    rw [List.mem_singleton.mp hantenna] at hchannel
    cases hchannel
  · obtain ⟨c', hcall⟩ := hfirst
    obtain ⟨tx, rx, r, htx, hrx, -, hrf, -, rfl⟩ := setRfConfig_eq_ok hcall
    have hset := RFConfiguration.decimSet_of_setRfConfig rfl
      (StreamMapper.length_of_chooseMapping htx) (StreamMapper.length_of_chooseMapping hrx) hrf
    cases hrx
    have htwo := (hset (.first, 0)).1 (List.mem_singleton.mpr rfl)
    rw [rfStep, hcall, finalState_ok, htwo] at hdecim
    revert hdecim
    decide +kernel

/-- Two calls that map antenna 0, the second one at half the rate of the first. -/
theorem decimation_agrees_example :
    Machine.AllSteps (rfStep exampleDevice)
      (fun c i => DecimationAgrees exampleDevice (rfStep exampleDevice c i)) exampleStart
      [rxRequest 0 122880000, rxRequest 0 61440000] :=
  (decimation_agrees_iff exampleDevice rfl exampleStart
    [rxRequest 0 122880000, rxRequest 0 61440000]
    ⟨rxRequest_returns rfl rfl (by decide +kernel) (by decide +kernel) _,
      rxRequest_returns rfl rfl (by decide +kernel) (by decide +kernel) _, trivial⟩).mpr
    ⟨Or.inl ⟨[0], rfl, 0, List.mem_singleton.mpr rfl, rfl⟩,
      Or.inl ⟨[0], rfl, 0, List.mem_singleton.mpr rfl, rfl⟩, trivial⟩

end Components

end UsrpWrapper
