import UsrpWrapper.Streaming

/-!
# Preparing and starting an execution

What the calls before the threads leave: the stream counts of the device
(`Configured`), the accepted configs (`forM_setRxConfig_eq_ok`,
`forM_setTxConfig_eq_ok`), and the state in which the threads are spawned
(`execute_eq_ok`).
-/

namespace UsrpWrapper

open Lib Lib.Command

/-! ## A configured device -/

/-- The components hold these numbers of streams, which are possible. -/
structure Components.Configured (c : Components) (tx rx : ℕ) : Prop where
  counts : c.StreamCounts tx rx
  consistent : c.replayConfig.Consistent
  tx_pos : 0 < tx
  tx_le : tx ≤ 4
  rx_pos : 0 < rx
  rx_le : rx ≤ 4

namespace Usrp

variable {α : Type} {E : Environment α}

/-- **A call of `setRfConfig` that returns leaves a configured device.** -/
theorem configured_of_setRfConfig {conf : RfConfig} {a : RfAnswers} {u u' : Usrp α}
    (hconsistent : u.components.replayConfig.Consistent)
    (h : setRfConfig E conf a u = .ok () u') :
    ∃ tx rx, conf.noTxStreams.toInt = (tx : ℕ) ∧ conf.noRxStreams.toInt = (rx : ℕ) ∧
      u'.components.Configured tx rx := by
  unfold setRfConfig onComponents at h
  obtain ⟨c, hcall, rfl⟩ := onField_eq_ok_iff.mp h
  obtain ⟨tx, rx, r, htx, hrx, haccepted, -, hkept, rfl⟩ := Components.setRfConfig_eq_ok hcall
  have hcounts := Components.agree_of_counts (StreamMapper.length_of_chooseMapping htx)
    (StreamMapper.length_of_chooseMapping hrx) haccepted.counts hkept u.components.replayConfig
  obtain ⟨htx₁, htx₄, hrx₁, hrx₄⟩ := haccepted.counts
  have hcountTx := hcounts.countTx
  have hcountRx := hcounts.countRx
  rw [hkept.1] at hcountTx
  rw [hkept.2.1] at hcountRx
  refine ⟨tx.length, rx.length, hcountTx, hcountRx, hcounts, ?_, ?_, ?_, ?_, ?_⟩
  · exact ⟨rfl, rfl, hconsistent.txSize, hconsistent.rxSize, hconsistent.txSample,
      hconsistent.rxSample⟩
  all_goals omega

/-- A count that is not negative is kept by the conversion. -/
theorem toNat_sizeOfInt {n : Int32} {k : ℕ} (h : n.toInt = k) : (sizeOfInt n).toNat = k := by
  have hlt := n.toInt_lt
  rw [sizeOfInt, h, UInt64.ofInt, UInt64.toNat_ofNat']
  omega

/-! ## Accepted configs -/

/-- What an accepted TX config has passed, and what is stored of it. -/
theorem setTxConfig_eq_ok {conf : TxStreamingConfig α} {u u' : Usrp α}
    (h : setTxConfig E conf u = .ok () u') : ∃ c,
      assertValidTxSignal E.format.isnan conf.samples MAX_SAMPLES_TX_SIGNAL
          (sizeOfInt u.components.rfConfig.getNumTxStreams).toNat = .ok () ∧
        assertValidTxStreamingConfig u.txStreamingConfigs.getLast? conf GUARD_OFFSET_S
          u.components.rfConfig.getTxSamplingRate = .ok () ∧
        conf.alignToWordSize E.format.zero = .ok c ∧
        u' = { u with txStreamingConfigs := u.txStreamingConfigs ++ [c] } := by
  obtain ⟨_, u₁, hcheck, hrest⟩ := bind_eq_ok_iff.mp h
  obtain ⟨hvalid, rfl⟩ := reads_eq_ok_iff.mp hcheck
  obtain ⟨c, u₂, hlift, hmodify⟩ := bind_eq_ok_iff.mp hrest
  obtain ⟨haligned, rfl⟩ := liftE_eq_ok_iff.mp hlift
  cases hmodify
  obtain ⟨_, hsignal, hconfig⟩ := except_bind_eq_ok_iff.mp hvalid
  exact ⟨c, hsignal, hconfig, haligned, rfl⟩

/-- What an accepted RX config has passed. -/
theorem setRxConfig_eq_ok {conf : RxStreamingConfig} {u u' : Usrp α}
    (h : setRxConfig conf u = .ok () u') :
    assertValidRxStreamingConfig u.rxStreamingConfigs.getLast? conf GUARD_OFFSET_S
        u.components.rfConfig.getRxSamplingRate = .ok () ∧
      u' = { u with rxStreamingConfigs := u.rxStreamingConfigs ++ [conf] } := by
  obtain ⟨_, u₁, hcheck, hmodify⟩ := bind_eq_ok_iff.mp h
  obtain ⟨hvalid, rfl⟩ := reads_eq_ok_iff.mp hcheck
  cases hmodify
  exact ⟨hvalid, rfl⟩

/-- Accepted RX configs are appended to the list. -/
theorem forM_setRxConfig_eq_ok {configs : List RxStreamingConfig} {u u' : Usrp α}
    (h : forM configs setRxConfig u = .ok () u') :
    (∀ c ∈ configs, RxLengthsOk c) ∧
      u' = { u with rxStreamingConfigs := u.rxStreamingConfigs ++ configs } := by
  induction configs generalizing u with
  | nil =>
      cases h
      exact ⟨fun c hc => (nomatch hc), by rw [List.append_nil]⟩
  | cons c configs ih =>
      rw [List.forM_cons] at h
      obtain ⟨_, u₁, hset, htail⟩ := bind_eq_ok_iff.mp h
      obtain ⟨hvalid, rfl⟩ := setRxConfig_eq_ok hset
      obtain ⟨hlengths, rfl⟩ := ih htail
      refine ⟨fun c' hc' => ?_, by simp⟩
      rcases List.mem_cons.mp hc' with rfl | hc'
      · exact ((assertValidRxStreamingConfig_eq_ok_iff _ _ _ _).mp hvalid).1
      · exact hlengths c' hc'

/-- What is stored for an accepted TX config: signals of `len` samples, the
caller's ones with at most 7 zeros behind them, and none if they are repeated. -/
structure StoredAs (zero : α) (tx len : ℕ) (conf c : TxStreamingConfig α) : Prop where
  streams : c.samples.length = tx
  length : ∀ signal ∈ c.samples, signal.length = len
  len_le : len ≤ MAX_SAMPLES_TX_SIGNAL
  numRepetitions : c.numRepetitions = conf.numRepetitions
  numRepetitions_pos : 1 ≤ conf.numRepetitions.toInt
  padded : ∀ (s : ℕ) (signal : List α), c.samples[s]? = some signal →
    ∃ samples k, conf.samples[s]? = some samples ∧ k ≤ 7 ∧ (1 < conf.numRepetitions.toInt → k = 0) ∧
      signal = samples ++ List.replicate k zero

/-- One signal for each of the streams that were counted, whatever their number was. -/
theorem storedAs_of_accepted {conf : TxStreamingConfig α} {u u' : Usrp α}
    (h : setTxConfig E conf u = .ok () u') :
    ∃ c len, StoredAs E.format.zero (sizeOfInt u.components.rfConfig.getNumTxStreams).toNat len
        conf c ∧
      u' = { u with txStreamingConfigs := u.txStreamingConfigs ++ [c] } := by
  obtain ⟨c, hsignal, hconfig, haligned, rfl⟩ := setTxConfig_eq_ok h
  obtain ⟨first, hfirst, hcount, hsignals⟩ := assertValidTxSignal_eq_ok hsignal
  obtain ⟨hpos, hrepeated⟩ := assertValidTxStreamingConfig_eq_ok hconfig hfirst
  rw [TxStreamingConfig.alignToWordSize_eq_ok_iff hfirst] at haligned
  have hsamples : c.samples = resizeSignal E.format.zero conf.samples
      (nextMultipleOfWordSize (UInt64.ofNat first.length)) := by rw [haligned]
  have hreps : c.numRepetitions = conf.numRepetitions := by rw [haligned]
  have hle := (hsignals first (mem_of_firstSignal hfirst)).1
  have hmax : MAX_SAMPLES_TX_SIGNAL = 200000 := rfl
  have hlen : (UInt64.ofNat first.length).toNat = first.length := by
    rw [UInt64.toNat_ofNat']
    omega
  have hword : (nextMultipleOfWordSize (UInt64.ofNat first.length)).toNat =
      (first.length + 7) / 8 * 8 := by
    rw [nextMultipleOfWordSize_toNat (by omega), hlen]
  refine ⟨c, (first.length + 7) / 8 * 8, ⟨?_, ?_, by omega, hreps, hpos, ?_⟩, rfl⟩
  · rw [hsamples, resizeSignal, List.length_map, hcount]
  · intro signal hsignal
    rw [hsamples] at hsignal
    obtain ⟨samples, -, rfl⟩ := List.mem_map.mp hsignal
    rw [resize_length, hword]
  · intro s signal hget
    rw [hsamples, resizeSignal, List.getElem?_map] at hget
    obtain ⟨samples, hcaller, rfl⟩ := Option.map_eq_some_iff.mp hget
    obtain ⟨hi, hmem⟩ := List.getElem?_eq_some_iff.mp hcaller
    have hsame := (hsignals samples (hmem ▸ List.getElem_mem hi)).2
    rw [hword, resize_of_ge (by omega)]
    refine ⟨samples, (first.length + 7) / 8 * 8 - samples.length, hcaller, by omega,
      fun hmany => ?_, rfl⟩
    have haligned := hrepeated hmany
    omega

/-- An accepted TX config is appended, filled up to whole words. -/
theorem storedAs_of_setTxConfig {conf : TxStreamingConfig α} {u u' : Usrp α} {tx : ℕ}
    (htx : u.components.rfConfig.getNumTxStreams.toInt = tx)
    (h : setTxConfig E conf u = .ok () u') :
    ∃ c len, StoredAs E.format.zero tx len conf c ∧
      u' = { u with txStreamingConfigs := u.txStreamingConfigs ++ [c] } := by
  rw [← toNat_sizeOfInt htx]
  exact storedAs_of_accepted h

/-- Accepted TX configs are stored one after the other. -/
theorem forM_setTxConfig_eq_ok {confs : List (TxStreamingConfig α)} {u u' : Usrp α} {tx : ℕ}
    (htx : u.components.rfConfig.getNumTxStreams.toInt = tx)
    (h : forM confs (setTxConfig E) u = .ok () u') :
    ∃ stored,
      List.Forall₂ (fun conf c => ∃ len, StoredAs E.format.zero tx len conf c) confs stored ∧
      u' = { u with txStreamingConfigs := u.txStreamingConfigs ++ stored } := by
  induction confs generalizing u with
  | nil =>
      cases h
      exact ⟨[], List.Forall₂.nil, by rw [List.append_nil]⟩
  | cons conf confs ih =>
      rw [List.forM_cons] at h
      obtain ⟨_, u₁, hset, htail⟩ := bind_eq_ok_iff.mp h
      obtain ⟨c, len, hstored, rfl⟩ := storedAs_of_setTxConfig htx hset
      obtain ⟨stored, hall, rfl⟩ := ih (u := { u with
        txStreamingConfigs := u.txStreamingConfigs ++ [c] }) htx htail
      exact ⟨c :: stored, List.Forall₂.cons ⟨len, hstored⟩ hall, by simp⟩

/-! ## What an execution does -/

/-- The device when the upload starts: the threads are joined, and the trackers
are empty. -/
def prepared (u : Usrp α) : Usrp α :=
  putReplay u.components.replayConfig.reset (joinThreads u)

/-- What an upload keeps. -/
structure UploadFrame (u u' : Usrp α) : Prop where
  replay : ReplayBlockConfig.SideKept .rx (fun c => c.playRegion = none) u.components.replayConfig
    u'.components.replayConfig
  rfConfig : u'.components.rfConfig = u.components.rfConfig
  txConfigs : u'.txStreamingConfigs = u.txStreamingConfigs
  rxConfigs : u'.rxStreamingConfigs = u.rxStreamingConfigs

theorem uploadFrame_refl (u : Usrp α) : UploadFrame u u :=
  ⟨ReplayBlockConfig.sideKept_refl _ _ _, rfl, rfl, rfl⟩

/-- Uploading touches neither the configs nor the RX half of the memory. -/
theorem preserves_uploadConfigs {u : Usrp α} (a : ExecuteAnswers) (i : ℕ)
    (configs : List (TxStreamingConfig α)) :
    Preserves (UploadFrame u) (uploadConfigs E a i configs) := by
  induction configs generalizing i with
  | nil => exact Preserves.pure _
  | cons config configs ih =>
      refine (Preserves.liftE _).bind fun _ => ?_
      refine Preserves.bind ?_ fun _ => Preserves.bind ?_ fun _ => ih (i + 1)
      · refine Preserves.onField (fun _ r => ReplayBlockConfig.SideKept .rx
          (fun c => c.playRegion = none) u.components.replayConfig r) (fun _ hv => hv.replay)
          (fun _ _ => ReplayBlockConfig.preserves_recordBlock (by simp) _ _ _ _ _) ?_
        exact fun v r hv hr => ⟨hr, hv.rfConfig, hv.txConfigs, hv.rxConfigs⟩
      · exact Preserves.onField_of_put fun v g hv => { hv with }

theorem preserves_performUpload {u : Usrp α} (a : ExecuteAnswers) :
    Preserves (UploadFrame u) (performUpload E a) := by
  refine Preserves.get.bind fun _ => Preserves.bind ?_ fun _ => preserves_uploadConfigs _ _ _
  exact Preserves.onField_of_put fun v g hv => { hv with }

/-- Renewing the sample rates keeps the stored config. -/
theorem preserves_renewSampleRateSettings (b : RfNocBlocks) (m : StreamMapper) (a : RfAnswers)
    (stored : RfConfig) :
    Preserves (fun r => r.rfConfig = stored) (RFConfiguration.renewSampleRateSettings b m a) := by
  have hcall (c : RadioCall) : Preserves (fun r : RFConfiguration => r.rfConfig = stored)
      (RFConfiguration.call a c) := Preserves.liftE _
  have hrate {n : Int32} {mapping : List Int32} {rate : ℚ}
      {setRate : Int32 → RFConfiguration.RfM Unit}
      (hset : ∀ antenna,
        Preserves (fun r : RFConfiguration => r.rfConfig = stored) (setRate antenna)) :
      Preserves (fun r : RFConfiguration => r.rfConfig = stored)
        (RFConfiguration.setSampleRate b n mapping rate setRate) := by
    refine (Preserves.liftE _).bind fun _ => (Preserves.liftE _).bind fun _ => ?_
    split
    · exact Preserves.forM fun _ _ => (Preserves.liftE _).bind fun _ => hset _
    · exact Preserves.pure _
  refine Preserves.get.bind fun _ => Preserves.bind ?_ fun _ => ?_
  · refine Preserves.get.bind fun _ => hrate fun _ => ?_
    exact (hcall _).bind fun _ => Preserves.modify fun _ h => h
  · exact Preserves.get.bind fun _ => hrate fun _ => hcall _

/-- **What an execution does that returns**: an upload, and then the threads are
spawned with the number of RX streams connected. -/
theorem execute_eq_ok {a : ExecuteAnswers} {baseTime : ℚ} {u u' : Usrp α}
    (h : execute E a baseTime u = .ok () u') :
    ∃ v r startTime rxDecimFactor, performUpload E a (prepared u) = .ok () v ∧
      sizeOfInt v.components.rfConfig.getNumTxStreams = v.fdGraph.numTxStreams ∧
      r.rfConfig = v.components.rfConfig.rfConfig ∧
      u' = spawnThreads startTime rxDecimFactor { v with
        components := { v.components with rfConfig := r }
        fdGraph := { v.fdGraph with
          numRxStreams := sizeOfInt v.components.rfConfig.getNumRxStreams } } := by
  unfold execute at h
  rw [bind_of_ok (modify_apply _ _)] at h
  obtain ⟨_, u₁, hreset, hrest⟩ := bind_eq_ok_iff.mp h
  obtain ⟨r₁, hreset', rfl⟩ := onField_eq_ok_iff.mp hreset
  cases hreset'
  obtain ⟨_, v, hupload, hstreaming⟩ := bind_eq_ok_iff.mp hrest
  unfold performStreaming at hstreaming
  rw [bind_of_ok (get_apply v)] at hstreaming
  obtain ⟨_, v₁, hconnect, hrest'⟩ := bind_eq_ok_iff.mp hstreaming
  obtain ⟨g, hgraph, rfl⟩ := onField_eq_ok_iff.mp hconnect
  obtain ⟨hcount, rfl⟩ := FullDuplexGraph.connectForStreaming_eq_ok hgraph
  obtain ⟨_, v₂, hrenew, hspawn⟩ := bind_eq_ok_iff.mp hrest'
  obtain ⟨c, hcomponents, rfl⟩ := onField_eq_ok_iff.mp hrenew
  obtain ⟨r, hrf, rfl⟩ := onField_eq_ok_iff.mp hcomponents
  cases hspawn
  exact ⟨v, r, _, _, hupload, hcount,
    (preserves_renewSampleRateSettings _ _ _ _).of_ok rfl hrf, rfl⟩

/-! ### A device -/

/-- The host keeps the samples as they are on the wire. -/
def rawFormat : SampleFormat Wire where
  zero := fun _ => 0
  isnan := fun _ => false
  toWire := id
  toHost := id

/-- A wrapper for samples that are already words. -/
def exampleEnvironment : Environment Wire where
  blocks := Components.exampleDevice
  defaultRxPort := "RX2"
  format := rawFormat

/-- A replay memory of 1000 bytes, and one stream in each direction. -/
def exampleComponents : Components where
  streamMapper := ⟨[0], [0]⟩
  rfConfig := ⟨Components.exampleConfig 122880000 122880000, 1, 1, fun _ => 2⟩
  replayConfig := ReplayBlockConfig.setStreamCount 1 1 (ReplayBlockConfig.make 1000)

theorem configured_exampleComponents : exampleComponents.Configured 1 1 :=
  ⟨⟨rfl, rfl, rfl, rfl, rfl, rfl, rfl, rfl, rfl, rfl⟩,
    ReplayBlockConfig.consistent_make 1000 1 1, by omega, by omega, by omega, by omega⟩

/-- The device before its first execution. -/
def exampleUsrp : Usrp Wire where
  components := exampleComponents
  fdGraph :=
    { numTxStreams := 0
      numRxStreams := 0
      replayBlock := ⟨fun _ => 0, fun _ => ⟨⟨0, 0⟩, 0⟩, fun _ => ⟨0, 0⟩⟩
      radioCommands := [] }
  txStreamingConfigs := []
  rxStreamingConfigs := []
  receivedSamples := []
  transmitThread := .none
  receiveThread := .none
  transmitThreadException := none
  receiveThreadException := none
  baseTime := 0
  rxDecimFactor := 1
  sending := fun _ => []
  receiving := fun _ => []
  sent := []
  received := []

/-- Blocks that carry out every call, and packets that are sent as a whole. -/
def exampleExecuteAnswers : ExecuteAnswers where
  replay := fun _ => ReplayBlockConfig.noFullness
  upload := fun _ => ⟨[4096], none⟩
  rf := Components.obedient (Components.exampleConfig 122880000 122880000)
  fpgaTime := 0

/-- The time is 0, and all stream commands are accepted. -/
def exampleStreamAnswers : StreamAnswers where
  replay := ReplayBlockConfig.noFullness
  fpgaTime := 0
  accepts := fun _ => true

end Usrp

end UsrpWrapper
