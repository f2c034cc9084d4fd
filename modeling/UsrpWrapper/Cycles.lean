import UsrpWrapper.Transmission
import UsrpWrapper.CollectRetry

/-!
# Cycles of configuration, execution and collection

`Usrp` keeps its trackers, its configs and the results of its threads between calls.

* `collect_of_history`: whatever calls were made before, and however they ended, an
  execution that returns plays and records the configs that are stored then, and a
  `collect` that returns has their samples, and clears them.
* `session_correct`: so in a session of any number of cycles each one returns what
  belongs to its own configs.

What carries both is `Ready`.  Every call and every step of a thread keeps it, except
for a call of `setRfConfig` that throws and has changed something already
(`ready_callStep`).
-/

namespace UsrpWrapper

open Lib Lib.Command

/-! ## Sizes and counts -/

namespace BlockOffsetTracker

/-- The trackers have the same sizes and counts. -/
structure SameSizes (t t' : BlockOffsetTracker) : Prop where
  numStreams : t'.numStreams = t.numStreams
  memSize : t'.memSize = t.memSize
  sampleSize : t'.sampleSize = t.sampleSize

theorem sameSizes_refl (t : BlockOffsetTracker) : SameSizes t t := ⟨rfl, rfl, rfl⟩

variable {t : BlockOffsetTracker}

/-- A new block changes neither the sizes nor the stream count. -/
theorem sameSizes_recordNewBlock (numSamples numRepetitions repetitionPeriod : UInt64) :
    Preserves (SameSizes t) (recordNewBlock numSamples numRepetitions repetitionPeriod) := by
  refine (Preserves.reads _).bind fun _ => (Preserves.reads _).bind fun _ => ?_
  exact (Preserves.reads _).bind fun _ => Preserves.modify fun _ h => { h with }

theorem sameSizes_replayNextBlock (numSamples : UInt64) :
    Preserves (SameSizes t) (replayNextBlock numSamples) := by
  refine (Preserves.reads _).bind fun _ => Preserves.bind (Preserves.modify fun _ h => { h with })
    fun _ => ?_
  refine (Preserves.reads _).bind fun reps => Preserves.bind (Preserves.modify fun t' h => ?_)
    fun _ => Preserves.reads _
  split
  · exact { h with }
  · exact h

end BlockOffsetTracker

namespace ReplayBlockConfig

/-- The replay configurations have the same sizes and counts. -/
structure SameSizes (r r' : ReplayBlockConfig) : Prop where
  memSize : r'.memSize = r.memSize
  streams : ∀ d, r'.numStreams d = r.numStreams d
  blocks : ∀ d, (r.blocks d).SameSizes (r'.blocks d)

theorem sameSizes_refl (r : ReplayBlockConfig) : SameSizes r r :=
  ⟨rfl, fun _ => rfl, fun _ => BlockOffsetTracker.sameSizes_refl _⟩

section

variable {r r' : ReplayBlockConfig} {d : Direction}

/-- The invariant of the halves is one of the sizes. -/
theorem SameSizes.consistent (h : SameSizes r r') (hr : r.Consistent) : r'.Consistent := by
  refine ⟨?_, ?_, ?_, ?_, ?_, ?_⟩
  · exact (h.blocks .tx).numStreams.trans (hr.txStreams.trans (h.streams .tx).symm)
  · exact (h.blocks .rx).numStreams.trans (hr.rxStreams.trans (h.streams .rx).symm)
  · rw [h.memSize]
    exact (h.blocks .tx).memSize.trans hr.txSize
  · rw [h.memSize]
    exact (h.blocks .rx).memSize.trans hr.rxSize
  · exact (h.blocks .tx).sampleSize.trans hr.txSample
  · exact (h.blocks .rx).sampleSize.trans hr.rxSample

theorem sameSizes_reset : SameSizes r r.reset := by
  refine ⟨rfl, fun d => ?_, fun d => ?_⟩
  · cases d <;> rfl
  · cases d <;> exact ⟨rfl, rfl, rfl⟩

theorem sameSizes_issue (c : ReplayCommand) :
    Preserves (ε := Fault) (SameSizes r) (modify (issue c)) := by
  refine Preserves.modify fun s hs => ⟨hs.memSize, fun d => ?_, fun d => ?_⟩
  · rw [← hs.streams d]
    cases d <;> rfl
  · have hblocks := hs.blocks d
    cases d <;> exact hblocks

theorem sameSizes_onTracker {x : TrackerM Unit}
    (hx : ∀ t, Preserves (BlockOffsetTracker.SameSizes t) x) :
    Preserves (SameSizes r) (onField (fun r => r.blocks d) (setBlocks d) x) := by
  refine Preserves.onField (fun _ t => (r.blocks d).SameSizes t) (fun _ hs => hs.blocks d)
    (fun _ _ => hx _) fun s t hs ht => ⟨?_, fun d' => ?_, fun d' => ?_⟩
  · rw [memSize_setBlocks, hs.memSize]
  · rw [numStreams_setBlocks, hs.streams d']
  · by_cases hd : d' = d
    · rw [hd, blocks_setBlocks]
      exact ht
    · rw [blocks_setBlocks_of_ne hd]
      exact hs.blocks d'

theorem sameSizes_issueForStreams (offset : BlockOffsetTracker → UInt64 → Except Fault UInt64)
    (command : UInt64 → ℕ → ReplayCommand) :
    Preserves (SameSizes r) (issueForStreams d offset command) := by
  refine Preserves.get.bind fun r' => Preserves.forM fun s _ => ?_
  exact (Preserves.reads _).bind fun off s hs => sameSizes_issue _ s hs

theorem sameSizes_clearRounds (answers : ReplayAnswers) (rounds : List ℕ) :
    Preserves (SameSizes r) (clearRounds answers rounds) := by
  induction rounds with
  | nil => exact Preserves.throw _
  | cons t rounds ih =>
      unfold clearRounds
      split
      · exact (Preserves.forM fun c _ => sameSizes_issue _).bind fun _ => ih
      · exact Preserves.pure _

/-- `configUpload` and `configReceive` keep the sizes. -/
theorem sameSizes_recordBlock (numSamples reps period numBytes : UInt64)
    (answers : ReplayAnswers) :
    Preserves (SameSizes r) (recordBlock d numSamples reps period numBytes answers) := by
  refine (sameSizes_onTracker fun _ => ?_).bind fun _ =>
    (sameSizes_issueForStreams _ _).bind fun _ => sameSizes_clearRounds _ _
  exact BlockOffsetTracker.sameSizes_recordNewBlock _ _ _

/-- `configTransmit` and `configDownload` keep the sizes. -/
theorem sameSizes_playBlock (numSamples : UInt64) :
    Preserves (SameSizes r) (playBlock d numSamples) :=
  (sameSizes_onTracker fun _ => BlockOffsetTracker.sameSizes_replayNextBlock _).bind fun _ =>
    sameSizes_issueForStreams _ _

end

end ReplayBlockConfig

namespace Components

/-- The mappings, the stored config and all sizes and counts are the same. -/
structure SameShape (c c' : Components) : Prop where
  streamMapper : c'.streamMapper = c.streamMapper
  stored : c'.rfConfig.rfConfig = c.rfConfig.rfConfig
  countTx : c'.rfConfig.numTxStreams = c.rfConfig.numTxStreams
  countRx : c'.rfConfig.numRxStreams = c.rfConfig.numRxStreams
  replay : c.replayConfig.SameSizes c'.replayConfig

theorem sameShape_refl (c : Components) : SameShape c c :=
  ⟨rfl, rfl, rfl, rfl, ReplayBlockConfig.sameSizes_refl _⟩

/-- What leaves the components alone leaves their shape alone. -/
theorem Unchanged.sameShape {c c' : Components} (h : Unchanged c c') : SameShape c c' := by
  refine ⟨h.streamMapper, h.stored, h.countTx, h.countRx, ?_⟩
  rw [h.replayConfig]
  exact ReplayBlockConfig.sameSizes_refl _

/-- A configured device stays configured while the shape is the same. -/
theorem SameShape.configured {c c' : Components} {tx rx : ℕ} (h : SameShape c c')
    (hc : c.Configured tx rx) : c'.Configured tx rx := by
  have hcounts := hc.counts
  have htx := h.replay.streams .tx
  have hrx := h.replay.streams .rx
  refine ⟨⟨?_, ?_, ?_, ?_, ?_, ?_, ?_, ?_, ?_, ?_⟩, h.replay.consistent hc.consistent, hc.tx_pos,
    hc.tx_le, hc.rx_pos, hc.rx_le⟩
  · rw [h.streamMapper, hcounts.mapperTx]
  · rw [h.streamMapper, hcounts.mapperRx]
  · rw [RFConfiguration.getNumTxStreams, h.stored]
    exact hcounts.storedTx
  · rw [RFConfiguration.getNumRxStreams, h.stored]
    exact hcounts.storedRx
  · rw [h.countTx, hcounts.countTx]
  · rw [h.countRx, hcounts.countRx]
  · exact (congrArg UInt64.toNat htx).trans hcounts.replayTx
  · exact (congrArg UInt64.toNat hrx).trans hcounts.replayRx
  · exact (congrArg UInt64.toNat (h.replay.blocks .tx).numStreams).trans hcounts.trackerTx
  · exact (congrArg UInt64.toNat (h.replay.blocks .rx).numStreams).trans hcounts.trackerRx

/-- What a renewal of the sample rates keeps: it sets decimations. -/
theorem preserves_renewal {I : RFConfiguration → Prop}
    (hI : ∀ r ddcDecim, I r → I { r with ddcDecim }) (b : RfNocBlocks) (m : StreamMapper)
    (a : RfAnswers) : Preserves I (RFConfiguration.renewSampleRateSettings b m a) := by
  have hcall (c : RadioCall) : Preserves I (RFConfiguration.call a c) := Preserves.liftE _
  have hrate {n : Int32} {mapping : List Int32} {rate : ℚ}
      {setRate : Int32 → RFConfiguration.RfM Unit}
      (hset : ∀ antenna, Preserves I (setRate antenna)) :
      Preserves I (RFConfiguration.setSampleRate b n mapping rate setRate) := by
    refine (Preserves.liftE _).bind fun _ => (Preserves.liftE _).bind fun _ => ?_
    split
    · exact Preserves.forM fun _ _ => (Preserves.liftE _).bind fun _ => hset _
    · exact Preserves.pure _
  refine Preserves.get.bind fun _ => Preserves.bind ?_ fun _ => Preserves.get.bind fun _ =>
    hrate fun _ => hcall _
  refine Preserves.get.bind fun _ => hrate fun _ => ?_
  exact (hcall _).bind fun _ => Preserves.modify fun r h => hI r _ h

end Components

namespace Usrp

open ReplayBlockConfig Components

variable {α β : Type} {E : Environment α}

/-! ## What calls keep -/

/-- The components have the shape of `c`. -/
def Shaped (c : Components) (u : Usrp α) : Prop := c.SameShape u.components

section

variable {c : Components} {u u' : Usrp α}

/-- A call of the replay configuration that keeps the sizes keeps the shape of the device. -/
theorem shaped_onReplay {x : EStateM Fault ReplayBlockConfig β}
    (hx : ∀ r, Preserves (SameSizes r) x) : Preserves (Shaped (α := α) c) (onReplay x) := by
  refine Preserves.onField (fun _ r => c.replayConfig.SameSizes r) (fun _ h => h.replay)
    (fun _ _ => hx _) fun u r hu hr => ?_
  exact ⟨hu.streamMapper, hu.stored, hu.countTx, hu.countRx, hr⟩

theorem shaped_onGraph (x : EStateM Fault FullDuplexGraph β) :
    Preserves (Shaped (α := α) c) (onGraph x) :=
  Preserves.onField_of_put fun _ _ h => h

theorem shaped_uploadConfigs (a : ExecuteAnswers) (i : ℕ) (configs : List (TxStreamingConfig α)) :
    Preserves (Shaped c) (uploadConfigs E a i configs) := by
  induction configs generalizing i with
  | nil => exact Preserves.pure _
  | cons config configs ih =>
      refine (Preserves.liftE _).bind fun _ => (shaped_onReplay fun _ => ?_).bind fun _ => ?_
      · exact sameSizes_recordBlock _ _ _ _ _
      · exact (shaped_onGraph _).bind fun _ => ih (i + 1)

/-- `execute` keeps the shape. -/
theorem shaped_execute (a : ExecuteAnswers) (baseTime : ℚ) :
    Preserves (Shaped c) (execute E a baseTime) := by
  refine Preserves.bind (Preserves.modify fun _ h => h) fun _ => ?_
  refine (shaped_onReplay fun r => ?_).bind fun _ => Preserves.bind ?_ fun _ => ?_
  · refine Preserves.modify fun r' h => ?_
    have hreset := sameSizes_reset (r := r')
    exact ⟨hreset.memSize.trans h.memSize, fun d => (hreset.streams d).trans (h.streams d),
      fun d => ⟨(hreset.blocks d).numStreams.trans (h.blocks d).numStreams,
        (hreset.blocks d).memSize.trans (h.blocks d).memSize,
        (hreset.blocks d).sampleSize.trans (h.blocks d).sampleSize⟩⟩
  · exact Preserves.get.bind fun _ => (shaped_onGraph _).bind fun _ => shaped_uploadConfigs _ _ _
  · refine Preserves.get.bind fun u => (shaped_onGraph _).bind fun _ => Preserves.bind ?_ fun _ =>
      Preserves.modify fun _ h => h
    refine Preserves.onField (fun _ c' => c.SameShape c') (fun _ h => h) (fun _ _ => ?_)
      fun _ _ _ h => h
    refine Preserves.onField (fun _ r => r.rfConfig = c.rfConfig.rfConfig ∧
      r.numTxStreams = c.rfConfig.numTxStreams ∧ r.numRxStreams = c.rfConfig.numRxStreams)
      (fun _ h => ⟨h.stored, h.countTx, h.countRx⟩) (fun _ _ => ?_) fun c' r h hr => ?_
    · exact preserves_renewal (fun _ _ h => h) _ _ _
    · exact ⟨h.streamMapper, hr.1, hr.2.1, hr.2.2, h.replay⟩

/-- `collect` keeps the shape. -/
theorem shaped_collect (a : ℕ → List RecvAnswer) :
    Preserves (Shaped (α := α) c) (collect E a) := by
  refine Preserves.bind (Preserves.modify fun _ h => h) fun _ => (Preserves.reads _).bind fun _ =>
    (Preserves.reads _).bind fun _ => Preserves.bind ?_ fun _ => ?_
  · refine preserves_performDownload (fun _ => ?_) (fun _ _ h => h) (fun _ _ h => h) a
    exact shaped_onReplay fun _ => sameSizes_playBlock _
  · exact Preserves.bind (Preserves.modify fun _ h => h) fun _ => Preserves.reads _

theorem shaped_startTransmit (config : TxStreamingConfig α) (a : StreamAnswers) :
    Preserves (Shaped c) (startTransmit config a) := by
  refine Preserves.get.bind fun _ => (Preserves.liftE _).bind fun _ =>
    (shaped_onReplay fun _ => sameSizes_playBlock _).bind fun _ => ?_
  exact (shaped_onGraph _).bind fun _ => Preserves.pure _

theorem shaped_startReceive (config : RxStreamingConfig) (a : StreamAnswers) :
    Preserves (Shaped c) (startReceive E config a) := by
  refine Preserves.get.bind fun _ =>
    (shaped_onReplay fun _ => sameSizes_recordBlock _ _ _ _ _).bind fun _ => ?_
  refine (shaped_onGraph _).bind fun _ => (Preserves.liftE _).bind fun _ => ?_
  exact (shaped_onGraph _).bind fun _ => Preserves.pure _

theorem TxStep.shaped (h : TxStep u u') (hu : Shaped c u) : Shaped c u' := by
  cases h with
  | start i total config a u' thread stored started =>
      have hkept := (shaped_startTransmit config a).of_ok hu started
      exact hkept
  | startFailed config a e u' failed =>
      have hkept := (shaped_startTransmit config a).of_error hu failed
      exact hkept
  | _ => exact hu

theorem RxStep.shaped (h : RxStep E u u') (hu : Shaped c u) : Shaped c u' := by
  cases h with
  | start i total config a u' thread stored started =>
      have hkept := (shaped_startReceive config a).of_ok hu started
      exact hkept
  | startFailed config a e u' failed =>
      have hkept := (shaped_startReceive config a).of_error hu failed
      exact hkept
  | _ => exact hu

/-- The steps of the threads keep the shape. -/
theorem shaped_step {e : Event α} (he : e.isStreaming = true) (h : Shaped c u) :
    Shaped c (step E u e) := by
  rcases step_cases (E := E) he u with htx | hrx
  · exact htx.shaped h
  · exact hrx.shaped h

end

/-! ## Devices that are ready -/

/-- `setRfConfig` has configured the device, and all its configs were accepted. -/
structure Ready (u : Usrp α) : Prop where
  configured : ∃ tx rx, u.components.Configured tx rx
  tx : ∀ c ∈ u.txStreamingConfigs, 1 ≤ c.numRepetitions.toInt ∧ ∃ n len, Uniform n len c
  rx : ∀ c ∈ u.rxStreamingConfigs, RxLengthsOk c

/-- A call of `setRfConfig` that throws has changed nothing. -/
def RfSafe (E : Environment α) (u : Usrp α) : Call α → Prop
  | .event (.setRfConfig conf a) => ∀ e c',
      Components.setRfConfig E.blocks conf a u.components = .error e c' →
        Unchanged u.components c'
  | _ => True

section

variable {u u' : Usrp α}

/-- A call that keeps the shape and, of each list, at most drops configs. -/
theorem Ready.keep (h : Ready u) (hshape : Shaped u.components u')
    (htx : ∀ c ∈ u'.txStreamingConfigs, c ∈ u.txStreamingConfigs)
    (hrx : ∀ c ∈ u'.rxStreamingConfigs, c ∈ u.rxStreamingConfigs) : Ready u' := by
  obtain ⟨tx, rx, hconfigured⟩ := h.configured
  exact ⟨⟨tx, rx, hshape.configured hconfigured⟩, fun c hc => h.tx c (htx c hc),
    fun c hc => h.rx c (hrx c hc)⟩

/-- Readiness depends on the shape of the components and on the configs. -/
theorem Ready.same (h : Ready u) (hshape : Shaped u.components u') (hsame : SameConfigs u u') :
    Ready u' := by
  refine h.keep hshape (fun c hc => ?_) fun c hc => ?_
  · rwa [hsame.1] at hc
  · rwa [hsame.2] at hc

/-- A config that is rejected leaves nothing behind. -/
theorem setTxConfig_of_error {conf : TxStreamingConfig α} {e : Fault}
    (h : setTxConfig E conf u = .error e u') : u' = u := by
  rw [setTxConfig, bind_eq_error_iff] at h
  rcases h with h | ⟨_, u₁, hok, h⟩
  · exact (reads_eq_error_iff.mp h).2
  · obtain ⟨-, rfl⟩ := reads_eq_ok_iff.mp hok
    rcases bind_eq_error_iff.mp h with h | ⟨_, u₂, -, hmodify⟩
    · exact (reads_eq_error_iff.mp h).2
    · cases hmodify

/-- Accepted or not, a TX config leaves the device ready. -/
theorem ready_setTxConfig (conf : TxStreamingConfig α) :
    Preserves (Ready (α := α)) (setTxConfig E conf) := by
  intro u h
  cases hcall : setTxConfig E conf u with
  | error e u' =>
      obtain rfl := setTxConfig_of_error hcall
      exact h
  | ok v u' =>
      obtain ⟨tx, rx, hconfigured⟩ := h.configured
      obtain ⟨c, len, hstored, rfl⟩ :=
        storedAs_of_setTxConfig hconfigured.counts.storedTx hcall
      refine ⟨h.configured, fun c' hc' => ?_, h.rx⟩
      rcases List.mem_append.mp hc' with hold | hnew
      · exact h.tx c' hold
      · rw [List.mem_singleton.mp hnew, hstored.numRepetitions]
        exact ⟨hstored.numRepetitions_pos, tx, len, hstored.uniform⟩

theorem ready_setRxConfig (conf : RxStreamingConfig) :
    Preserves (Ready (α := α)) (setRxConfig conf) := by
  intro u h
  rcases rxRequest_cases u conf with hkept | hok
  · rw [rxRequest] at hkept
    rw [hkept]
    exact h
  · obtain ⟨⟨hlengths, -⟩, hstored⟩ := setRxConfig_eq_ok_iff.mp hok
    rw [rxRequest] at hstored
    rw [hstored]
    refine ⟨h.configured, h.tx, fun c hc => ?_⟩
    rcases List.mem_append.mp hc with hold | hnew
    · exact h.rx c hold
    · rw [List.mem_singleton.mp hnew]
      exact hlengths

/-- A reconfiguration leaves the device ready, unless it fails after it has stored something. -/
theorem ready_setRfConfig (h : Ready u) {conf : RfConfig} {a : RfAnswers}
    (hsafe : RfSafe E u (.event (.setRfConfig conf a))) :
    Ready (finalState (setRfConfig E conf a u)) := by
  have hsame : SameConfigs u (finalState (setRfConfig E conf a u)) :=
    sameConfigs_onComponents _ u ⟨rfl, rfl⟩
  cases hcall : setRfConfig E conf a u with
  | ok v u' =>
      obtain ⟨tx, rx, hconfigured⟩ := h.configured
      obtain ⟨tx', rx', -, -, hconfigured'⟩ :=
        configured_of_setRfConfig hconfigured.consistent hcall
      rw [hcall] at hsame
      obtain ⟨htx, hrx⟩ : SameConfigs u u' := hsame
      refine ⟨⟨tx', rx', hconfigured'⟩, ?_, ?_⟩
      · show ∀ c ∈ u'.txStreamingConfigs, _
        rw [htx]
        exact h.tx
      · show ∀ c ∈ u'.rxStreamingConfigs, _
        rw [hrx]
        exact h.rx
  | error e u' =>
      rw [hcall] at hsame
      unfold setRfConfig onComponents at hcall
      obtain ⟨c', herror, rfl⟩ := onField_eq_error_iff.mp hcall
      exact h.same (hsafe e c' herror).sameShape hsame

/-- **Every call keeps the device ready**, whether it returns or throws, and every
step of a thread. -/
theorem ready_callStep (h : Ready u) {x : Call α} (hsafe : RfSafe E u x) :
    Ready (callStep E u x) := by
  have hshape := sameShape_refl u.components
  cases x with
  | event e =>
      by_cases he : e.isStreaming = true
      · have hcontinues := continues_step (E := E) he u
        exact h.same (shaped_step he hshape) ⟨hcontinues.txConfigs, hcontinues.rxConfigs⟩
      · cases e with
        | setTxConfig conf => exact ready_setTxConfig conf u h
        | setRxConfig conf => exact ready_setRxConfig conf u h
        | setRfConfig conf a => exact ready_setRfConfig h hsafe
        | _ => exact absurd rfl he
  | resetStreamingConfigs =>
      exact h.keep hshape (fun c hc => nomatch hc) fun c hc => nomatch hc
  | execute a baseTime =>
      exact h.same (shaped_execute a baseTime u hshape)
        (sameConfigs_execute a baseTime u ⟨rfl, rfl⟩)
  | collect a =>
      have hcollect := shaped_collect (E := E) a u hshape
      rcases sameConfigs_collect (E := E) (u := u) a u (Or.inl ⟨rfl, rfl⟩) with hsame | ⟨htx, hrx⟩
      · exact h.same hcollect hsame
      · refine h.keep hcollect (fun c hc => ?_) fun c hc => ?_
        · rw [show (callStep E u (.collect a)).txStreamingConfigs = [] from htx] at hc
          cases hc
        · rw [show (callStep E u (.collect a)).rxStreamingConfigs = [] from hrx] at hc
          cases hc

end

/-! ## One execution -/

/-- The numbers of streams of the device. -/
def numTx (u : Usrp α) : ℕ := (sizeOfInt u.components.rfConfig.getNumTxStreams).toNat

/-- The number of its RX streams. -/
def numRx (u : Usrp α) : ℕ := (sizeOfInt u.components.rfConfig.getNumRxStreams).toNat

/-- `v` has played the configs of `u`, and `result` are the samples it has recorded for
them, if no size wraps. -/
structure Streamed (E : Environment α) (u v : Usrp α) (result : List (MimoSignal α)) : Prop where
  collected : NoWrap u.rxStreamingConfigs (numRx u) →
    Collected E u.rxStreamingConfigs (numRx u) v.received result
  sent : SentOk E (numTx u) u.txStreamingConfigs v.sent
  complete : v.sent.length = u.txStreamingConfigs.length

section

variable {u u' v : Usrp α} {a : ExecuteAnswers} {baseTime : ℚ} {events : List (Event α)}
  {answers : ℕ → List RecvAnswer} {result : List (MimoSignal α)}

/-- The stream counts of a configured device are those of its config. -/
theorem configured_counts {tx rx : ℕ} (h : u.components.Configured tx rx) :
    numTx u = tx ∧ numRx u = rx :=
  ⟨toNat_sizeOfInt h.counts.storedTx, toNat_sizeOfInt h.counts.storedRx⟩

/-- The configs are uniform for the streams of the execution, which compares them. -/
theorem uniform_of_execute {tx rx : ℕ} (h : Ready u) (hconfigured : u.components.Configured tx rx)
    (hexecute : execute E a baseTime u = .ok () u') :
    ∀ c ∈ u.txStreamingConfigs, 1 ≤ c.numRepetitions.toInt ∧ ∃ len, Uniform tx len c := by
  intro c hc
  obtain ⟨hpos, n, len, huniform⟩ := h.tx c hc
  have hstreams := streams_of_execute hexecute c hc
  rw [show (sizeOfInt u.components.rfConfig.getNumTxStreams).toNat = tx from
    (configured_counts hconfigured).1] at hstreams
  exact ⟨hpos, len, ⟨hstreams, huniform.length, huniform.len_le⟩⟩

/-- **One execution and its collection**, on a device that is ready. -/
theorem streamed_of_ready (h : Ready u) (hexecute : execute E a baseTime u = .ok () v)
    (hstreaming : ∀ e ∈ events, e.isStreaming = true)
    (htx : (Machine.run (step E) v events).transmitThread = .finished)
    (hrx : (Machine.run (step E) v events).receiveThread = .finished)
    (hcollect : collect E answers (Machine.run (step E) v events) = .ok result u') :
    Streamed E u (Machine.run (step E) v events) result := by
  obtain ⟨tx, rx, hconfigured⟩ := h.configured
  obtain ⟨hnumTx, hnumRx⟩ := configured_counts hconfigured
  have hfailed := (collect_eq_ok hcollect).1
  have hnone : (Machine.run (step E) v events).transmitThreadException = none :=
    not_not.mp fun hne => hfailed (Or.inl hne)
  have huniform := uniform_of_execute h hconfigured hexecute
  have hsending := txProgress_run hconfigured.tx_pos hconfigured.rx_le huniform
    (txProgress_of_execute hconfigured rfl (fun c hc => (huniform c hc).2) hexecute) hstreaming
  refine ⟨fun hwrap => ?_, ?_, ?_⟩
  · rw [hnumRx] at hwrap ⊢
    have hreceiving := (rxProgress_run hwrap (rxProgress_of_execute hconfigured rfl hexecute)
      hstreaming).resolve_left hfailed
    cases hreceiving with
    | next i thread _ _ _ =>
        rw [hrx] at thread
        cases thread
    | busy i c thread _ _ _ _ =>
        rw [hrx] at thread
        cases thread
    | finished _ hreceived side =>
        exact collected_of_collect h.rx hconfigured.rx_pos side hreceived hcollect
  · rw [hnumTx]
    exact hsending.sent_ok
  · cases hsending with
    | next i thread _ _ _ _ _ =>
        rw [htx] at thread
        cases thread
    | busy i total c thread _ =>
        rw [htx] at thread
        cases thread
    | ended _ _ complete => exact complete hnone

/-- A `collect` that returns has cleared the configs. -/
theorem cleared_of_collect (h : collect E answers u = .ok result u') :
    u'.txStreamingConfigs = [] ∧ u'.rxStreamingConfigs = [] := by
  unfold collect at h
  obtain ⟨_, u₁, -, h⟩ := bind_eq_ok_iff.mp h
  obtain ⟨_, u₂, -, h⟩ := bind_eq_ok_iff.mp h
  obtain ⟨_, u₃, -, h⟩ := bind_eq_ok_iff.mp h
  obtain ⟨_, u₄, -, h⟩ := bind_eq_ok_iff.mp h
  rw [bind_of_ok (modify_apply _ _)] at h
  obtain ⟨-, rfl⟩ := reads_eq_ok_iff.mp h
  exact ⟨rfl, rfl⟩

/-- The calls of one execution keep the device ready. -/
theorem ready_of_streamed (h : Ready u) (hexecute : execute E a baseTime u = .ok () v)
    (hstreaming : ∀ e ∈ events, e.isStreaming = true)
    (hcollect : collect E answers (Machine.run (step E) v events) = .ok result u') :
    Ready u' := by
  have hexecuted : Ready v := by
    have hready := ready_callStep (E := E) h (x := .execute a baseTime) trivial
    rwa [callStep, hexecute] at hready
  have hrun : Ready (Machine.run (step E) v events) := by
    refine Machine.run_invariant Ready (fun w e hw he => ?_) hexecuted
      (Machine.AllSteps.of_forall hstreaming)
    have hcontinues := continues_step (E := E) he w
    exact hw.same (shaped_step he (sameShape_refl _)) ⟨hcontinues.txConfigs, hcontinues.rxConfigs⟩
  have hready := ready_callStep (E := E) hrun (x := .collect answers) trivial
  rwa [callStep, hcollect] at hready

end

/-! ## After any history -/

theorem ready_exampleUsrp : Ready exampleUsrp :=
  ⟨⟨1, 1, configured_exampleComponents⟩, fun _ hc => (nomatch hc), fun _ hc => (nomatch hc)⟩

/-- A cycle: the RF configuration may be changed, configs are set and executed, and the
result is collected. -/
structure Cycle (α : Type) where
  rf : Option (RfConfig × RfAnswers)
  txConfigs : List (TxStreamingConfig α)
  rxConfigs : List RxStreamingConfig
  execute : ExecuteAnswers
  baseTime : ℚ
  events : List (Event α)
  streaming : ∀ e ∈ events, e.isStreaming = true
  recv : ℕ → List RecvAnswer

/-- What comes of a cycle; `ended` says whether both threads had ended, for which
`collect` waits. -/
structure CycleResult (α : Type) where
  numTx : ℕ
  numRx : ℕ
  sent : List (ℕ → List Wire)
  received : List (ℕ → List Wire)
  ended : Bool
  samples : List (MimoSignal α)

/-- The RF configuration is changed, if the cycle has one. -/
def Cycle.configure (E : Environment α) (c : Cycle α) : UsrpM α Unit :=
  match c.rf with
  | none => pure ()
  | some (conf, a) => setRfConfig E conf a

/-- The calls of a cycle. -/
def Cycle.run (E : Environment α) (c : Cycle α) : UsrpM α (CycleResult α) := do
  c.configure E
  forM c.txConfigs (setTxConfig E)
  forM c.rxConfigs setRxConfig
  let u ← get
  Usrp.execute E c.execute c.baseTime
  modify fun u => Machine.run (step E) u c.events
  let v ← get
  let samples ← collect E c.recv
  return ⟨u.numTx, u.numRx, v.sent, v.received,
    v.transmitThread == .finished && v.receiveThread == .finished, samples⟩

/-- The result belongs to the configs of the cycle. -/
structure CycleCorrect (E : Environment α) (c : Cycle α) (r : CycleResult α) : Prop where
  collected : NoWrap c.rxConfigs r.numRx → Collected E c.rxConfigs r.numRx r.received r.samples
  transmitted : Transmitted E r.numTx c.txConfigs r.sent
  complete : r.sent.length = c.txConfigs.length

section

variable {u u' : Usrp α}

/-- What is played of stored configs, in terms of the caller's ones. -/
theorem transmitted_of_sentOk {tx : ℕ} {confs stored : List (TxStreamingConfig α)}
    {sent : List (ℕ → List Wire)}
    (hall : List.Forall₂ (fun conf c => ∃ len, StoredAs E.format.zero tx len conf c) confs stored)
    (hsent : SentOk E tx stored sent) : Transmitted E tx confs sent := by
  intro i played hplayed
  obtain ⟨c, hc, hplayback⟩ := hsent i played hplayed
  obtain ⟨hi, rfl⟩ := List.getElem?_eq_some_iff.mp hc
  have hi' : i < confs.length := by
    rw [hall.length_eq]
    exact hi
  obtain ⟨len, hstoredAs⟩ := hall.get hi' hi
  refine ⟨confs[i], List.getElem?_eq_getElem hi', fun s hs => ?_⟩
  rw [hplayback s hs]
  exact playback_of_storedAs hstoredAs hs

/-- The reconfiguration of a cycle, if there is one, leaves a device that is ready and its
configs. -/
theorem ready_configure {c : Cycle α} (h : Ready u) (hok : c.configure E u = .ok () u') :
    Ready u' ∧ SameConfigs u u' := by
  obtain ⟨_ | ⟨conf, a⟩, _, _, _, _, _, _, _⟩ := c
  · cases hok
    exact ⟨h, rfl, rfl⟩
  · have hset : onComponents (Components.setRfConfig E.blocks conf a) u = .ok () u' := hok
    have hsafe : RfSafe E u (.event (.setRfConfig conf a)) := by
      intro e c' herror
      unfold onComponents at hset
      obtain ⟨c'', hreturned, -⟩ := onField_eq_ok_iff.mp hset
      rw [hreturned] at herror
      cases herror
    have hready := ready_setRfConfig h hsafe
    have hsame := sameConfigs_onComponents (Components.setRfConfig E.blocks conf a) u ⟨rfl, rfl⟩
    unfold setRfConfig at hready
    rw [hset] at hready hsame
    exact ⟨hready, hsame⟩

/-- The device at the execution of a cycle that starts without configs. -/
structure Prepared (E : Environment α) (c : Cycle α) (u : Usrp α) : Prop where
  ready : Ready u
  tx : List.Forall₂ (fun conf stored => ∃ len, StoredAs E.format.zero (numTx u) len conf stored)
    c.txConfigs u.txStreamingConfigs
  rx : u.rxStreamingConfigs = c.rxConfigs

/-- A device that has accepted the configs of a cycle is prepared for it. -/
theorem prepared_of_accepted {c : Cycle α} {u₁ u₂ u₃ : Usrp α} (h : Ready u)
    (htx : u.txStreamingConfigs = []) (hrx : u.rxStreamingConfigs = [])
    (hconfigured : c.configure E u = .ok () u₁)
    (htxAccepted : forM c.txConfigs (setTxConfig E) u₁ = .ok () u₂)
    (hrxAccepted : forM c.rxConfigs setRxConfig u₂ = .ok () u₃) : Prepared E c u₃ := by
  obtain ⟨hready₁, hsameTx, hsameRx⟩ := ready_configure h hconfigured
  have hready₂ := (Preserves.forM fun conf _ => ready_setTxConfig conf).of_ok hready₁ htxAccepted
  have hready₃ := (Preserves.forM fun conf _ => ready_setRxConfig conf).of_ok hready₂ hrxAccepted
  obtain ⟨tx, rx, hcounts⟩ := hready₁.configured
  obtain rfl : numTx u₁ = tx := (configured_counts hcounts).1
  obtain ⟨stored, hall, rfl⟩ := forM_setTxConfig_eq_ok hcounts.counts.storedTx htxAccepted
  obtain ⟨-, rfl⟩ := forM_setRxConfig_eq_ok hrxAccepted
  refine ⟨hready₃, ?_, ?_⟩
  · show List.Forall₂ _ _ (u₁.txStreamingConfigs ++ stored)
    rw [hsameTx, htx, List.nil_append]
    exact hall
  · show u₁.rxStreamingConfigs ++ c.rxConfigs = c.rxConfigs
    rw [hsameRx, hrx, List.nil_append]

/-- A cycle that starts without configs is correct, and leaves none. -/
theorem cycleCorrect_of_run {c : Cycle α} {r : CycleResult α} (h : Ready u)
    (htx : u.txStreamingConfigs = []) (hrx : u.rxStreamingConfigs = [])
    (hrun : c.run E u = .ok r u') (hended : r.ended = true) :
    CycleCorrect E c r ∧ Ready u' ∧ u'.txStreamingConfigs = [] ∧ u'.rxStreamingConfigs = [] := by
  unfold Cycle.run at hrun
  obtain ⟨_, u₁, hconfigured, hrun⟩ := bind_eq_ok_iff.mp hrun
  obtain ⟨_, u₂, htxAccepted, hrun⟩ := bind_eq_ok_iff.mp hrun
  obtain ⟨_, u₃, hrxAccepted, hrun⟩ := bind_eq_ok_iff.mp hrun
  rw [bind_of_ok (get_apply u₃)] at hrun
  obtain ⟨_, v, hexecuted, hrun⟩ := bind_eq_ok_iff.mp hrun
  rw [bind_of_ok (modify_apply _ _), bind_of_ok (get_apply _)] at hrun
  obtain ⟨samples, u₅, hcollected, hreturn⟩ := bind_eq_ok_iff.mp hrun
  cases hreturn
  obtain ⟨htxEnded, hrxEnded⟩ := Bool.and_eq_true_iff.mp hended
  have hprepared := prepared_of_accepted h htx hrx hconfigured htxAccepted hrxAccepted
  have hstreamed := streamed_of_ready hprepared.ready hexecuted c.streaming (eq_of_beq htxEnded)
    (eq_of_beq hrxEnded) hcollected
  refine ⟨⟨?_, transmitted_of_sentOk hprepared.tx hstreamed.sent, ?_⟩, ?_,
    cleared_of_collect hcollected⟩
  · rw [← hprepared.rx]
    exact hstreamed.collected
  · rw [hprepared.tx.length_eq]
    exact hstreamed.complete
  · exact ready_of_streamed hprepared.ready hexecuted c.streaming hcollected

/-- **A session of any number of cycles.**  On a device that is ready and starts without configs,
each cycle plays its own TX configs, step by step, and returns for its own RX configs, if their
sizes do not wrap, the samples the streams delivered in it, and none of another cycle.  The
threads end as in `collect_of_history`. -/
theorem session_correct {cycles : List (Cycle α)} {results : List (CycleResult α)} (h : Ready u)
    (htx : u.txStreamingConfigs = []) (hrx : u.rxStreamingConfigs = [])
    (hsession : cycles.mapM (Cycle.run E) u = .ok results u')
    (hended : ∀ r ∈ results, r.ended = true) :
    List.Forall₂ (CycleCorrect E) cycles results := by
  induction cycles generalizing u results with
  | nil =>
      cases hsession
      exact List.Forall₂.nil
  | cons c cycles ih =>
      rw [List.mapM_cons] at hsession
      obtain ⟨r, u₁, hrun, hrest⟩ := bind_eq_ok_iff.mp hsession
      obtain ⟨rs, u₂, hrests, hreturn⟩ := bind_eq_ok_iff.mp hrest
      cases hreturn
      obtain ⟨hcorrect, hready, htx', hrx'⟩ :=
        cycleCorrect_of_run h htx hrx hrun (hended r List.mem_cons_self)
      exact List.Forall₂.cons hcorrect
        (ih hready htx' hrx' hrests fun r hr => hended r (List.mem_cons_of_mem _ hr))

end

/-- Eight samples are sent and received. -/
def exampleCycle : Cycle Wire where
  rf := none
  txConfigs := [exampleTxConfig]
  rxConfigs := [⟨8, 0, 1, 0, ""⟩]
  execute := exampleExecuteAnswers
  baseTime := 1
  events := [.txStart exampleStreamAnswers, .rxStart exampleStreamAnswers] ++
    (List.replicate 8 [.txSample 0, .rxSample 0 fun i => UInt8.ofNat i]).flatten ++
      [.rxEnd none, .txEnd none, .txStart exampleStreamAnswers, .rxStart exampleStreamAnswers]
  streaming := by decide
  recv := exampleGoodAnswers

/-- The example device runs two such cycles. -/
theorem session_correct_example :
    ∃ results u, [exampleCycle, exampleCycle].mapM (Cycle.run exampleEnvironment) exampleUsrp =
        .ok results u ∧
      List.Forall₂ (CycleCorrect exampleEnvironment) [exampleCycle, exampleCycle] results := by
  have hreturned : returnedWith (fun results => results.all CycleResult.ended)
      ([exampleCycle, exampleCycle].mapM (Cycle.run exampleEnvironment) exampleUsrp) = true := by
    decide +kernel
  obtain ⟨results, hsession, hended⟩ := exists_of_returnedWith hreturned
  exact ⟨results, _, hsession, session_correct ready_exampleUsrp rfl rfl hsession
    (List.all_eq_true.mp hended)⟩

end Usrp

end UsrpWrapper
