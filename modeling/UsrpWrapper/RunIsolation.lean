import UsrpWrapper.Execution

/-!
# Isolation of a run

`execute` returns while its threads still iterate over the config lists and use
the stream counts, and `collect` iterates over the RX configs once more.  A later
call of `setTxConfig`, `setRxConfig` or `setRfConfig` changes these members in
place.  (`transmit` and `receive`, which are not called, first move the lists into
locals.)

A run with such calls is compared with the run that has the same steps of the
threads and of the hardware, and none of the calls: it is determined by the
members at the end of `execute`.  The threads sleep as well, for durations they compute from
the sampling rates; and the DDCs decimate at the rate of the last call, whatever factor
`execute` has read.

* `Pending` says which of the members the rest of a run still reads.
* `Matches` relates two devices that may differ in members that are not read.
* `run_isolated`: if no call changes a pending member (`LeavesRun`), the commands, the sleeps
  and the outcome of `collect` are those of the run without the calls.
-/

namespace UsrpWrapper

open Lib Lib.Command

namespace ReplayBlockConfig

/-! ## Replay configurations with the same sides -/

/-- The configurations issued the same, and agree on the directions in `sides`. -/
structure SameSides (sides : Direction → Prop) (r r' : ReplayBlockConfig) : Prop where
  commands : r.commands = r'.commands
  agree : ∀ d, sides d → AgreeOn d r r'

section

variable {sides : Direction → Prop} {d : Direction}

theorem respects_issueAll (cs : List ReplayCommand) :
    Respects (ε := Fault) (SameSides sides) (modify (issueAll cs)) := by
  refine Respects.modify fun r r' h => ⟨congrArg (· ++ cs) h.commands, fun d hd => ?_⟩
  obtain ⟨hsize, hstreams, hblocks⟩ := h.agree d hd
  refine ⟨hsize, ?_, ?_⟩
  · rw [numStreams_issueAll, numStreams_issueAll, hstreams]
  · rw [blocks_issueAll, blocks_issueAll, hblocks]

/-- A call of one tracker depends on nothing beside it. -/
theorem respects_onTracker (hd : sides d) (x : TrackerM Unit) :
    Respects (SameSides sides) (onField (fun r => r.blocks d) (setBlocks d) x) := by
  refine Respects.onField (fun r r' h => (h.agree d hd).blocks) (Respects.eq x) ?_
  rintro r r' t _ h rfl
  refine ⟨by rw [commands_setBlocks, commands_setBlocks, h.commands], fun d' hd' => ?_⟩
  obtain ⟨hsize, hstreams, hblocks⟩ := h.agree d' hd'
  refine ⟨by rw [memSize_setBlocks, memSize_setBlocks, hsize],
    by rw [numStreams_setBlocks, numStreams_setBlocks, hstreams], ?_⟩
  by_cases hne : d' = d
  · rw [hne, blocks_setBlocks, blocks_setBlocks]
  · rw [blocks_setBlocks_of_ne hne, blocks_setBlocks_of_ne hne, hblocks]

/-- The calls on the replay block depend on the tracker and the stream count of their direction.
-/
theorem respects_issueForStreams (hd : sides d)
    (offset : BlockOffsetTracker → UInt64 → Except Fault UInt64)
    (command : UInt64 → ℕ → ReplayCommand) :
    Respects (SameSides sides) (issueForStreams d offset command) := by
  refine Respects.bindGet (fun r r' h => ?_) fun r => Respects.forM fun s _ => ?_
  · rw [(h.agree d hd).streams, (h.agree d hd).bufferOffset_eq]
  · refine Respects.bind (Respects.reads fun r r' h => ?_) fun off => respects_issueAll [_]
    rw [(h.agree d hd).blocks]

theorem respects_clearRounds (answers : ReplayAnswers) (rounds : List ℕ) :
    Respects (SameSides sides) (clearRounds answers rounds) := by
  induction rounds with
  | nil => exact Respects.throw _
  | cons t rounds ih =>
      unfold clearRounds
      split
      · exact (Respects.forM fun c _ => respects_issueAll [_]).bind fun _ => ih
      · exact Respects.pure _

/-- Recording a block depends on its own half only. -/
theorem respects_recordBlock (hd : sides d) (numSamples reps period numBytes : UInt64)
    (answers : ReplayAnswers) :
    Respects (SameSides sides) (recordBlock d numSamples reps period numBytes answers) :=
  (respects_onTracker hd _).bind fun _ => (respects_issueForStreams hd _ _).bind fun _ =>
    respects_clearRounds _ _

theorem respects_playBlock (hd : sides d) (numSamples : UInt64) :
    Respects (SameSides sides) (playBlock d numSamples) :=
  (respects_onTracker hd _).bind fun _ => respects_issueForStreams hd _ _

end

end ReplayBlockConfig

/-- The thread has not yet started all of its `n` iterations. -/
def StreamThread.Unstarted (n : ℕ) : StreamThread → Prop
  | .next i => i < n
  | .busy i _ => i + 1 < n
  | _ => False

namespace Usrp

variable {α : Type} {E : Environment α}

/-! ## What is left of a run -/

/-- Members that a call of the client can change. -/
inductive Member where
  | txConfigs
  | rxConfigs
  | txBlocks
  | rxBlocks
  | rxMapping
  | numRxStreams
  | txRate
  | rxRate

/-- The transmit thread has a config left to start. -/
def TxLeft (u : Usrp α) : Prop := u.transmitThread.Unstarted u.txStreamingConfigs.length

/-- The receive thread has a config left to start. -/
def RxLeft (u : Usrp α) : Prop := u.receiveThread.Unstarted u.rxStreamingConfigs.length

/-- The rest of the run reads the member: a thread until its last iteration is started (the list
until it has ended), and `collect` unless it throws the exception of a thread.  The RX rate is
also the one at which the DDCs work as long as the thread is receiving. -/
def Pending (u : Usrp α) : Member → Prop
  | .txConfigs => u.transmitThread ≠ .finished
  | .rxConfigs => u.receiveThread ≠ .finished ∨ ¬ Failed u
  | .txBlocks => TxLeft u
  | .rxBlocks => RxLeft u ∨ ¬ Failed u
  | .rxMapping => RxLeft u
  | .numRxStreams => ¬ Failed u
  | .txRate => TxLeft u
  | .rxRate => u.receiveThread ≠ .finished

/-- The member is the same in both devices. -/
def SameMember (u t : Usrp α) : Member → Prop
  | .txConfigs => u.txStreamingConfigs = t.txStreamingConfigs
  | .rxConfigs => u.rxStreamingConfigs = t.rxStreamingConfigs
  | .txBlocks => ReplayBlockConfig.AgreeOn .tx u.components.replayConfig t.components.replayConfig
  | .rxBlocks => ReplayBlockConfig.AgreeOn .rx u.components.replayConfig t.components.replayConfig
  | .rxMapping => u.components.streamMapper.rxMapping = t.components.streamMapper.rxMapping
  | .numRxStreams => u.components.rfConfig.getNumRxStreams = t.components.rfConfig.getNumRxStreams
  | .txRate => u.components.rfConfig.getTxSamplingRate = t.components.rfConfig.getTxSamplingRate
  | .rxRate => u.components.rfConfig.getRxSamplingRate = t.components.rfConfig.getRxSamplingRate

/-- The blocks of a direction, as a member. -/
def blocksOf : Direction → Member
  | .tx => .txBlocks
  | .rx => .rxBlocks

/-- The device with other members. -/
def withMembers (components : Components) (txStreamingConfigs : List (TxStreamingConfig α))
    (rxStreamingConfigs : List RxStreamingConfig) (u : Usrp α) : Usrp α :=
  { u with components, txStreamingConfigs, rxStreamingConfigs }

/-- The devices have the same state apart from members that are not in `needed`. -/
structure Matches (needed : Member → Prop) (u t : Usrp α) : Prop where
  rest : ∃ components txConfigs rxConfigs, t = withMembers components txConfigs rxConfigs u
  commands : u.components.replayConfig.commands = t.components.replayConfig.commands
  members : ∀ m, needed m → SameMember u t m

theorem sameMember_refl (u : Usrp α) (m : Member) : SameMember u u m := by
  cases m with
  | txBlocks => exact ⟨rfl, rfl, rfl⟩
  | rxBlocks => exact ⟨rfl, rfl, rfl⟩
  | _ => rfl

theorem matches_refl (needed : Member → Prop) (u : Usrp α) : Matches needed u u :=
  ⟨⟨_, _, _, rfl⟩, rfl, fun m _ => sameMember_refl u m⟩

section

variable {needed needed' : Member → Prop} {u t : Usrp α}

theorem Matches.mono (h : Matches needed u t) (hsub : ∀ m, needed' m → needed m) :
    Matches needed' u t :=
  ⟨h.rest, h.commands, fun m hm => h.members m (hsub m hm)⟩

/-- Devices that agree on the trackers of some directions agree on these halves of the replay
configuration. -/
theorem Matches.sides (h : Matches needed u t) :
    ReplayBlockConfig.SameSides (fun d => needed (blocksOf d)) u.components.replayConfig
      t.components.replayConfig := by
  refine ⟨h.commands, fun d hd => ?_⟩
  have hmember := h.members _ hd
  cases d with
  | tx => exact hmember
  | rx => exact hmember

/-- The function neither reads nor changes the members. -/
def Oblivious (f : Usrp α → Usrp α) : Prop :=
  ∀ components txConfigs rxConfigs u,
    f (withMembers components txConfigs rxConfigs u) =
      withMembers components txConfigs rxConfigs (f u)

/-- A function that leaves the members alone, as an update of the rest. -/
theorem Oblivious.eq_withMembers {f : Usrp α → Usrp α} (hf : Oblivious f) (u : Usrp α) :
    f u = withMembers u.components u.txStreamingConfigs u.rxStreamingConfigs (f u) :=
  hf u.components u.txStreamingConfigs u.rxStreamingConfigs u

theorem Matches.map {f : Usrp α → Usrp α} (h : Matches needed u t) (hf : Oblivious f) :
    Matches needed (f u) (f t) := by
  obtain ⟨⟨components, txConfigs, rxConfigs, rfl⟩, hcommands, hmembers⟩ := h
  have hu := hf.eq_withMembers u
  rw [hf]
  refine ⟨⟨_, _, _, rfl⟩, ?_, fun m hm => ?_⟩
  · rw [hu]
    exact hcommands
  · have hmember := hmembers m hm
    rw [hu]
    cases m with
    | _ => exact hmember

end

/-! ## What a command needs -/

section

variable {needed : Member → Prop} {β : Type}

/-- A call of the replay configuration, in terms of the device. -/
theorem respects_onReplay {x : EStateM Fault ReplayBlockConfig β}
    (hx : Respects (ReplayBlockConfig.SameSides fun d => needed (blocksOf d)) x) :
    Respects (α := β) (Matches (α := α) needed) (onReplay x) := by
  refine Respects.onField (fun u t h => h.sides) hx ?_
  rintro u t r r' ⟨⟨components, txConfigs, rxConfigs, rfl⟩, hcommands, hmembers⟩ hr
  have hissued : ReplayBlockConfig.issuedSince u.components.replayConfig r =
      ReplayBlockConfig.issuedSince components.replayConfig r' := by
    rw [ReplayBlockConfig.issuedSince, ReplayBlockConfig.issuedSince, hr.commands, hcommands]
    rfl
  refine ⟨⟨{ components with replayConfig := r' }, txConfigs, rxConfigs, ?_⟩, hr.commands,
    fun m hm => ?_⟩
  · rw [putReplay, putReplay, hissued]
    rfl
  · have hmember := hmembers m hm
    cases m with
    | txBlocks => exact hr.agree .tx hm
    | rxBlocks => exact hr.agree .rx hm
    | _ => exact hmember

/-- A call of the graph depends on no member, and changes none. -/
theorem respects_onGraph (x : EStateM Fault FullDuplexGraph β) :
    Respects (Matches (α := α) needed) (onGraph x) := by
  refine Respects.onField ?_ (Respects.eq x) ?_
  · rintro u t ⟨⟨components, txConfigs, rxConfigs, rfl⟩, -, -⟩
    rfl
  · rintro u t g _ h rfl
    exact h.map (f := fun u => { u with fdGraph := g }) fun _ _ _ _ => rfl

theorem respects_modify {f : Usrp α → Usrp α} (hf : Oblivious f) :
    Respects (ε := Fault) (Matches needed) (modify f) :=
  Respects.modify fun _ _ h => h.map hf

/-- The start of a transmission depends on the TX tracker alone. -/
theorem respects_startTransmit (hblocks : needed .txBlocks) (config : TxStreamingConfig α)
    (a : StreamAnswers) : Respects (Matches needed) (startTransmit config a) := by
  refine Respects.bindGet ?_ fun u => ?_
  · rintro u t ⟨⟨components, txConfigs, rxConfigs, rfl⟩, -, -⟩
    rfl
  · refine (Respects.liftE _).bind fun first => ?_
    refine (respects_onReplay (ReplayBlockConfig.respects_playBlock (d := .tx) hblocks _)).bind
      fun _ => ?_
    exact (respects_onGraph _).bind fun _ => Respects.pure _

/-- The start of a reception depends on the RX tracker and the RX mapping. -/
theorem respects_startReceive (hblocks : needed .rxBlocks) (hmapping : needed .rxMapping)
    (config : RxStreamingConfig) (a : StreamAnswers) :
    Respects (Matches (α := α) needed) (startReceive E config a) := by
  refine Respects.bindGet ?_ fun u => ?_
  · intro u t h
    have hrx : u.components.streamMapper.rxMapping = t.components.streamMapper.rxMapping :=
      h.members .rxMapping hmapping
    obtain ⟨components, txConfigs, rxConfigs, rfl⟩ := h.rest
    -- a reception does not look at the TX mapping
    have hmapper (m m' : StreamMapper) (h : m.rxMapping = m'.rxMapping) :
        FullDuplexGraph.configureRxAntenna E.blocks m =
            FullDuplexGraph.configureRxAntenna E.blocks m' ∧
          FullDuplexGraph.receive E.blocks m = FullDuplexGraph.receive E.blocks m' := by
      cases m
      cases m'
      cases h
      exact ⟨rfl, rfl⟩
    simp only [(hmapper _ _ hrx).1, (hmapper _ _ hrx).2]
    rfl
  · refine (respects_onReplay (ReplayBlockConfig.respects_recordBlock (d := .rx) hblocks
      _ _ _ _ _)).bind fun _ => ?_
    refine (respects_onGraph _).bind fun _ => (Respects.liftE _).bind fun _ => ?_
    exact (respects_onGraph _).bind fun _ => Respects.pure _

theorem respects_downloadSignal (hblocks : needed .rxBlocks) (a : ℕ → List RecvAnswer)
    (config : RxStreamingConfig) : Respects (Matches needed) (downloadSignal E a config) := by
  refine (respects_onReplay (ReplayBlockConfig.respects_playBlock (d := .rx) hblocks _)).bind
    fun _ => Respects.bindGet ?_ fun u => ?_
  · rintro u t ⟨⟨components, txConfigs, rxConfigs, rfl⟩, -, -⟩
    rfl
  · refine (respects_onGraph _).bind fun signal => ?_
    refine (respects_modify fun _ _ _ _ => rfl).bind fun _ => (Respects.liftE _).bind fun _ => ?_
    exact respects_modify fun _ _ _ _ => rfl

/-- All downloads depend on the RX configs, the RX tracker and the RX count. -/
theorem respects_performDownload (hconfigs : needed .rxConfigs) (hblocks : needed .rxBlocks)
    (hstreams : needed .numRxStreams) (a : ℕ → List RecvAnswer) :
    Respects (Matches needed) (performDownload E a) := by
  refine (respects_modify fun _ _ _ _ => rfl).bind fun _ => Respects.bindGet ?_ fun u => ?_
  · intro u t h
    have hrx : u.rxStreamingConfigs = t.rxStreamingConfigs := h.members .rxConfigs hconfigs
    have hcount : u.components.rfConfig.getNumRxStreams = t.components.rfConfig.getNumRxStreams :=
      h.members .numRxStreams hstreams
    rw [hrx, hcount]
  · refine (respects_onGraph _).bind fun _ => Respects.forM fun config _ => ?_
    exact Respects.forM fun _ _ => respects_downloadSignal hblocks a config

theorem respects_collect (hconfigs : needed .rxConfigs) (hblocks : needed .rxBlocks)
    (hstreams : needed .numRxStreams) (a : ℕ → List RecvAnswer) :
    Respects (Matches needed) (collect E a) := by
  have hreads {γ : Type} {f : Usrp α → Except Fault γ}
      (hf : ∀ components txConfigs rxConfigs u,
        f (withMembers components txConfigs rxConfigs u) = f u) :
      Respects (Matches needed) (reads f) := by
    refine Respects.reads ?_
    rintro u t ⟨⟨components, txConfigs, rxConfigs, rfl⟩, -, -⟩
    exact (hf _ _ _ u).symm
  refine (respects_modify fun _ _ _ _ => rfl).bind fun _ => ?_
  refine (hreads fun _ _ _ _ => rfl).bind fun _ => (hreads fun _ _ _ _ => rfl).bind fun _ => ?_
  refine (respects_performDownload hconfigs hblocks hstreams a).bind fun _ => ?_
  refine Respects.bind (Respects.modify fun u t h => ?_) fun _ => hreads fun _ _ _ _ => rfl
  obtain ⟨⟨components, txConfigs, rxConfigs, rfl⟩, hcommands, hmembers⟩ := h
  refine ⟨⟨_, _, _, rfl⟩, hcommands, fun m hm => ?_⟩
  have hmember := hmembers m hm
  cases m with
  | txConfigs => rfl
  | rxConfigs => rfl
  | _ => exact hmember

end

/-! ## The same run -/

/-- The same calls were made on the replay block, the radios and the streamers. -/
def SameCommands (u t : Usrp α) : Prop :=
  u.components.replayConfig.commands = t.components.replayConfig.commands ∧
    u.fdGraph.radioCommands = t.fdGraph.radioCommands

/-- The same commands were issued, a thread that goes on sleeps as long after as many samples,
and the next `collect` issues the same commands and ends the same way, with the same list if it
returns. -/
structure SameRun (E : Environment α) (u t : Usrp α) : Prop where
  commands : SameCommands u t
  txDuration : TxLeft u → ∀ numSamples, u.components.rfConfig.getTxSignalDuration numSamples =
    t.components.rfConfig.getTxSignalDuration numSamples
  rxDuration : u.receiveThread ≠ .finished → ∀ numSamples,
    u.components.rfConfig.getRxSignalDuration numSamples =
      t.components.rfConfig.getRxSignalDuration numSamples
  collected : ∀ a, outcome (collect E a u) = outcome (collect E a t)
  collectCommands : ∀ a, SameCommands (finalState (collect E a u)) (finalState (collect E a t))

/-- Devices that agree on any members have given the same commands. -/
theorem Matches.sameCommands {needed : Member → Prop} {u t : Usrp α} (h : Matches needed u t) :
    SameCommands u t := by
  refine ⟨h.commands, ?_⟩
  obtain ⟨components, txConfigs, rxConfigs, rfl⟩ := h.rest
  rfl

/-- When a thread has failed, its exception is all that `collect` returns. -/
theorem collect_of_exception {u : Usrp α} {e : Fault}
    (h : (u.transmitThreadException <|> u.receiveThreadException) = some e)
    (a : ℕ → List RecvAnswer) : collect E a u = .error e (joinThreads u) := by
  unfold collect
  rw [bind_of_ok (modify_apply _ _)]
  cases htx : u.transmitThreadException with
  | some e' =>
      rw [htx] at h
      have hthrow : (reads fun u => rethrow u.transmitThreadException : UsrpM α Unit)
          (joinThreads u) = .error e (joinThreads u) := by
        rw [reads_eq_error_iff, joinThreads, htx, Option.some.inj h]
        exact ⟨rfl, rfl⟩
      rw [bind_of_error hthrow]
  | none =>
      rw [htx] at h
      have hreturn : (reads fun u => rethrow u.transmitThreadException : UsrpM α Unit)
          (joinThreads u) = .ok () (joinThreads u) := by
        rw [reads_eq_ok_iff, joinThreads, htx]
        exact ⟨rfl, rfl⟩
      have hthrow : (reads fun u => rethrow u.receiveThreadException : UsrpM α Unit)
          (joinThreads u) = .error e (joinThreads u) := by
        rw [reads_eq_error_iff, joinThreads, show u.receiveThreadException = some e from h]
        exact ⟨rfl, rfl⟩
      rw [bind_of_ok hreturn, bind_of_error hthrow]

/-- If all that is left of a run is the same, the run ends the same way. -/
theorem sameRun_of_matches {u t : Usrp α} (h : Matches (Pending u) u t) : SameRun E u t := by
  have hcollect (a : ℕ → List RecvAnswer) :
      SameOutcome (Matches (Pending u)) (collect E a u) (collect E a t) := by
    cases hexception : (u.transmitThreadException <|> u.receiveThreadException) with
    | some e =>
        have hjoined : Matches (Pending u) (joinThreads u) (joinThreads t) :=
          h.map fun _ _ _ _ => rfl
        obtain ⟨components, txConfigs, rxConfigs, rfl⟩ := h.rest
        have ht := collect_of_exception (E := E)
          (u := withMembers components txConfigs rxConfigs u) hexception a
        rw [collect_of_exception hexception, ht]
        exact .error e hjoined
    | none =>
        have hfailed : ¬ Failed u := by
          rw [Option.orElse_eq_none] at hexception
          rintro (htx | hrx)
          · exact htx hexception.1
          · exact hrx hexception.2
        exact respects_collect (Or.inr hfailed) (Or.inr hfailed) hfailed a u t h
  have htxRate (hleft : TxLeft u) :
      u.components.rfConfig.getTxSamplingRate = t.components.rfConfig.getTxSamplingRate :=
    h.members .txRate hleft
  have hrxRate (hrunning : u.receiveThread ≠ .finished) :
      u.components.rfConfig.getRxSamplingRate = t.components.rfConfig.getRxSamplingRate :=
    h.members .rxRate hrunning
  refine ⟨h.sameCommands, fun hleft n => ?_, fun hrunning n => ?_,
    fun a => (hcollect a).outcome_eq, fun a => (hcollect a).finalState.sameCommands⟩
  · rw [RFConfiguration.getTxSignalDuration, RFConfiguration.getTxSignalDuration, htxRate hleft]
  · rw [RFConfiguration.getRxSignalDuration, RFConfiguration.getRxSignalDuration,
      hrxRate hrunning]

/-! ## Steps of the threads -/

end Usrp

/-- A step of the thread: it starts no iteration twice, and it does not come back. -/
structure StreamThread.Advances (thread thread' : StreamThread) : Prop where
  unstarted : ∀ n, thread'.Unstarted n → thread.Unstarted n
  finished : thread = .finished → thread' = .finished

namespace StreamThread

theorem advances_refl (thread : StreamThread) : thread.Advances thread := ⟨fun _ h => h, id⟩

theorem advances_finished (thread : StreamThread) : thread.Advances .finished :=
  ⟨fun _ h => h.elim, fun _ => rfl⟩

theorem advances_start (i total : ℕ) : Advances (.next i) (.busy i total) := by
  refine ⟨fun n h => ?_, fun h => nomatch h⟩
  have hlt : i + 1 < n := h
  exact show i < n by omega

theorem advances_end (i total : ℕ) : Advances (.busy i total) (.next (i + 1)) :=
  ⟨fun _ h => h, fun h => nomatch h⟩

end StreamThread

namespace Usrp

/-- The threads advance over the same configs, and no exception is cleared. -/
structure Continues (u u' : Usrp α) : Prop where
  transmit : u.transmitThread.Advances u'.transmitThread
  receive : u.receiveThread.Advances u'.receiveThread
  txConfigs : u'.txStreamingConfigs = u.txStreamingConfigs
  rxConfigs : u'.rxStreamingConfigs = u.rxStreamingConfigs
  failed : Failed u → Failed u'

/-- What is pending after a step was pending before. -/
theorem Continues.pending {u u' : Usrp α} (h : Continues u u') {m : Member}
    (hm : Pending u' m) : Pending u m := by
  have htx : TxLeft u' → TxLeft u := by
    intro hleft
    rw [TxLeft, h.txConfigs] at hleft
    exact h.transmit.unstarted _ hleft
  have hrx : RxLeft u' → RxLeft u := by
    intro hleft
    rw [RxLeft, h.rxConfigs] at hleft
    exact h.receive.unstarted _ hleft
  have hok : ¬ Failed u' → ¬ Failed u := fun hok hfailed => hok (h.failed hfailed)
  cases m with
  | txConfigs => exact fun hend => hm (h.transmit.finished hend)
  | rxConfigs => exact hm.imp (fun hrun hend => hrun (h.receive.finished hend)) hok
  | txBlocks => exact htx hm
  | rxBlocks => exact hm.imp hrx hok
  | rxMapping => exact hrx hm
  | numRxStreams => exact hok hm
  | txRate => exact htx hm
  | rxRate => exact fun hend => hm (h.receive.finished hend)

/-- What a step of the transmit thread does to its own members. -/
theorem TxStep.advances {u u' : Usrp α} (h : TxStep u u') :
    u.transmitThread.Advances u'.transmitThread ∧
      u'.txStreamingConfigs = u.txStreamingConfigs := by
  cases h with
  | idle => exact ⟨StreamThread.advances_refl _, rfl⟩
  | exhausted i thread config => exact ⟨StreamThread.advances_finished _, rfl⟩
  | start i total c a u' thread config started =>
      obtain ⟨_, r, radioCommands, -, -, -, rfl⟩ := startTransmit_eq_ok started
      rw [thread]
      exact ⟨StreamThread.advances_start _ _, rfl⟩
  | startFailed c a e u' failed =>
      obtain ⟨r, radioCommands, -, hstarted⟩ := started_startTransmit c a u
      rw [failed] at hstarted
      cases hstarted
      exact ⟨StreamThread.advances_finished _, rfl⟩
  | sample i total stream thread connected room => exact ⟨StreamThread.advances_refl _, rfl⟩
  | finish i total thread all =>
      rw [thread]
      exact ⟨StreamThread.advances_end _ _, rfl⟩
  | fail code => exact ⟨StreamThread.advances_finished _, rfl⟩

/-- A step on the transmit side brings its thread forward, and no thread back. -/
theorem TxStep.continues {u u' : Usrp α} (h : TxStep u u') : Continues u u' := by
  obtain ⟨hthread, hconfigs⟩ := h.advances
  refine ⟨hthread, ?_, hconfigs, h.rxFrame.configs, h.failed⟩
  rw [h.rxFrame.thread]
  exact StreamThread.advances_refl _

/-- What a step of the receive thread does to its own members. -/
theorem RxStep.advances {u u' : Usrp α} (h : RxStep E u u') :
    u.receiveThread.Advances u'.receiveThread ∧
      u'.rxStreamingConfigs = u.rxStreamingConfigs := by
  cases h with
  | idle => exact ⟨StreamThread.advances_refl _, rfl⟩
  | exhausted i thread config => exact ⟨StreamThread.advances_finished _, rfl⟩
  | start i total c a u' thread config started =>
      obtain ⟨r, n, radioCommands, -, -, -, rfl⟩ := startReceive_eq_ok started
      rw [thread]
      exact ⟨StreamThread.advances_start _ _, rfl⟩
  | startFailed c a e u' failed =>
      obtain ⟨r, radioCommands, -, hstarted⟩ := started_startReceive (E := E) c a u
      rw [failed] at hstarted
      cases hstarted
      exact ⟨StreamThread.advances_finished _, rfl⟩
  | sample i total stream w thread connected room =>
      exact ⟨StreamThread.advances_refl _, rfl⟩
  | finish i total thread all =>
      rw [thread]
      exact ⟨StreamThread.advances_end _ _, rfl⟩
  | fail strerror => exact ⟨StreamThread.advances_finished _, rfl⟩

theorem RxStep.continues {u u' : Usrp α} (h : RxStep E u u') : Continues u u' := by
  obtain ⟨hthread, hconfigs⟩ := h.advances
  rcases h.txFrame with hframe | ⟨i, total, stream, w, -, -, rfl⟩
  · refine ⟨?_, hthread, hframe.configs, hconfigs, h.failed⟩
    rw [hframe.thread]
    exact StreamThread.advances_refl _
  · exact ⟨StreamThread.advances_refl _, hthread, rfl, hconfigs, h.failed⟩

/-- Every step of the threads continues the run. -/
theorem continues_step {e : Event α} (he : e.isStreaming = true) (u : Usrp α) :
    Continues u (step E u e) := by
  rcases step_cases (E := E) he u with htx | hrx
  · exact htx.continues
  · exact hrx.continues

/-- A sample that is sent touches no member. -/
theorem oblivious_txSample (stream : ℕ) : Oblivious (α := α) (txSample stream) := by
  intro components txConfigs rxConfigs u
  cases hthread : u.transmitThread with
  | busy i total =>
      simp only [txSample, withMembers, hthread]
      split
      · rfl
      · rw [← hthread]
  | _ => simp only [txSample, withMembers, hthread]

/-- The end of an iteration, with or without an exception, touches no member. -/
theorem oblivious_txEnd (eventCode : Option ℕ) : Oblivious (α := α) (txEnd eventCode) := by
  intro components txConfigs rxConfigs u
  cases hthread : u.transmitThread with
  | busy i total =>
      cases eventCode with
      | some code => simp only [txEnd, withMembers, hthread]
      | none =>
          simp only [txEnd, withMembers, hthread]
          split
          · rfl
          · rw [← hthread]
  | _ => simp only [txEnd, withMembers, hthread]

theorem oblivious_rxSample (stream : ℕ) (w : Wire) : Oblivious (α := α) (rxSample stream w) := by
  intro components txConfigs rxConfigs u
  cases hthread : u.receiveThread with
  | busy i total =>
      simp only [rxSample, withMembers, hthread]
      split
      · rfl
      · rw [← hthread]
  | _ => simp only [rxSample, withMembers, hthread]

theorem oblivious_rxEnd (strerror : Option String) : Oblivious (α := α) (rxEnd strerror) := by
  intro components txConfigs rxConfigs u
  cases hthread : u.receiveThread with
  | busy i total =>
      cases strerror with
      | some strerror =>
          simp only [rxEnd, withMembers, hthread]
          split
          · rw [← hthread]
          · rfl
      | none =>
          simp only [rxEnd, withMembers, hthread]
          split
          · rfl
          · rw [← hthread]
  | _ => simp only [rxEnd, withMembers, hthread]

section

variable {u t : Usrp α}

/-- While a config is left, the start of a transmission depends on the members that are pending.
-/
theorem matches_txStart (a : StreamAnswers) (h : Matches (Pending u) u t) :
    Matches (Pending u) (txStart a u) (txStart a t) := by
  have hthread : t.transmitThread = u.transmitThread := by
    obtain ⟨components, txConfigs, rxConfigs, rfl⟩ := h.rest
    rfl
  unfold txStart
  rw [hthread]
  cases hu : u.transmitThread with
  | next i =>
      have hsame : u.txStreamingConfigs = t.txStreamingConfigs :=
        h.members .txConfigs (show u.transmitThread ≠ .finished by rw [hu]; exact nofun)
      simp only [show t.txStreamingConfigs[i]? = u.txStreamingConfigs[i]? by rw [hsame]]
      cases hconfig : u.txStreamingConfigs[i]? with
      | none =>
          simp only
          exact h.map (f := fun u => { u with transmitThread := .finished }) fun _ _ _ _ => rfl
      | some config =>
          have hleft : TxLeft u := by
            rw [TxLeft, hu]
            exact (List.getElem?_eq_some_iff.mp hconfig).1
          have hstart : SameOutcome (Matches (Pending u)) (startTransmit config a u)
              (startTransmit config a t) := respects_startTransmit hleft config a u t h
          simp only
          generalize startTransmit config a u = r, startTransmit config a t = r' at hstart
          cases hstart with
          | ok total h' =>
              exact h'.map (f := fun u => { u with
                transmitThread := .busy i total
                sending := fun _ => [] }) fun _ _ _ _ => rfl
          | error e h' =>
              exact h'.map (f := fun u => { u with
                transmitThread := .finished
                transmitThreadException := some e }) fun _ _ _ _ => rfl
  | _ => exact h

theorem matches_rxStart (a : StreamAnswers) (h : Matches (Pending u) u t) :
    Matches (Pending u) (rxStart E a u) (rxStart E a t) := by
  have hthread : t.receiveThread = u.receiveThread := by
    obtain ⟨components, txConfigs, rxConfigs, rfl⟩ := h.rest
    rfl
  unfold rxStart
  rw [hthread]
  cases hu : u.receiveThread with
  | next i =>
      have hsame : u.rxStreamingConfigs = t.rxStreamingConfigs :=
        h.members .rxConfigs (Or.inl (by rw [hu]; exact nofun))
      simp only [show t.rxStreamingConfigs[i]? = u.rxStreamingConfigs[i]? by rw [hsame]]
      cases hconfig : u.rxStreamingConfigs[i]? with
      | none =>
          simp only
          exact h.map (f := fun u => { u with receiveThread := .finished }) fun _ _ _ _ => rfl
      | some config =>
          have hleft : RxLeft u := by
            rw [RxLeft, hu]
            exact (List.getElem?_eq_some_iff.mp hconfig).1
          have hstart : SameOutcome (Matches (Pending u)) (startReceive E config a u)
              (startReceive E config a t) :=
            respects_startReceive (Or.inl hleft) hleft config a u t h
          simp only
          generalize startReceive E config a u = r, startReceive E config a t = r' at hstart
          cases hstart with
          | ok total h' =>
              exact h'.map (f := fun u => { u with
                receiveThread := .busy i total
                receiving := fun _ => [] }) fun _ _ _ _ => rfl
          | error e h' =>
              exact h'.map (f := fun u => { u with
                receiveThread := .finished
                receiveThreadException := some e }) fun _ _ _ _ => rfl
  | _ => exact h

/-- **A step of a thread in both runs.** -/
theorem matches_step {e : Event α} (he : e.isStreaming = true) (h : Matches (Pending u) u t) :
    Matches (Pending (step E u e)) (step E u e) (step E t e) := by
  have hstep : Matches (Pending u) (step E u e) (step E t e) := by
    cases e with
    | setTxConfig conf => cases he
    | setRxConfig conf => cases he
    | setRfConfig conf a => cases he
    | txStart a => exact matches_txStart a h
    | txSample stream => exact h.map (oblivious_txSample stream)
    | txEnd eventCode => exact h.map (oblivious_txEnd eventCode)
    | rxStart a => exact matches_rxStart a h
    | rxSample stream w => exact h.map (oblivious_rxSample stream w)
    | rxEnd strerror => exact h.map (oblivious_rxEnd strerror)
  exact hstep.mono fun m hm => (continues_step he u).pending hm

end

/-! ## Calls of the client -/

/-- The call returns. -/
def Accepted (E : Environment α) (u : Usrp α) : Event α → Prop
  | .setTxConfig conf => returned (setTxConfig E conf u) = true
  | .setRxConfig conf => returned (setRxConfig conf u) = true
  | .setRfConfig conf a => returned (setRfConfig E conf a u) = true
  | _ => True

/-- The replay configuration holds this number of streams. -/
def HoldsCount (u : Usrp α) (d : Direction) (n : Int32) : Prop :=
  sizeOfInt n = u.components.replayConfig.numStreams d ∧
    sizeOfInt n = (u.components.replayConfig.blocks d).numStreams

/-- The call changes no member that the rest of the run reads. -/
def LeavesRun (u : Usrp α) : Event α → Prop
  | .setTxConfig _ => ¬ Pending u .txConfigs
  | .setRxConfig _ => ¬ Pending u .rxConfigs
  | .setRfConfig conf _ =>
      (Pending u .txBlocks → HoldsCount u .tx conf.noTxStreams) ∧
        (Pending u .rxBlocks → HoldsCount u .rx conf.noRxStreams) ∧
          (Pending u .rxMapping → StreamMapper.chooseMapping conf.rxAntennaMapping
            conf.noRxStreams = .ok u.components.streamMapper.rxMapping) ∧
          (Pending u .numRxStreams → conf.noRxStreams = u.components.rfConfig.getNumRxStreams) ∧
          (Pending u .txRate → conf.txSamplingRate = u.components.rfConfig.getTxSamplingRate) ∧
          (Pending u .rxRate → conf.rxSamplingRate = u.components.rfConfig.getRxSamplingRate)
  | _ => True

section

variable {u t : Usrp α}

theorem SameMember.trans {v : Usrp α} {m : Member} (h : SameMember u t m)
    (h' : SameMember t v m) : SameMember u v m := by
  cases m with
  | txBlocks => exact ReplayBlockConfig.AgreeOn.trans h h'
  | rxBlocks => exact ReplayBlockConfig.AgreeOn.trans h h'
  | _ => exact Eq.trans h h'

/-- A change that keeps what stays pending. -/
theorem Matches.change {components : Components} {txConfigs : List (TxStreamingConfig α)}
    {rxConfigs : List RxStreamingConfig} (h : Matches (Pending u) u t)
    (hcommands : components.replayConfig.commands = u.components.replayConfig.commands)
    (hkept : ∀ m, Pending (withMembers components txConfigs rxConfigs u) m →
      Pending u m ∧ SameMember (withMembers components txConfigs rxConfigs u) u m) :
    Matches (Pending (withMembers components txConfigs rxConfigs u))
      (withMembers components txConfigs rxConfigs u) t := by
  obtain ⟨⟨components', txConfigs', rxConfigs', rfl⟩, hcommands', hmembers⟩ := h
  refine ⟨⟨components', txConfigs', rxConfigs', rfl⟩, hcommands.trans hcommands', fun m hm => ?_⟩
  obtain ⟨hpending, hsame⟩ := hkept m hm
  exact hsame.trans (hmembers m hpending)

/-- An accepted TX config that leaves the run alone changes no member that is pending. -/
theorem matches_setTxConfig {conf : TxStreamingConfig α}
    (haccepted : Accepted E u (.setTxConfig conf)) (hleaves : LeavesRun u (.setTxConfig conf))
    (h : Matches (Pending u) u t) :
    Matches (Pending (step E u (.setTxConfig conf))) (step E u (.setTxConfig conf)) t := by
  have hend : u.transmitThread = .finished := not_not.mp hleaves
  obtain ⟨_, hreturns⟩ := exists_of_returned haccepted
  obtain ⟨aligned, -, -, -, hstored⟩ := setTxConfig_eq_ok hreturns
  have hstep : step E u (.setTxConfig conf) = withMembers u.components
      (u.txStreamingConfigs ++ [aligned]) u.rxStreamingConfigs u := hstored
  rw [hstep]
  refine h.change rfl fun m hm => ?_
  cases m with
  | txConfigs => exact absurd hend hm
  | txBlocks =>
      have hleft : StreamThread.Unstarted (u.txStreamingConfigs ++ [aligned]).length
        u.transmitThread := hm
      rw [hend] at hleft
      exact hleft.elim
  | txRate =>
      have hleft : StreamThread.Unstarted (u.txStreamingConfigs ++ [aligned]).length
        u.transmitThread := hm
      rw [hend] at hleft
      exact hleft.elim
  | rxBlocks => exact ⟨hm, rfl, rfl, rfl⟩
  | _ => exact ⟨hm, rfl⟩

theorem matches_setRxConfig {conf : RxStreamingConfig}
    (haccepted : Accepted E u (.setRxConfig conf)) (hleaves : LeavesRun u (.setRxConfig conf))
    (h : Matches (Pending u) u t) :
    Matches (Pending (step E u (.setRxConfig conf))) (step E u (.setRxConfig conf)) t := by
  obtain ⟨hrunning, hok⟩ := not_or.mp hleaves
  have hend : u.receiveThread = .finished := not_not.mp hrunning
  obtain ⟨_, hreturns⟩ := exists_of_returned haccepted
  have hstep : step E u (.setRxConfig conf) = withMembers u.components
      u.txStreamingConfigs (u.rxStreamingConfigs ++ [conf]) u := (setRxConfig_eq_ok hreturns).2
  rw [hstep]
  have hdone : ¬ RxLeft (withMembers u.components u.txStreamingConfigs
      (u.rxStreamingConfigs ++ [conf]) u) := by
    intro hleft
    rw [RxLeft, show (withMembers u.components u.txStreamingConfigs
      (u.rxStreamingConfigs ++ [conf]) u).receiveThread = .finished from hend] at hleft
    exact hleft
  refine h.change rfl fun m hm => ?_
  cases m with
  | rxConfigs => exact absurd hm hleaves
  | rxBlocks => exact absurd (hm.resolve_left hdone) hok
  | rxMapping => exact absurd hm hdone
  | txBlocks => exact ⟨hm, rfl, rfl, rfl⟩
  | _ => exact ⟨hm, rfl⟩

/-- A configuration that is given the counts it holds stays the same. -/
theorem agreeOn_setStreamCount {tx rx : Int32} {d : Direction}
    (h : HoldsCount u d (match d with | .tx => tx | .rx => rx)) :
    ReplayBlockConfig.AgreeOn d
      (u.components.replayConfig.setStreamCount (sizeOfInt tx) (sizeOfInt rx))
      u.components.replayConfig := by
  obtain ⟨hcount, htracker⟩ := h
  cases d with
  | tx =>
      refine ⟨rfl, hcount, ?_⟩
      show BlockOffsetTracker.setStreamCount (sizeOfInt tx) u.components.replayConfig.txBlocks = _
      rw [show sizeOfInt tx = u.components.replayConfig.txBlocks.numStreams from htracker]
      rfl
  | rx =>
      refine ⟨rfl, hcount, ?_⟩
      show BlockOffsetTracker.setStreamCount (sizeOfInt rx) u.components.replayConfig.rxBlocks = _
      rw [show sizeOfInt rx = u.components.replayConfig.rxBlocks.numStreams from htracker]
      rfl

/-- A reconfiguration that leaves the run alone changes no member that is pending. -/
theorem matches_setRfConfig {conf : RfConfig} {a : RfAnswers}
    (haccepted : Accepted E u (.setRfConfig conf a)) (hleaves : LeavesRun u (.setRfConfig conf a))
    (h : Matches (Pending u) u t) :
    Matches (Pending (step E u (.setRfConfig conf a))) (step E u (.setRfConfig conf a)) t := by
  obtain ⟨htx, hrx, hmapping, hstored, htxRate, hrxRate⟩ := hleaves
  obtain ⟨_, hreturns⟩ := exists_of_returned haccepted
  unfold setRfConfig onComponents at hreturns
  obtain ⟨c, hcall, hu'⟩ := onField_eq_ok_iff.mp hreturns
  obtain ⟨txMapping, rxMapping, r, htxMapping, hrxMapping, hchecked, -, hkept, rfl⟩ :=
    Components.setRfConfig_eq_ok hcall
  have hcounts := Components.agree_of_counts (StreamMapper.length_of_chooseMapping htxMapping)
    (StreamMapper.length_of_chooseMapping hrxMapping) hchecked.counts hkept
    u.components.replayConfig
  obtain ⟨hstoredTx, hstoredRx⟩ := Components.storedRates_of_accepted hchecked hkept
  have hstep : step E u (.setRfConfig conf a) = withMembers ⟨⟨txMapping, rxMapping⟩, r,
      u.components.replayConfig.setStreamCount (sizeOfInt conf.noTxStreams)
        (sizeOfInt conf.noRxStreams)⟩ u.txStreamingConfigs u.rxStreamingConfigs u := hu'
  rw [hstep]
  refine h.change rfl fun m hm => ⟨?_, ?_⟩
  · cases m with
    | _ => exact hm
  · cases m with
    | txConfigs => rfl
    | rxConfigs => rfl
    | txBlocks => exact agreeOn_setStreamCount (htx hm)
    | rxBlocks => exact agreeOn_setStreamCount (hrx hm)
    | rxMapping =>
        have hsame := hrxMapping.symm.trans (hmapping hm)
        exact Except.ok.inj hsame
    | numRxStreams =>
        have hcount := Components.count_eq_of_length hchecked.counts.rx_pos
          (StreamMapper.length_of_chooseMapping hrxMapping) hcounts.storedRx
        exact hcount.symm.trans (hstored hm)
    | txRate => exact hstoredTx.trans (htxRate hm)
    | rxRate => exact hstoredRx.trans (hrxRate hm)

end

/-! ## Runs -/

/-- **Isolation of a run.**  Whatever calls are accepted after an `execute` that
returned, in any order with the steps of the threads and of the hardware: as long
as every call leaves the members alone that the rest of the run still reads, the
commands, the sleeps of the threads and the outcome of `collect` are in every state those of
the run without the calls. -/
theorem run_isolated (a : ExecuteAnswers) (baseTime : ℚ) (u₀ u₁ : Usrp α)
    (_hexecute : execute E a baseTime u₀ = .ok () u₁) (events : List (Event α))
    (haccepted : Machine.AllSteps (step E) (Accepted E) u₁ events)
    (hleaves : Machine.AllSteps (step E) LeavesRun u₁ events) :
    SameRun E (Machine.run (step E) u₁ events)
      (Machine.run (step E) u₁ (events.filter Event.isStreaming)) := by
  have hstreaming (u t : Usrp α) (e : Event α) (he : e.isStreaming = true)
      (h : Matches (Pending u) u t) (_ : Accepted E u e ∧ LeavesRun u e) :
      Matches (Pending (step E u e)) (step E u e) (step E t e) := matches_step he h
  have hcall (u t : Usrp α) (e : Event α) (he : e.isStreaming = false)
      (h : Matches (Pending u) u t) (hcall : Accepted E u e ∧ LeavesRun u e) :
      Matches (Pending (step E u e)) (step E u e) t := by
    cases e with
    | setTxConfig conf => exact matches_setTxConfig hcall.1 hcall.2 h
    | setRxConfig conf => exact matches_setRxConfig hcall.1 hcall.2 h
    | setRfConfig conf a => exact matches_setRfConfig hcall.1 hcall.2 h
    | _ => cases he
  exact sameRun_of_matches (Machine.run_filter (fun u t => Matches (Pending u) u t)
    Event.isStreaming hstreaming hcall (matches_refl _ u₁) (haccepted.and hleaves))

/-- The example device after an execution without configs. -/
def exampleExecuted : Usrp Wire :=
  finalState (execute exampleEnvironment exampleExecuteAnswers 1 exampleUsrp)

theorem execute_exampleUsrp :
    execute exampleEnvironment exampleExecuteAnswers 1 exampleUsrp = .ok () exampleExecuted := by
  obtain ⟨_, hexecute⟩ := exists_of_returned (by decide +kernel :
    returned (execute exampleEnvironment exampleExecuteAnswers 1 exampleUsrp) = true)
  exact hexecute

/-- A config that is set before the receive thread looks at the list is recorded
in the running execution, which was started without configs. -/
theorem run_not_isolated :
    ∃ (u₁ : Usrp Wire) (events : List (Event Wire)),
      execute exampleEnvironment exampleExecuteAnswers 1 exampleUsrp = .ok () u₁ ∧
        Machine.AllSteps (step exampleEnvironment) (Accepted exampleEnvironment) u₁ events ∧
          ¬ SameRun exampleEnvironment (Machine.run (step exampleEnvironment) u₁ events)
            (Machine.run (step exampleEnvironment) u₁ (events.filter Event.isStreaming)) := by
  have haccepted : returned (setRxConfig ⟨8, 0, 1, 0, ""⟩ exampleExecuted) = true := by
    decide +kernel
  refine ⟨exampleExecuted, [.setRxConfig ⟨8, 0, 1, 0, ""⟩, .rxStart exampleStreamAnswers],
    execute_exampleUsrp, ⟨haccepted, trivial, trivial⟩, fun h => ?_⟩
  have hcommands := h.commands.1
  revert hcommands
  decide +kernel

/-- Once the transmit thread has ended, a config for the next execution. -/
def exampleCalls : List (Event Wire) :=
  [.txStart exampleStreamAnswers, .setTxConfig ⟨[List.replicate 8 fun _ => 1], 0, 1⟩,
    .setRfConfig (Components.exampleConfig 122880000 122880000)
      (Components.obedient (Components.exampleConfig 122880000 122880000)),
    .rxStart exampleStreamAnswers]

/-- The example device runs on as if this config and the same RF config had not
been set. -/
theorem run_isolated_example :
    SameRun exampleEnvironment
      (Machine.run (step exampleEnvironment) exampleExecuted exampleCalls)
      (Machine.run (step exampleEnvironment) exampleExecuted
        [.txStart exampleStreamAnswers, .rxStart exampleStreamAnswers]) := by
  refine run_isolated exampleExecuteAnswers 1 exampleUsrp exampleExecuted execute_exampleUsrp
    exampleCalls ⟨trivial, ?_, ?_, trivial, trivial⟩
    ⟨trivial, ?_, ⟨?_, ?_, ?_, ?_, ?_, ?_⟩, trivial, trivial⟩
  · show returned _ = true
    decide +kernel
  · show returned _ = true
    decide +kernel
  · refine not_not.mpr ?_
    decide +kernel
  · intro _
    show _ ∧ _
    decide +kernel
  · intro _
    show _ ∧ _
    decide +kernel
  · intro _
    decide +kernel
  · intro _
    decide +kernel
  · intro _
    decide +kernel
  · intro _
    decide +kernel

end Usrp

end UsrpWrapper
