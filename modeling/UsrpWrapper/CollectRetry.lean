import UsrpWrapper.Reception
import UsrpWrapper.StreamingSchedule

/-!
# Collecting again after an error

`collect` clears the streaming configs only once all signals are downloaded, so
that a call that failed can be repeated.  The replay cursor is not moved back: each
download replays the next repetition, whether the transfer that follows succeeds
or not.

`Spent` counts the repetitions that are gone.  Since no more of them were recorded
than `collect` has to download, a single one that is lost leaves too few
(`collect_retry_never`).
-/

namespace UsrpWrapper

open Lib Lib.Command

/-! ## Spending repetitions -/

namespace BlockOffsetTracker

open ReplayBlockConfig

/-- The cursor is behind the blocks. -/
def Exhausted (t : BlockOffsetTracker) : Prop :=
  0 ≤ t.currentReplay ∧ intOfSize (UInt64.ofNat t.replayBlocks.length) ≤ t.currentReplay

/-- At least `k` of at most `n` repetitions are replayed. -/
structure Spent (k n : ℕ) (t : BlockOffsetTracker) : Prop where
  recorded : t.replayCounts.sum ≤ n
  replayed : t.CursorOk ∧ k ≤ t.replaysDone ∨ t.Exhausted

section

variable {k n : ℕ} {t t' : BlockOffsetTracker}

theorem Spent.mono {j : ℕ} (h : Spent k n t) (hj : j ≤ k) : Spent j n t :=
  ⟨h.recorded, h.replayed.imp_left fun ⟨hcursor, hk⟩ => ⟨hcursor, hj.trans hk⟩⟩

/-- The stream count is of no concern to the cursor. -/
theorem Spent.setStreamCount (h : Spent k n t) (count : UInt64) :
    Spent k n (t.setStreamCount count) := ⟨h.recorded, h.replayed⟩

/-- A replay from behind the blocks stays there. -/
theorem preserves_exhausted (numSamples : UInt64) (blocks : List ReplayBlock) :
    Preserves (fun t => t.Exhausted ∧ t.replayBlocks = blocks) (replayNextBlock numSamples) := by
  refine (Preserves.reads _).bind fun _ => Preserves.bind (Preserves.modify fun _ h => h)
    fun _ => (Preserves.reads _).bind fun _ => Preserves.bind (Preserves.modify ?_)
      fun _ => Preserves.reads _
  rintro t ⟨⟨hpos, hbehind⟩, hblocks⟩
  split
  · exact ⟨⟨by simp only; omega, by simp only; omega⟩, hblocks⟩
  · exact ⟨⟨hpos, hbehind⟩, hblocks⟩

/-- What the checks of a replay have found. -/
theorem replayNextBlock_eq_ok {u : Unit} {numSamples : UInt64}
    (h : replayNextBlock numSamples t = .ok u t') : t.numStreams ≠ 0 ∧ ¬ t'.Exhausted := by
  obtain ⟨_, t₁, hcount, hrest⟩ := bind_eq_ok_iff.mp h
  obtain ⟨_, t₂, -, hrest⟩ := bind_eq_ok_iff.mp hrest
  obtain ⟨_, t₃, -, hrest⟩ := bind_eq_ok_iff.mp hrest
  obtain ⟨_, t₄, -, hlast⟩ := bind_eq_ok_iff.mp hrest
  obtain ⟨hpassed, rfl⟩ := reads_eq_ok_iff.mp hlast
  exact ⟨check_eq_ok_iff.mp (reads_eq_ok_iff.mp hcount).1,
    fun hexhausted => absurd hexhausted.2 (check_eq_ok_iff.mp hpassed)⟩

/-- A replay without a next repetition moves the cursor behind the blocks. -/
theorem exhausted_moveTo_next (hcursor : t.CursorOk) (hnext : ¬ t.HasNext) :
    (t.moveTo t.next).Exhausted := by
  refine ⟨?_, not_lt.mp hnext⟩
  rw [moveTo_currentReplay, next]
  rcases hcursor with ⟨hreplay, -⟩ | ⟨b, hb, -⟩
  · rw [if_neg (not_repetitionLeft_of_start hreplay), hreplay]
    decide
  · obtain ⟨i, hi, -⟩ := block?_eq_some hb
    split
    · show 0 ≤ t.currentReplay
      omega
    · show 0 ≤ t.currentReplay + 1
      omega

/-- **A replay spends a repetition**, whether it throws or not. -/
theorem spent_replayNextBlock (hcount : t.numStreams ≠ 0) (h : Spent k n t)
    (numSamples : UInt64) : Spent (k + 1) n (finalState (replayNextBlock numSamples t)) := by
  rcases h.replayed with ⟨hcursor, hk⟩ | hexhausted
  -- the cursor moves on before the check that may throw
  · rw [replayNextBlock_of_cursorOk hcount hcursor]
    by_cases hnext : t.HasNext
    · rw [if_pos hnext]
      refine ⟨h.recorded, Or.inl ⟨cursorOk_moveTo_next hcursor hnext, ?_⟩⟩
      rw [finalState_ok, replaysDone_moveTo_next hcursor hnext]
      omega
    · rw [if_neg hnext]
      exact ⟨h.recorded, Or.inr (exhausted_moveTo_next hcursor hnext)⟩
  · obtain ⟨hexhausted', hblocks⟩ :=
      preserves_exhausted numSamples t.replayBlocks t ⟨hexhausted, rfl⟩
    refine ⟨?_, Or.inr hexhausted'⟩
    rw [replayCounts, hblocks]
    exact h.recorded

/-- A replay that returns found one of the `n` repetitions. -/
theorem lt_of_replayNextBlock {u : Unit} {numSamples : UInt64} (h : Spent k n t)
    (hreplay : replayNextBlock numSamples t = .ok u t') : k < n := by
  obtain ⟨hcount, hfound⟩ := replayNextBlock_eq_ok hreplay
  have hspent := spent_replayNextBlock hcount h numSamples
  rw [hreplay] at hspent
  obtain ⟨hcursor, hk⟩ := hspent.replayed.resolve_right hfound
  exact hk.trans ((replaysDone_le_sum hcursor).trans hspent.recorded)

end

end BlockOffsetTracker

namespace Usrp

open BlockOffsetTracker ReplayBlockConfig

variable {α : Type} {E : Environment α}

/-! ## Downloads -/

/-- The RX repetitions of the device. -/
def RxSpent (k n : ℕ) (u : Usrp α) : Prop := Spent k n (u.components.replayConfig.blocks .rx)

section

variable {k n : ℕ} {u u' : Usrp α} {β : Type}

theorem RxSpent.mono {j : ℕ} (h : RxSpent k n u) (hj : j ≤ k) : RxSpent j n u :=
  Spent.mono h hj

/-- What the loop over the streams issues leaves the trackers alone. -/
theorem preserves_spent_issueForStreams {d : Direction}
    (offset : BlockOffsetTracker → UInt64 → Except Fault UInt64)
    (command : UInt64 → ℕ → ReplayCommand) :
    Preserves (fun r : ReplayBlockConfig => Spent k n (r.blocks .rx))
      (issueForStreams d offset command) := by
  refine Preserves.get.bind fun _ => Preserves.forM fun s _ => ?_
  exact (Preserves.reads _).bind fun off => Preserves.modify fun _ h => h

/-- Every request of a download, successful or not, uses up a replay. -/
theorem spent_configDownload {r : ReplayBlockConfig} (hcount : (r.blocks .rx).numStreams ≠ 0)
    (h : Spent k n (r.blocks .rx)) (numSamples : UInt64) :
    Spent (k + 1) n ((finalState (configDownload numSamples r)).blocks .rx) := by
  refine Preserves.finalState_bind
    (I := fun r : ReplayBlockConfig => Spent (k + 1) n (r.blocks .rx)) ?_
    fun _ => preserves_spent_issueForStreams _ _
  rw [finalState_onField]
  exact spent_replayNextBlock hcount h numSamples

/-- Without a stream count, nothing is replayed. -/
theorem configDownload_of_noStreams {r : ReplayBlockConfig}
    (h : (r.blocks .rx).numStreams = 0) (numSamples : UInt64) :
    configDownload numSamples r = .error (.usrp .streamCountNotSet) r :=
  bind_of_error (onField_of_error (replayNextBlock_of_noStreams h numSamples))

theorem preserves_spent_configDownload (numSamples : UInt64) :
    Preserves (fun r : ReplayBlockConfig => Spent k n (r.blocks .rx))
      (configDownload numSamples) := by
  intro r h
  by_cases hcount : (r.blocks .rx).numStreams = 0
  · rw [configDownload_of_noStreams hcount]
    exact h
  · exact (spent_configDownload hcount h numSamples).mono (Nat.le_succ k)

theorem preserves_rxSpent_onGraph (x : EStateM Fault FullDuplexGraph β) :
    Preserves (RxSpent (α := α) k n) (onGraph x) :=
  Preserves.onField_of_put fun _ _ h => h

/-- **A download spends a repetition**, whether it throws or not. -/
theorem rxSpent_downloadSignal
    (hcount : (u.components.replayConfig.blocks .rx).numStreams ≠ 0) (h : RxSpent k n u)
    (a : ℕ → List RecvAnswer) (c : RxStreamingConfig) :
    RxSpent (k + 1) n (finalState (downloadSignal E a c u)) := by
  refine Preserves.finalState_bind (I := RxSpent (k + 1) n) ?_ fun _ => Preserves.get.bind fun _ =>
    (preserves_rxSpent_onGraph _).bind fun _ => Preserves.bind (Preserves.modify fun _ h => h)
      fun _ => (Preserves.liftE _).bind fun _ => Preserves.modify fun _ h => h
  rw [onReplay, finalState_onField]
  exact spent_configDownload hcount h c.wordAlignedNoSamples

/-- A download that succeeds uses up one replay, and appends one signal. -/
theorem downloadSignal_of_ok {a : ℕ → List RecvAnswer} {c : RxStreamingConfig} {v : Unit}
    (h : RxSpent k n u) (hok : downloadSignal E a c u = .ok v u') :
    RxSpent (k + 1) n u' ∧ k < n ∧
      u'.receivedSamples.length = u.receivedSamples.length + 1 := by
  obtain ⟨r, radioCommands, hplay, hu'⟩ := downloadSignal_inv hok
  obtain ⟨_, r₁, htracker, -⟩ := bind_eq_ok_iff.mp hplay
  obtain ⟨t, hreplay, -⟩ := onField_eq_ok_iff.mp htracker
  have hspent := rxSpent_downloadSignal (E := E) (replayNextBlock_eq_ok hreplay).1 h a c
  rw [hok] at hspent
  refine ⟨hspent, lt_of_replayNextBlock h hreplay, ?_⟩
  rw [hu']
  exact List.length_append

/-- A download that fails uses up one as well. -/
theorem downloadSignal_of_error {a : ℕ → List RecvAnswer} {c : RxStreamingConfig} {e : Fault}
    (h : RxSpent k n u) (herror : downloadSignal E a c u = .error e u')
    (hne : e ≠ .usrp .streamCountNotSet) : RxSpent (k + 1) n u' := by
  by_cases hcount : (u.components.replayConfig.blocks .rx).numStreams = 0
  · have hreplay : onReplay (configDownload c.wordAlignedNoSamples) u =
        .error (.usrp .streamCountNotSet) (putReplay u.components.replayConfig u) :=
      onField_of_error (configDownload_of_noStreams hcount _)
    rw [downloadSignal, bind_of_error hreplay] at herror
    cases herror
    exact absurd rfl hne
  · have hspent := rxSpent_downloadSignal (E := E) hcount h a c
    rw [herror] at hspent
    exact hspent

/-- **A list of downloads that all return** finds a repetition for each of them. -/
theorem downloads_of_ok {a : ℕ → List RecvAnswer} {items : List RxStreamingConfig}
    (h : RxSpent k n u) (hk : k ≤ n) {v : Unit}
    (hok : forM items (downloadSignal E a) u = .ok v u') :
    k + items.length ≤ n ∧
      u'.receivedSamples.length = u.receivedSamples.length + items.length := by
  induction items generalizing u k with
  | nil =>
      cases hok
      exact ⟨hk, rfl⟩
  | cons c items ih =>
      rw [List.forM_cons] at hok
      obtain ⟨_, u₁, hfirst, hrest⟩ := bind_eq_ok_iff.mp hok
      obtain ⟨hspent, hlt, hlength⟩ := downloadSignal_of_ok h hfirst
      obtain ⟨hle, hlength'⟩ := ih hspent hlt hrest
      rw [List.length_cons]
      exact ⟨by omega, by omega⟩

/-- **A list of downloads that throws** has spent a repetition. -/
theorem downloads_of_error {a : ℕ → List RecvAnswer} {items : List RxStreamingConfig} {e : Fault}
    (h : RxSpent k n u) (hne : e ≠ .usrp .streamCountNotSet)
    (herror : forM items (downloadSignal E a) u = .error e u') :
    items ≠ [] ∧ RxSpent (k + 1) n u' := by
  induction items generalizing u k with
  | nil => cases herror
  | cons c items ih =>
      refine ⟨List.cons_ne_nil c items, ?_⟩
      rw [List.forM_cons] at herror
      rcases bind_eq_error_iff.mp herror with hfirst | ⟨_, u₁, hfirst, hrest⟩
      · exact downloadSignal_of_error h hfirst hne
      · exact (ih (downloadSignal_of_ok h hfirst).1 hrest).2.mono (Nat.le_succ _)

/-! ## Collecting -/

/-- A call in which the streamer fails has spent a repetition. -/
theorem rxSpent_collect_of_error {a : ℕ → List RecvAnswer} {strerror : String}
    (h : RxSpent 0 n u) (hfailed : ¬ Failed u)
    (herror : collect E a u = .error (.runtime (.rxStreamer strerror)) u') :
    (repetitionCounts u.rxStreamingConfigs).sum ≠ 0 ∧ RxSpent 1 n u' := by
  have hnone {e : Option Fault} (he : ¬ e ≠ none) : rethrow e = .ok () := by
    rw [not_not.mp he]
    rfl
  obtain ⟨htx, hrx⟩ := not_or.mp hfailed
  unfold collect at herror
  have hreadTx : reads (fun u : Usrp α => rethrow u.transmitThreadException) (joinThreads u) =
      .ok () (joinThreads u) := reads_eq_ok_iff.mpr ⟨hnone htx, rfl⟩
  have hreadRx : reads (fun u : Usrp α => rethrow u.receiveThreadException) (joinThreads u) =
      .ok () (joinThreads u) := reads_eq_ok_iff.mpr ⟨hnone hrx, rfl⟩
  -- the threads have ended well, so the error is one of the downloads
  rw [bind_of_ok (modify_apply _ _), bind_of_ok hreadTx, bind_of_ok hreadRx] at herror
  rcases bind_eq_error_iff.mp herror with hdownload | ⟨_, u₁, -, hreturn⟩
  · rw [performDownload_apply] at hdownload
    split at hdownload
    · obtain ⟨hitems, hspent⟩ := downloads_of_error (u := { joinThreads u with
        receivedSamples := [] }) h (by simp) hdownload
      refine ⟨?_, hspent⟩
      rw [← length_downloads]
      exact mt List.length_eq_zero_iff.mp hitems
    · cases hdownload
  · rw [bind_of_ok (modify_apply _ _)] at hreturn
    cases hreturn

end

/-! ## What is recorded -/

/-- The receive thread has recorded the blocks of the first `n` configs, and nothing
was replayed yet. -/
structure RxRecorded (configs : List RxStreamingConfig) (n : ℕ) (u : Usrp α) : Prop where
  stored : u.rxStreamingConfigs = configs
  blocks : (u.components.replayConfig.blocks .rx).replayBlocks = (configs.take n).map configBlock
  cursor : (u.components.replayConfig.blocks .rx).currentReplay = -1 ∧
    (u.components.replayConfig.blocks .rx).currentRepetition = -1
  next : ∀ i, u.receiveThread = .next i → i = n
  busy : ∀ i total, u.receiveThread = .busy i total → i + 1 = n

section

variable {configs : List RxStreamingConfig} {n : ℕ} {u u' : Usrp α}

/-- The transmit side leaves the recordings alone. -/
theorem RxRecorded.frame (h : RxRecorded configs n u) (f : RxFrame u u') :
    RxRecorded configs n u' := by
  refine ⟨f.configs.trans h.stored, ?_, ?_, ?_, ?_⟩
  · rw [f.blocks, h.blocks]
  · rw [f.blocks]
    exact h.cursor
  · rw [f.thread]
    exact h.next
  · rw [f.thread]
    exact h.busy

/-- A step of the receive thread records the next config, if it starts it. -/
theorem rxRecorded_rxStep (h : RxRecorded configs n u) (hstep : RxStep E u u') :
    Failed u' ∨ ∃ m, RxRecorded configs m u' := by
  cases hstep with
  | idle => exact Or.inr ⟨n, h⟩
  | exhausted i thread config =>
      exact Or.inr ⟨n, h.stored, h.blocks, h.cursor, fun _ hnext => (nomatch hnext),
        fun _ _ hbusy => (nomatch hbusy)⟩
  | start i total c a u' thread config started =>
      -- the only step that records a block, that of the next config
      obtain ⟨r, _, radioCommands, hreceive, -, -, rfl⟩ := startReceive_eq_ok started
      obtain ⟨haccepted, hclear⟩ := configReceive_eq_ok_iff.mp hreceive
      have hrecorded : Recorded u.components.replayConfig .rx (configBlock c) r :=
        ⟨haccepted, clearRecordingBuffer_eq_ok hclear⟩
      obtain rfl := h.next i thread
      rw [h.stored] at config
      refine Or.inr ⟨i + 1, h.stored, ?_, ?_, fun _ hnext => (nomatch hnext), ?_⟩
      · show (r.blocks .rx).replayBlocks = _
        rw [hrecorded.blocks_eq, withBlock_replayBlocks, h.blocks, List.take_add_one, config,
          List.map_append]
        rfl
      · show (r.blocks .rx).currentReplay = -1 ∧ (r.blocks .rx).currentRepetition = -1
        rw [hrecorded.blocks_eq]
        exact h.cursor
      · rintro j total' hbusy
        cases hbusy
        rfl
  | startFailed c a e u' failed => exact Or.inl (Or.inr (Option.some_ne_none e))
  | sample i total stream w thread connected room =>
      exact Or.inr ⟨n, h.stored, h.blocks, h.cursor, h.next, h.busy⟩
  | finish i total thread all =>
      refine Or.inr ⟨n, h.stored, h.blocks, h.cursor, ?_, fun _ _ hbusy => (nomatch hbusy)⟩
      rintro j hnext
      cases hnext
      exact h.busy i total thread
  | fail strerror => exact Or.inl (Or.inr (Option.some_ne_none _))

/-- After a run of the threads one of them has failed, or a first part of the configs is recorded.
-/
theorem rxRecorded_run (h : RxRecorded configs n u) {events : List (Event α)}
    (hevents : ∀ e ∈ events, e.isStreaming = true) :
    Failed (Machine.run (step E) u events) ∨
      ∃ m, RxRecorded configs m (Machine.run (step E) u events) := by
  refine Machine.run_invariant (fun u => Failed u ∨ ∃ m, RxRecorded configs m u) ?_
    (Or.inr ⟨n, h⟩) (Machine.AllSteps.of_forall hevents)
  rintro v e (hfailed | ⟨m, hrecorded⟩) he
  · rcases step_cases (E := E) he v with htx | hrx
    · exact Or.inl (htx.failed hfailed)
    · exact Or.inl (hrx.failed hfailed)
  · rcases step_cases (E := E) he v with htx | hrx
    · exact Or.inr ⟨m, hrecorded.frame htx.rxFrame⟩
    · exact rxRecorded_rxStep hrecorded hrx

/-- An execution starts from empty trackers. -/
theorem rxRecorded_of_execute {a : ExecuteAnswers} {baseTime : ℚ}
    (hconfigs : u.rxStreamingConfigs = configs) (h : execute E a baseTime u = .ok () u') :
    RxRecorded configs 0 u' := by
  obtain ⟨v, r, startTime, rxDecimFactor, hupload, -, -, rfl⟩ := execute_eq_ok h
  have hframe := (preserves_performUpload a).of_ok (uploadFrame_refl (prepared u)) hupload
  have hreset : v.components.replayConfig.blocks .rx = u.components.replayConfig.rxBlocks.reset :=
    hframe.replay.agreeOn.blocks.symm
  refine ⟨hframe.rxConfigs.trans hconfigs, ?_, ?_, ?_, fun _ _ hbusy => (nomatch hbusy)⟩
  · show (v.components.replayConfig.blocks .rx).replayBlocks = _
    rw [hreset]
    rfl
  · show (v.components.replayConfig.blocks .rx).currentReplay = -1 ∧
      (v.components.replayConfig.blocks .rx).currentRepetition = -1
    rw [hreset]
    exact ⟨rfl, rfl⟩
  · rintro i hnext
    cases hnext
    rfl

/-- No more repetitions are recorded than the configs ask for. -/
theorem RxRecorded.rxSpent (h : RxRecorded configs n u) (hlengths : ∀ c ∈ configs, RxLengthsOk c) :
    RxSpent 0 (repetitionCounts configs).sum u := by
  refine ⟨?_, Or.inl ⟨Or.inl h.cursor, Nat.zero_le _⟩⟩
  calc (u.components.replayConfig.blocks .rx).replayCounts.sum
      = ((configs.take n).map fun c => (configBlock c).replayCount).sum := by
        rw [replayCounts, h.blocks, List.map_map]
        rfl
    _ ≤ ((configs.take n).map fun c => c.numRepetitions.toNat).sum :=
        List.sum_le_sum fun c hc =>
          replayCount_configBlock_le (hlengths c (List.mem_of_mem_take hc))
    _ = ((repetitionCounts configs).take n).sum := by
        rw [repetitionCounts, List.map_take]
    _ ≤ (repetitionCounts configs).sum := Layout.start_le_sum _ _

end

/-! ## Retrying -/

/-- A call of the client that starts no new execution. -/
def Call.startsNothing : Call α → Bool
  | .event e => !e.isStreaming
  | .execute _ _ => false
  | _ => true

/-- A thread has failed, or one of the `n` repetitions is spent. -/
def Lost (n : ℕ) (u : Usrp α) : Prop := Failed u ∨ RxSpent 1 n u

section

variable {n : ℕ} {u u' : Usrp α}

/-- Another collection does not make good for the failure or the spent replay. -/
theorem lost_collect (a : ℕ → List RecvAnswer) : Preserves (Lost (α := α) n) (collect E a) := by
  have hreplay (numSamples : UInt64) :
      Preserves (Lost (α := α) n) (onReplay (configDownload numSamples)) := by
    refine Preserves.onField (fun u r => Failed u ∨ Spent 1 n (r.blocks .rx)) (fun _ h => h) ?_
      fun _ _ _ h => h
    rintro u - r (hfailed | hspent)
    · exact Or.inl hfailed
    · exact Or.inr (preserves_spent_configDownload numSamples r hspent)
  refine Preserves.bind (Preserves.modify fun _ h => h) fun _ => (Preserves.reads _).bind fun _ =>
    (Preserves.reads _).bind fun _ => Preserves.bind ?_ fun _ => ?_
  · exact preserves_performDownload hreplay (fun _ _ h => h) (fun _ _ h => h) a
  · exact Preserves.bind (Preserves.modify fun _ h => h) fun _ => Preserves.reads _

/-- Neither does a reconfiguration. -/
theorem lost_setRfConfig (conf : RfConfig) (a : RfAnswers) :
    Preserves (Lost (α := α) n) (setRfConfig E conf a) := by
  refine Preserves.onField (fun u c => Failed u ∨ Spent 1 n (c.replayConfig.blocks .rx))
    (fun _ h => h) (fun u _ => ?_) fun _ _ _ h => h
  refine Preserves.bind ?_ fun _ => Preserves.get.bind fun _ => Preserves.bind ?_ fun _ => ?_
  · exact Preserves.onField_of_put fun _ _ h => h
  · exact Preserves.onField_of_put fun _ _ h => h
  · exact Preserves.modify fun _ h => h.imp_right fun hspent => hspent.setStreamCount _

/-- **Without a new execution a lost repetition stays lost.** -/
theorem lost_callStep (h : Lost n u) {call : Call α} (hcall : call.startsNothing = true) :
    Lost n (callStep E u call) := by
  cases call with
  | event e =>
      cases e with
      | setTxConfig conf =>
          have hkept : Preserves (Lost n) (setTxConfig E conf) :=
            (Preserves.reads _).bind fun _ => (Preserves.liftE _).bind fun _ =>
              Preserves.modify fun _ h => h
          exact hkept u h
      | setRxConfig conf =>
          have hkept : Preserves (Lost (α := α) n) (setRxConfig conf) :=
            (Preserves.reads _).bind fun _ => Preserves.modify fun _ h => h
          exact hkept u h
      | setRfConfig conf a => exact lost_setRfConfig conf a u h
      | _ => cases hcall
  | resetStreamingConfigs => exact h
  | execute a baseTime => cases hcall
  | collect a => exact lost_collect a u h

/-- A `collect` could return this list, for one or the other behaviour of the
streamer. -/
def Returnable (E : Environment α) (u : Usrp α) (result : List (MimoSignal α)) : Prop :=
  ∃ a u', collect E a u = .ok result u'

/-- A collection returns no more than the replays that are left. -/
theorem length_of_returnable {k : ℕ} {result : List (MimoSignal α)} (h : RxSpent k n u)
    (hk : k ≤ n) (hreturnable : Returnable E u result) :
    k + result.length ≤ n ∧ result.length = (repetitionCounts u.rxStreamingConfigs).sum := by
  obtain ⟨a, u', hcollect⟩ := hreturnable
  obtain ⟨-, -, v, hdownloads, rfl⟩ := collect_eq_ok hcollect
  obtain ⟨hle, hlength⟩ := downloads_of_ok (u := { joinThreads u with receivedSamples := [] })
    h hk hdownloads
  rw [← length_downloads]
  rw [List.length_nil, Nat.zero_add] at hlength
  exact ⟨by omega, hlength⟩

/-- **A failed `collect` cannot be repeated.**  If the streamer fails while the
signals of an execution are downloaded, no later `collect` without a new execution
returns the list this one could have returned. -/
theorem collect_retry_never {configs : List RxStreamingConfig} {u₀ u₁ u₂ u₃ : Usrp α}
    {a : ExecuteAnswers} {baseTime : ℚ} {events : List (Event α)}
    {answers : ℕ → List RecvAnswer} {strerror : String} (hempty : u₀.rxStreamingConfigs = [])
    (haccepted : forM configs setRxConfig u₀ = .ok () u₁)
    (hexecute : execute E a baseTime u₁ = .ok () u₂)
    (hstreaming : ∀ e ∈ events, e.isStreaming = true)
    (hfirst : collect E answers (Machine.run (step E) u₂ events) =
      .error (.runtime (.rxStreamer strerror)) u₃)
    {result : List (MimoSignal α)} (hresult : Returnable E (Machine.run (step E) u₂ events) result)
    {calls : List (Call α)} (hcalls : ∀ call ∈ calls, call.startsNothing = true) :
    ¬ Returnable E (Machine.run (callStep E) u₃ calls) result := by
  intro hagain
  obtain ⟨hlengths, rfl⟩ := forM_setRxConfig_eq_ok haccepted
  have hstart : RxRecorded configs 0 u₂ :=
    rxRecorded_of_execute (by rw [hempty, List.nil_append]) hexecute
  have hfailed : ¬ Failed (Machine.run (step E) u₂ events) := by
    obtain ⟨_, _, hcollect⟩ := hresult
    exact (collect_eq_ok hcollect).1
  obtain ⟨m, hrecorded⟩ := (rxRecorded_run (E := E) hstart hstreaming).resolve_left hfailed
  have hrecordedSpent := hrecorded.rxSpent hlengths
  obtain ⟨-, hlength⟩ := length_of_returnable hrecordedSpent (Nat.zero_le _) hresult
  obtain ⟨hpos, hspent⟩ := rxSpent_collect_of_error hrecordedSpent hfailed hfirst
  rw [hrecorded.stored] at hlength hpos
  have hlost : Lost (repetitionCounts configs).sum (Machine.run (callStep E) u₃ calls) :=
    Machine.run_invariant (Lost _) (fun _ _ h hcall => lost_callStep h hcall) (Or.inr hspent)
      (Machine.AllSteps.of_forall hcalls)
  -- one repetition is gone, so there are fewer left than a download needs
  rcases hlost with hfailed' | hspent'
  · obtain ⟨_, _, hcollect⟩ := hagain
    exact (collect_eq_ok hcollect).1 hfailed'
  · obtain ⟨hle, -⟩ := length_of_returnable hspent' (Nat.one_le_iff_ne_zero.mpr hpos) hagain
    omega

end

/-! ### A device -/

/-- The first of two repetitions arrives, and the streamer fails in the second. -/
def exampleFailingAnswers : ℕ → List RecvAnswer
  | 0 => [⟨8, none, true⟩]
  | _ => [⟨0, some "ERROR_CODE_OVERFLOW", false⟩]

/-- Two repetitions of 8 samples. -/
def exampleTwice : List RxStreamingConfig := [⟨8, 0, 2, 0, ""⟩]

/-- The threads carry out this reception. -/
def exampleTwiceEvents : List (Event Wire) :=
  [.txStart exampleStreamAnswers, .rxStart exampleStreamAnswers] ++
    List.replicate 16 (.rxSample 0 fun i => UInt8.ofNat i) ++
      [.rxEnd none, .rxStart exampleStreamAnswers]

/-- The example device when it has received both repetitions. -/
def exampleReceived : Usrp Wire :=
  Machine.run (step exampleEnvironment) (finalState (execute exampleEnvironment
    exampleExecuteAnswers 1 (finalState (forM exampleTwice setRxConfig exampleUsrp))))
      exampleTwiceEvents

/-- Every `recv` returns eight samples and the end of the burst. -/
def exampleGoodAnswers : ℕ → List RecvAnswer := fun _ => [⟨8, none, true⟩]

/-- When the overflow ends the transfer of the second repetition, both replays are spent:
repeated without an error, `collect` finds none left, and throws. -/
theorem collect_retry_fails :
    ∃ result u, Returnable exampleEnvironment exampleReceived result ∧
      collect exampleEnvironment exampleFailingAnswers exampleReceived =
        .error (.runtime (.rxStreamer "ERROR_CODE_OVERFLOW")) u ∧
      thrown (collect exampleEnvironment exampleGoodAnswers u) =
        some (.usrp .tooManyReplayRequests) := by
  obtain ⟨result, hcollect⟩ := exists_of_returned (by decide +kernel :
    returned (collect exampleEnvironment exampleGoodAnswers exampleReceived) = true)
  refine ⟨result, _, ⟨_, _, hcollect⟩, eq_of_thrown (by decide +kernel), ?_⟩
  decide +kernel

/-- The example device, after a second attempt that also ended in an error. -/
theorem collect_retry_never_example :
    ∃ result, Returnable exampleEnvironment exampleReceived result ∧
      ¬ Returnable exampleEnvironment
        (Machine.run (callStep exampleEnvironment)
          (finalState (collect exampleEnvironment exampleFailingAnswers exampleReceived))
          [.collect exampleGoodAnswers]) result := by
  obtain ⟨_, haccepted⟩ := exists_of_returned
    (by decide +kernel : returned (forM exampleTwice setRxConfig exampleUsrp) = true)
  obtain ⟨_, hexecute⟩ := exists_of_returned
    (by decide +kernel : returned (execute exampleEnvironment exampleExecuteAnswers 1
      (finalState (forM exampleTwice setRxConfig exampleUsrp))) = true)
  obtain ⟨result, hcollect⟩ := exists_of_returned (by decide +kernel :
    returned (collect exampleEnvironment exampleGoodAnswers exampleReceived) = true)
  have hfirst : collect exampleEnvironment exampleFailingAnswers exampleReceived =
      .error (.runtime (.rxStreamer "ERROR_CODE_OVERFLOW")) _ :=
    eq_of_thrown (by decide +kernel)
  exact ⟨result, ⟨_, _, hcollect⟩, collect_retry_never rfl haccepted hexecute (by decide) hfirst
    ⟨_, _, hcollect⟩ (by decide)⟩

end Usrp

end UsrpWrapper
