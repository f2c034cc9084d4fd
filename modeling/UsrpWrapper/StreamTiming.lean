import UsrpWrapper.StreamingSchedule
import UsrpWrapper.Lib.Deadline
import UsrpWrapper.Lib.Exceptions

/-!
# Stream times under an ideal clock

`transmit` and `receive` refuse a stream time that is less than 20 ms away.  Under an
ideal clock a sleep lasts exactly its argument, the poll for metadata ends after
20 ms, and no other step takes time.  `TimedUsrp` is the device with the clock of
each thread, and `IdealAt` says that an event shows the FPGA time of that clock.

A thread is then a worker of `Lib.Deadline`: a config is a job, the sleep of
`clearRecordingBuffer` its setup, and the check of the stream time its announcement.

* `txSchedule_inTime`: the transmit thread keeps all stream times of accepted configs.
* `rxSchedule_inTime_iff`: the receive thread keeps them exactly if the gaps between the
  configs leave room for the padding to words, which `setRxConfig` does not count.
-/

namespace UsrpWrapper

open Lib Lib.Command

/-! ## The check of the stream time -/

/-- Any exception but the one of the check. -/
def OtherFault (e : Fault) : Prop :=
  ∀ streamTime fpgaTime, e ≠ .usrp (.targetStreamTimeTooClose streamTime fpgaTime)

section

open ReplayBlockConfig BlockOffsetTracker

theorem otherFault_uhd : OtherFault .uhd := fun _ _ h => nomatch h

theorem otherFault_outOfBounds : OtherFault .outOfBounds := fun _ _ h => nomatch h

theorem throws_checkStreamCount : Throws OtherFault checkStreamCount :=
  Throws.reads fun _ => Rejects.check fun _ _ h => nomatch h

theorem rejects_readBlock (t : BlockOffsetTracker) (i : ℤ) :
    Rejects OtherFault (t.readBlock i) := by
  unfold readBlock
  split
  · exact Rejects.ok _
  · exact Rejects.error otherFault_outOfBounds

theorem throws_recordNewBlock (numSamples reps period : UInt64) :
    Throws OtherFault (recordNewBlock numSamples reps period) := by
  refine throws_checkStreamCount.bind fun _ => ?_
  refine Throws.bind (Throws.reads fun _ => ?_) fun _ => ?_
  · exact (Rejects.check fun _ _ h => nomatch h).bind fun _ => Rejects.check fun _ _ h => nomatch h
  · refine Throws.bind (Throws.reads fun _ => ?_) fun _ => Throws.modify _
    exact Rejects.check fun _ _ h => nomatch h

theorem throws_replayNextBlock (numSamples : UInt64) :
    Throws OtherFault (replayNextBlock numSamples) := by
  refine throws_checkStreamCount.bind fun _ => (Throws.modify _).bind fun _ => ?_
  refine Throws.bind (Throws.reads fun t => ?_) fun _ => (Throws.modify _).bind fun _ => ?_
  · unfold repsInCurrentBlock
    split
    · exact (rejects_readBlock _ _).bind fun _ => Rejects.ok _
    · exact Rejects.ok _
  · exact Throws.reads fun _ => Rejects.check fun _ _ h => nomatch h

theorem rejects_recordOffset (t : BlockOffsetTracker) (s : UInt64) :
    Rejects OtherFault (t.recordOffset s) :=
  (Rejects.check fun _ _ h => nomatch h).bind fun _ => Rejects.ok _

theorem rejects_replayOffset (t : BlockOffsetTracker) (s : UInt64) :
    Rejects OtherFault (t.replayOffset s) := by
  have hbefore (i : ℕ) : Rejects OtherFault (t.replayOffsetBefore i) := by
    induction i with
    | zero => exact Rejects.ok _
    | succ i ih => exact ih.bind fun _ => (rejects_readBlock _ _).bind fun _ => Rejects.ok _
  refine (Rejects.check fun _ _ h => nomatch h).bind fun _ => (hbefore _).bind fun _ => ?_
  exact (rejects_readBlock _ _).bind fun _ => Rejects.ok _

theorem throws_issueForStreams (d : Direction)
    {offset : BlockOffsetTracker → UInt64 → Except Fault UInt64}
    (hoffset : ∀ t s, Rejects OtherFault (offset t s)) (command : UInt64 → ℕ → ReplayCommand) :
    Throws OtherFault (issueForStreams d offset command) := by
  refine Throws.get.bind fun _ => Throws.forM fun _ _ => ?_
  exact (Throws.reads fun _ => hoffset _ _).bind fun _ => Throws.modify _

/-- Recording a block raises other exceptions than that of the check. -/
theorem throws_recordBlock (d : Direction) (numSamples reps period numBytes : UInt64)
    (answers : ReplayAnswers) :
    Throws OtherFault (recordBlock d numSamples reps period numBytes answers) := by
  refine (throws_recordNewBlock _ _ _).onField.bind fun _ => ?_
  refine (throws_issueForStreams d rejects_recordOffset _).bind fun _ => ?_
  intro r e h
  cases hclear : clearRecordingBuffer answers r with
  | ok u r' =>
      rw [hclear] at h
      cases h
  | error e' r' =>
      rw [hclear] at h
      cases h
      rw [clearRecordingBuffer_eq_error hclear]
      exact fun _ _ h => nomatch h

theorem throws_playBlock (d : Direction) (numSamples : UInt64) :
    Throws OtherFault (playBlock d numSamples) :=
  (throws_replayNextBlock _).onField.bind fun _ =>
    throws_issueForStreams d rejects_replayOffset _

theorem rejects_rxRadio (b : RfNocBlocks) (m : StreamMapper) (stream : UInt32) :
    Rejects OtherFault (m.mapRxStreamToAntenna stream) ∧
      ∀ antenna, Rejects OtherFault (b.getRadioChannelPair antenna) := by
  refine ⟨?_, fun antenna => ?_⟩
  · unfold StreamMapper.mapRxStreamToAntenna StreamMapper.mapStreamToAntenna
    split
    · exact Rejects.error fun _ _ h => nomatch h
    · exact Rejects.ok _
  · unfold RfNocBlocks.getRadioChannelPair
    split
    · exact Rejects.ok _
    · split
      · exact Rejects.ok _
      · exact Rejects.error fun _ _ h => nomatch h

end

namespace FullDuplexGraph

theorem throws_issue (accepts : RadioCommand → Bool) (c : RadioCommand) :
    Throws OtherFault (issue accepts c) :=
  (Throws.liftE (Rejects.check otherFault_uhd)).bind fun _ => Throws.modify _

/-- The check passes 20 ms ahead. -/
theorem checkStreamTime_eq_ok_iff {streamTime fpgaTime : ℚ} :
    checkStreamTime streamTime fpgaTime = .ok () ↔ fpgaTime + 1 / 50 ≤ streamTime := by
  rw [checkStreamTime, check_eq_ok_iff, not_lt]

/-- A loop over the RX radios fails for other reasons. -/
theorem throws_rxRadios (b : RfNocBlocks) (m : StreamMapper) (accepts : RadioCommand → Bool)
    (streams : List ℕ) (command : Channel → RadioCommand) :
    Throws OtherFault (forM streams fun stream => do
      let antIdx ← liftE (m.mapRxStreamToAntenna (UInt32.ofNat stream))
      let radio ← liftE (b.getRadioChannelPair antIdx.toInt32)
      issue accepts (command radio) : GraphM Unit) := by
  refine Throws.forM fun stream _ => ?_
  refine (Throws.liftE (rejects_rxRadio b m (UInt32.ofNat stream)).1).bind fun antIdx => ?_
  exact (Throws.liftE ((rejects_rxRadio b m 0).2 _)).bind fun _ => throws_issue _ _

/-- `transmit` refuses the stream time exactly if it is too close. -/
theorem transmit_outcome (a : StreamAnswers) (streamTime : ℚ) (n : UInt64) (g : FullDuplexGraph) :
    (∀ u g', transmit a streamTime n g = .ok u g' → a.fpgaTime + 1 / 50 ≤ streamTime) ∧
      ∀ e g', transmit a streamTime n g = .error e g' →
        OtherFault e ∨ streamTime < a.fpgaTime + 1 / 50 := by
  refine ⟨fun u g' h => ?_, fun e g' h => ?_⟩
  · obtain ⟨_, _, hcheck, -⟩ := bind_eq_ok_iff.mp h
    exact checkStreamTime_eq_ok_iff.mp (liftE_eq_ok_iff.mp hcheck).1
  · rcases bind_eq_error_iff.mp h with hcheck | ⟨_, g₁, -, hrest⟩
    · exact Or.inr (check_eq_error_iff.mp (reads_eq_error_iff.mp hcheck).1).1
    · refine Or.inl (Throws.of_error (Throws.get.bind fun g => ?_) hrest)
      exact Throws.forM fun _ _ => throws_issue _ _

/-- `receive` looks at the stream time only if there are samples to receive. -/
theorem receive_outcome (b : RfNocBlocks) (m : StreamMapper) (a : StreamAnswers) (streamTime : ℚ)
    (n : UInt64) (g : FullDuplexGraph) :
    (∀ u g', receive b m a streamTime n g = .ok u g' → n ≠ 0 →
        a.fpgaTime + 1 / 50 ≤ streamTime) ∧
      ∀ e g', receive b m a streamTime n g = .error e g' →
        OtherFault e ∨ n ≠ 0 ∧ streamTime < a.fpgaTime + 1 / 50 := by
  unfold receive
  split
  · rename_i hzero
    exact ⟨fun _ _ _ h => absurd hzero h, fun e g' h => nomatch h⟩
  · rename_i hne
    refine ⟨fun u g' h _ => ?_, fun e g' h => ?_⟩
    · obtain ⟨_, _, hcheck, -⟩ := bind_eq_ok_iff.mp h
      exact checkStreamTime_eq_ok_iff.mp (liftE_eq_ok_iff.mp hcheck).1
    · rcases bind_eq_error_iff.mp h with hcheck | ⟨_, g₁, -, hrest⟩
      · exact Or.inr ⟨hne, (check_eq_error_iff.mp (reads_eq_error_iff.mp hcheck).1).1⟩
      · exact Or.inl (Throws.of_error (Throws.get.bind fun g => throws_rxRadios _ _ _ _ _) hrest)

end FullDuplexGraph

/-- The samples the radio has to deliver for a config, with the factor `rxDecimFactor`;
none if its period is no multiple of 8, or if there is nothing to receive. -/
def RxStreamingConfig.recordedSamples (rxDecimFactor : ℤ) (c : RxStreamingConfig) :
    Option UInt64 :=
  match c.totalWordAlignedSamples with
  | .ok n => if n * UInt64.ofInt rxDecimFactor = 0 then none else some n
  | .error _ => none

/-- The thread does not stop at the config for its period. -/
def RxStreamingConfig.PeriodAligned (c : RxStreamingConfig) : Prop :=
  ∃ n, c.totalWordAlignedSamples = .ok n

namespace Usrp

variable {α : Type} {E : Environment α}

/-- The start of a transmission fails at the stream time, or for another reason. -/
theorem startTransmit_error {config : TxStreamingConfig α} {a : StreamAnswers} {u u' : Usrp α}
    {e : Fault} (h : startTransmit config a u = .error e u') :
    OtherFault e ∨ config.sendTimeOffset + u.baseTime < a.fpgaTime + 1 / 50 := by
  unfold startTransmit at h
  rw [bind_of_ok (get_apply u)] at h
  rcases bind_eq_error_iff.mp h with hfirst | ⟨first, u₁, -, h⟩
  · refine Or.inl ?_
    obtain ⟨herror, -⟩ := reads_eq_error_iff.mp hfirst
    cases hsamples : config.samples with
    | nil =>
        rw [hsamples] at herror
        cases herror
        exact otherFault_outOfBounds
    | cons signal rest =>
        rw [hsamples] at herror
        cases herror
  rcases bind_eq_error_iff.mp h with hreplay | ⟨_, u₂, -, h⟩
  · exact Or.inl ((throws_playBlock _ _).onField.of_error hreplay)
  rcases bind_eq_error_iff.mp h with hgraph | ⟨_, u₃, -, hpure⟩
  · unfold onGraph onField at hgraph
    split at hgraph
    · cases hgraph
    · rename_i e' g htransmit
      cases hgraph
      exact (FullDuplexGraph.transmit_outcome _ _ _ _).2 _ _ htransmit
  · cases hpure

/-- A transmission that starts is in time. -/
theorem inTime_of_startTransmit {config : TxStreamingConfig α} {a : StreamAnswers}
    {u u' : Usrp α} {total : ℕ} (h : startTransmit config a u = .ok total u') :
    a.fpgaTime + 1 / 50 ≤ config.sendTimeOffset + u.baseTime := by
  unfold startTransmit at h
  rw [bind_of_ok (get_apply u)] at h
  obtain ⟨first, u₁, -, hrest⟩ := bind_eq_ok_iff.mp h
  obtain ⟨_, u₂, -, hrest⟩ := bind_eq_ok_iff.mp hrest
  obtain ⟨_, u₃, hgraph, -⟩ := bind_eq_ok_iff.mp hrest
  obtain ⟨g, htransmit, -⟩ := onField_eq_ok_iff.mp hgraph
  exact (FullDuplexGraph.transmit_outcome _ _ _ _).1 _ _ htransmit

/-- The start of a reception fails at the stream time, if there are samples to
receive, or for another reason. -/
theorem startReceive_error {config : RxStreamingConfig} {a : StreamAnswers} {u u' : Usrp α}
    {e : Fault} (h : startReceive E config a u = .error e u') :
    OtherFault e ∨ config.recordedSamples u.rxDecimFactor ≠ none ∧
      config.receiveTimeOffset + u.baseTime < a.fpgaTime + 1 / 50 := by
  unfold startReceive at h
  rw [bind_of_ok (get_apply u)] at h
  rcases bind_eq_error_iff.mp h with hreplay | ⟨_, u₁, -, h⟩
  · exact Or.inl ((throws_recordBlock _ _ _ _ _ _).onField.of_error hreplay)
  rcases bind_eq_error_iff.mp h with hantenna | ⟨_, u₂, -, h⟩
  · exact Or.inl ((FullDuplexGraph.throws_rxRadios _ _ _ _ _).onField.of_error hantenna)
  rcases bind_eq_error_iff.mp h with htotal | ⟨n, u₃, htotal, h⟩
  · rw [RxStreamingConfig.totalWordAlignedSamples_eq_error (reads_eq_error_iff.mp htotal).1]
    exact Or.inl fun _ _ h => nomatch h
  rcases bind_eq_error_iff.mp h with hgraph | ⟨_, u₄, -, hpure⟩
  · unfold onGraph onField at hgraph
    split at hgraph
    · cases hgraph
    · rename_i e' g hreceive
      cases hgraph
      rcases (FullDuplexGraph.receive_outcome _ _ _ _ _ _).2 _ _ hreceive with hother | ⟨hne, hlt⟩
      · exact Or.inl hother
      · refine Or.inr ⟨?_, hlt⟩
        rw [RxStreamingConfig.recordedSamples, (liftE_eq_ok_iff.mp htotal).1]
        show (if _ then _ else _) ≠ none
        rw [if_neg hne]
        exact Option.some_ne_none n
  · cases hpure

/-- A reception that starts with samples to wait for is in time. -/
theorem inTime_of_startReceive {config : RxStreamingConfig} {a : StreamAnswers} {u u' : Usrp α}
    {total : ℕ} (h : startReceive E config a u = .ok total u') :
    ∃ n, config.totalWordAlignedSamples = .ok n ∧ total = n.toNat ∧
      (n * UInt64.ofInt u.rxDecimFactor ≠ 0 →
        a.fpgaTime + 1 / 50 ≤ config.receiveTimeOffset + u.baseTime) := by
  unfold startReceive at h
  rw [bind_of_ok (get_apply u)] at h
  obtain ⟨_, u₁, -, hrest⟩ := bind_eq_ok_iff.mp h
  obtain ⟨_, u₂, -, hrest⟩ := bind_eq_ok_iff.mp hrest
  obtain ⟨n, u₃, hlift, hrest⟩ := bind_eq_ok_iff.mp hrest
  obtain ⟨_, u₄, hgraph, hpure⟩ := bind_eq_ok_iff.mp hrest
  obtain ⟨g, hreceive, -⟩ := onField_eq_ok_iff.mp hgraph
  cases hpure
  exact ⟨n, (liftE_eq_ok_iff.mp hlift).1, rfl,
    (FullDuplexGraph.receive_outcome _ _ _ _ _ _).1 _ _ hreceive⟩

end Usrp

/-! ## The clocks of the threads -/

/-- The device, and the FPGA time at which each thread comes to its next iteration. -/
structure TimedUsrp (α : Type) where
  usrp : Usrp α
  txNow : ℚ
  rxNow : ℚ

namespace TimedUsrp

variable {α : Type}

open Usrp

/-- The sleep until the signal has ended, and the poll for metadata. -/
def afterStream (now streamTime signalDuration : ℚ) : ℚ :=
  now + max 0 (streamTime - now + signalDuration) + 1 / 50

/-- The clock of the transmit thread once it is through the iteration it starts. -/
def txClock (a : StreamAnswers) (u : Usrp α) (now : ℚ) : ℚ :=
  match u.transmitThread with
  | .next i =>
      match u.txStreamingConfigs[i]? with
      | none => now
      | some config =>
          match startTransmit config a u with
          | .ok total _ => afterStream now (config.sendTimeOffset + u.baseTime)
              (u.components.rfConfig.getTxSignalDuration total)
          | .error _ _ => now
  | _ => now

section

variable (E : Environment α)

/-- The clock of the receive thread, which clears the buffer first, and does not wait
if there is nothing to receive. -/
def rxClock (a : StreamAnswers) (u : Usrp α) (now : ℚ) : ℚ :=
  match u.receiveThread with
  | .next i =>
      match u.rxStreamingConfigs[i]? with
      | none => now
      | some config =>
          match startReceive E config a u with
          | .ok total _ =>
              if UInt64.ofNat total * UInt64.ofInt u.rxDecimFactor = 0 then now + 1 / 100
              else afterStream (now + 1 / 100) (config.receiveTimeOffset + u.baseTime)
                (u.components.rfConfig.getRxSignalDuration total)
          | .error _ _ => now
  | _ => now

/-- A step of the device, and the clocks of its two threads. -/
def timedStep (t : TimedUsrp α) (e : Event α) : TimedUsrp α where
  usrp := step E t.usrp e
  txNow :=
    match e with
    | .txStart a => txClock a t.usrp t.txNow
    | _ => t.txNow
  rxNow :=
    match e with
    | .rxStart a => rxClock E a t.usrp t.rxNow
    | _ => t.rxNow

end

/-- A step of a thread or of the hardware that shows the FPGA time of the clock. -/
def IdealAt (t : TimedUsrp α) : Event α → Prop
  | .txStart a => a.fpgaTime = t.txNow
  | .rxStart a => a.fpgaTime = t.rxNow + 1 / 100
  | e => e.isStreaming = true

instance (t : TimedUsrp α) : ∀ e, Decidable (IdealAt t e)
  | .setTxConfig _ => inferInstanceAs (Decidable (_ = _))
  | .setRxConfig _ => inferInstanceAs (Decidable (_ = _))
  | .setRfConfig _ _ => inferInstanceAs (Decidable (_ = _))
  | .txStart _ => inferInstanceAs (Decidable (_ = _))
  | .txSample _ => inferInstanceAs (Decidable (_ = _))
  | .txEnd _ => inferInstanceAs (Decidable (_ = _))
  | .rxStart _ => inferInstanceAs (Decidable (_ = _))
  | .rxSample _ _ => inferInstanceAs (Decidable (_ = _))
  | .rxEnd _ => inferInstanceAs (Decidable (_ = _))

/-- The clock only shows in steps of the threads. -/
theorem IdealAt.isStreaming {t : TimedUsrp α} {e : Event α} (h : IdealAt t e) :
    e.isStreaming = true := by
  cases e with
  | txStart a => rfl
  | rxStart a => rfl
  | _ => exact h

/-- A run of the threads under an ideal clock. -/
def Ideal (E : Environment α) (t : TimedUsrp α) (events : List (Event α)) : Prop :=
  Machine.AllSteps (timedStep E) IdealAt t events

instance (E : Environment α) (t : TimedUsrp α) (events : List (Event α)) :
    Decidable (Ideal E t events) :=
  inferInstanceAs (Decidable (Machine.AllSteps _ _ _ _))

end TimedUsrp

/-! ## A thread as a worker -/

open Deadline

/-- How far a thread has come with its configs, whether it is late, and its clock.  The
thread stops at a config that is not `usable`. -/
inductive Phase {ι : Type} (w : Worker ℚ) (start : ℚ) (configs : List ι) (job : ι → Job ℚ)
    (usable : ι → Prop) : StreamThread → Option Fault → ℚ → Prop
  | next (i : ℕ) (before : ∀ c ∈ configs.take i, usable c)
      (inTime : InTime w start ((configs.take i).map job)) :
      Phase w start configs job usable (.next i) none (w.doneAll start ((configs.take i).map job))
  | busy (i total : ℕ) (before : ∀ c ∈ configs.take (i + 1), usable c)
      (inTime : InTime w start ((configs.take (i + 1)).map job)) :
      Phase w start configs job usable (.busy i total) none
        (w.doneAll start ((configs.take (i + 1)).map job))
  | finished (now : ℚ) (inTime : InTime w start (configs.map job)) :
      Phase w start configs job usable .finished none now
  | failed (e : Fault) (now : ℚ) (other : OtherFault e) :
      Phase w start configs job usable .finished (some e) now
  | late (i : ℕ) (c : ι) (e : Fault) (now : ℚ) (config : configs[i]? = some c)
      (before : ∀ c ∈ configs.take i, usable c)
      (late : ¬ w.Meets (w.doneAll start ((configs.take i).map job)) (job c)) :
      Phase w start configs job usable .finished (some e) now

namespace Phase

variable {ι : Type} {w : Worker ℚ} {start now : ℚ} {configs : List ι} {job : ι → Job ℚ}
  {usable : ι → Prop} {i : ℕ} {exception : Option Fault}

/-- The thread has no more configs. -/
theorem exhaust (h : Phase w start configs job usable (.next i) exception now)
    (hconfig : configs[i]? = none) (now' : ℚ) :
    Phase w start configs job usable .finished exception now' := by
  cases h with
  | next i before inTime =>
      rw [List.take_of_length_le (List.getElem?_eq_none_iff.mp hconfig)] at inTime
      exact .finished now' inTime

/-- A job that begins in time ends at its time. -/
theorem begin {c : ι} (h : Phase w start configs job usable (.next i) exception now)
    (hconfig : configs[i]? = some c) (husable : usable c) (hmeets : w.Meets now (job c))
    (total : ℕ) :
    Phase w start configs job usable (.busy i total) exception (w.done now (job c)) := by
  have htake : configs.take (i + 1) = configs.take i ++ [c] := by
    rw [List.take_add_one, hconfig, Option.toList_some]
  cases h with
  | next i before inTime =>
      have hclock : w.doneAll start ((configs.take (i + 1)).map job) =
          w.done (w.doneAll start ((configs.take i).map job)) (job c) := by
        rw [htake, List.map_append]
        exact w.doneAll_concat _ _ _
      rw [← hclock]
      refine .busy i total (fun c' hc' => ?_) ?_
      · rw [htake] at hc'
        rcases List.mem_append.mp hc' with hold | hnew
        · exact before c' hold
        · rw [List.mem_singleton.mp hnew]
          exact husable
      · rw [List.map_take] at inTime hmeets ⊢
        have hjob : (configs.map job)[i]? = some (job c) := by
          rw [List.getElem?_map, hconfig]
          rfl
        exact (inTime_take_succ hjob).mpr ⟨inTime, hmeets⟩

/-- A late job ends the work, and so does another fault. -/
theorem stop {c : ι} {e : Fault} (h : Phase w start configs job usable (.next i) exception now)
    (hconfig : configs[i]? = some c) (he : OtherFault e ∨ ¬ w.Meets now (job c)) (now' : ℚ) :
    Phase w start configs job usable .finished (some e) now' := by
  cases h with
  | next i before inTime =>
      rcases he with hother | hlate
      · exact .failed e now' hother
      · exact .late i c e now' hconfig before hlate

theorem proceed {total : ℕ} (h : Phase w start configs job usable (.busy i total) exception now) :
    Phase w start configs job usable (.next (i + 1)) exception now := by
  cases h with
  | busy i total before inTime => exact .next (i + 1) before inTime

/-- A thread that is late has come to a config it cannot announce in time. -/
theorem not_inTime {thread : StreamThread} {s n : ℚ}
    (h : Phase w start configs job usable thread
      (some (.usrp (.targetStreamTimeTooClose s n))) now) :
    ∃ i, (∀ c ∈ configs.take i, usable c) ∧
      ¬ InTime w start ((configs.take (i + 1)).map job) := by
  cases h with
  | failed e now other => exact absurd rfl (other s n)
  | late i c e now config before late =>
      refine ⟨i, before, fun hall => late ?_⟩
      rw [List.map_take] at hall ⊢
      refine ((inTime_take_succ ?_).mp hall).2
      rw [List.getElem?_map, config]
      rfl

end Phase

namespace Usrp

variable {α : Type} {E : Environment α}

/-- Everything a thread computes its times from is as before. -/
structure SameTimes (u u' : Usrp α) : Prop where
  txConfigs : u'.txStreamingConfigs = u.txStreamingConfigs
  rxConfigs : u'.rxStreamingConfigs = u.rxStreamingConfigs
  baseTime : u'.baseTime = u.baseTime
  rxDecimFactor : u'.rxDecimFactor = u.rxDecimFactor
  rfConfig : u'.components.rfConfig = u.components.rfConfig

theorem sameTimes_refl (u : Usrp α) : SameTimes u u := ⟨rfl, rfl, rfl, rfl, rfl⟩

/-- Times that do not change do not change in two steps. -/
theorem SameTimes.trans {u₁ u₂ u₃ : Usrp α} (h : SameTimes u₁ u₂) (h' : SameTimes u₂ u₃) :
    SameTimes u₁ u₃ :=
  ⟨h'.txConfigs.trans h.txConfigs, h'.rxConfigs.trans h.rxConfigs, h'.baseTime.trans h.baseTime,
    h'.rxDecimFactor.trans h.rxDecimFactor, h'.rfConfig.trans h.rfConfig⟩

/-- The start of an iteration leaves the times alone. -/
theorem Started.sameTimes {d : Direction} {kind : ReplayCommand → Prop} {u u' : Usrp α}
    (h : Started d kind u u') : SameTimes u u' := by
  obtain ⟨r, radioCommands, -, rfl⟩ := h
  exact { sameTimes_refl u with }

/-- What the transmit thread keeps. -/
theorem TxStep.sameTimes {u u' : Usrp α} (h : TxStep u u') :
    SameTimes u u' ∧ u'.receiveThread = u.receiveThread ∧
      u'.receiveThreadException = u.receiveThreadException := by
  have hkept {c : TxStreamingConfig α} {a : StreamAnswers} {v : Usrp α}
      (hv : finalState (startTransmit c a u) = v) : SameTimes u v ∧
        v.receiveThread = u.receiveThread ∧
        v.receiveThreadException = u.receiveThreadException := by
    have hstarted := started_startTransmit c a u
    rw [hv] at hstarted
    refine ⟨hstarted.sameTimes, ?_⟩
    obtain ⟨r, radioCommands, -, rfl⟩ := hstarted
    exact ⟨rfl, rfl⟩
  cases h with
  | start i total c a v thread config started =>
      obtain ⟨htimes, hrest⟩ := hkept (c := c) (a := a) (v := v) (by rw [started]; rfl)
      exact ⟨{ htimes with }, hrest⟩
  | startFailed c a e v failed =>
      obtain ⟨htimes, hrest⟩ := hkept (c := c) (a := a) (v := v) (by rw [failed]; rfl)
      exact ⟨{ htimes with }, hrest⟩
  | _ => exact ⟨{ sameTimes_refl u with }, rfl, rfl⟩

/-- What the receive thread keeps. -/
theorem RxStep.sameTimes {u u' : Usrp α} (h : RxStep E u u') :
    SameTimes u u' ∧ u'.transmitThread = u.transmitThread ∧
      u'.transmitThreadException = u.transmitThreadException := by
  have hkept {c : RxStreamingConfig} {a : StreamAnswers} {v : Usrp α}
      (hv : finalState (startReceive E c a u) = v) : SameTimes u v ∧
        v.transmitThread = u.transmitThread ∧
        v.transmitThreadException = u.transmitThreadException := by
    have hstarted := started_startReceive (E := E) c a u
    rw [hv] at hstarted
    refine ⟨hstarted.sameTimes, ?_⟩
    obtain ⟨r, radioCommands, -, rfl⟩ := hstarted
    exact ⟨rfl, rfl⟩
  cases h with
  | start i total c a v thread config started =>
      obtain ⟨htimes, hrest⟩ := hkept (c := c) (a := a) (v := v) (by rw [started]; rfl)
      exact ⟨{ htimes with }, hrest⟩
  | startFailed c a e v failed =>
      obtain ⟨htimes, hrest⟩ := hkept (c := c) (a := a) (v := v) (by rw [failed]; rfl)
      exact ⟨{ htimes with }, hrest⟩
  | _ => exact ⟨{ sameTimes_refl u with }, rfl, rfl⟩

/-- Every step of the threads leaves the times alone. -/
theorem sameTimes_step {e : Event α} (he : e.isStreaming = true) (u : Usrp α) :
    SameTimes u (step E u e) := by
  rcases step_cases (E := E) he u with htx | hrx
  · exact htx.sameTimes.1
  · exact hrx.sameTimes.1

end Usrp

namespace TimedUsrp

open Usrp

variable {α : Type} {E : Environment α}

/-- A sleep that ends in the future ends when the signal does. -/
theorem afterStream_eq {now streamTime d : ℚ} (hnow : now ≤ streamTime) (hd : 0 ≤ d) :
    afterStream now streamTime d = streamTime + d + 1 / 50 := by
  rw [afterStream, max_eq_right (by linarith)]
  ring

/-! ## The transmit thread -/

/-- The transmit thread begins a config at once, looks for the end of one every 20 ms, and has to
be 20 ms ahead of a start. -/
def txWorker : Worker ℚ := ⟨0, 1 / 50, 1 / 50⟩

/-- The total number of samples the transmit thread sends for a config. -/
def txTotalSamples (c : TxStreamingConfig α) : UInt64 :=
  UInt64.ofNat (c.samples.headD []).length * sizeOfInt c.numRepetitions

/-- A TX config as a job: it begins at its offset and lasts as long as its samples. -/
def txJob (u : Usrp α) (c : TxStreamingConfig α) : Job ℚ where
  start := c.sendTimeOffset + u.baseTime
  duration := some (u.components.rfConfig.getTxSignalDuration (txTotalSamples c).toNat)

/-- The transmit thread of a device that started as `u` is on time, or late at a config
it reaches. -/
structure TxOnTime (u : Usrp α) (start : ℚ) (t : TimedUsrp α) : Prop where
  times : SameTimes u t.usrp
  phase : Phase txWorker start u.txStreamingConfigs (txJob u) (fun _ => True)
    t.usrp.transmitThread t.usrp.transmitThreadException t.txNow

/-- The start of a transmission under an ideal clock. -/
theorem phase_txStart {u : Usrp α} {start : ℚ} {t : TimedUsrp α}
    (hrate : 0 < u.components.rfConfig.getTxSamplingRate) (h : TxOnTime u start t)
    {a : StreamAnswers} (ha : a.fpgaTime = t.txNow) :
    Phase txWorker start u.txStreamingConfigs (txJob u) (fun _ => True)
      (txStart a t.usrp).transmitThread (txStart a t.usrp).transmitThreadException
      (txClock a t.usrp t.txNow) := by
  have hphase := h.phase
  unfold txStart txClock
  cases hthread : t.usrp.transmitThread with
  | next i =>
      rw [hthread] at hphase
      simp only
      rw [h.times.txConfigs]
      cases hconfig : u.txStreamingConfigs[i]? with
      | none => exact hphase.exhaust hconfig _
      | some c =>
          simp only
          have hoffset : c.sendTimeOffset + t.usrp.baseTime = (txJob u c).start := by
            rw [h.times.baseTime]
            rfl
          cases hstart : startTransmit c a t.usrp with
          | ok total v =>
              obtain ⟨first, r, radioCommands, hfirst, -, htotal, rfl⟩ := startTransmit_eq_ok hstart
              have hmeets := inTime_of_startTransmit hstart
              rw [ha, hoffset] at hmeets
              have htotal' : total = (txTotalSamples c).toNat := by
                rw [htotal, txTotalSamples, headD_of_firstSignal hfirst]
              have hbegin := hphase.begin hconfig trivial (fun _ => by
                show t.txNow + 0 + 1 / 50 ≤ _
                linarith only [hmeets]) total
              have hduration :
                  0 ≤ u.components.rfConfig.getTxSignalDuration (txTotalSamples c).toNat :=
                div_nonneg (Nat.cast_nonneg _) hrate.le
              have hclock : afterStream t.txNow (c.sendTimeOffset + t.usrp.baseTime)
                  (t.usrp.components.rfConfig.getTxSignalDuration total) =
                    txWorker.done t.txNow (txJob u c) := by
                rw [hoffset, h.times.rfConfig, htotal', afterStream_eq (by linarith) hduration]
                rfl
              simp only
              rw [hclock]
              exact hbegin
          | error e v =>
              refine hphase.stop hconfig ?_ _
              refine (startTransmit_error hstart).imp_right fun hlate hmeets => ?_
              have hin : t.txNow + 0 + 1 / 50 ≤ (txJob u c).start :=
                hmeets (Option.some_ne_none _)
              rw [ha, hoffset] at hlate
              linarith only [hlate, hin]
  | _ => exact hphase

/-- A step keeps the transmit thread on time, or late at a config it has reached. -/
theorem txOnTime_step {u : Usrp α} {start : ℚ} {t : TimedUsrp α} {e : Event α}
    (hrate : 0 < u.components.rfConfig.getTxSamplingRate) (h : TxOnTime u start t)
    (he : IdealAt t e) : TxOnTime u start (timedStep E t e) := by
  refine ⟨h.times.trans (sameTimes_step he.isStreaming t.usrp), ?_⟩
  have hphase := h.phase
  have hother (hrx : RxStep E t.usrp (step E t.usrp e)) :
      Phase txWorker start u.txStreamingConfigs (txJob u) (fun _ => True)
        (step E t.usrp e).transmitThread (step E t.usrp e).transmitThreadException t.txNow := by
    obtain ⟨-, hthread, hexception⟩ := hrx.sameTimes
    rw [hthread, hexception]
    exact hphase
  cases e with
  | setTxConfig conf => cases he
  | setRxConfig conf => cases he
  | setRfConfig conf a => cases he
  | txStart a => exact phase_txStart hrate h he
  | txSample stream =>
      unfold timedStep step txSample
      simp only
      split
      · split
        · exact hphase
        · exact hphase
      · exact hphase
  | txEnd eventCode =>
      show Phase _ _ _ _ _ (txEnd eventCode t.usrp).transmitThread
        (txEnd eventCode t.usrp).transmitThreadException t.txNow
      unfold txEnd
      split
      · exact .failed _ _ fun _ _ h => nomatch h
      · rename_i i total hthread
        split
        · rw [hthread] at hphase
          exact hphase.proceed
        · exact hphase
      · exact hphase
  | rxStart a => exact hother (rxStep_rxStart a t.usrp)
  | rxSample stream w => exact hother (rxStep_rxSample stream w t.usrp)
  | rxEnd strerror => exact hother (rxStep_rxEnd strerror t.usrp)

/-! ### Stored TX configs -/

section

variable {u : Usrp α} {fs : ℚ}

theorem duration_nonneg {c conf : TxStreamingConfig α} {zero : α} (hfs : 0 < fs)
    (h : PaddedFrom zero conf c) : 0 ≤ c.duration fs := by
  have hreps : (0 : ℚ) ≤ c.numRepetitions.toInt := by
    exact_mod_cast le_trans Int.one_nonneg h.numRepetitions_pos
  exact mul_nonneg (div_nonneg (Nat.cast_nonneg _) hfs.le) hreps

/-- The samples of all repetitions are counted exactly. -/
theorem txTotalSamples_toNat {c conf : TxStreamingConfig α} {zero : α}
    (h : PaddedFrom zero conf c) :
    ((txTotalSamples c).toNat : ℤ) = (c.samples.headD []).length * c.numRepetitions.toInt := by
  obtain ⟨reps, hreps⟩ : ∃ reps : ℕ, c.numRepetitions.toInt = reps :=
    ⟨_, (Int.toNat_of_nonneg (by linarith [h.numRepetitions_pos])).symm⟩
  have hlt := c.numRepetitions.toInt_lt
  have hmax : MAX_SAMPLES_TX_SIGNAL = 200000 := rfl
  have hlen := h.length_le
  have hword : (UInt64.ofNat (c.samples.headD []).length).toNat = (c.samples.headD []).length := by
    rw [UInt64.toNat_ofNat']
    omega
  have hbound : (c.samples.headD []).length * reps < 2 ^ 64 := by
    calc (c.samples.headD []).length * reps ≤ 200000 * reps := Nat.mul_le_mul_right _ (by omega)
      _ < 2 ^ 64 := by omega
  rw [txTotalSamples, UInt64.toNat_mul, toNat_sizeOfInt hreps, hword, Nat.mod_eq_of_lt hbound,
    hreps]
  push_cast
  rfl

/-- A call keeps the stored TX configs, empties them, or stores one more. -/
theorem txConfigs_callStep (x : Call α) (v : Usrp α) :
    (callStep E v x).txStreamingConfigs = v.txStreamingConfigs ∨
      (callStep E v x).txStreamingConfigs = [] ∨
      ∃ conf c, x = .event (.setTxConfig conf) ∧ PaddedFrom E.format.zero conf c ∧
        TxValid v v.txStreamingConfigs.getLast? c ∧
        (callStep E v x).txStreamingConfigs = v.txStreamingConfigs ++ [c] := by
  cases x with
  | event e =>
      by_cases he : e.isStreaming = true
      · exact Or.inl (sameTimes_step he v).txConfigs
      · cases e with
        | setTxConfig conf =>
            rcases setTxConfig_cases (E := E) conf v with hkept | ⟨c, hpadded, hvalid, hstored⟩
            · exact Or.inl (congrArg Usrp.txStreamingConfigs hkept)
            · exact Or.inr (Or.inr ⟨conf, c, rfl, hpadded, hvalid,
                congrArg Usrp.txStreamingConfigs hstored⟩)
        | setRxConfig conf =>
            refine Or.inl ?_
            show (rxRequest v conf).txStreamingConfigs = _
            rcases rxRequest_cases v conf with hkept | hok
            · rw [hkept]
            · rw [(setRxConfig_eq_ok_iff.mp hok).2]
        | setRfConfig conf a => exact Or.inl (sameConfigs_onComponents _ v ⟨rfl, rfl⟩).1
        | _ => exact absurd rfl he
  | resetStreamingConfigs => exact Or.inr (Or.inl rfl)
  | execute a baseTime => exact Or.inl (sameConfigs_execute a baseTime v ⟨rfl, rfl⟩).1
  | collect a =>
      rcases sameConfigs_collect (E := E) (u := v) a v (Or.inl ⟨rfl, rfl⟩) with hsame | ⟨htx, -⟩
      · exact Or.inl hsame.1
      · exact Or.inr (Or.inl htx)

/-- The TX configs stored by calls at one sampling rate: each is what an accepted
request was filled up to, and any two of them are separated. -/
theorem txConfigs_separated (hfs : 0 < fs) (hreset : u.txStreamingConfigs = [])
    (calls : List (Call α)) (hrate : ∀ k, (Machine.run (callStep E) u
      (calls.take k)).components.rfConfig.getTxSamplingRate = fs) :
    (Machine.run (callStep E) u calls).txStreamingConfigs.Pairwise (TxFollows fs) ∧
      ∀ c ∈ (Machine.run (callStep E) u calls).txStreamingConfigs,
        ∃ conf, .event (.setTxConfig conf) ∈ calls ∧ PaddedFrom E.format.zero conf c := by
  induction calls using List.reverseRecOn with
  | nil =>
      show u.txStreamingConfigs.Pairwise _ ∧ ∀ c ∈ u.txStreamingConfigs, _
      rw [hreset]
      exact ⟨List.Pairwise.nil, fun c hc => nomatch hc⟩
  | append_singleton calls x ih =>
      have hrun : Machine.run (callStep E) u (calls ++ [x]) =
          callStep E (Machine.run (callStep E) u calls) x := by
        rw [Machine.run, List.foldl_append]
        rfl
      have htake (k : ℕ) : (calls ++ [x]).take (min k calls.length) = calls.take k := by
        rw [List.take_append_of_le_length (Nat.min_le_right _ _), ← List.take_take,
          List.take_length]
      obtain ⟨hpairwise, hpadded⟩ := ih fun k => by rw [← htake]; exact hrate _
      have hnow := hrate calls.length
      rw [List.take_left] at hnow
      have hold : ∀ c ∈ (Machine.run (callStep E) u calls).txStreamingConfigs, ∃ conf,
          .event (.setTxConfig conf) ∈ calls ++ [x] ∧ PaddedFrom E.format.zero conf c := by
        intro c hc
        obtain ⟨conf, hcall, hconf⟩ := hpadded c hc
        exact ⟨conf, List.mem_append_left _ hcall, hconf⟩
      rw [hrun]
      rcases txConfigs_callStep x (Machine.run (callStep E) u calls) with hkept | hempty |
        ⟨conf, c, rfl, hconf, hvalid, hstored⟩
      · rw [hkept]
        exact ⟨hpairwise, hold⟩
      · rw [hempty]
        exact ⟨List.Pairwise.nil, fun c hc => nomatch hc⟩
      · rw [hstored]
        have hfollows := hvalid.follows
        rw [hnow] at hfollows
        refine ⟨Schedule.pairwise_concat guardOffset_nonneg (fun b hb => ?_) hpairwise hfollows,
          fun b hb => ?_⟩
        · obtain ⟨conf', -, hconf'⟩ := hpadded b hb
          exact duration_nonneg hfs hconf'
        · rcases List.mem_append.mp hb with hb | hb
          · exact hold b hb
          · rw [List.mem_singleton.mp hb]
            exact ⟨conf, List.mem_append_right _ (List.mem_singleton.mpr rfl), hconf⟩

/-- Jobs that are separated by the guard offset are announced in time. -/
theorem inTime_of_txFollows {configs : List (TxStreamingConfig α)} {zero : α} {txNow : ℚ}
    (hfs : 0 < fs) (hrate : u.components.rfConfig.getTxSamplingRate = fs)
    (hpairwise : configs.Pairwise (TxFollows fs))
    (hpadded : ∀ c ∈ configs, ∃ conf, PaddedFrom zero conf c)
    (hfirst : ∀ c ∈ configs.head?, txNow + 1 / 50 ≤ c.sendTimeOffset + u.baseTime) :
    InTime txWorker txNow (configs.map (txJob u)) := by
  have hfollows {i j : ℕ} {a b : TxStreamingConfig α} (hij : i < j) (ha : configs[i]? = some a)
      (hb : configs[j]? = some b) :
      a.sendTimeOffset + 1 / 20 + (txTotalSamples a).toNat / fs ≤ b.sendTimeOffset := by
    obtain ⟨hi, ha⟩ := List.getElem?_eq_some_iff.mp ha
    obtain ⟨hj, hb⟩ := List.getElem?_eq_some_iff.mp hb
    have hab := List.pairwise_iff_getElem.mp hpairwise i j hi hj hij
    rw [ha, hb] at hab
    obtain ⟨conf, hconf⟩ := hpadded a (ha ▸ List.getElem_mem hi)
    have htotal : ((txTotalSamples a).toNat : ℚ) / fs = a.duration fs := by
      have hexact := txTotalSamples_toNat hconf
      have hcast : ((txTotalSamples a).toNat : ℚ) =
          (a.samples.headD []).length * a.numRepetitions.toInt := by exact_mod_cast hexact
      rw [hcast, TxStreamingConfig.duration]
      ring
    rw [htotal]
    exact hab
  have hjob {i : ℕ} {job : Job ℚ} (hget : (configs.map (txJob u))[i]? = some job) :
      ∃ c, configs[i]? = some c ∧ job = txJob u c := by
    rw [List.getElem?_map] at hget
    obtain ⟨c, hc, rfl⟩ := Option.map_eq_some_iff.mp hget
    exact ⟨c, hc, rfl⟩
  have hnonneg (n : ℕ) : (0 : ℚ) ≤ n / fs := div_nonneg (Nat.cast_nonneg n) hfs.le
  refine (inTime_iff_clears fun j job hget => ?_).mpr fun i j a b d hij ha hb hd _ => ?_
  · obtain ⟨c, hc, rfl⟩ := hjob hget
    show txNow + j • 0 + 0 + 1 / 50 ≤ c.sendTimeOffset + u.baseTime
    rw [nsmul_zero]
    cases j with
    | zero =>
        have hdeadline := hfirst c (by rw [List.head?_eq_getElem?, hc]; rfl)
        linarith only [hdeadline]
    | succ j =>
        have hpos : 0 < configs.length :=
          lt_of_le_of_lt (Nat.zero_le _) (List.getElem?_eq_some_iff.mp hc).1
        have hhead : configs[0]? = some configs[0] := List.getElem?_eq_getElem hpos
        have hdeadline := hfirst configs[0] (by rw [List.head?_eq_getElem?, hhead]; rfl)
        have hlater := hfollows (Nat.succ_pos j) hhead hc
        have hduration := hnonneg (txTotalSamples configs[0]).toNat
        linarith only [hdeadline, hlater, hduration]
  · obtain ⟨a', ha', rfl⟩ := hjob ha
    obtain ⟨b', hb', rfl⟩ := hjob hb
    have hlater := hfollows hij.1 ha' hb'
    cases hd
    show a'.sendTimeOffset + u.baseTime + (txTotalSamples a').toNat /
        u.components.rfConfig.getTxSamplingRate + 1 / 50 + (j - i - 1) • 0 + 0 + 1 / 50 ≤
      b'.sendTimeOffset + u.baseTime
    rw [hrate, nsmul_zero]
    linarith only [hlater]

/-- The device in which an execution has spawned the threads. -/
structure Spawned (u u' : Usrp α) : Prop where
  txConfigs : u'.txStreamingConfigs = u.txStreamingConfigs
  rxConfigs : u'.rxStreamingConfigs = u.rxStreamingConfigs
  rfConfig : u'.components.rfConfig.rfConfig = u.components.rfConfig.rfConfig
  transmitThread : u'.transmitThread = .next 0
  receiveThread : u'.receiveThread = .next 0
  transmitThreadException : u'.transmitThreadException = none
  receiveThreadException : u'.receiveThreadException = none

/-- `execute` leaves both threads before their first config. -/
theorem spawned_of_execute {a : ExecuteAnswers} {baseTime : ℚ} {u' : Usrp α}
    (h : execute E a baseTime u = .ok () u') : Spawned u u' := by
  have hconfigs : SameConfigs u u' := (sameConfigs_execute a baseTime).of_ok ⟨rfl, rfl⟩ h
  obtain ⟨v, r, startTime, rxDecimFactor, hupload, -, hrf, rfl⟩ := execute_eq_ok h
  have hframe := (preserves_performUpload a).of_ok (uploadFrame_refl _) hupload
  exact ⟨hconfigs.1, hconfigs.2, hrf.trans (congrArg _ hframe.rfConfig), rfl, rfl, rfl, rfl⟩

/-- **The TX schedule.**  After calls at one sampling rate, any two stored configs are
separated by the guard offset and all repetitions of the padded signal of the earlier
one; and if the transmit thread of an execution comes to the first config in time, it
comes to every config in time under an ideal clock. -/
theorem txSchedule_inTime (hfs : 0 < fs) (hreset : u.txStreamingConfigs = [])
    (calls : List (Call α)) (hrate : ∀ k, (Machine.run (callStep E) u
      (calls.take k)).components.rfConfig.getTxSamplingRate = fs) :
    (Machine.run (callStep E) u calls).txStreamingConfigs.Pairwise (TxFollows fs) ∧
      (∀ c ∈ (Machine.run (callStep E) u calls).txStreamingConfigs,
        ∃ conf, .event (.setTxConfig conf) ∈ calls ∧
          conf.alignToWordSize E.format.zero = .ok c) ∧
      ∀ (a : ExecuteAnswers) (baseTime : ℚ) (u' : Usrp α) (txNow rxNow : ℚ)
        (events : List (Event α)),
        execute E a baseTime (Machine.run (callStep E) u calls) = .ok () u' →
        (∀ c ∈ u'.txStreamingConfigs.head?, txNow + 1 / 50 ≤ c.sendTimeOffset + u'.baseTime) →
        Ideal E ⟨u', txNow, rxNow⟩ events → ∀ streamTime fpgaTime,
          (Machine.run (timedStep E) ⟨u', txNow, rxNow⟩ events).usrp.transmitThreadException ≠
            some (.usrp (.targetStreamTimeTooClose streamTime fpgaTime)) := by
  obtain ⟨hpairwise, hpadded⟩ := txConfigs_separated hfs hreset calls hrate
  refine ⟨hpairwise, fun c hc => ?_, ?_⟩
  · obtain ⟨conf, hcall, hconf⟩ := hpadded c hc
    exact ⟨conf, hcall, hconf.aligned⟩
  · intro a baseTime u' txNow rxNow events hexecute hfirst hideal streamTime fpgaTime hlate
    have hspawned := spawned_of_execute hexecute
    have hrate' : u'.components.rfConfig.getTxSamplingRate = fs := by
      have hnow := hrate calls.length
      rw [List.take_length] at hnow
      rw [← hnow, RFConfiguration.getTxSamplingRate, hspawned.rfConfig]
      rfl
    rw [← hspawned.txConfigs] at hpairwise hpadded
    have hstart : TxOnTime u' txNow ⟨u', txNow, rxNow⟩ := by
      refine ⟨sameTimes_refl u', ?_⟩
      rw [hspawned.transmitThread, hspawned.transmitThreadException]
      exact .next 0 (fun c _ => trivial) fun j job hget => by cases hget
    have hend := Machine.run_invariant (TxOnTime u' txNow)
      (fun t e ht he => txOnTime_step (by rw [hrate']; exact hfs) ht he) hstart hideal
    have hphase := hend.phase
    rw [hlate] at hphase
    obtain ⟨i, -, hnot⟩ := hphase.not_inTime
    have hpadded' : ∀ c ∈ u'.txStreamingConfigs.take (i + 1),
        ∃ conf, PaddedFrom E.format.zero conf c := by
      intro c hc
      obtain ⟨conf, -, hconf⟩ := hpadded c (List.mem_of_mem_take hc)
      exact ⟨conf, hconf⟩
    refine hnot (inTime_of_txFollows hfs hrate' (hpairwise.sublist (List.take_sublist _ _))
      hpadded' fun c hc => hfirst c ?_)
    rw [List.head?_take, if_neg (Nat.succ_ne_zero i)] at hc
    exact hc

end

/-- Eight samples that are sent twice, and five samples after a second. -/
def exampleTxCalls : List (Call Wire) :=
  let signal := fun n => (List.range n).map fun i _ => UInt8.ofNat i
  [.event (.setTxConfig ⟨[signal 8], 0, 2⟩), .event (.setTxConfig ⟨[signal 5], 1, 1⟩)]

/-- Sixteen and eight samples are sent at the times of an ideal clock. -/
def exampleTxTimes : List (Event Wire) :=
  [.txStart exampleStreamAnswers] ++ List.replicate 16 (.txSample 0) ++
    [.txEnd none,
      .txStart { exampleStreamAnswers with fpgaTime := 1 + 16 / 122880000 + 1 / 50 }] ++
    List.replicate 8 (.txSample 0)

/-- Both configs are sent in time. -/
theorem txSchedule_inTime_example :
    ∃ u₁, execute exampleEnvironment exampleExecuteAnswers 1
        (Machine.run (callStep exampleEnvironment) exampleUsrp exampleTxCalls) = .ok () u₁ ∧
      u₁.txStreamingConfigs.length = 2 ∧ ∀ streamTime fpgaTime,
        (Machine.run (timedStep exampleEnvironment) ⟨u₁, 0, 0⟩
          exampleTxTimes).usrp.transmitThreadException ≠
            some (.usrp (.targetStreamTimeTooClose streamTime fpgaTime)) := by
  obtain ⟨_, hexecute⟩ := exists_of_returned
    (by decide +kernel : returned (execute exampleEnvironment exampleExecuteAnswers 1
      (Machine.run (callStep exampleEnvironment) exampleUsrp exampleTxCalls)) = true)
  have hrate (k : ℕ) : (Machine.run (callStep exampleEnvironment) exampleUsrp
      (exampleTxCalls.take k)).components.rfConfig.getTxSamplingRate = 122880000 := by
    rcases Nat.lt_or_ge k 2 with hk | hk
    · obtain rfl | rfl : k = 0 ∨ k = 1 := by omega
      · decide +kernel
      · decide +kernel
    · rw [List.take_of_length_le hk]
      decide +kernel
  refine ⟨_, hexecute, by decide +kernel, ?_⟩
  exact (txSchedule_inTime (by norm_num) rfl exampleTxCalls hrate).2.2 _ _ _ 0 0 _ hexecute
    (by decide +kernel) (by decide +kernel)

/-! ## The receive thread -/

/-- The receive thread sleeps 10 ms before it begins a config. -/
def rxWorker : Worker ℚ := ⟨1 / 100, 1 / 50, 1 / 50⟩

/-- An RX config as a job, left out when there is nothing to receive. -/
def rxJob (u : Usrp α) (c : RxStreamingConfig) : Job ℚ where
  start := c.receiveTimeOffset + u.baseTime
  duration := (c.recordedSamples u.rxDecimFactor).map fun n =>
    u.components.rfConfig.getRxSignalDuration n.toNat

/-- A config without samples to receive takes no time. -/
theorem rxJob_duration {u : Usrp α} {c : RxStreamingConfig} {n : UInt64}
    (h : c.totalWordAlignedSamples = .ok n) :
    (rxJob u c).duration = if n * UInt64.ofInt u.rxDecimFactor = 0 then none
      else some (u.components.rfConfig.getRxSignalDuration n.toNat) := by
  simp only [rxJob, RxStreamingConfig.recordedSamples, h]
  split <;> rfl

theorem rxJob_duration_ne_none {u : Usrp α} {c : RxStreamingConfig} :
    (rxJob u c).duration ≠ none ↔ c.recordedSamples u.rxDecimFactor ≠ none := by
  rw [rxJob, ne_eq, Option.map_eq_none_iff]

/-- The receive thread of a device that started as `u` is on time, or late at a config
it reaches. -/
structure RxOnTime (u : Usrp α) (start : ℚ) (t : TimedUsrp α) : Prop where
  times : SameTimes u t.usrp
  phase : Phase rxWorker start u.rxStreamingConfigs (rxJob u) RxStreamingConfig.PeriodAligned
    t.usrp.receiveThread t.usrp.receiveThreadException t.rxNow

/-- The start of a reception under an ideal clock. -/
theorem phase_rxStart {u : Usrp α} {start : ℚ} {t : TimedUsrp α}
    (hrate : 0 < u.components.rfConfig.getRxSamplingRate) (h : RxOnTime u start t)
    {a : StreamAnswers} (ha : a.fpgaTime = t.rxNow + 1 / 100) :
    Phase rxWorker start u.rxStreamingConfigs (rxJob u) RxStreamingConfig.PeriodAligned
      (rxStart E a t.usrp).receiveThread (rxStart E a t.usrp).receiveThreadException
      (rxClock E a t.usrp t.rxNow) := by
  have hphase := h.phase
  unfold rxStart rxClock
  cases hthread : t.usrp.receiveThread with
  | next i =>
      rw [hthread] at hphase
      simp only
      rw [h.times.rxConfigs]
      cases hconfig : u.rxStreamingConfigs[i]? with
      | none => exact hphase.exhaust hconfig _
      | some c =>
          simp only
          have hoffset : c.receiveTimeOffset + t.usrp.baseTime = (rxJob u c).start := by
            rw [h.times.baseTime]
            rfl
          cases hstart : startReceive E c a t.usrp with
          | ok total v =>
              obtain ⟨r, _, radioCommands, -, -, -, rfl⟩ := startReceive_eq_ok hstart
              obtain ⟨n, htotal, rfl, hdeadline⟩ := inTime_of_startReceive hstart
              rw [ha, hoffset, h.times.rxDecimFactor] at hdeadline
              simp only
              rw [UInt64.ofNat_toNat, h.times.rxDecimFactor]
              by_cases hzero : n * UInt64.ofInt u.rxDecimFactor = 0
              · -- `receive` returns at once
                have hskip : (rxJob u c).duration = none := by
                  rw [rxJob_duration htotal, if_pos hzero]
                have hbegin := hphase.begin hconfig ⟨n, htotal⟩ (fun hcarried =>
                  absurd hskip hcarried) n.toNat
                rw [if_pos hzero]
                rw [Worker.done, hskip] at hbegin
                exact hbegin
              · have hcarried : (rxJob u c).duration =
                    some (u.components.rfConfig.getRxSignalDuration n.toNat) := by
                  rw [rxJob_duration htotal, if_neg hzero]
                have hmeets := hdeadline hzero
                have hduration : 0 ≤ u.components.rfConfig.getRxSignalDuration n.toNat :=
                  div_nonneg (Nat.cast_nonneg _) hrate.le
                have hbegin := hphase.begin hconfig ⟨n, htotal⟩ (fun _ => hmeets) n.toNat
                rw [if_neg hzero, hoffset, h.times.rfConfig,
                  afterStream_eq (by linarith only [hmeets]) hduration]
                rw [Worker.done, hcarried] at hbegin
                exact hbegin
          | error e v =>
              refine hphase.stop hconfig ?_ _
              refine (startReceive_error hstart).imp_right ?_
              rintro ⟨hrecorded, hlate⟩ hmeets
              rw [h.times.rxDecimFactor] at hrecorded
              have hin : t.rxNow + 1 / 100 + 1 / 50 ≤ (rxJob u c).start :=
                hmeets (rxJob_duration_ne_none.mpr hrecorded)
              rw [ha, hoffset] at hlate
              linarith only [hlate, hin]
  | _ => exact hphase

/-- A step keeps the receive thread on time, or late at a config it has reached. -/
theorem rxOnTime_step {u : Usrp α} {start : ℚ} {t : TimedUsrp α} {e : Event α}
    (hrate : 0 < u.components.rfConfig.getRxSamplingRate) (h : RxOnTime u start t)
    (he : IdealAt t e) : RxOnTime u start (timedStep E t e) := by
  refine ⟨h.times.trans (sameTimes_step he.isStreaming t.usrp), ?_⟩
  have hphase := h.phase
  have hother (htx : TxStep t.usrp (step E t.usrp e)) :
      Phase rxWorker start u.rxStreamingConfigs (rxJob u) RxStreamingConfig.PeriodAligned
        (step E t.usrp e).receiveThread (step E t.usrp e).receiveThreadException t.rxNow := by
    obtain ⟨-, hthread, hexception⟩ := htx.sameTimes
    rw [hthread, hexception]
    exact hphase
  cases e with
  | setTxConfig conf => cases he
  | setRxConfig conf => cases he
  | setRfConfig conf a => cases he
  | rxStart a => exact phase_rxStart hrate h he
  | rxSample stream w =>
      unfold timedStep step rxSample
      simp only
      split
      · split
        · exact hphase
        · exact hphase
      · exact hphase
  | rxEnd strerror =>
      show Phase _ _ _ _ _ (rxEnd strerror t.usrp).receiveThread
        (rxEnd strerror t.usrp).receiveThreadException t.rxNow
      unfold rxEnd
      split
      · split
        · exact hphase
        · exact .failed _ _ fun _ _ h => nomatch h
      · rename_i i total hthread
        split
        · rw [hthread] at hphase
          exact hphase.proceed
        · exact hphase
      · exact hphase
  | txStart a => exact hother (txStep_txStart a t.usrp)
  | txSample stream => exact hother (txStep_txSample stream t.usrp)
  | txEnd eventCode => exact hother (txStep_txEnd eventCode t.usrp)

/-! ### Gaps between RX configs -/

/-- Between two configs that are recorded, without one between them and behind none at
which the thread stops, there is room for the word-aligned samples of the first one,
the guard offset, and the buffer clearing of the configs between them. -/
def RxGapsSuffice (fs : ℚ) (rxDecimFactor : ℤ) (configs : List RxStreamingConfig) : Prop :=
  ∀ (i j : ℕ) (a b : RxStreamingConfig) (n : UInt64), i < j →
    configs[i]? = some a → configs[j]? = some b → a.recordedSamples rxDecimFactor = some n →
    b.recordedSamples rxDecimFactor ≠ none →
    (∀ (k : ℕ) (c : RxStreamingConfig), k < j → configs[k]? = some c →
      c.PeriodAligned ∧ (i < k → c.recordedSamples rxDecimFactor = none)) →
      a.receiveTimeOffset + n.toNat / fs + GUARD_OFFSET_S + (j - i - 1 : ℕ) / 100 ≤
        b.receiveTimeOffset

section

variable {u : Usrp α} {fs : ℚ} {configs : List RxStreamingConfig}

theorem getElem?_map_rxJob {i : ℕ} {job : Job ℚ} (h : (configs.map (rxJob u))[i]? = some job) :
    ∃ c, configs[i]? = some c ∧ job = rxJob u c := by
  rw [List.getElem?_map] at h
  obtain ⟨c, hc, rfl⟩ := Option.map_eq_some_iff.mp h
  exact ⟨c, hc, rfl⟩

/-- What the clock of the worker adds between two recorded configs is the guard offset. -/
theorem rxJob_gap_iff (hrate : u.components.rfConfig.getRxSamplingRate = fs)
    {a b : RxStreamingConfig} {n : UInt64} (k : ℕ) :
    (rxJob u a).start + u.components.rfConfig.getRxSignalDuration n.toNat + rxWorker.poll +
        k • rxWorker.setup + rxWorker.setup + rxWorker.lead ≤ (rxJob u b).start ↔
      a.receiveTimeOffset + n.toNat / fs + GUARD_OFFSET_S + (k : ℕ) / 100 ≤
        b.receiveTimeOffset := by
  show a.receiveTimeOffset + u.baseTime + n.toNat / u.components.rfConfig.getRxSamplingRate +
    1 / 50 + k • (1 / 100) + 1 / 100 + 1 / 50 ≤ b.receiveTimeOffset + u.baseTime ↔
      a.receiveTimeOffset + n.toNat / fs + 1 / 20 + k / 100 ≤ b.receiveTimeOffset
  rw [hrate, nsmul_eq_mul]
  constructor
  · intro h
    linarith only [h]
  · intro h
    linarith only [h]

/-- The gaps are clear up to the first config at which the thread stops. -/
theorem clears_of_rxGapsSuffice (hrate : u.components.rfConfig.getRxSamplingRate = fs) {m : ℕ}
    (hbefore : ∀ c ∈ configs.take m, c.PeriodAligned)
    (hgaps : RxGapsSuffice fs u.rxDecimFactor configs) :
    Clears rxWorker ((configs.take (m + 1)).map (rxJob u)) := by
  have hget {k : ℕ} {c : RxStreamingConfig} (h : (configs.take (m + 1))[k]? = some c) :
      k ≤ m ∧ configs[k]? = some c := by
    rw [List.getElem?_take] at h
    split at h
    · exact ⟨by omega, h⟩
    · cases h
  intro i j a b d hij ha hb hd hcarried
  obtain ⟨a', ha', rfl⟩ := getElem?_map_rxJob ha
  obtain ⟨b', hb', rfl⟩ := getElem?_map_rxJob hb
  obtain ⟨n, hn, rfl⟩ := Option.map_eq_some_iff.mp hd
  refine (rxJob_gap_iff hrate _).mpr (hgaps i j a' b' n hij.1 (hget ha').2 (hget hb').2 hn
    (rxJob_duration_ne_none.mp hcarried) fun k c hk hc => ⟨?_, fun hik => ?_⟩)
  · refine hbefore c (List.mem_iff_getElem?.mpr ⟨k, ?_⟩)
    have hj := (hget hb').1
    rw [List.getElem?_take, if_pos (by omega)]
    exact hc
  · have hj := (hget hb').1
    have hskip := hij.2 k (rxJob u c) hik hk (by
      rw [List.getElem?_map, List.getElem?_take, if_pos (by omega), hc]
      rfl)
    exact Option.map_eq_none_iff.mp hskip

/-- Jobs that leave room for each other are configs whose gaps suffice. -/
theorem rxGapsSuffice_of_clears (hrate : u.components.rfConfig.getRxSamplingRate = fs)
    (h : Clears rxWorker (configs.map (rxJob u))) :
    RxGapsSuffice fs u.rxDecimFactor configs := by
  intro i j a b n hij ha hb hn hcarried hbetween
  have hjob {k : ℕ} {c : RxStreamingConfig} (hc : configs[k]? = some c) :
      (configs.map (rxJob u))[k]? = some (rxJob u c) := by
    rw [List.getElem?_map, hc]
    rfl
  refine (rxJob_gap_iff hrate _).mp (h i j _ _ _ ⟨hij, fun k job hik hk hget => ?_⟩ (hjob ha)
    (hjob hb) (by rw [rxJob, hn]; rfl) (rxJob_duration_ne_none.mpr hcarried))
  obtain ⟨c, hc, rfl⟩ := getElem?_map_rxJob hget
  exact Option.map_eq_none_iff.mpr ((hbetween k c hk hc).2 hik)

/-- Any two accepted RX configs are separated by the guard offset and the samples that
the validator counts for the earlier one. -/
theorem rxAccepted_pairwise {u' : Usrp α} (hfs : 0 < u.components.rfConfig.getRxSamplingRate)
    (haccepted : forM configs setRxConfig u = .ok () u')
    (hpairwise : u.rxStreamingConfigs.Pairwise (Schedule.Follows
      (fun c => c.receiveTimeOffset)
      (fun c => c.totalSamples.toNat / u.components.rfConfig.getRxSamplingRate) GUARD_OFFSET_S)) :
    u'.rxStreamingConfigs.Pairwise (Schedule.Follows (fun c => c.receiveTimeOffset)
      (fun c => c.totalSamples.toNat / u.components.rfConfig.getRxSamplingRate)
      GUARD_OFFSET_S) := by
  induction configs generalizing u with
  | nil =>
      cases haccepted
      exact hpairwise
  | cons c configs ih =>
      rw [List.forM_cons] at haccepted
      obtain ⟨_, v, hset, htail⟩ := bind_eq_ok_iff.mp haccepted
      obtain ⟨⟨-, hfollows⟩, rfl⟩ := setRxConfig_eq_ok_iff.mp hset
      exact ih (u := { u with rxStreamingConfigs := u.rxStreamingConfigs ++ [c] }) hfs htail
        (Schedule.pairwise_concat guardOffset_nonneg
        (fun b _ => div_nonneg (Nat.cast_nonneg _) hfs.le) hpairwise hfollows)

/-- Until something is recorded, the guard offsets leave time to clear the buffer. -/
theorem first_rxJob_le {rxNow : ℚ} (hfs : 0 < fs)
    (hpairwise : configs.Pairwise (Schedule.Follows (fun c => c.receiveTimeOffset)
      (fun c => c.totalSamples.toNat / fs) GUARD_OFFSET_S))
    (hfirst : ∀ c ∈ configs.head?, rxNow + 1 / 100 + 1 / 50 ≤ c.receiveTimeOffset + u.baseTime)
    (j : ℕ) (job : Job ℚ) (hget : (configs.map (rxJob u))[j]? = some job) :
    rxNow + j • rxWorker.setup + rxWorker.setup + rxWorker.lead ≤ job.start := by
  obtain ⟨c, hc, rfl⟩ := getElem?_map_rxJob hget
  show rxNow + j • (1 / 100) + 1 / 100 + 1 / 50 ≤ c.receiveTimeOffset + u.baseTime
  rw [nsmul_eq_mul]
  induction j generalizing c with
  | zero =>
      have hdeadline := hfirst c (by rw [List.head?_eq_getElem?, hc]; rfl)
      rw [Nat.cast_zero, zero_mul]
      linarith only [hdeadline]
  | succ j ih =>
      obtain ⟨hlt, rfl⟩ := List.getElem?_eq_some_iff.mp hc
      have hprev : configs[j]? = some configs[j] := List.getElem?_eq_getElem (Nat.lt_of_succ_lt hlt)
      have hbefore := ih configs[j] hprev (by rw [List.getElem?_map, hprev]; rfl)
      have hstep := List.pairwise_iff_getElem.mp hpairwise j (j + 1) (Nat.lt_of_succ_lt hlt) hlt
        (Nat.lt_succ_self j)
      have hle : configs[j].receiveTimeOffset + 1 / 20 +
          configs[j].totalSamples.toNat / fs ≤ configs[j + 1].receiveTimeOffset := hstep
      have hduration : (0 : ℚ) ≤ configs[j].totalSamples.toNat / fs :=
        div_nonneg (Nat.cast_nonneg _) hfs.le
      push_cast
      linarith only [hbefore, hle, hduration]

/-- The gaps that `setRxConfig` asks for suffice if the samples it counts for a config are
not less than the word-aligned ones. -/
theorem rxGapsSuffice_of_aligned {rxDecimFactor : ℤ} (hfs : 0 < fs)
    (hpairwise : configs.Pairwise (Schedule.Follows (fun c => c.receiveTimeOffset)
      (fun c => c.totalSamples.toNat / fs) GUARD_OFFSET_S))
    (haligned : ∀ c ∈ configs, ∀ n, c.recordedSamples rxDecimFactor = some n →
      n.toNat ≤ c.totalSamples.toNat) :
    RxGapsSuffice fs rxDecimFactor configs := by
  intro i j a b n hij ha hb hn hcarried hbetween
  clear hcarried hbetween
  have hle : (n.toNat : ℚ) / fs ≤ a.totalSamples.toNat / fs := by
    refine div_le_div_of_nonneg_right ?_ hfs.le
    exact_mod_cast haligned a (List.mem_of_getElem? ha) n hn
  have hfollows {k l : ℕ} {c d : RxStreamingConfig} (hkl : k < l) (hc : configs[k]? = some c)
      (hd : configs[l]? = some d) :
      c.receiveTimeOffset + 1 / 20 + c.totalSamples.toNat / fs ≤ d.receiveTimeOffset := by
    obtain ⟨hk, rfl⟩ := List.getElem?_eq_some_iff.mp hc
    obtain ⟨hl, rfl⟩ := List.getElem?_eq_some_iff.mp hd
    exact List.pairwise_iff_getElem.mp hpairwise k l hk hl hkl
  rw [GUARD_OFFSET_S]
  -- every further config adds its guard offset, which covers the buffer clearing
  induction j, hij using Nat.le_induction generalizing b with
  | base =>
      have hnext := hfollows (Nat.lt_succ_self i) ha hb
      have hcount : i + 1 - i - 1 = 0 := by omega
      rw [hcount, Nat.cast_zero, zero_div]
      linarith only [hnext, hle]
  | succ j hij ih =>
      have hlt := (List.getElem?_eq_some_iff.mp hb).1
      have hprev : configs[j]? = some configs[j] := List.getElem?_eq_getElem (Nat.lt_of_succ_lt hlt)
      have hbefore := ih configs[j] hprev
      have hnext := hfollows (Nat.lt_succ_self j) hprev hb
      have hduration : (0 : ℚ) ≤ configs[j].totalSamples.toNat / fs :=
        div_nonneg (Nat.cast_nonneg _) hfs.le
      have hcount : j + 1 - i - 1 = (j - i - 1) + 1 := by omega
      rw [hcount, Nat.cast_succ]
      linarith only [hbefore, hnext, hduration]

/-- **The RX schedule.**  If the receive thread of an execution comes to the first
accepted config in time, then under an ideal clock it is never late if the gaps between
the configs suffice, and it gets through all configs only if they do. -/
theorem rxSchedule_inTime_iff {u₁ u₂ : Usrp α} {a : ExecuteAnswers} {baseTime txNow rxNow : ℚ}
    {events : List (Event α)} (hfs : 0 < u.components.rfConfig.getRxSamplingRate)
    (hreset : u.rxStreamingConfigs = []) (haccepted : forM configs setRxConfig u = .ok () u₁)
    (hexecute : execute E a baseTime u₁ = .ok () u₂)
    (hfirst : ∀ c ∈ configs.head?, rxNow + 1 / 100 + 1 / 50 ≤ c.receiveTimeOffset + u₂.baseTime)
    (hideal : Ideal E ⟨u₂, txNow, rxNow⟩ events) :
    (RxGapsSuffice u.components.rfConfig.getRxSamplingRate u₂.rxDecimFactor configs →
      ∀ streamTime fpgaTime,
        (Machine.run (timedStep E) ⟨u₂, txNow, rxNow⟩ events).usrp.receiveThreadException ≠
          some (.usrp (.targetStreamTimeTooClose streamTime fpgaTime))) ∧
      ((Machine.run (timedStep E) ⟨u₂, txNow, rxNow⟩ events).usrp.receiveThread = .finished →
        (Machine.run (timedStep E) ⟨u₂, txNow, rxNow⟩ events).usrp.receiveThreadException = none →
        RxGapsSuffice u.components.rfConfig.getRxSamplingRate u₂.rxDecimFactor configs) := by
  have hspawned := spawned_of_execute hexecute
  have hpairwise := rxAccepted_pairwise hfs haccepted (by rw [hreset]; exact List.Pairwise.nil)
  have hstored := (forM_setRxConfig_eq_ok haccepted).2
  have hconfigs : u₂.rxStreamingConfigs = configs := by
    rw [hspawned.rxConfigs, hstored, hreset]
    rfl
  rw [← hspawned.rxConfigs, hconfigs] at hpairwise
  have hrate : u₂.components.rfConfig.getRxSamplingRate =
      u.components.rfConfig.getRxSamplingRate := by
    rw [RFConfiguration.getRxSamplingRate, hspawned.rfConfig, hstored]
    rfl
  have hstart : RxOnTime u₂ rxNow ⟨u₂, txNow, rxNow⟩ := by
    refine ⟨sameTimes_refl u₂, ?_⟩
    rw [hspawned.receiveThread, hspawned.receiveThreadException]
    exact .next 0 (fun c hc => by cases hc) fun j job hget => by cases hget
  have hend := Machine.run_invariant (RxOnTime u₂ rxNow)
    (fun t e ht he => rxOnTime_step (by rw [hrate]; exact hfs) ht he) hstart hideal
  have hphase := hend.phase
  rw [hconfigs] at hphase
  refine ⟨fun hgaps streamTime fpgaTime hlate => ?_, fun hthread hnone => ?_⟩
  · rw [hlate] at hphase
    obtain ⟨i, hbefore, hnot⟩ := hphase.not_inTime
    refine hnot ((inTime_iff_clears ?_).mpr (clears_of_rxGapsSuffice hrate hbefore hgaps))
    refine first_rxJob_le hfs (hpairwise.sublist (List.take_sublist _ _)) fun c hc => ?_
    rw [List.head?_take, if_neg (Nat.succ_ne_zero i)] at hc
    exact hfirst c hc
  · rw [hthread, hnone] at hphase
    cases hphase with
    | finished now inTime =>
        refine rxGapsSuffice_of_clears hrate ((inTime_iff_clears ?_).mp inTime)
        exact first_rxJob_le hfs hpairwise hfirst

end

/-- A config, at 122.88 MHz, and 8 samples as early behind it as `setRxConfig` accepts. -/
def exampleRxSequence (numSamples : UInt32) : List RxStreamingConfig :=
  [⟨numSamples, 0, 1, 0, ""⟩, ⟨8, 1 / 20 + numSamples.toNat / 122880000, 1, 0, ""⟩]

/-- Both configs are received, with 8 samples each, at the times of an ideal clock. -/
def exampleRxTimes : List (Event Wire) :=
  let samples := List.replicate 8 (Event.rxSample 0 fun i => UInt8.ofNat i)
  [.rxStart { exampleStreamAnswers with fpgaTime := 1 / 100 }] ++ samples ++
    [.rxEnd none,
      .rxStart { exampleStreamAnswers with fpgaTime := 1 + 8 / 122880000 + 3 / 100 }]

/-- The device that has accepted the configs and executes them at time 1. -/
def exampleRxSpawned (numSamples : UInt32) : Usrp Wire :=
  finalState (execute exampleEnvironment exampleExecuteAnswers 1
    (finalState (forM (exampleRxSequence numSamples) setRxConfig exampleUsrp)))

/-- Behind a config of one sample, for which 8 are received, the next one is late. -/
theorem rxSchedule_late :
    ∃ u₁ u₂, forM (exampleRxSequence 1) setRxConfig exampleUsrp = .ok () u₁ ∧
      (∀ c ∈ exampleRxSequence 1, c.span < 2 ^ 32) ∧
      execute exampleEnvironment exampleExecuteAnswers 1 u₁ = .ok () u₂ ∧
      (∀ c ∈ (exampleRxSequence 1).head?,
        (0 : ℚ) + 1 / 100 + 1 / 50 ≤ c.receiveTimeOffset + u₂.baseTime) ∧
      Ideal exampleEnvironment ⟨u₂, 0, 0⟩ exampleRxTimes ∧
      (Machine.run (timedStep exampleEnvironment) ⟨u₂, 0, 0⟩
        exampleRxTimes).usrp.receiveThreadException =
          some (.usrp (.targetStreamTimeTooClose (1 + 1 / 20 + 1 / 122880000)
            (1 + 8 / 122880000 + 3 / 100))) := by
  obtain ⟨_, haccepted⟩ := exists_of_returned
    (by decide +kernel : returned (forM (exampleRxSequence 1) setRxConfig exampleUsrp) = true)
  obtain ⟨_, hexecute⟩ := exists_of_returned
    (by decide +kernel : returned (execute exampleEnvironment exampleExecuteAnswers 1
      (finalState (forM (exampleRxSequence 1) setRxConfig exampleUsrp))) = true)
  refine ⟨_, exampleRxSpawned 1, haccepted, ?_, hexecute, ?_, ?_, ?_⟩
  · decide +kernel
  · decide +kernel
  · decide +kernel
  · decide +kernel

/-- Both configs are received to the end, if the first one has 8 samples. -/
def exampleRxAllTimes : List (Event Wire) :=
  exampleRxTimes ++ List.replicate 8 (.rxSample 0 fun _ => 0) ++
    [.rxEnd none,
      .rxStart { exampleStreamAnswers with fpgaTime := 1 + 1 / 20 + 16 / 122880000 + 3 / 100 }]

/-- Behind a config of 8 samples the next one is in time. -/
theorem rxSchedule_inTime_example :
    RxGapsSuffice exampleUsrp.components.rfConfig.getRxSamplingRate
        (exampleRxSpawned 8).rxDecimFactor (exampleRxSequence 8) ∧
      ∀ streamTime fpgaTime, (Machine.run (timedStep exampleEnvironment) ⟨exampleRxSpawned 8, 0, 0⟩
        exampleRxAllTimes).usrp.receiveThreadException ≠
          some (.usrp (.targetStreamTimeTooClose streamTime fpgaTime)) := by
  obtain ⟨_, haccepted⟩ := exists_of_returned
    (by decide +kernel : returned (forM (exampleRxSequence 8) setRxConfig exampleUsrp) = true)
  obtain ⟨_, hexecute⟩ := exists_of_returned
    (by decide +kernel : returned (execute exampleEnvironment exampleExecuteAnswers 1
      (finalState (forM (exampleRxSequence 8) setRxConfig exampleUsrp))) = true)
  have hideal : Ideal exampleEnvironment ⟨exampleRxSpawned 8, 0, 0⟩ exampleRxAllTimes := by
    decide +kernel
  obtain ⟨hsufficient, hnecessary⟩ := rxSchedule_inTime_iff (by decide +kernel) rfl haccepted
    hexecute (by decide +kernel) hideal
  have hgaps := hnecessary (by decide +kernel) (by decide +kernel)
  exact ⟨hgaps, hsufficient hgaps⟩

end TimedUsrp

end UsrpWrapper
