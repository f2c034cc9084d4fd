import UsrpWrapper.Usrp

/-!
# Steps of the threads

What an iteration of a thread changes, and what it leaves to the other thread.

The start of an iteration makes one configuration call and calls on the radios
(`Started`).  It keeps the tracker of the other direction; a transmission only
plays, and a reception only records.

`TxStep` and `RxStep` list what an event can do, with the conditions under which
it does it (`step_cases`); what holds in all runs is proved from them.
-/

namespace UsrpWrapper

open Lib Lib.Command

namespace Usrp

variable {α : Type} {E : Environment α}

/-! ## Starting an iteration -/

/-- The device after a configuration call and some calls on the radios. -/
def afterCalls (r : ReplayBlockConfig) (radioCommands : List RadioCommand) (u : Usrp α) :
    Usrp α :=
  { putReplay r u with fdGraph := { (putReplay r u).fdGraph with radioCommands } }

/-- The start of an iteration made calls that keep the side of `d`. -/
def Started (d : Direction) (kind : ReplayCommand → Prop) (u u' : Usrp α) : Prop :=
  ∃ r radioCommands, ReplayBlockConfig.SideKept d kind u.components.replayConfig r ∧
    u' = afterCalls r radioCommands u

theorem putReplay_self (u : Usrp α) : putReplay u.components.replayConfig u = u := by
  have hissued : ReplayBlockConfig.issuedSince u.components.replayConfig
      u.components.replayConfig = [] := by
    rw [ReplayBlockConfig.issuedSince, List.drop_length]
  rw [putReplay, hissued]
  rfl

theorem started_refl (d : Direction) (kind : ReplayCommand → Prop) (u : Usrp α) :
    Started d kind u u := by
  refine ⟨u.components.replayConfig, u.fdGraph.radioCommands,
    ReplayBlockConfig.sideKept_refl d kind _, ?_⟩
  rw [afterCalls, putReplay_self]

/-- A call of the replay configuration that keeps the other side starts an iteration. -/
theorem started_onReplay {β : Type} {d : Direction} {kind : ReplayCommand → Prop} {u : Usrp α}
    {x : EStateM Fault ReplayBlockConfig β}
    (hx : Preserves (ReplayBlockConfig.SideKept d kind u.components.replayConfig) x) :
    Started d kind u (finalState (onReplay x u)) := by
  have hkept := hx _ (ReplayBlockConfig.sideKept_refl d kind _)
  rw [onReplay, onField]
  cases h : x u.components.replayConfig with
  | ok b r =>
      rw [h] at hkept
      exact ⟨r, _, hkept, rfl⟩
  | error e r =>
      rw [h] at hkept
      exact ⟨r, _, hkept, rfl⟩

theorem preserves_onGraph {β : Type} {d : Direction} {kind : ReplayCommand → Prop} {u : Usrp α}
    {x : EStateM Fault FullDuplexGraph β}
    (hx : ∀ g, Preserves (FullDuplexGraph.SameConnections g) x) :
    Preserves (Started d kind u) (onGraph x) := by
  refine Preserves.onField (fun u' g => FullDuplexGraph.SameConnections u'.fdGraph g)
    (fun _ _ => FullDuplexGraph.sameConnections_refl _) (fun u' _ => hx u'.fdGraph)
    fun u' g hu' hg => ?_
  obtain ⟨r, radioCommands, hkept, rfl⟩ := hu'
  obtain ⟨radioCommands', rfl⟩ := hg
  exact ⟨r, radioCommands', hkept, rfl⟩

/-- A transmission only plays, and keeps the RX side. -/
theorem started_startTransmit (config : TxStreamingConfig α) (a : StreamAnswers) (u : Usrp α) :
    Started .rx (fun c => c.playRegion.isSome = true) u
      (finalState (startTransmit config a u)) := by
  unfold startTransmit
  rw [bind_of_ok (get_apply u)]
  cases hfirst : firstSignal config.samples with
  | error e =>
      rw [bind_of_error (liftE_error e u)]
      exact started_refl _ _ _
  | ok first =>
      rw [bind_of_ok (liftE_ok first u)]
      refine Preserves.finalState_bind
        (started_onReplay (ReplayBlockConfig.preserves_playBlock (by simp) _)) fun _ => ?_
      refine (preserves_onGraph fun g => FullDuplexGraph.preserves_transmit _ _ _).bind fun _ => ?_
      exact Preserves.pure _

/-- A reception plays nothing, and keeps the TX side. -/
theorem started_startReceive (config : RxStreamingConfig) (a : StreamAnswers) (u : Usrp α) :
    Started .tx (fun c => c.playRegion = none) u
      (finalState (startReceive E config a u)) := by
  unfold startReceive
  rw [bind_of_ok (get_apply u)]
  refine Preserves.finalState_bind
    (started_onReplay (ReplayBlockConfig.preserves_recordBlock (by simp) _ _ _ _ _)) fun _ => ?_
  refine (preserves_onGraph fun g =>
    FullDuplexGraph.preserves_configureRxAntenna _ _ _ _ _).bind fun _ => ?_
  refine (Preserves.liftE _).bind fun _ => ?_
  refine (preserves_onGraph fun g => FullDuplexGraph.preserves_receive _ _ _ _ _).bind fun _ => ?_
  exact Preserves.pure _

/-- **What the start of a transmission does.** -/
theorem startTransmit_eq_ok {config : TxStreamingConfig α} {a : StreamAnswers} {u u' : Usrp α}
    {total : ℕ} (h : startTransmit config a u = .ok total u') :
    ∃ first r radioCommands, firstSignal config.samples = .ok first ∧
      ReplayBlockConfig.configTransmit (UInt64.ofNat first.length) u.components.replayConfig =
        .ok () r ∧
      total = (UInt64.ofNat first.length * sizeOfInt config.numRepetitions).toNat ∧
      u' = afterCalls r radioCommands u := by
  unfold startTransmit at h
  rw [bind_of_ok (get_apply u)] at h
  obtain ⟨first, u₁, hlift, hrest⟩ := bind_eq_ok_iff.mp h
  obtain ⟨hfirst, rfl⟩ := liftE_eq_ok_iff.mp hlift
  obtain ⟨_, u₂, hreplay, hrest⟩ := bind_eq_ok_iff.mp hrest
  obtain ⟨r, hplay, rfl⟩ := onField_eq_ok_iff.mp hreplay
  obtain ⟨_, u₃, hgraph, hpure⟩ := bind_eq_ok_iff.mp hrest
  obtain ⟨g, htransmit, rfl⟩ := onField_eq_ok_iff.mp hgraph
  obtain ⟨radioCommands, rfl⟩ := (FullDuplexGraph.preserves_transmit _ _ _).of_ok
    (FullDuplexGraph.sameConnections_refl _) htransmit
  cases hpure
  exact ⟨first, r, radioCommands, hfirst, hplay, rfl, rfl⟩

/-- **What the start of a reception does.** -/
theorem startReceive_eq_ok {config : RxStreamingConfig} {a : StreamAnswers} {u u' : Usrp α}
    {total : ℕ} (h : startReceive E config a u = .ok total u') :
    ∃ r n radioCommands, ReplayBlockConfig.configReceive config.wordAlignedNoSamples
        config.numRepetitions.toUInt64 config.repetitionPeriod.toUInt64 a.replay
          u.components.replayConfig = .ok () r ∧
      config.totalWordAlignedSamples = .ok n ∧ total = n.toNat ∧
      u' = afterCalls r radioCommands u := by
  unfold startReceive at h
  rw [bind_of_ok (get_apply u)] at h
  obtain ⟨_, u₁, hreplay, hrest⟩ := bind_eq_ok_iff.mp h
  obtain ⟨r, hrecord, rfl⟩ := onField_eq_ok_iff.mp hreplay
  obtain ⟨_, u₂, hantenna, hrest⟩ := bind_eq_ok_iff.mp hrest
  obtain ⟨g, hconfigure, rfl⟩ := onField_eq_ok_iff.mp hantenna
  obtain ⟨commands₁, rfl⟩ := (FullDuplexGraph.preserves_configureRxAntenna _ _ _ _ _).of_ok
    (FullDuplexGraph.sameConnections_refl _) hconfigure
  obtain ⟨n, u₃, hlift, hrest⟩ := bind_eq_ok_iff.mp hrest
  obtain ⟨htotal, rfl⟩ := liftE_eq_ok_iff.mp hlift
  obtain ⟨_, u₄, hgraph, hpure⟩ := bind_eq_ok_iff.mp hrest
  obtain ⟨g', hreceive, rfl⟩ := onField_eq_ok_iff.mp hgraph
  obtain ⟨commands₂, rfl⟩ := (FullDuplexGraph.preserves_receive _ _ _ _ _).of_ok
    (FullDuplexGraph.sameConnections_refl _) hreceive
  cases hpure
  exact ⟨r, n, commands₂, hrecord, htotal, rfl, rfl⟩

/-! ## What an event does -/

/-- What a step of the transmit thread does; `idle` is one that is not possible. -/
inductive TxStep (u : Usrp α) : Usrp α → Prop
  | idle : TxStep u u
  | exhausted (i : ℕ) (thread : u.transmitThread = .next i)
      (config : u.txStreamingConfigs[i]? = none) :
      TxStep u { u with transmitThread := .finished }
  | start (i total : ℕ) (c : TxStreamingConfig α) (a : StreamAnswers) (u' : Usrp α)
      (thread : u.transmitThread = .next i) (config : u.txStreamingConfigs[i]? = some c)
      (started : startTransmit c a u = .ok total u') :
      TxStep u { u' with transmitThread := .busy i total, sending := fun _ => [] }
  | startFailed (c : TxStreamingConfig α) (a : StreamAnswers) (e : Fault) (u' : Usrp α)
      (failed : startTransmit c a u = .error e u') :
      TxStep u { u' with transmitThread := .finished, transmitThreadException := some e }
  | sample (i total stream : ℕ) (thread : u.transmitThread = .busy i total)
      (connected : stream < u.fdGraph.numTxStreams.toNat)
      (room : (u.sending stream).length < total) :
      TxStep u { u with sending := Function.update u.sending stream (u.sending stream ++
        [u.fdGraph.replayBlock.playWord stream (u.sending stream).length]) }
  | finish (i total : ℕ) (thread : u.transmitThread = .busy i total)
      (all : ∀ stream < u.fdGraph.numTxStreams.toNat, (u.sending stream).length = total) :
      TxStep u { u with transmitThread := .next (i + 1), sent := u.sent ++ [u.sending] }
  | fail (code : ℕ) :
      TxStep u { u with transmitThread := .finished
                        transmitThreadException := some (.usrp (.replayError code)) }

/-- What a step of the receive thread does. -/
inductive RxStep (E : Environment α) (u : Usrp α) : Usrp α → Prop
  | idle : RxStep E u u
  | exhausted (i : ℕ) (thread : u.receiveThread = .next i)
      (config : u.rxStreamingConfigs[i]? = none) :
      RxStep E u { u with receiveThread := .finished }
  | start (i total : ℕ) (c : RxStreamingConfig) (a : StreamAnswers) (u' : Usrp α)
      (thread : u.receiveThread = .next i) (config : u.rxStreamingConfigs[i]? = some c)
      (started : startReceive E c a u = .ok total u') :
      RxStep E u { u' with receiveThread := .busy i total, receiving := fun _ => [] }
  | startFailed (c : RxStreamingConfig) (a : StreamAnswers) (e : Fault) (u' : Usrp α)
      (failed : startReceive E c a u = .error e u') :
      RxStep E u { u' with receiveThread := .finished, receiveThreadException := some e }
  | sample (i total stream : ℕ) (w : Wire) (thread : u.receiveThread = .busy i total)
      (connected : stream < u.fdGraph.numRxStreams.toNat)
      (room : (u.receiving stream).length < total) :
      RxStep E u { u with
        fdGraph := { u.fdGraph with replayBlock := u.fdGraph.replayBlock.store stream w }
        receiving := Function.update u.receiving stream (u.receiving stream ++ [w]) }
  | finish (i total : ℕ) (thread : u.receiveThread = .busy i total)
      (all : ∀ stream < u.fdGraph.numRxStreams.toNat, (u.receiving stream).length = total) :
      RxStep E u { u with receiveThread := .next (i + 1), received := u.received ++ [u.receiving] }
  | fail (strerror : String) :
      RxStep E u { u with receiveThread := .finished
                          receiveThreadException := some (.usrp (.recordError strerror)) }

/-- The start of a transmission is a step of the transmit side. -/
theorem txStep_txStart (a : StreamAnswers) (u : Usrp α) : TxStep u (txStart a u) := by
  unfold txStart
  split
  · rename_i i thread
    split
    · rename_i config
      exact .exhausted i thread config
    · rename_i c config
      split
      · rename_i total u' started
        exact .start i total c a u' thread config started
      · rename_i e u' failed
        exact .startFailed c a e u' failed
  · exact .idle

/-- So is a sample that is sent. -/
theorem txStep_txSample (stream : ℕ) (u : Usrp α) : TxStep u (txSample stream u) := by
  unfold txSample
  split
  · rename_i i total thread
    split
    · rename_i room
      exact .sample i total stream thread room.1 room.2
    · exact .idle
  · exact .idle

/-- So is the end of an iteration. -/
theorem txStep_txEnd (eventCode : Option ℕ) (u : Usrp α) : TxStep u (txEnd eventCode u) := by
  unfold txEnd
  split
  · exact .fail _
  · rename_i i total thread
    split
    · rename_i all
      exact .finish i total thread all
    · exact .idle
  · exact .idle

/-- The start of a reception is a step of the receive side. -/
theorem rxStep_rxStart (a : StreamAnswers) (u : Usrp α) : RxStep E u (rxStart E a u) := by
  unfold rxStart
  split
  · rename_i i thread
    split
    · rename_i config
      exact .exhausted i thread config
    · rename_i c config
      split
      · rename_i total u' started
        exact .start i total c a u' thread config started
      · rename_i e u' failed
        exact .startFailed c a e u' failed
  · exact .idle

/-- So is a sample that arrives. -/
theorem rxStep_rxSample (stream : ℕ) (w : Wire) (u : Usrp α) :
    RxStep E u (rxSample stream w u) := by
  unfold rxSample
  split
  · rename_i i total thread
    split
    · rename_i room
      exact .sample i total stream w thread room.1 room.2
    · exact .idle
  · exact .idle

/-- So is the end of an iteration. -/
theorem rxStep_rxEnd (strerror : Option String) (u : Usrp α) : RxStep E u (rxEnd strerror u) := by
  unfold rxEnd
  split
  · split
    · exact .idle
    · exact .fail _
  · rename_i i total thread
    split
    · rename_i all
      exact .finish i total thread all
    · exact .idle
  · exact .idle

/-- **Every event that is no call of the client is a step of one of the threads.** -/
theorem step_cases {e : Event α} (he : e.isStreaming = true) (u : Usrp α) :
    TxStep u (step E u e) ∨ RxStep E u (step E u e) := by
  cases e with
  | setTxConfig conf => cases he
  | setRxConfig conf => cases he
  | setRfConfig conf a => cases he
  | txStart a => exact Or.inl (txStep_txStart a u)
  | txSample stream => exact Or.inl (txStep_txSample stream u)
  | txEnd eventCode => exact Or.inl (txStep_txEnd eventCode u)
  | rxStart a => exact Or.inr (rxStep_rxStart a u)
  | rxSample stream w => exact Or.inr (rxStep_rxSample stream w u)
  | rxEnd strerror => exact Or.inr (rxStep_rxEnd strerror u)

/-! ## Exceptions of the threads -/

/-- A thread has ended with an exception. -/
def Failed (u : Usrp α) : Prop :=
  u.transmitThreadException ≠ none ∨ u.receiveThreadException ≠ none

section

variable {u u' : Usrp α}

/-- A failure stays. -/
theorem TxStep.failed (h : TxStep u u') (hfailed : Failed u) : Failed u' := by
  cases h with
  | start i total c a u' thread config started =>
      obtain ⟨_, r, radioCommands, -, -, -, rfl⟩ := startTransmit_eq_ok started
      exact hfailed
  | startFailed c a e u' failed => exact Or.inl (Option.some_ne_none e)
  | fail code => exact Or.inl (Option.some_ne_none _)
  | _ => exact hfailed

theorem RxStep.failed (h : RxStep E u u') (hfailed : Failed u) : Failed u' := by
  cases h with
  | start i total c a u' thread config started =>
      obtain ⟨r, n, radioCommands, -, -, -, rfl⟩ := startReceive_eq_ok started
      exact hfailed
  | startFailed c a e u' failed => exact Or.inr (Option.some_ne_none e)
  | fail strerror => exact Or.inr (Option.some_ne_none _)
  | _ => exact hfailed

end

/-! ## What one thread leaves to the other -/

/-- Everything a reception depends on is as before. -/
structure RxFrame (u u' : Usrp α) : Prop where
  blocks : u'.components.replayConfig.blocks .rx = u.components.replayConfig.blocks .rx
  streams : u'.components.replayConfig.numStreams .rx = u.components.replayConfig.numStreams .rx
  memSize : u'.components.replayConfig.memSize = u.components.replayConfig.memSize
  memory : u'.fdGraph.replayBlock.memory = u.fdGraph.replayBlock.memory
  recordPorts : u'.fdGraph.replayBlock.recordPorts = u.fdGraph.replayBlock.recordPorts
  numRxStreams : u'.fdGraph.numRxStreams = u.fdGraph.numRxStreams
  configs : u'.rxStreamingConfigs = u.rxStreamingConfigs
  thread : u'.receiveThread = u.receiveThread
  receiving : u'.receiving = u.receiving
  received : u'.received = u.received

theorem rxFrame_refl (u : Usrp α) : RxFrame u u :=
  ⟨rfl, rfl, rfl, rfl, rfl, rfl, rfl, rfl, rfl, rfl⟩

/-- The start of a transmission is nothing to the receive side. -/
theorem Started.rxFrame {u u' : Usrp α}
    (h : Started .rx (fun c => c.playRegion.isSome = true) u u') : RxFrame u u' := by
  obtain ⟨r, radioCommands, hkept, rfl⟩ := h
  exact ⟨hkept.blocks, hkept.streams .rx, hkept.memSize, ReplayHardware.memory_commands _ _,
    ReplayHardware.recordPorts_commands hkept.issued _, rfl, rfl, rfl, rfl, rfl⟩

/-- The half of the receive side is the same. -/
theorem RxFrame.agreeOn {u u' : Usrp α} (f : RxFrame u u') :
    ReplayBlockConfig.AgreeOn .rx u.components.replayConfig u'.components.replayConfig :=
  ⟨f.memSize.symm, f.streams.symm, f.blocks.symm⟩

/-- The transmit thread leaves the reception alone. -/
theorem TxStep.rxFrame {u u' : Usrp α} (h : TxStep u u') : RxFrame u u' := by
  cases h with
  | start i total c a u' thread config started =>
      have hstarted := (started_startTransmit c a u).rxFrame
      rw [started] at hstarted
      exact { hstarted with }
  | startFailed c a e u' failed =>
      have hstarted := (started_startTransmit c a u).rxFrame
      rw [failed] at hstarted
      exact { hstarted with }
  | _ => exact { rxFrame_refl u with }

/-- Everything a transmission depends on is as before. -/
structure TxFrame (u u' : Usrp α) : Prop where
  blocks : u'.components.replayConfig.blocks .tx = u.components.replayConfig.blocks .tx
  streams : u'.components.replayConfig.numStreams .tx = u.components.replayConfig.numStreams .tx
  memSize : u'.components.replayConfig.memSize = u.components.replayConfig.memSize
  memory : u'.fdGraph.replayBlock.memory = u.fdGraph.replayBlock.memory
  playPorts : u'.fdGraph.replayBlock.playPorts = u.fdGraph.replayBlock.playPorts
  numTxStreams : u'.fdGraph.numTxStreams = u.fdGraph.numTxStreams
  configs : u'.txStreamingConfigs = u.txStreamingConfigs
  thread : u'.transmitThread = u.transmitThread
  sending : u'.sending = u.sending
  sent : u'.sent = u.sent
  exception : u'.transmitThreadException = u.transmitThreadException

theorem txFrame_refl (u : Usrp α) : TxFrame u u :=
  ⟨rfl, rfl, rfl, rfl, rfl, rfl, rfl, rfl, rfl, rfl, rfl⟩

/-- The start of a reception is nothing to the transmit side. -/
theorem Started.txFrame {u u' : Usrp α}
    (h : Started .tx (fun c => c.playRegion = none) u u') : TxFrame u u' := by
  obtain ⟨r, radioCommands, hkept, rfl⟩ := h
  exact ⟨hkept.blocks, hkept.streams .tx, hkept.memSize, ReplayHardware.memory_commands _ _,
    ReplayHardware.playPorts_commands hkept.issued _, rfl, rfl, rfl, rfl, rfl, rfl⟩

/-- The half of the transmit side is the same. -/
theorem TxFrame.agreeOn {u u' : Usrp α} (f : TxFrame u u') :
    ReplayBlockConfig.AgreeOn .tx u.components.replayConfig u'.components.replayConfig :=
  ⟨f.memSize.symm, f.streams.symm, f.blocks.symm⟩

/-- Apart from the samples it stores, the receive thread leaves the transmission
alone. -/
theorem RxStep.txFrame {u u' : Usrp α} (h : RxStep E u u') :
    TxFrame u u' ∨ ∃ i total stream w, u.receiveThread = .busy i total ∧
      stream < u.fdGraph.numRxStreams.toNat ∧ u' = { u with
        fdGraph := { u.fdGraph with replayBlock := u.fdGraph.replayBlock.store stream w }
        receiving := Function.update u.receiving stream (u.receiving stream ++ [w]) } := by
  cases h with
  | start i total c a u' thread config started =>
      have hstarted := (started_startReceive (E := E) c a u).txFrame
      rw [started] at hstarted
      exact Or.inl { hstarted with }
  | startFailed c a e u' failed =>
      have hstarted := (started_startReceive (E := E) c a u).txFrame
      rw [failed] at hstarted
      exact Or.inl { hstarted with }
  | sample i total stream w thread connected room =>
      exact Or.inr ⟨i, total, stream, w, thread, connected, rfl⟩
  | _ => exact Or.inl { txFrame_refl u with }

end Usrp

end UsrpWrapper
