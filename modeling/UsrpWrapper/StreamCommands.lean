import UsrpWrapper.StreamTiming
import UsrpWrapper.Cycles
import UsrpWrapper.Lib.Emit

/-!
# The commands of an execution

What the threads ask of the hardware: for each TX config one stream command per stream, for
each RX config the antenna port and one stream command per stream.  `txCommands` and
`rxCommands` say which ones, at which time and for how many samples.

`commands_of_execute`: whatever the order of the steps and wherever UHD throws, an
execution issues a beginning of these commands for each direction and nothing else; and it
has issued all of them, each once and in order, when its threads end without an exception.
-/

namespace UsrpWrapper

open Lib Lib.Command

/-! ## Commands -/

namespace RadioCommand

/-- A command of the transmit thread. -/
def isTx : RadioCommand → Bool
  | .streamTx _ _ _ => true
  | _ => false

/-- A command of the receive thread. -/
def isRx : RadioCommand → Bool
  | .setRxAntenna _ _ => true
  | .streamRx _ _ _ => true
  | _ => false

end RadioCommand

/-- The radio channel of an RX stream. -/
def rxChannel (b : RfNocBlocks) (m : StreamMapper) (stream : ℕ) : Except Fault Channel := do
  let antIdx ← m.mapRxStreamToAntenna (UInt32.ofNat stream)
  b.getRadioChannelPair antIdx.toInt32

/-- The channels of the first RX streams. -/
def rxChannels (b : RfNocBlocks) (m : StreamMapper) (numStreams : ℕ) : List Channel :=
  (List.range numStreams).filterMap fun stream => (rxChannel b m stream).toOption

section

variable {α : Type} (E : Environment α)

/-- The commands for a TX config. -/
def txCommands (numTxStreams : ℕ) (startTime : ℚ) (c : TxStreamingConfig α) :
    List RadioCommand :=
  (List.range numTxStreams).map
    (.streamTx (TimedUsrp.txTotalSamples c) (c.sendTimeOffset + startTime))

/-- The number of samples a radio delivers for an RX config. -/
def rxTotalSamples (rxDecimFactor : ℤ) (c : RxStreamingConfig) : UInt64 :=
  c.totalWordAlignedSamples.toOption.getD 0 * UInt64.ofInt rxDecimFactor

/-- The commands for an RX config. -/
def rxCommands (m : StreamMapper) (numRxStreams : ℕ) (rxDecimFactor : ℤ) (startTime : ℚ)
    (c : RxStreamingConfig) : List RadioCommand :=
  (rxChannels E.blocks m m.getNumRxStreams.toNat).map
      (.setRxAntenna (if c.antennaPort ≠ "" then c.antennaPort else E.defaultRxPort)) ++
    if rxTotalSamples rxDecimFactor c = 0 then []
    else (rxChannels E.blocks m numRxStreams).map
      (.streamRx (rxTotalSamples rxDecimFactor c) (c.receiveTimeOffset + startTime))

end

/-- Only commands of one thread. -/
def Purely (mine other : RadioCommand → Bool) (commands : List RadioCommand) : Prop :=
  ∀ c ∈ commands, mine c = true ∧ other c = false

section

variable {α : Type} {E : Environment α} {mine other : RadioCommand → Bool}
  {commands done : List RadioCommand}

/-- Commands of one side, as the filters of both sides see them. -/
theorem Purely.filter (h : Purely mine other commands) :
    commands.filter mine = commands ∧ commands.filter other = [] := by
  refine ⟨List.filter_eq_self.mpr fun c hc => (h c hc).1, ?_⟩
  refine List.filter_eq_nil_iff.mpr fun c hc => ?_
  rw [(h c hc).2]
  exact Bool.false_ne_true

theorem Purely.of_isPrefix (h : Purely mine other commands) (hdone : done <+: commands) :
    Purely mine other done := fun c hc => h c (hdone.subset hc)

/-- The commands of a TX config are those of the transmit side. -/
theorem purely_txCommands (n : ℕ) (startTime : ℚ) (c : TxStreamingConfig α) :
    Purely RadioCommand.isTx RadioCommand.isRx (txCommands n startTime c) := by
  intro x hx
  obtain ⟨stream, -, rfl⟩ := List.mem_map.mp hx
  exact ⟨rfl, rfl⟩

/-- The commands of an RX config are those of the receive side. -/
theorem purely_rxCommands (m : StreamMapper) (n : ℕ) (rxDecimFactor : ℤ) (startTime : ℚ)
    (c : RxStreamingConfig) : Purely RadioCommand.isRx RadioCommand.isTx
      (rxCommands E m n rxDecimFactor startTime c) := by
  intro x hx
  rcases List.mem_append.mp hx with hantenna | hstream
  · obtain ⟨radio, -, rfl⟩ := List.mem_map.mp hantenna
    exact ⟨rfl, rfl⟩
  · split at hstream
    · cases hstream
    · obtain ⟨radio, -, rfl⟩ := List.mem_map.mp hstream
      exact ⟨rfl, rfl⟩

end

/-! ## What the threads issue for a config -/

namespace FullDuplexGraph

/-- The stream counts of the connections. -/
def Counts (numTxStreams numRxStreams : UInt64) (g : FullDuplexGraph) : Prop :=
  g.numTxStreams = numTxStreams ∧ g.numRxStreams = numRxStreams

variable {numTxStreams numRxStreams : UInt64}

theorem emits_issue (accepts : RadioCommand → Bool) (c : RadioCommand) :
    Emits FullDuplexGraph.radioCommands (Counts numTxStreams numRxStreams) [c]
      (issue accepts c) :=
  (Emits.liftE _).after fun _ => Emits.modify (fun _ h => h) fun _ => rfl

/-- `transmit` gives one command for each TX stream. -/
theorem emits_transmit (a : StreamAnswers) (streamTime : ℚ) (numTxSamples : UInt64) :
    Emits FullDuplexGraph.radioCommands (Counts numTxStreams numRxStreams)
      ((List.range numTxStreams.toNat).map (.streamTx numTxSamples streamTime))
      (transmit a streamTime numTxSamples) := by
  refine (Emits.liftE _).after fun _ => Emits.get_bind fun g hg => ?_
  rw [hg.1, List.map_eq_flatMap]
  exact Emits.forM _ fun stream => emits_issue _ _

/-- The loops over the channels of the RX streams. -/
theorem emits_channels (b : RfNocBlocks) (m : StreamMapper) (accepts : RadioCommand → Bool)
    (command : Channel → RadioCommand) (numStreams : ℕ) :
    Emits FullDuplexGraph.radioCommands (Counts numTxStreams numRxStreams)
      ((rxChannels b m numStreams).map command)
      (forM (List.range numStreams) fun stream => do
        let antIdx ← liftE (m.mapRxStreamToAntenna (UInt32.ofNat stream))
        let radio ← liftE (b.getRadioChannelPair antIdx.toInt32)
        issue accepts (command radio)) := by
  have hplan : (rxChannels b m numStreams).map command = (List.range numStreams).flatMap
      fun stream => ((rxChannel b m stream).toOption.map command).toList := by
    rw [rxChannels, List.map_filterMap, List.filterMap_eq_flatMap_toList]
  rw [hplan]
  refine Emits.forM _ fun stream => ?_
  refine Emits.liftE_bind fun antIdx hantenna => Emits.liftE_bind fun radio hradio => ?_
  have hchannel : rxChannel b m stream = .ok radio := by
    rw [rxChannel, hantenna]
    exact hradio
  rw [hchannel]
  exact emits_issue _ _

/-- `receive` gives one for each RX channel, and none for no samples. -/
theorem emits_receive (b : RfNocBlocks) (m : StreamMapper) (a : StreamAnswers) (streamTime : ℚ)
    (numRxSamples : UInt64) :
    Emits FullDuplexGraph.radioCommands (Counts numTxStreams numRxStreams)
      (if numRxSamples = 0 then []
        else (rxChannels b m numRxStreams.toNat).map (.streamRx numRxSamples streamTime))
      (receive b m a streamTime numRxSamples) := by
  unfold receive
  split
  · exact Emits.pure ()
  · refine (Emits.liftE _).after fun _ => Emits.get_bind fun g hg => ?_
    rw [hg.2]
    exact emits_channels b m a.accepts _ _

theorem emits_configureRxAntenna (b : RfNocBlocks) (m : StreamMapper) (defaultRxPort : String)
    (a : StreamAnswers) (c : RxStreamingConfig) :
    Emits FullDuplexGraph.radioCommands (Counts numTxStreams numRxStreams)
      ((rxChannels b m m.getNumRxStreams.toNat).map
        (.setRxAntenna (if c.antennaPort ≠ "" then c.antennaPort else defaultRxPort)))
      (configureRxAntenna b m defaultRxPort a c) :=
  emits_channels b m a.accepts _ _

end FullDuplexGraph

namespace Usrp

variable {α : Type} {E : Environment α} {u v v' : Usrp α}

/-- Everything the threads take their commands from is as in `u`. -/
structure SamePlans (u v : Usrp α) : Prop where
  txConfigs : v.txStreamingConfigs = u.txStreamingConfigs
  rxConfigs : v.rxStreamingConfigs = u.rxStreamingConfigs
  baseTime : v.baseTime = u.baseTime
  rxDecimFactor : v.rxDecimFactor = u.rxDecimFactor
  streamMapper : v.components.streamMapper = u.components.streamMapper
  counts : v.fdGraph.Counts u.fdGraph.numTxStreams u.fdGraph.numRxStreams

theorem samePlans_refl (u : Usrp α) : SamePlans u u := ⟨rfl, rfl, rfl, rfl, rfl, rfl, rfl⟩

/-- The plan of the transmit thread, config by config. -/
def txPlans (u : Usrp α) : List (List RadioCommand) :=
  u.txStreamingConfigs.map (txCommands u.fdGraph.numTxStreams.toNat u.baseTime)

/-- The plan of the receive thread. -/
def rxPlans (E : Environment α) (u : Usrp α) : List (List RadioCommand) :=
  u.rxStreamingConfigs.map (rxCommands E u.components.streamMapper
    u.fdGraph.numRxStreams.toNat u.rxDecimFactor u.baseTime)

/-- The replay configuration gives no stream commands. -/
theorem emits_onReplay {β : Type} (x : EStateM Fault ReplayBlockConfig β) :
    Emits (fun v => v.fdGraph.radioCommands) (SamePlans u) [] (onReplay x) :=
  Emits.silent fun _ => Preserves.onField_of_put fun _ _ h =>
    ⟨⟨h.1.txConfigs, h.1.rxConfigs, h.1.baseTime, h.1.rxDecimFactor, h.1.streamMapper,
      h.1.counts⟩, h.2⟩

/-- What the graph issues, in terms of the device. -/
theorem emits_onGraph {β : Type} {plan : List RadioCommand} {x : EStateM Fault FullDuplexGraph β}
    (hx : Emits FullDuplexGraph.radioCommands
      (FullDuplexGraph.Counts u.fdGraph.numTxStreams u.fdGraph.numRxStreams) plan x) :
    Emits (fun v => v.fdGraph.radioCommands) (SamePlans u) plan (onGraph x) :=
  hx.onField (fun _ _ => rfl) (fun _ h => h.counts) fun _ _ h hcounts =>
    ⟨h.txConfigs, h.rxConfigs, h.baseTime, h.rxDecimFactor, h.streamMapper, hcounts⟩

/-- The start of an iteration issues the commands of its config, or a first part of them. -/
theorem emits_startTransmit (c : TxStreamingConfig α) (a : StreamAnswers) :
    Emits (fun v => v.fdGraph.radioCommands) (SamePlans u)
      (txCommands u.fdGraph.numTxStreams.toNat u.baseTime c) (startTransmit c a) := by
  refine Emits.get_bind fun v hv => Emits.liftE_bind fun first hfirst => ?_
  refine (emits_onReplay _).after fun _ => ?_
  rw [txCommands, TimedUsrp.txTotalSamples, headD_of_firstSignal hfirst, hv.baseTime]
  rw [← List.append_nil (List.map _ _)]
  exact (emits_onGraph (FullDuplexGraph.emits_transmit _ _ _)).bind fun _ => Emits.pure _

theorem emits_startReceive (c : RxStreamingConfig) (a : StreamAnswers) :
    Emits (fun v => v.fdGraph.radioCommands) (SamePlans u)
      (rxCommands E u.components.streamMapper u.fdGraph.numRxStreams.toNat u.rxDecimFactor
        u.baseTime c) (startReceive E c a) := by
  refine Emits.get_bind fun v hv => (emits_onReplay _).after fun _ => ?_
  rw [hv.streamMapper, hv.baseTime, hv.rxDecimFactor]
  refine (emits_onGraph (FullDuplexGraph.emits_configureRxAntenna _ _ _ _ _)).bind fun _ => ?_
  refine Emits.liftE_bind fun total htotal => ?_
  have hsamples : rxTotalSamples u.rxDecimFactor c = total * UInt64.ofInt u.rxDecimFactor := by
    rw [rxTotalSamples, htotal]
    rfl
  rw [hsamples, ← List.append_nil (ite _ _ _)]
  exact (emits_onGraph (FullDuplexGraph.emits_receive _ _ _ _ _)).bind fun _ => Emits.pure _

/-! ## Progress -/

/-- How far a thread has come with its plan, and what it has issued. -/
inductive Issued (plans : List (List RadioCommand)) :
    StreamThread → Option Fault → List RadioCommand → Prop
  | next (i : ℕ) : Issued plans (.next i) none (plans.take i).flatten
  | busy (i total : ℕ) : Issued plans (.busy i total) none (plans.take (i + 1)).flatten
  | finished : Issued plans .finished none plans.flatten
  | failed (e : Fault) (commands : List RadioCommand) (part : commands <+: plans.flatten) :
      Issued plans .finished (some e) commands

namespace Issued

variable {plans : List (List RadioCommand)} {thread : StreamThread} {exception : Option Fault}
  {commands : List RadioCommand} {i total : ℕ}

theorem flatten_take_isPrefix (plans : List (List RadioCommand)) (i : ℕ) :
    (plans.take i).flatten <+: plans.flatten := by
  refine ⟨(plans.drop i).flatten, ?_⟩
  rw [← List.flatten_append, List.take_append_drop]

/-- What has been issued is the beginning of the plan. -/
theorem isPrefix (h : Issued plans thread exception commands) : commands <+: plans.flatten := by
  cases h with
  | next i => exact flatten_take_isPrefix plans i
  | busy i total => exact flatten_take_isPrefix plans (i + 1)
  | finished => exact List.prefix_rfl
  | failed e commands part => exact part

theorem exhaust (h : Issued plans (.next i) exception commands) (hplan : plans[i]? = none) :
    Issued plans .finished exception commands := by
  cases h with
  | next i =>
      rw [List.take_of_length_le (List.getElem?_eq_none_iff.mp hplan)]
      exact .finished

/-- The next config has issued its commands. -/
theorem begin {plan : List RadioCommand} (h : Issued plans (.next i) exception commands)
    (hplan : plans[i]? = some plan) (total : ℕ) :
    Issued plans (.busy i total) exception (commands ++ plan) := by
  cases h with
  | next i =>
      have htake : (plans.take i).flatten ++ plan = (plans.take (i + 1)).flatten := by
        rw [List.take_add_one, hplan, Option.toList_some, List.flatten_append,
          List.flatten_singleton]
      rw [htake]
      exact .busy i total

/-- UHD throws in the middle of a config. -/
theorem interrupt {plan done : List RadioCommand}
    (h : Issued plans (.next i) exception commands) (hplan : plans[i]? = some plan)
    (hdone : done <+: plan) (e : Fault) :
    Issued plans .finished (some e) (commands ++ done) := by
  have hbusy := (h.begin hplan 0).isPrefix
  exact .failed e _ (((List.prefix_append_right_inj commands).mpr hdone).trans hbusy)

theorem proceed (h : Issued plans (.busy i total) exception commands) :
    Issued plans (.next (i + 1)) exception commands := by
  cases h with
  | busy i total => exact .next (i + 1)

/-- An exception ends the thread. -/
theorem fail (h : Issued plans thread exception commands) (e : Fault) :
    Issued plans .finished (some e) commands := .failed e commands h.isPrefix

/-- A thread that has ended without an exception has issued everything. -/
theorem complete (h : Issued plans .finished none commands) : commands = plans.flatten := by
  cases h with
  | finished => rfl

end Issued

/-- Since the execution has spawned the threads of `u`, they have issued commands as
planned. -/
structure OnPlan (E : Environment α) (u v : Usrp α) (added : List RadioCommand) : Prop where
  same : SamePlans u v
  commands : v.fdGraph.radioCommands = u.fdGraph.radioCommands ++ added
  mine : ∀ c ∈ added, c.isTx = true ∨ c.isRx = true
  tx : Issued (txPlans u) v.transmitThread v.transmitThreadException
    (added.filter RadioCommand.isTx)
  rx : Issued (rxPlans E u) v.receiveThread v.receiveThreadException
    (added.filter RadioCommand.isRx)

namespace OnPlan

variable {added more : List RadioCommand}

/-- A step of the transmit thread that issues commands. -/
theorem transmit (h : OnPlan E u v added) (hsame : SamePlans u v')
    (hcommands : v'.fdGraph.radioCommands = v.fdGraph.radioCommands ++ more)
    (hmore : Purely RadioCommand.isTx RadioCommand.isRx more)
    (hthread : v'.receiveThread = v.receiveThread)
    (hexception : v'.receiveThreadException = v.receiveThreadException)
    (htx : Issued (txPlans u) v'.transmitThread v'.transmitThreadException
      (added.filter RadioCommand.isTx ++ more)) : OnPlan E u v' (added ++ more) := by
  refine ⟨hsame, ?_, fun c hc => ?_, ?_, ?_⟩
  · rw [hcommands, h.commands, List.append_assoc]
  · exact (List.mem_append.mp hc).elim (h.mine c) fun hnew => Or.inl (hmore c hnew).1
  · rwa [List.filter_append, hmore.filter.1]
  · rw [List.filter_append, hmore.filter.2, List.append_nil, hthread, hexception]
    exact h.rx

/-- A step of the receive thread that issues commands. -/
theorem receive (h : OnPlan E u v added) (hsame : SamePlans u v')
    (hcommands : v'.fdGraph.radioCommands = v.fdGraph.radioCommands ++ more)
    (hmore : Purely RadioCommand.isRx RadioCommand.isTx more)
    (hthread : v'.transmitThread = v.transmitThread)
    (hexception : v'.transmitThreadException = v.transmitThreadException)
    (hrx : Issued (rxPlans E u) v'.receiveThread v'.receiveThreadException
      (added.filter RadioCommand.isRx ++ more)) : OnPlan E u v' (added ++ more) := by
  refine ⟨hsame, ?_, fun c hc => ?_, ?_, ?_⟩
  · rw [hcommands, h.commands, List.append_assoc]
  · exact (List.mem_append.mp hc).elim (h.mine c) fun hnew => Or.inr (hmore c hnew).1
  · rw [List.filter_append, hmore.filter.2, List.append_nil, hthread, hexception]
    exact h.tx
  · rwa [List.filter_append, hmore.filter.1]

/-- The other fields are those the start of an iteration leaves. -/
theorem txStart (h : OnPlan E u v added) (a : StreamAnswers) :
    ∃ added', OnPlan E u (Usrp.txStart a v) added' := by
  have htx := h.tx
  unfold Usrp.txStart
  split
  · rename_i i hthread
    rw [hthread] at htx
    have hplan : (txPlans u)[i]? = v.txStreamingConfigs[i]?.map
        (txCommands u.fdGraph.numTxStreams.toNat u.baseTime) := by
      rw [txPlans, List.getElem?_map, h.same.txConfigs]
    split
    · rename_i hconfig
      rw [hconfig] at hplan
      exact ⟨added, ⟨{ h.same with }, h.commands, h.mine, htx.exhaust hplan, h.rx⟩⟩
    · rename_i c hconfig
      rw [hconfig] at hplan
      have hstarted := started_startTransmit c a v
      split
      · rename_i total v' hstart
        obtain ⟨hsame, hcommands⟩ := (emits_startTransmit c a).of_ok h.same hstart
        rw [hstart] at hstarted
        obtain ⟨r, radioCommands, -, rfl⟩ := hstarted
        exact ⟨_, h.transmit { hsame with } hcommands (purely_txCommands _ _ c) rfl rfl
          (htx.begin hplan total)⟩
      · rename_i e v' hstart
        obtain ⟨hsame, done, hdone, hcommands⟩ := (emits_startTransmit c a).of_error h.same hstart
        rw [hstart] at hstarted
        obtain ⟨r, radioCommands, -, rfl⟩ := hstarted
        exact ⟨_, h.transmit { hsame with } hcommands
          ((purely_txCommands _ _ c).of_isPrefix hdone) rfl rfl (htx.interrupt hplan hdone e)⟩
  · exact ⟨added, h⟩

/-- The start of a reception stays on the plan. -/
theorem rxStart (h : OnPlan E u v added) (a : StreamAnswers) :
    ∃ added', OnPlan E u (Usrp.rxStart E a v) added' := by
  have hrx := h.rx
  unfold Usrp.rxStart
  split
  · rename_i i hthread
    rw [hthread] at hrx
    have hplan : (rxPlans E u)[i]? = v.rxStreamingConfigs[i]?.map (rxCommands E
        u.components.streamMapper u.fdGraph.numRxStreams.toNat u.rxDecimFactor u.baseTime) := by
      rw [rxPlans, List.getElem?_map, h.same.rxConfigs]
    split
    · rename_i hconfig
      rw [hconfig] at hplan
      exact ⟨added, ⟨{ h.same with }, h.commands, h.mine, h.tx, hrx.exhaust hplan⟩⟩
    · rename_i c hconfig
      rw [hconfig] at hplan
      have hstarted := started_startReceive (E := E) c a v
      split
      · rename_i total v' hstart
        obtain ⟨hsame, hcommands⟩ := (emits_startReceive c a).of_ok h.same hstart
        rw [hstart] at hstarted
        obtain ⟨r, radioCommands, -, rfl⟩ := hstarted
        exact ⟨_, h.receive { hsame with } hcommands (purely_rxCommands _ _ _ _ c) rfl rfl
          (hrx.begin hplan total)⟩
      · rename_i e v' hstart
        obtain ⟨hsame, done, hdone, hcommands⟩ := (emits_startReceive c a).of_error h.same hstart
        rw [hstart] at hstarted
        obtain ⟨r, radioCommands, -, rfl⟩ := hstarted
        exact ⟨_, h.receive { hsame with } hcommands
          ((purely_rxCommands _ _ _ _ c).of_isPrefix hdone) rfl rfl
          (hrx.interrupt hplan hdone e)⟩
  · exact ⟨added, h⟩

/-- **Every step of a thread keeps to the plan.** -/
theorem step {e : Event α} (he : e.isStreaming = true) (h : OnPlan E u v added) :
    ∃ added', OnPlan E u (Usrp.step E v e) added' := by
  obtain ⟨hsame, hcommands, hmine, htx, hrx⟩ := h
  cases e with
  | setTxConfig conf => cases he
  | setRxConfig conf => cases he
  | setRfConfig conf a => cases he
  | txStart a => exact txStart ⟨hsame, hcommands, hmine, htx, hrx⟩ a
  | rxStart a => exact rxStart ⟨hsame, hcommands, hmine, htx, hrx⟩ a
  | txSample stream =>
      show ∃ added', OnPlan E u (Usrp.txSample stream v) added'
      unfold Usrp.txSample
      split
      · split
        · exact ⟨added, { hsame with }, hcommands, hmine, htx, hrx⟩
        · exact ⟨added, hsame, hcommands, hmine, htx, hrx⟩
      · exact ⟨added, hsame, hcommands, hmine, htx, hrx⟩
  | rxSample stream w =>
      show ∃ added', OnPlan E u (Usrp.rxSample stream w v) added'
      unfold Usrp.rxSample
      split
      · split
        · exact ⟨added, { hsame with }, hcommands, hmine, htx, hrx⟩
        · exact ⟨added, hsame, hcommands, hmine, htx, hrx⟩
      · exact ⟨added, hsame, hcommands, hmine, htx, hrx⟩
  | txEnd eventCode =>
      show ∃ added', OnPlan E u (Usrp.txEnd eventCode v) added'
      unfold Usrp.txEnd
      split
      · exact ⟨added, { hsame with }, hcommands, hmine, htx.fail _, hrx⟩
      · rename_i i total hthread
        split
        · rw [hthread] at htx
          exact ⟨added, { hsame with }, hcommands, hmine, htx.proceed, hrx⟩
        · exact ⟨added, hsame, hcommands, hmine, htx, hrx⟩
      · exact ⟨added, hsame, hcommands, hmine, htx, hrx⟩
  | rxEnd strerror =>
      show ∃ added', OnPlan E u (Usrp.rxEnd strerror v) added'
      unfold Usrp.rxEnd
      split
      · split
        · exact ⟨added, hsame, hcommands, hmine, htx, hrx⟩
        · exact ⟨added, { hsame with }, hcommands, hmine, htx, hrx.fail _⟩
      · rename_i i total hthread
        split
        · rw [hthread] at hrx
          exact ⟨added, { hsame with }, hcommands, hmine, htx, hrx.proceed⟩
        · exact ⟨added, hsame, hcommands, hmine, htx, hrx⟩
      · exact ⟨added, hsame, hcommands, hmine, htx, hrx⟩

end OnPlan

/-! ## What an execution starts -/

/-- The time from which an execution counts the offsets. -/
def startTime (a : ExecuteAnswers) (baseTime : ℚ) : ℚ :=
  if baseTime < 0 then a.fpgaTime + 1 / 20 else baseTime

/-- The device `u'` has just started its threads for the configs of `u`. -/
structure Launched (E : Environment α) (a : ExecuteAnswers) (baseTime : ℚ) (u u' : Usrp α) :
    Prop where
  spawned : TimedUsrp.Spawned u u'
  baseTime : u'.baseTime = startTime a baseTime
  rxDecimFactor : u'.rxDecimFactor =
    RFConfiguration.getRxDecimationRatio E.blocks u'.components.rfConfig
  streamMapper : u'.components.streamMapper = u.components.streamMapper
  counts : u'.fdGraph.Counts (sizeOfInt u.components.rfConfig.getNumTxStreams)
    (sizeOfInt u.components.rfConfig.getNumRxStreams)
  radioCommands : u'.fdGraph.radioCommands = u.fdGraph.radioCommands
  channels : ∀ stream < numRx u, ∃ radio,
    rxChannel E.blocks u.components.streamMapper stream = .ok radio

section

variable {a : ExecuteAnswers} {baseTime : ℚ} {commands : List RadioCommand}

theorem radioCommands_uploadConfigs (a : ExecuteAnswers) (i : ℕ)
    (configs : List (TxStreamingConfig α)) :
    Preserves (fun v => v.fdGraph.radioCommands = commands) (uploadConfigs E a i configs) := by
  induction configs generalizing i with
  | nil => exact Preserves.pure _
  | cons config configs ih =>
      refine (Preserves.liftE _).bind fun _ => Preserves.bind ?_ fun _ => Preserves.bind ?_
        fun _ => ih (i + 1)
      · exact Preserves.onField_of_put fun _ _ h => h
      · exact Preserves.onField (fun _ g => g.radioCommands = commands) (fun _ h => h)
          (fun _ _ => FullDuplexGraph.preserves_upload (fun _ _ h => h) _ _) fun _ _ _ h => h

/-- A connection for streaming finds a channel for each RX stream. -/
theorem channels_of_connect {b : RfNocBlocks} {m : StreamMapper}
    {numTxStreams numRxStreams : UInt64} {g g' : FullDuplexGraph}
    (h : FullDuplexGraph.connectForStreaming b m numTxStreams numRxStreams g = .ok () g') :
    ∀ stream < numRxStreams.toNat, ∃ radio, rxChannel b m stream = .ok radio := by
  have hloop (streams : List ℕ) {g g' : FullDuplexGraph}
      (hconnect : (forM streams fun i => (liftE do
        let antIdx ← m.mapRxStreamToAntenna (UInt32.ofNat i)
        let _ ← b.getRadioChannelPair antIdx.toInt32
        return () : FullDuplexGraph.GraphM Unit)) g = .ok () g') :
      ∀ stream ∈ streams, ∃ radio, rxChannel b m stream = .ok radio := by
    induction streams generalizing g with
    | nil => exact fun _ hmem => nomatch hmem
    | cons i streams ih =>
        rw [List.forM_cons] at hconnect
        obtain ⟨_, g₁, hfirst, hrest⟩ := bind_eq_ok_iff.mp hconnect
        obtain ⟨hfirst, -⟩ := liftE_eq_ok_iff.mp hfirst
        obtain ⟨antIdx, hantenna, hfirst⟩ := except_bind_eq_ok_iff.mp hfirst
        obtain ⟨radio, hradio, -⟩ := except_bind_eq_ok_iff.mp hfirst
        intro stream hmem
        rcases List.mem_cons.mp hmem with rfl | htail
        · exact ⟨radio, except_bind_eq_ok_iff.mpr ⟨antIdx, hantenna, hradio⟩⟩
        · exact ih hrest stream htail
  obtain ⟨_, g₁, -, hrest⟩ := bind_eq_ok_iff.mp h
  obtain ⟨_, g₂, -, hrest⟩ := bind_eq_ok_iff.mp hrest
  obtain ⟨_, g₃, -, hrx⟩ := bind_eq_ok_iff.mp hrest
  exact fun stream hstream => hloop _ hrx stream (List.mem_range.mpr hstream)

/-- `execute` leaves both threads at their first config. -/
theorem launched_of_execute (h : execute E a baseTime u = .ok () v) :
    Launched E a baseTime u v := by
  have hspawned := TimedUsrp.spawned_of_execute h
  have hshape : u.components.SameShape v.components :=
    (shaped_execute a baseTime).of_ok (Components.sameShape_refl _) h
  unfold execute at h
  rw [bind_of_ok (modify_apply _ _)] at h
  obtain ⟨_, u₁, hreset, hrest⟩ := bind_eq_ok_iff.mp h
  obtain ⟨r₁, hreset', rfl⟩ := onField_eq_ok_iff.mp hreset
  cases hreset'
  obtain ⟨_, w, hupload, hstreaming⟩ := bind_eq_ok_iff.mp hrest
  have hframe := (preserves_performUpload a).of_ok (uploadFrame_refl _) hupload
  have hcommands : w.fdGraph.radioCommands = u.fdGraph.radioCommands := by
    refine Preserves.of_ok (I := fun w => w.fdGraph.radioCommands = u.fdGraph.radioCommands)
      ?_ rfl hupload
    exact Preserves.get.bind fun _ => Preserves.bind
      (Preserves.onField (fun _ g => g.radioCommands = u.fdGraph.radioCommands) (fun _ h => h)
        (fun _ _ => Preserves.modify fun _ h => h) fun _ _ _ h => h)
      fun _ => radioCommands_uploadConfigs _ _ _
  unfold performStreaming at hstreaming
  rw [bind_of_ok (get_apply w)] at hstreaming
  obtain ⟨_, w₁, hconnect, hrest⟩ := bind_eq_ok_iff.mp hstreaming
  obtain ⟨g, hgraph, rfl⟩ := onField_eq_ok_iff.mp hconnect
  have hchannels := channels_of_connect hgraph
  obtain ⟨hcount, rfl⟩ := FullDuplexGraph.connectForStreaming_eq_ok hgraph
  obtain ⟨_, w₂, hrenew, hspawn⟩ := bind_eq_ok_iff.mp hrest
  obtain ⟨c, hcomponents, rfl⟩ := onField_eq_ok_iff.mp hrenew
  obtain ⟨r, hrf, rfl⟩ := onField_eq_ok_iff.mp hcomponents
  cases hspawn
  have hrfConfig : w.components.rfConfig = u.components.rfConfig := hframe.rfConfig
  rw [hrfConfig] at hcount hchannels
  refine ⟨hspawned, rfl, rfl, hshape.streamMapper, ⟨hcount.symm, ?_⟩, hcommands, ?_⟩
  · show sizeOfInt w.components.rfConfig.getNumRxStreams = _
    rw [hrfConfig]
  · rw [← hshape.streamMapper]
    exact hchannels

/-- Nothing has been issued then. -/
theorem Launched.onPlan (h : Launched E a baseTime u v) : OnPlan E v v [] := by
  refine ⟨samePlans_refl v, (List.append_nil _).symm, fun _ hc => (nomatch hc), ?_, ?_⟩
  · rw [h.spawned.transmitThread, h.spawned.transmitThreadException]
    exact .next 0
  · rw [h.spawned.receiveThread, h.spawned.receiveThreadException]
    exact .next 0

/-- A run of the threads stays on the plan. -/
theorem onPlan_run {added : List RadioCommand} {events : List (Event α)}
    (h : OnPlan E u v added) (hstreaming : ∀ e ∈ events, e.isStreaming = true) :
    ∃ added', OnPlan E u (Machine.run (step E) v events) added' :=
  Machine.run_invariant (Q := fun _ e => e.isStreaming = true)
    (fun w => ∃ added, OnPlan E u w added)
    (fun _ _ hw he => hw.elim fun _ hw => hw.step he) ⟨added, h⟩
    (Machine.AllSteps.of_forall hstreaming)

end

/-- The commands for all TX configs, in the order of the configs. -/
def txSchedule (u : Usrp α) (startTime : ℚ) : List RadioCommand :=
  u.txStreamingConfigs.flatMap (txCommands (numTx u) startTime)

/-- The commands for all RX configs. -/
def rxSchedule (E : Environment α) (u : Usrp α) (rxDecimFactor : ℤ) (startTime : ℚ) :
    List RadioCommand :=
  u.rxStreamingConfigs.flatMap
    (rxCommands E u.components.streamMapper (numRx u) rxDecimFactor startTime)

/-- The threads of an execution on `u`, which have brought the device to `v`, have issued
`added`: of either direction a beginning of its schedule, and all of it once the thread has
ended without an exception. -/
structure Commanded (E : Environment α) (u v : Usrp α) (rxDecimFactor : ℤ) (startTime : ℚ)
    (added : List RadioCommand) : Prop where
  commands : v.fdGraph.radioCommands = u.fdGraph.radioCommands ++ added
  mine : ∀ c ∈ added, c.isTx = true ∨ c.isRx = true
  tx : added.filter RadioCommand.isTx <+: txSchedule u startTime
  rx : added.filter RadioCommand.isRx <+: rxSchedule E u rxDecimFactor startTime
  txComplete : v.transmitThread = .finished → v.transmitThreadException = none →
    added.filter RadioCommand.isTx = txSchedule u startTime
  rxComplete : v.receiveThread = .finished → v.receiveThreadException = none →
    added.filter RadioCommand.isRx = rxSchedule E u rxDecimFactor startTime
  channels : ∀ stream < numRx u, ∃ radio,
    rxChannel E.blocks u.components.streamMapper stream = .ok radio

section

variable {a : ExecuteAnswers} {baseTime : ℚ} {u' : Usrp α} {added : List RadioCommand}

/-- The plans are the schedules of the configs. -/
theorem Launched.plans (h : Launched E a baseTime u u') :
    (txPlans u').flatten = txSchedule u (startTime a baseTime) ∧
      (rxPlans E u').flatten = rxSchedule E u u'.rxDecimFactor (startTime a baseTime) := by
  obtain ⟨htx, hrx⟩ := h.counts
  constructor
  · rw [txPlans, txSchedule, h.spawned.txConfigs, h.baseTime, htx, numTx]
    rfl
  · rw [rxPlans, rxSchedule, h.spawned.rxConfigs, h.baseTime, h.streamMapper, hrx, numRx]
    rfl

/-- What was issued on the plan is a first part of the schedules. -/
theorem OnPlan.commanded (hlaunched : Launched E a baseTime u u') (h : OnPlan E u' v added) :
    Commanded E u v u'.rxDecimFactor (startTime a baseTime) added := by
  obtain ⟨htx, hrx⟩ := hlaunched.plans
  refine ⟨?_, h.mine, ?_, ?_, fun hthread hexception => ?_, fun hthread hexception => ?_,
    hlaunched.channels⟩
  · rw [h.commands, hlaunched.radioCommands]
  · exact htx ▸ h.tx.isPrefix
  · exact hrx ▸ h.rx.isPrefix
  · have hend := h.tx
    rw [hthread, hexception] at hend
    exact hend.complete.trans htx
  · have hend := h.rx
    rw [hthread, hexception] at hend
    exact hend.complete.trans hrx

/-- **The commands of an execution.**  In whatever order the threads and the hardware make
their steps, and whichever of them fails, what an execution has issued is of each direction
a beginning of the schedule: per config and stream one stream command, with the offset of
the config added to the start time, and for each reception the antenna ports before.  A
thread that ends without an exception has issued its whole schedule. -/
theorem commands_of_execute (hexecute : execute E a baseTime u = .ok () u')
    {events : List (Event α)} (hstreaming : ∀ e ∈ events, e.isStreaming = true) :
    ∃ added, Commanded E u (Machine.run (step E) u' events)
      (RFConfiguration.getRxDecimationRatio E.blocks u'.components.rfConfig)
      (startTime a baseTime) added := by
  have hlaunched := launched_of_execute hexecute
  obtain ⟨added, honPlan⟩ := onPlan_run hlaunched.onPlan hstreaming
  rw [← hlaunched.rxDecimFactor]
  exact ⟨added, honPlan.commanded hlaunched⟩

end

/-- The example device with one config for each direction. -/
def exampleToStream : Usrp Wire :=
  { exampleUsrp with
    txStreamingConfigs := [exampleTxConfig]
    rxStreamingConfigs := [⟨8, 1 / 2, 1, 0, ""⟩] }

/-- Both threads come to their end, and have issued what they should. -/
theorem commands_of_execute_example :
    ∃ u' added, execute exampleEnvironment exampleExecuteAnswers 1 exampleToStream = .ok () u' ∧
      (Machine.run (step exampleEnvironment) u' exampleCycle.events).fdGraph.radioCommands =
        added ∧ added.filter RadioCommand.isTx = [.streamTx 8 1 0] ∧
      added.filter RadioCommand.isRx =
        [.setRxAntenna "RX2" (.first, 0), .streamRx 16 (3 / 2) (.first, 0)] := by
  obtain ⟨_, hexecute⟩ := exists_of_returned (by decide +kernel :
    returned (execute exampleEnvironment exampleExecuteAnswers 1 exampleToStream) = true)
  obtain ⟨added, hcommanded⟩ := commands_of_execute hexecute exampleCycle.streaming
  refine ⟨_, added, hexecute, hcommanded.commands, ?_, ?_⟩
  · rw [hcommanded.txComplete (by decide +kernel) (by decide +kernel)]
    decide +kernel
  · rw [hcommanded.rxComplete (by decide +kernel) (by decide +kernel)]
    decide +kernel

end Usrp

end UsrpWrapper
