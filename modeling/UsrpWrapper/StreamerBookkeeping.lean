import UsrpWrapper.StreamingSchedule
import UsrpWrapper.Lib.Trace
import UsrpWrapper.Lib.Triple

/-!
# The streamers and their stream counts

`RfNocFullDuplexGraph` (`full_duplex_rfnoc_graph.cpp`) once more, with the two streamers
it holds and the calls it makes on the graph of UHD, each of which can throw.  The class
keeps the stream counts apart from the streamers; `disconnectAll` takes the number of
ports to disconnect from the counts.

`Usrp` is the one of `Usrp.lean` with this graph.  Where UHD takes every call it does the
same (`execute_refines`, `collect_refines`).

`streamers_bookkept` says that the counts always are those of the streamers: whatever
calls are made after the construction, and wherever they stop.
-/

namespace UsrpWrapper

open Lib Lib.Command Lib.Trace

/-! ## The graph of UHD -/

/-- A connection of the graph, as UHD lists it. -/
structure GraphEdge where
  srcBlockid : String
  srcPort : ℕ
  dstBlockid : String
  dstPort : ℕ
  deriving DecidableEq

/-- The calls on the graph.  Those on a streamer of the wrapper, `TxStreamer#0` or
`RxStreamer#0`, name its direction. -/
inductive GraphCall where
  | release
  | commit
  | enumerateActiveConnections
  | createStreamer (d : Direction) (numStreams : UInt64)
  | connectStreamer (d : Direction) (port : ℕ)
  | connectThroughBlocks (d : Direction) (stream : ℕ) (radio : Channel)
  | disconnectBlock (blockid : String) (port : ℕ)
  | disconnectEdge (edge : GraphEdge)
  | disconnectPort (d : Direction) (port : ℕ)
  | disconnectStreamer (d : Direction)
  deriving DecidableEq

/-- What happens to the graph: calls that return, the start of `disconnectAll`, the end of
a streamer in it, a call of `connectForStreaming`, a return of `connectForDownload`. -/
inductive GraphEvent where
  | called (c : GraphCall)
  | disconnectAll
  | tornDown (d : Direction)
  | connectForStreaming (numRxStreams : UInt64)
  | connectedForDownload (numRxStreams : UInt64)
  deriving DecidableEq

/-- What UHD answers, in view of what has happened. -/
structure GraphAnswers where
  accepts : List GraphEvent → GraphCall → Bool
  edges : List GraphEvent → List GraphEdge

namespace FullDuplexGraph

/-- The stream count of a direction. -/
def numStreams (g : FullDuplexGraph) : Direction → UInt64
  | .tx => g.numTxStreams
  | .rx => g.numRxStreams

end FullDuplexGraph

/-- The class with its streamers, given by the number of channels they were created
with.  The history starts with the last event. -/
structure StreamerGraph where
  graph : FullDuplexGraph
  currentTxStreamer : Option UInt64
  currentRxStreamer : Option UInt64
  history : List GraphEvent

namespace StreamerGraph

/-- A member function of the graph. -/
abbrev StreamerM := EStateM Fault StreamerGraph

/-- The streamer of a direction. -/
def currentStreamer (g : StreamerGraph) : Direction → Option UInt64
  | .tx => g.currentTxStreamer
  | .rx => g.currentRxStreamer

/-- Store or drop the streamer of a direction. -/
def setStreamer (d : Direction) (channels : Option UInt64) (g : StreamerGraph) : StreamerGraph :=
  match d with
  | .tx => { g with currentTxStreamer := channels }
  | .rx => { g with currentRxStreamer := channels }

/-- Record an event. -/
def push (e : GraphEvent) (g : StreamerGraph) : StreamerGraph :=
  { g with history := e :: g.history }

/-- A member of the class without streamers. -/
def onMembers (x : FullDuplexGraph.GraphM Unit) : StreamerM Unit :=
  onField (fun g => g.graph) (fun graph g => { g with graph }) x

section

variable (a : GraphAnswers)

/-- A call on the graph. -/
def uhd (c : GraphCall) : StreamerM Unit := do
  reads fun g => check (a.accepts g.history c = false) .uhd
  modify (push (.called c))

/-! ## Disconnecting -/

/-- `blockid.find(name)` finds the name. -/
def names (blockid name : String) : Bool := decide (name.toList <:+: blockid.toList)

/-- The call that `disconnectAll` makes for a connection. -/
def disconnectCall (edge : GraphEdge) : GraphCall :=
  if names edge.dstBlockid "RxStreamer" then .disconnectBlock edge.srcBlockid edge.srcPort
  else if names edge.srcBlockid "TxStreamer" then .disconnectBlock edge.dstBlockid edge.dstPort
  else .disconnectEdge edge

/-- The end of a streamer in `disconnectAll`: its ports, as many as the stream count says,
and the call that follows. -/
def tearDown (d : Direction) (next : StreamerM Unit) : StreamerM Unit := do
  let g ← get
  if (g.currentStreamer d).isSome then
    forM (List.range (g.graph.numStreams d).toNat) fun i => uhd a (.disconnectPort d i)
    next
    modify fun g => (g.setStreamer d none).push (.tornDown d)
  else pure ()

/-- `disconnectAll`: the connections UHD reports, then the TX streamer and the RX streamer, with
as many ports as the stream counts say. -/
def disconnectAll : StreamerM Unit := do
  modify (push .disconnectAll)
  uhd a .release
  uhd a .enumerateActiveConnections
  let g ← get
  forM (a.edges g.history) fun edge => uhd a (disconnectCall edge)
  tearDown a .tx (uhd a (.disconnectStreamer .tx))
  tearDown a .rx (pure ())
  uhd a .commit

/-! ## Connecting -/

/-- A new streamer, and the connections of its ports with those of the replay block. -/
def connectStreamer (d : Direction) (channels numPorts : UInt64) : StreamerM Unit := do
  modify (setStreamer d none)
  uhd a (.createStreamer d channels)
  modify (setStreamer d (some channels))
  forM (List.range numPorts.toNat) fun i => uhd a (.connectStreamer d i)

/-- `connectForUpload`; the new TX count is stored after the old streamers are torn down. -/
def connectForUpload (numTxStreams : UInt64) : StreamerM Unit := do
  disconnectAll a
  onMembers (FullDuplexGraph.connectForUpload numTxStreams)
  uhd a .release
  connectStreamer a .tx numTxStreams numTxStreams
  uhd a .commit

section

variable (b : RfNocBlocks) (m : StreamMapper)

/-- The loops of `connectForStreaming` over the streams of a direction. -/
def connectStreams (d : Direction) (numStreams : UInt64)
    (mapStream : UInt32 → Except Fault UInt32) : StreamerM Unit :=
  forM (List.range numStreams.toNat) fun i => do
    let antIdx ← liftE (mapStream (UInt32.ofNat i))
    let radio ← liftE (b.getRadioChannelPair antIdx.toInt32)
    uhd a (.connectThroughBlocks d i radio)

/-- `connectForStreaming`; the new RX count is stored before the old connections and
streamers are torn down. -/
def connectForStreaming (numTxStreams numRxStreams : UInt64) : StreamerM Unit := do
  modify (push (.connectForStreaming numRxStreams))
  reads fun g => check (numTxStreams ≠ g.graph.numTxStreams)
    (.usrp (.wrongNumTxAntennas numTxStreams.toNat g.graph.numTxStreams.toNat))
  modify fun g => { g with graph := { g.graph with numRxStreams } }
  disconnectAll a
  uhd a .release
  connectStreams a b .tx numTxStreams m.mapTxStreamToAntenna
  connectStreams a b .rx numRxStreams m.mapRxStreamToAntenna
  uhd a .commit

end

/-- `connectForDownload`, with the RX count of the streaming. -/
def connectForDownload (numRxStreams : UInt64) : StreamerM Unit := do
  onMembers (FullDuplexGraph.connectForDownload numRxStreams)
  disconnectAll a
  uhd a .release
  let g ← get
  connectStreamer a .rx g.graph.numRxStreams numRxStreams
  uhd a .commit
  modify fun g => { g with graph := { g.graph with numRxStreams } }
  modify (push (.connectedForDownload numRxStreams))

end

end StreamerGraph

/-! ## The device -/

/-- `Usrp` with its streamers. -/
structure StreamerUsrp (α : Type) where
  usrp : Usrp α
  currentTxStreamer : Option UInt64
  currentRxStreamer : Option UInt64
  history : List GraphEvent

/-- What UHD answers during a call.  A part of the call that connects nothing may be
stopped by an exception of UHD; then it leaves the device as given here, apart from the
stream counts of the graph, which no such part changes. -/
structure UhdAnswers (α : Type) where
  graph : GraphAnswers
  stopsUpload : Option (Usrp α)
  stops : Option (Usrp α)

namespace StreamerUsrp

open Usrp StreamerGraph

variable {α : Type}

/-- A member function of the device. -/
abbrev StreamerUsrpM (α : Type) := EStateM Fault (StreamerUsrp α)

/-- The graph of the device. -/
def fdGraph (u : StreamerUsrp α) : StreamerGraph :=
  ⟨u.usrp.fdGraph, u.currentTxStreamer, u.currentRxStreamer, u.history⟩

/-- Store the graph of the device. -/
def putGraph (g : StreamerGraph) (u : StreamerUsrp α) : StreamerUsrp α :=
  ⟨{ u.usrp with fdGraph := g.graph }, g.currentTxStreamer, g.currentRxStreamer, g.history⟩

/-- A call of the graph that deals with streamers. -/
def onStreamers (x : StreamerM Unit) : StreamerUsrpM α Unit := onField fdGraph putGraph x

section

variable {β : Type}

/-- A part that involves no streamers. -/
def onUsrp (x : UsrpM α β) : StreamerUsrpM α β :=
  onField (fun u => u.usrp) (fun usrp u => { u with usrp }) x

/-- The device `left`, with the stream counts that the graph of `v` has. -/
def stoppedAs (left v : Usrp α) : Usrp α :=
  { left with fdGraph := { left.fdGraph with
      numTxStreams := v.fdGraph.numTxStreams
      numRxStreams := v.fdGraph.numRxStreams } }

/-- A part that involves no streamers, and that UHD may stop. -/
def stoppable (stops : Option (Usrp α)) (x : UsrpM α β) : StreamerUsrpM α β :=
  match stops with
  | none => onUsrp x
  | some left => do
      onUsrp (modify (stoppedAs left))
      throw .uhd

end

section

variable (E : Environment α)

/-- The part of the constructor that connects the streams of all antennas. -/
def construct (numAnts : Int32) (g : GraphAnswers) : StreamerUsrpM α Unit := do
  let m := StreamMapper.applyDefaultMapping numAnts.toUInt32
  onUsrp (modify fun u => { u with components := { u.components with streamMapper := m } })
  onStreamers (connectForUpload g (sizeOfInt numAnts))
  onStreamers (connectForStreaming g E.blocks m (sizeOfInt numAnts) (sizeOfInt numAnts))
  onStreamers (connectForDownload g (sizeOfInt numAnts))

/-! ### Execution -/

/-- `performUpload`, which may be stopped after it has connected. -/
def performUpload (a : ExecuteAnswers) (w : UhdAnswers α) : StreamerUsrpM α Unit := do
  let u ← get
  onStreamers (connectForUpload w.graph (sizeOfInt u.usrp.components.rfConfig.getNumTxStreams))
  stoppable w.stopsUpload (uploadConfigs E a 0 u.usrp.txStreamingConfigs)

/-- What `performStreaming` does after it has connected the streams. -/
def startStreaming (a : ExecuteAnswers) (baseTime : ℚ) (m : StreamMapper) : UsrpM α Unit := do
  onComponents (onField (fun c => c.rfConfig) (fun r c => { c with rfConfig := r })
    (RFConfiguration.renewSampleRateSettings E.blocks m a.rf))
  modify fun u =>
    let rxDecimFactor := RFConfiguration.getRxDecimationRatio E.blocks u.components.rfConfig
    spawnThreads (if baseTime < 0 then a.fpgaTime + 1 / 20 else baseTime) rxDecimFactor u

/-- `performStreaming`, likewise. -/
def performStreaming (a : ExecuteAnswers) (w : UhdAnswers α) (baseTime : ℚ) :
    StreamerUsrpM α Unit := do
  let u ← get
  onStreamers (connectForStreaming w.graph E.blocks u.usrp.components.streamMapper
    (sizeOfInt u.usrp.components.rfConfig.getNumTxStreams)
    (sizeOfInt u.usrp.components.rfConfig.getNumRxStreams))
  stoppable w.stops (startStreaming E a baseTime u.usrp.components.streamMapper)

/-- `execute` with its streamers. -/
def execute (a : ExecuteAnswers) (w : UhdAnswers α) (baseTime : ℚ) : StreamerUsrpM α Unit := do
  onUsrp (modify joinThreads)
  onUsrp (onReplay (modify ReplayBlockConfig.reset))
  performUpload E a w
  performStreaming E a w baseTime

/-! ### Collection -/

/-- `performDownload`, which may be stopped after it has connected. -/
def performDownload (a : ℕ → List RecvAnswer) (w : UhdAnswers α) : StreamerUsrpM α Unit := do
  onUsrp (modify fun u => { u with receivedSamples := [] })
  let u ← get
  onStreamers (connectForDownload w.graph (sizeOfInt u.usrp.components.rfConfig.getNumRxStreams))
  stoppable w.stops (forM u.usrp.rxStreamingConfigs fun config =>
    forM (List.range config.numRepetitions.toNat) fun _ => downloadSignal E a config)

/-- `collect` with its streamers. -/
def collect (a : ℕ → List RecvAnswer) (w : UhdAnswers α) :
    StreamerUsrpM α (List (MimoSignal α)) := do
  onUsrp (modify joinThreads)
  onUsrp (reads fun u => rethrow u.transmitThreadException)
  onUsrp (reads fun u => rethrow u.receiveThreadException)
  performDownload E a w
  onUsrp (modify resetStreamingConfigs)
  onUsrp (reads fun u => .ok u.receivedSamples)

/-! ### Calls -/

/-- A call of the client or a step of a thread, and what UHD answers. -/
abbrev UsrpCall (α : Type) := Call α × UhdAnswers α

/-- The device after a call, whether it returns or throws. -/
def callStep (u : StreamerUsrp α) : UsrpCall α → StreamerUsrp α
  | (.event e, w) => finalState (stoppable w.stops (modify fun v => step E v e) u)
  | (.resetStreamingConfigs, _) => finalState (onUsrp (modify resetStreamingConfigs) u)
  | (.execute a baseTime, w) => finalState (execute E a w baseTime u)
  | (.collect a, w) => finalState (collect E a w u)

end

end StreamerUsrp

/-! ## Where UHD takes every call -/

namespace StreamerGraph

@[simp] theorem graph_setStreamer (d : Direction) (channels : Option UInt64) (g : StreamerGraph) :
    (g.setStreamer d channels).graph = g.graph := by
  cases d <;> rfl

section

variable {a : GraphAnswers} (ha : ∀ h c, a.accepts h c = true)

include ha

/-- A call on the graph is nothing to the class without streamers. -/
theorem uhd_refines (c : GraphCall) :
    Refines graph (uhd a c) (pure ()) := by
  refine Refines.skip (a := ()) (fun g => ?_) fun _ _ => rfl
  have hcheck : check (a.accepts g.history c = false) Fault.uhd = .ok () := by
    rw [check_eq_ok_iff, ha]
    decide
  exact congrArg (mapState graph) (reads_eq_ok_iff.mpr ⟨hcheck, rfl⟩)

/-- A loop of calls. -/
theorem calls_refine {ι : Type} (call : ι → GraphCall)
    (l : List ι) : Refines graph (forM l fun i => uhd a (call i)) (pure ()) := by
  induction l with
  | nil => exact Refines.pure ()
  | cons i l ih =>
      rw [List.forM_cons]
      exact (uhd_refines ha _).skip fun _ => ih

theorem tearDown_refines (d : Direction) {next : StreamerM Unit}
    (hnext : Refines graph next (pure ())) : Refines graph (tearDown a d next) (pure ()) := by
  refine Refines.getSkip fun g => ?_
  split
  · refine (calls_refine ha _ _).skip fun _ => hnext.skip fun _ => ?_
    exact Refines.modify (h := id) fun g => graph_setStreamer d none g
  · exact Refines.pure ()

/-- The members are as before. -/
theorem disconnectAll_refines : Refines graph (disconnectAll a) (pure ()) := by
  refine Refines.skip (a := ()) (fun _ => rfl) fun _ => ?_
  refine (uhd_refines ha _).skip fun _ => (uhd_refines ha _).skip fun _ => ?_
  refine Refines.getSkip fun g => (calls_refine ha _ _).skip fun _ => ?_
  refine (tearDown_refines ha .tx (uhd_refines ha _)).skip fun _ => ?_
  exact (tearDown_refines ha .rx (Refines.pure ())).skip fun _ => uhd_refines ha _

theorem connectStreamer_refines (d : Direction) (channels numPorts : UInt64) :
    Refines graph (connectStreamer a d channels numPorts) (pure ()) := by
  have hset (channels : Option UInt64) :
      Refines (ε := Fault) graph (modify (setStreamer d channels)) (pure ()) :=
    Refines.modify (h := id) fun g => graph_setStreamer d channels g
  refine (hset none).skip fun _ => (uhd_refines ha _).skip fun _ => ?_
  exact (hset _).skip fun _ => calls_refine ha _ _

/-- `connectForUpload` does what it does without streamers, unless UHD stops it. -/
theorem connectForUpload_refines (numTxStreams : UInt64) :
    Refines graph (connectForUpload a numTxStreams)
      (FullDuplexGraph.connectForUpload numTxStreams) := by
  refine (disconnectAll_refines ha).skip fun _ => ?_
  refine Refines.bindSkip (Refines.ofField (fun _ _ => rfl) _) fun _ => ?_
  refine (uhd_refines ha _).skip fun _ => ?_
  exact (connectStreamer_refines ha _ _ _).skip fun _ => uhd_refines ha _

theorem connectStreams_refines (b : RfNocBlocks) (d : Direction) (numStreams : UInt64)
    (mapStream : UInt32 → Except Fault UInt32) :
    Refines graph (connectStreams a b d numStreams mapStream)
      (FullDuplexGraph.connectStreams b numStreams mapStream) := by
  refine Refines.forM fun i _ => ?_
  rw [liftE_bind]
  refine (Refines.liftE _).bind fun antIdx => ?_
  rw [liftE_bind]
  exact (Refines.liftE _).bind fun _ => uhd_refines ha _

/-- `connectForStreaming` does what it does without streamers, unless UHD stops it. -/
theorem connectForStreaming_refines (b : RfNocBlocks) (m : StreamMapper)
    (numTxStreams numRxStreams : UInt64) :
    Refines graph (connectForStreaming a b m numTxStreams numRxStreams)
      (FullDuplexGraph.connectForStreaming b m numTxStreams numRxStreams) := by
  refine Refines.skip (a := ()) (fun _ => rfl) fun _ => ?_
  refine Refines.bind (Refines.reads fun _ => rfl) fun _ => ?_
  refine Refines.bind (Refines.modify fun _ => rfl) fun _ => ?_
  refine (disconnectAll_refines ha).skip fun _ => (uhd_refines ha _).skip fun _ => ?_
  refine (connectStreams_refines ha b _ _ _).bind fun _ => ?_
  exact Refines.bindSkip (connectStreams_refines ha b _ _ _) fun _ => uhd_refines ha _

/-- So does `connectForDownload`. -/
theorem connectForDownload_refines (numRxStreams : UInt64) :
    Refines graph (connectForDownload a numRxStreams)
      (FullDuplexGraph.connectForDownload numRxStreams) := by
  -- the count that is stored is the one that passed the check
  have hstore : FullDuplexGraph.connectForDownload numRxStreams =
      FullDuplexGraph.connectForDownload numRxStreams >>= fun _ =>
        modify fun g => { g with numRxStreams } := by
    funext g
    cases hcheck : FullDuplexGraph.connectForDownload numRxStreams g with
    | error e g' => rw [bind_of_error hcheck]
    | ok u g' =>
        obtain ⟨rfl, rfl⟩ := FullDuplexGraph.connectForDownload_eq_ok hcheck
        rw [bind_of_ok hcheck]
        rfl
  rw [hstore]
  refine (Refines.ofField (fun _ _ => rfl) _).bind fun _ => ?_
  refine (disconnectAll_refines ha).skip fun _ => (uhd_refines ha _).skip fun _ => ?_
  refine Refines.getSkip fun _ => (connectStreamer_refines ha _ _ _).skip fun _ => ?_
  refine (uhd_refines ha _).skip fun _ => ?_
  exact Refines.bindSkip (Refines.modify fun _ => rfl) fun _ _ => rfl

end

end StreamerGraph

namespace StreamerUsrp

open Usrp StreamerGraph

variable {α : Type} {E : Environment α} {w : UhdAnswers α}

/-- UHD takes every call and stops nothing. -/
structure TakesAll (w : UhdAnswers α) : Prop where
  accepts : ∀ h c, w.graph.accepts h c = true
  upload : w.stopsUpload = none
  rest : w.stops = none

theorem onUsrp_refines {β : Type} (x : UsrpM α β) : Refines usrp (onUsrp x) x :=
  Refines.ofField (fun _ _ => rfl) x

theorem stoppable_refines {β : Type} {stops : Option (Usrp α)} (h : stops = none)
    (x : UsrpM α β) : Refines usrp (stoppable stops x) x := by
  subst h
  exact onUsrp_refines x

theorem onStreamers_refines {x : StreamerM Unit} {y : FullDuplexGraph.GraphM Unit}
    (h : Refines graph x y) : Refines usrp (onStreamers (α := α) x) (onGraph y) :=
  Refines.onField (fun _ => rfl) (fun _ _ => rfl) h

/-- **Where UHD takes every call, an execution is that of the device without
streamers.** -/
theorem execute_refines (hw : TakesAll w) (a : ExecuteAnswers) (baseTime : ℚ) :
    Refines usrp (execute E a w baseTime) (Usrp.execute E a baseTime) := by
  refine (onUsrp_refines _).bind fun _ => (onUsrp_refines _).bind fun _ => ?_
  refine Refines.bind ?_ fun _ => ?_
  · refine Refines.bindGet fun u => ?_
    exact (onStreamers_refines (connectForUpload_refines hw.accepts _)).bind fun _ =>
      stoppable_refines hw.upload _
  · refine Refines.bindGet fun u => ?_
    exact (onStreamers_refines (connectForStreaming_refines hw.accepts _ _ _ _)).bind fun _ =>
      stoppable_refines hw.rest _

/-- So is a collection. -/
theorem collect_refines (hw : TakesAll w) (a : ℕ → List RecvAnswer) :
    Refines usrp (collect E a w) (Usrp.collect E a) := by
  refine (onUsrp_refines _).bind fun _ => (onUsrp_refines _).bind fun _ => ?_
  refine (onUsrp_refines _).bind fun _ => Refines.bind ?_ fun _ => ?_
  · refine (onUsrp_refines _).bind fun _ => Refines.bindGet fun u => ?_
    exact (onStreamers_refines (connectForDownload_refines hw.accepts _)).bind fun _ =>
      stoppable_refines hw.rest _
  · exact (onUsrp_refines _).bind fun _ => onUsrp_refines _

end StreamerUsrp

/-! ## What the history shows -/

namespace GraphEvent

/-- The channels with which the event creates a streamer. -/
def creates (d : Direction) : GraphEvent → Option UInt64
  | .called (.createStreamer d' numStreams) => if d' = d then some numStreams else none
  | _ => none

/-- The port of a streamer that the event disconnects. -/
def disconnects (d : Direction) : GraphEvent → Option ℕ
  | .called (.disconnectPort d' port) => if d' = d then some port else none
  | _ => none

/-- The RX stream count of a call of `connectForStreaming`. -/
def streams : GraphEvent → Option UInt64
  | .connectForStreaming numRxStreams => some numRxStreams
  | _ => none

end GraphEvent

/-- The channels the last streamer of a direction was created with. -/
def createdWith (d : Direction) (h : List GraphEvent) : Option UInt64 :=
  h.findSome? (·.creates d)

/-- The RX stream count of the last call of `connectForStreaming`. -/
def lastStreaming (h : List GraphEvent) : Option UInt64 := h.findSome? (·.streams)

/-- The ports of a streamer that were disconnected since `disconnectAll` started. -/
def disconnectedPorts (d : Direction) (h : List GraphEvent) : List ℕ :=
  ((h.takeWhile (· ≠ .disconnectAll)).filterMap (·.disconnects d)).reverse

/-- What the bookkeeping promises of an event, in view of the history before it: a
streamer has every port that is disconnected, it ends when all of them were, and a
connection for the download has the RX stream count of the last one for streaming. -/
def Bookkept : GraphEvent → List GraphEvent → Prop
  | .called (.disconnectPort d port), h => ∃ n, createdWith d h = some n ∧ port < n.toNat
  | .tornDown d, h => ∃ n, createdWith d h = some n ∧ disconnectedPorts d h = List.range n.toNat
  | .connectedForDownload numRxStreams, h => lastStreaming h = some numRxStreams
  | _, _ => True

section

variable {d : Direction} {e : GraphEvent} {h : List GraphEvent}

/-- Only a new streamer of the direction counts. -/
theorem createdWith_cons (he : e.creates d = none) : createdWith d (e :: h) = createdWith d h := by
  rw [createdWith, List.findSome?_cons, he]
  rfl

theorem createdWith_create (n : UInt64) :
    createdWith d (.called (.createStreamer d n) :: h) = some n := by
  simp [createdWith, GraphEvent.creates]

theorem lastStreaming_cons (he : e.streams = none) : lastStreaming (e :: h) = lastStreaming h := by
  rw [lastStreaming, List.findSome?_cons, he]
  rfl

theorem disconnectedPorts_cons (hstart : e ≠ .disconnectAll) (he : e.disconnects d = none) :
    disconnectedPorts d (e :: h) = disconnectedPorts d h := by
  simp [disconnectedPorts, hstart, List.filterMap_cons_none, he]

theorem disconnectedPorts_port (port : ℕ) :
    disconnectedPorts d (.called (.disconnectPort d port) :: h) =
      disconnectedPorts d h ++ [port] := by
  simp [disconnectedPorts, GraphEvent.disconnects]

end

/-! ## The graph -/

/-- The calls that neither create a streamer nor disconnect a port of one. -/
def GraphCall.plain : GraphCall → Bool
  | .createStreamer _ _ => false
  | .disconnectPort _ _ => false
  | _ => true

namespace StreamerGraph

@[simp] theorem currentStreamer_setStreamer (d d' : Direction) (channels : Option UInt64)
    (g : StreamerGraph) :
    (g.setStreamer d channels).currentStreamer d' =
      if d' = d then channels else g.currentStreamer d' := by
  cases d <;> cases d' <;> rfl

@[simp] theorem history_setStreamer (d : Direction) (channels : Option UInt64)
    (g : StreamerGraph) : (g.setStreamer d channels).history = g.history := by
  cases d <;> rfl

/-- The graph has these members, the last call of `connectForStreaming` had this RX
count, the members count the channels of the streamers, and all went well so far. -/
structure Consistent (members : FullDuplexGraph) (streaming : Option UInt64)
    (g : StreamerGraph) : Prop where
  graph : g.graph = members
  streaming : lastStreaming g.history = streaming
  created : ∀ d n, g.currentStreamer d = some n → createdWith d g.history = some n
  count : ∀ d n, g.currentStreamer d = some n → n = members.numStreams d
  bookkept : Always Bookkept g.history

section

variable {a : GraphAnswers} {members : FullDuplexGraph} {streaming : Option UInt64}
  {g : StreamerGraph} {R : StreamerGraph → Prop}

/-- An event that says nothing of streamers keeps the book-keeping right. -/
theorem Consistent.push {e : GraphEvent} (hg : Consistent members streaming g)
    (hcreates : ∀ d, e.creates d = none) (hstreams : e.streams = none)
    (hbookkept : Bookkept e g.history) : Consistent members streaming (g.push e) := by
  refine ⟨hg.graph, ?_, fun d n hn => ?_, hg.count, hbookkept, hg.bookkept⟩
  · exact (lastStreaming_cons hstreams).trans hg.streaming
  · exact (createdWith_cons (hcreates d)).trans (hg.created d n hn)

theorem disconnectedPorts_push {d : Direction} {e : GraphEvent} {ports : List ℕ}
    (hstart : e ≠ .disconnectAll) (he : e.disconnects d = none)
    (hports : disconnectedPorts d g.history = ports) :
    disconnectedPorts d (g.push e).history = ports :=
  (disconnectedPorts_cons hstart he).trans hports

/-- A streamer that is gone need not be counted. -/
theorem Consistent.clear (hg : Consistent members streaming g) (d : Direction) :
    Consistent members streaming (g.setStreamer d none) := by
  have hold {d' : Direction} {n : UInt64}
      (hn : (g.setStreamer d none).currentStreamer d' = some n) :
      g.currentStreamer d' = some n := by
    rw [currentStreamer_setStreamer] at hn
    split at hn
    · cases hn
    · exact hn
  refine ⟨?_, ?_, fun d' n hn => ?_, fun d' n hn => hg.count d' n (hold hn), ?_⟩
  · rw [graph_setStreamer, hg.graph]
  · rw [history_setStreamer, hg.streaming]
  · rw [history_setStreamer]
    exact hg.created d' n (hold hn)
  · rw [history_setStreamer]
    exact hg.bookkept

/-- Counts may change in the directions without a streamer. -/
theorem Consistent.changeMembers {members' : FullDuplexGraph}
    (hg : Consistent members streaming g) (hkept : ∀ d n, g.currentStreamer d = some n →
      members'.numStreams d = members.numStreams d) :
    Consistent members' streaming { g with graph := members' } := by
  refine ⟨rfl, hg.streaming, fun d n hn => ?_, fun d n hn => ?_, hg.bookkept⟩
  · exact hg.created d n hn
  · exact (hg.count d n hn).trans (hkept d n hn).symm

/-- A call that throws has changed nothing. -/
theorem uhd_triple {c : GraphCall} {P Q : StreamerGraph → Prop}
    (h : ∀ g, P g → Q (g.push (.called c))) : Triple P (uhd a c) (fun _ => Q) fun _ => P :=
  Triple.bind (Triple.reads fun _ _ hg => hg) fun _ => Triple.modify fun g hg => h g hg.2

/-- A plain call, which keeps what new events keep. -/
theorem plain_triple {c : GraphCall} (hc : c.plain = true)
    (hR : ∀ g, R g → R (g.push (.called c))) :
    Triple (fun g => Consistent members streaming g ∧ R g) (uhd a c)
      (fun _ g => Consistent members streaming g ∧ R g) fun _ => Consistent members streaming := by
  refine Triple.mono_error (uhd_triple fun g hg => ⟨?_, hR g hg.2⟩) fun _ _ hg => hg.1
  cases c with
  | createStreamer d n => cases hc
  | disconnectPort d port => cases hc
  | _ => exact hg.1.push (fun _ => rfl) rfl trivial

/-- A call that says nothing of streamers keeps the books in order. -/
theorem consistent_plain {c : GraphCall} (hc : c.plain = true) :
    Triple (Consistent members streaming) (uhd a c) (fun _ => Consistent members streaming)
      fun _ => Consistent members streaming :=
  (plain_triple (R := fun _ => True) hc fun _ hg => hg).conseq (fun _ hg => ⟨hg, trivial⟩)
    (fun _ _ hg => hg.1) fun _ _ hg => hg

/-! ### Disconnecting -/

/-- A streamer with `n` channels, of which the first `k` ports are disconnected. -/
def Disconnected (d : Direction) (n : UInt64) (k : ℕ) (g : StreamerGraph) : Prop :=
  g.currentStreamer d = some n ∧ disconnectedPorts d g.history = List.range k

/-- The end of a streamer, with a property `R` that does not depend on it. -/
theorem tearDown_triple (d : Direction) {next : StreamerM Unit}
    (hport : ∀ g i, R g → R (g.push (.called (.disconnectPort d i))))
    (hclear : ∀ g, R g → R ((g.setStreamer d none).push (.tornDown d)))
    (hnext : ∀ n k, Triple
      (fun g => Consistent members streaming g ∧ Disconnected d n k g ∧ R g) next
      (fun _ g => Consistent members streaming g ∧ Disconnected d n k g ∧ R g)
      fun _ => Consistent members streaming) :
    Triple (fun g => Consistent members streaming g ∧ disconnectedPorts d g.history = [] ∧ R g)
      (tearDown a d next)
      (fun _ g => Consistent members streaming g ∧ g.currentStreamer d = none ∧ R g)
      fun _ => Consistent members streaming := by
  rintro g ⟨hg, hports, hR⟩
  unfold tearDown
  rw [bind_of_ok (get_apply g)]
  cases hcurrent : g.currentStreamer d with
  | none => exact ⟨hg, hcurrent, hR⟩
  | some n =>
      obtain rfl := hg.count d n hcurrent
      rw [hg.graph, if_pos Option.isSome_some]
      refine Triple.bind (Triple.forM_range (I := fun k g => Consistent members streaming g ∧
        Disconnected d (members.numStreams d) k g ∧ R g) _ fun i hi => ?_) (fun _ =>
          Triple.bind (hnext _ _) fun _ => Triple.modify ?_) g ⟨hg, ⟨hcurrent, hports⟩, hR⟩
      · refine Triple.mono_error (uhd_triple ?_) fun _ _ hg => hg.1
        rintro g ⟨hg, ⟨hcurrent, hports⟩, hR⟩
        refine ⟨hg.push (fun _ => rfl) rfl ⟨_, hg.created d _ hcurrent, hi⟩, ⟨hcurrent, ?_⟩,
          hport g i hR⟩
        rw [List.range_succ, ← hports]
        exact disconnectedPorts_port i
      · rintro g ⟨hg, ⟨hcurrent, hports⟩, hR⟩
        refine ⟨(hg.clear d).push (fun _ => rfl) rfl ?_, ?_, hclear g hR⟩
        · rw [history_setStreamer]
          exact ⟨_, hg.created d _ hcurrent, hports⟩
        · exact (currentStreamer_setStreamer d d none g).trans (if_pos rfl)

/-- **No streamer is left.** -/
theorem disconnectAll_triple :
    Triple (Consistent members streaming) (disconnectAll a)
      (fun _ g => Consistent members streaming g ∧
        g.currentRxStreamer = none ∧ g.currentTxStreamer = none)
      fun _ => Consistent members streaming := by
  have hplain {c : GraphCall} (hc : c.plain = true) :
      Triple (fun g => Consistent members streaming g ∧ disconnectedPorts .tx g.history = [] ∧
          disconnectedPorts .rx g.history = []) (uhd a c)
        (fun _ g => Consistent members streaming g ∧ disconnectedPorts .tx g.history = [] ∧
          disconnectedPorts .rx g.history = []) fun _ => Consistent members streaming := by
    refine plain_triple hc fun g hg => ?_
    have hother (d : Direction) : (GraphEvent.called c).disconnects d = none := by
      cases c with
      | disconnectPort d port => cases hc
      | _ => rfl
    exact ⟨disconnectedPorts_push (fun h => nomatch h) (hother .tx) hg.1,
      disconnectedPorts_push (fun h => nomatch h) (hother .rx) hg.2⟩
  unfold disconnectAll
  refine Triple.bind (Q := fun _ g => Consistent members streaming g ∧
    disconnectedPorts .tx g.history = [] ∧ disconnectedPorts .rx g.history = [])
    (Triple.modify fun g hg => ⟨hg.push (fun _ => rfl) rfl trivial, rfl, rfl⟩) fun _ => ?_
  refine Triple.bind (hplain rfl) fun _ => Triple.bind (hplain rfl) fun _ => ?_
  refine Triple.bind Triple.get fun g₀ => Triple.mono_pre ?_ fun _ hg => hg.2
  refine Triple.bind (Triple.forM fun edge _ => hplain ?_) fun _ => ?_
  · unfold disconnectCall
    split
    · rfl
    · split <;> rfl
  refine Triple.bind (tearDown_triple .tx (fun g i hg => ?_) (fun g hg => ?_) fun n k => ?_)
    fun _ => ?_
  · exact disconnectedPorts_push (fun h => nomatch h) rfl hg
  · exact disconnectedPorts_push (fun h => nomatch h) rfl hg
  · refine plain_triple rfl fun g hg => ⟨⟨hg.1.1, ?_⟩, ?_⟩
    · exact disconnectedPorts_push (fun h => nomatch h) rfl hg.1.2
    · exact disconnectedPorts_push (fun h => nomatch h) rfl hg.2
  refine Triple.bind (Triple.mono_pre (tearDown_triple (R := fun g => g.currentTxStreamer = none)
    .rx (fun _ _ hg => hg) (fun _ hg => hg) fun _ _ => Triple.pure fun _ hg => hg)
    fun g hg => ⟨hg.1, hg.2.2, hg.2.1⟩) fun _ => ?_
  exact plain_triple rfl fun _ hg => hg

/-! ### Connecting -/

/-- A new streamer, with the channels that the stream count says. -/
theorem connectStreamer_triple (members : FullDuplexGraph) (d : Direction) (numPorts : UInt64)
    (hset : ∀ g channels, R g → R (g.setStreamer d channels)) (hpush : ∀ g e, R g → R (g.push e)) :
    Triple (fun g => Consistent members streaming g ∧ R g)
      (connectStreamer a d (members.numStreams d) numPorts)
      (fun _ g => Consistent members streaming g ∧ R g) fun _ => Consistent members streaming := by
  unfold connectStreamer
  refine Triple.bind (Q := fun _ g => Consistent members streaming g ∧
    g.currentStreamer d = none ∧ R g) (Triple.modify fun g hg => ?_) fun _ => ?_
  · exact ⟨hg.1.clear d, (currentStreamer_setStreamer d d none g).trans (if_pos rfl),
      hset g none hg.2⟩
  refine Triple.bind (Q := fun _ g => Consistent members streaming g ∧
    g.currentStreamer d = none ∧ createdWith d g.history = some (members.numStreams d) ∧ R g)
    (Triple.mono_error (uhd_triple ?_) fun _ _ hg => hg.1) fun _ => ?_
  · rintro g ⟨hg, hnone, hR⟩
    refine ⟨⟨hg.graph, ?_, fun d' n hn => ?_, hg.count, trivial, hg.bookkept⟩, hnone, ?_,
      hpush g _ hR⟩
    · exact (lastStreaming_cons rfl).trans hg.streaming
    · have hother : (GraphEvent.called (.createStreamer d (members.numStreams d))).creates d' =
          none := by
        refine if_neg ?_
        rintro rfl
        exact nomatch hnone.symm.trans hn
      exact (createdWith_cons hother).trans (hg.created d' n hn)
    · exact createdWith_create _
  refine Triple.bind (Q := fun _ g => Consistent members streaming g ∧ R g)
    (Triple.modify ?_) fun _ => Triple.forM fun i _ => plain_triple rfl fun g hg => hpush g _ hg
  rintro g ⟨hg, hnone, hcreated, hR⟩
  have hnew {d' : Direction} {n : UInt64}
      (hn : (g.setStreamer d (some (members.numStreams d))).currentStreamer d' = some n) :
      d' = d ∧ n = members.numStreams d ∨ g.currentStreamer d' = some n := by
    rw [currentStreamer_setStreamer] at hn
    split at hn
    · exact Or.inl ⟨‹d' = d›, (Option.some.inj hn).symm⟩
    · exact Or.inr hn
  refine ⟨⟨?_, ?_, fun d' n hn => ?_, fun d' n hn => ?_, ?_⟩, hset g _ hR⟩
  · rw [graph_setStreamer, hg.graph]
  · rw [history_setStreamer, hg.streaming]
  · rw [history_setStreamer]
    rcases hnew hn with ⟨rfl, rfl⟩ | hold
    · exact hcreated
    · exact hg.created d' n hold
  · rcases hnew hn with ⟨rfl, rfl⟩ | hold
    · rfl
    · exact hg.count d' n hold
  · rw [history_setStreamer]
    exact hg.bookkept

/-- After a connection for the upload there is no RX streamer. -/
theorem connectForUpload_triple (members : FullDuplexGraph) (streaming : Option UInt64)
    (numTxStreams : UInt64) :
    Triple (Consistent members streaming) (connectForUpload a numTxStreams)
      (fun _ g => Consistent { members with numTxStreams } streaming g ∧
        g.currentRxStreamer = none)
      fun _ g => ∃ n, Consistent { members with numTxStreams := n } streaming g := by
  unfold connectForUpload
  refine Triple.bind (disconnectAll_triple.mono_error fun _ _ hg => ⟨members.numTxStreams, hg⟩)
    fun _ => ?_
  refine Triple.bind (Q := fun _ g => Consistent { members with numTxStreams } streaming g ∧
    g.currentRxStreamer = none) ?_ fun _ => Triple.mono_error ?_ fun _ _ hg => ⟨numTxStreams, hg⟩
  · rintro g ⟨hg, hrx, htx⟩
    obtain rfl := hg.graph
    refine ⟨hg.changeMembers fun d n hn => ?_, hrx⟩
    cases d with
    | tx => exact nomatch htx.symm.trans hn
    | rx => rfl
  · refine Triple.bind (plain_triple rfl fun _ hg => hg) fun _ => Triple.bind
      (connectStreamer_triple { members with numTxStreams } .tx numTxStreams
        (fun _ _ hg => hg) fun _ _ hg => hg) fun _ => plain_triple rfl fun _ hg => hg

/-- Connecting the streams to the radios does not touch the streamers. -/
theorem connectStreams_triple (b : RfNocBlocks) (d : Direction) (numStreams : UInt64)
    (mapStream : UInt32 → Except Fault UInt32) :
    Triple (Consistent members streaming) (connectStreams a b d numStreams mapStream)
      (fun _ => Consistent members streaming) fun _ => Consistent members streaming := by
  refine Triple.forM fun i _ => ?_
  refine Triple.bind (Triple.of_preserves (Preserves.liftE _)) fun _ => ?_
  refine Triple.bind (Triple.of_preserves (Preserves.liftE _)) fun _ => ?_
  exact consistent_plain rfl

/-- Without an RX streamer, a connection for streaming may change the RX count. -/
theorem connectForStreaming_triple (members : FullDuplexGraph) (streaming : Option UInt64)
    (b : RfNocBlocks) (m : StreamMapper) (numRxStreams : UInt64) :
    Triple (fun g => Consistent members streaming g ∧ g.currentRxStreamer = none)
      (connectForStreaming a b m members.numTxStreams numRxStreams)
      (fun _ => Consistent { members with numRxStreams } (some numRxStreams))
      fun _ => Consistent { members with numRxStreams } (some numRxStreams) := by
  unfold connectForStreaming
  refine Triple.bind (Q := fun _ g => Consistent members (some numRxStreams) g ∧
    g.currentRxStreamer = none) (Triple.modify fun g hg => ⟨⟨hg.1.graph, rfl, fun d n hn => ?_,
      hg.1.count, trivial, hg.1.bookkept⟩, hg.2⟩) fun _ => ?_
  · exact (createdWith_cons rfl).trans (hg.1.created d n hn)
  refine Triple.bind (Triple.reads_of_ok (a := ()) fun g hg => ?_) fun _ => ?_
  · rw [hg.1.graph, check_eq_ok_iff, not_not]
  refine Triple.bind (Q := fun _ => Consistent { members with numRxStreams } (some numRxStreams))
    (Triple.modify ?_) fun _ => ?_
  · rintro g ⟨-, hg, hrx⟩
    obtain rfl := hg.graph
    refine hg.changeMembers fun d n hn => ?_
    cases d with
    | tx => rfl
    | rx => exact nomatch hrx.symm.trans hn
  refine Triple.bind (disconnectAll_triple.mono_post fun _ _ hg => hg.1) fun _ => ?_
  refine Triple.bind (consistent_plain rfl) fun _ => ?_
  refine Triple.bind (connectStreams_triple b .tx _ _) fun _ => ?_
  exact Triple.bind (connectStreams_triple b .rx _ _) fun _ => consistent_plain rfl

/-- A connection for the download uses the RX count of the last one for streaming. -/
theorem connectForDownload_triple (members : FullDuplexGraph) (numRxStreams : UInt64) :
    Triple (Consistent members (some members.numRxStreams)) (connectForDownload a numRxStreams)
      (fun _ => Consistent members (some members.numRxStreams))
      fun _ => Consistent members (some members.numRxStreams) := by
  unfold connectForDownload
  refine Triple.bind (Q := fun _ g => numRxStreams = members.numRxStreams ∧
    Consistent members (some members.numRxStreams) g) (Triple.onField fun g hg => ?_) fun _ =>
      Triple.of_fact ?_
  · refine (Triple.reads fun t e ht => ?_).mono_post ?_
    · subst ht
      exact hg
    · rintro _ t ⟨hcheck, rfl⟩
      rw [check_eq_ok_iff, not_not, hg.graph] at hcheck
      exact ⟨hcheck, hg⟩
  · rintro rfl
    refine Triple.bind (disconnectAll_triple.mono_post fun _ _ hg => hg.1) fun _ => ?_
    refine Triple.bind (consistent_plain rfl) fun _ => ?_
    refine Triple.bind Triple.get fun g₀ => Triple.mono_pre (Triple.of_fact
      (p := g₀.graph = members) ?_) fun g hg => ⟨hg.1 ▸ hg.2.graph, hg.2⟩
    rintro rfl
    refine Triple.bind ((connectStreamer_triple (R := fun _ => True) _ .rx _ (fun _ _ hg => hg)
      fun _ _ hg => hg).conseq (fun _ hg => ⟨hg, trivial⟩) (fun _ _ hg => hg.1)
        fun _ _ hg => hg) fun _ => ?_
    refine Triple.bind (consistent_plain rfl) fun _ => ?_
    refine Triple.bind (Q := fun _ => Consistent g₀.graph (some g₀.graph.numRxStreams))
      (Triple.modify fun g hg => ?_) fun _ => Triple.modify fun g hg => ?_
    · have hsame : { g.graph with numRxStreams := g₀.graph.numRxStreams } = g₀.graph := by
        rw [hg.graph]
      exact { hg with graph := hsame }
    · exact hg.push (fun _ => rfl) rfl hg.streaming

end

end StreamerGraph

/-! ## The device and its streamers -/

namespace Usrp

variable {α : Type} {E : Environment α}

/-- The stream counts of the graph are as before. -/
structure SameCounts (u v : Usrp α) : Prop where
  tx : v.fdGraph.numTxStreams = u.fdGraph.numTxStreams
  rx : v.fdGraph.numRxStreams = u.fdGraph.numRxStreams

section

variable {u : Usrp α} {β : Type}

theorem sameCounts_refl (u : Usrp α) : SameCounts u u := ⟨rfl, rfl⟩

theorem sameCounts_onReplay (x : EStateM Fault ReplayBlockConfig β) :
    Preserves (SameCounts u) (onReplay x) :=
  Preserves.onField_of_put fun _ _ h => ⟨h.tx, h.rx⟩

theorem sameCounts_onComponents (x : EStateM Fault Components Unit) :
    Preserves (SameCounts u) (onComponents x) :=
  Preserves.onField_of_put fun _ _ h => ⟨h.tx, h.rx⟩

theorem sameCounts_uploadConfigs (a : ExecuteAnswers) (i : ℕ)
    (configs : List (TxStreamingConfig α)) :
    Preserves (SameCounts u) (uploadConfigs E a i configs) := by
  induction configs generalizing i with
  | nil => exact Preserves.pure _
  | cons config configs ih =>
      refine (Preserves.liftE _).bind fun _ => (sameCounts_onReplay _).bind fun _ => ?_
      refine Preserves.bind ?_ fun _ => ih (i + 1)
      exact Preserves.onField (fun _ g => g.numTxStreams = u.fdGraph.numTxStreams ∧
          g.numRxStreams = u.fdGraph.numRxStreams) (fun _ h => ⟨h.tx, h.rx⟩)
        (fun _ _ => FullDuplexGraph.preserves_upload (fun _ _ h => h) _ _)
        fun _ _ _ h => ⟨h.1, h.2⟩

theorem sameCounts_downloadSignal (a : ℕ → List RecvAnswer) (config : RxStreamingConfig) :
    Preserves (SameCounts u) (downloadSignal E a config) := by
  refine (sameCounts_onReplay _).bind fun _ => Preserves.get.bind fun _ => ?_
  refine Preserves.bind (Preserves.onField (fun v => FullDuplexGraph.SameConnections v.fdGraph)
    (fun _ _ => FullDuplexGraph.sameConnections_refl _)
    (fun _ _ => FullDuplexGraph.preserves_download _ _) ?_) fun _ => ?_
  · rintro v _ h ⟨radioCommands, rfl⟩
    exact ⟨h.tx, h.rx⟩
  · refine Preserves.bind (Preserves.modify fun _ h => ⟨h.tx, h.rx⟩) fun _ => ?_
    exact (Preserves.liftE _).bind fun _ => Preserves.modify fun _ h => ⟨h.tx, h.rx⟩

theorem Started.sameCounts {d : Direction} {kind : ReplayCommand → Prop} {v : Usrp α}
    (h : Started d kind u v) : SameCounts u v := by
  obtain ⟨r, radioCommands, -, rfl⟩ := h
  exact ⟨rfl, rfl⟩

theorem sameCounts_of_txStep {v : Usrp α} (h : TxStep u v) : SameCounts u v := by
  cases h with
  | start i total c a v thread config started =>
      have hstarted := (started_startTransmit c a u).sameCounts
      rw [started] at hstarted
      exact ⟨hstarted.tx, hstarted.rx⟩
  | startFailed c a e v failed =>
      have hstarted := (started_startTransmit c a u).sameCounts
      rw [failed] at hstarted
      exact ⟨hstarted.tx, hstarted.rx⟩
  | _ => exact ⟨rfl, rfl⟩

theorem sameCounts_of_rxStep {v : Usrp α} (h : RxStep E u v) : SameCounts u v := by
  cases h with
  | start i total c a v thread config started =>
      have hstarted := (started_startReceive (E := E) c a u).sameCounts
      rw [started] at hstarted
      exact ⟨hstarted.tx, hstarted.rx⟩
  | startFailed c a e v failed =>
      have hstarted := (started_startReceive (E := E) c a u).sameCounts
      rw [failed] at hstarted
      exact ⟨hstarted.tx, hstarted.rx⟩
  | _ => exact ⟨rfl, rfl⟩

/-- No step of the device changes a stream count of the graph. -/
theorem sameCounts_step (e : Event α) (v : Usrp α) : SameCounts v (step E v e) := by
  cases e with
  | setTxConfig conf =>
      refine Preserves.bind (Preserves.reads _) (fun _ => (Preserves.liftE _).bind fun _ => ?_) v
        (sameCounts_refl v)
      exact Preserves.modify fun _ h => ⟨h.tx, h.rx⟩
  | setRxConfig conf =>
      refine Preserves.bind (Preserves.reads _) (fun _ => ?_) v (sameCounts_refl v)
      exact Preserves.modify fun _ h => ⟨h.tx, h.rx⟩
  | setRfConfig conf a => exact sameCounts_onComponents _ v (sameCounts_refl v)
  | _ =>
      refine (step_cases ?_ v).elim sameCounts_of_txStep sameCounts_of_rxStep
      rfl

end

end Usrp

namespace StreamerUsrp

open Usrp StreamerGraph

variable {α : Type} {E : Environment α}

/-- The stream counts are those of the streamers and of the last connection for
streaming, and all went well so far. -/
def Counted (u : StreamerUsrp α) : Prop :=
  Consistent u.usrp.fdGraph (some u.usrp.fdGraph.numRxStreams) u.fdGraph

/-- Ready for streaming: there is no RX streamer, and the TX count is the configured one. -/
structure Uploaded (u : StreamerUsrp α) : Prop where
  counted : Counted u
  noRxStreamer : u.currentRxStreamer = none
  numTxStreams : u.usrp.fdGraph.numTxStreams =
    sizeOfInt u.usrp.components.rfConfig.getNumTxStreams

section

variable {β : Type}

/-- What changes no count keeps the book-keeping right. -/
theorem Counted.of_sameCounts {u : StreamerUsrp α} {v : Usrp α} (hu : Counted u)
    (hv : SameCounts u.usrp v) : Counted { u with usrp := v } := by
  have hkept (d : Direction) : v.fdGraph.numStreams d = u.usrp.fdGraph.numStreams d := by
    cases d with
    | tx => exact hv.tx
    | rx => exact hv.rx
  show Consistent v.fdGraph (some v.fdGraph.numRxStreams) _
  rw [hv.rx]
  exact Consistent.changeMembers hu fun d _ _ => hkept d

/-- A part without streamers, whether it returns, throws or is stopped. -/
theorem stoppable_triple {x : UsrpM α β} {P : StreamerUsrp α → Prop}
    {Q : β → StreamerUsrp α → Prop} (stops : Option (Usrp α))
    (hx : ∀ v, Preserves (SameCounts v) x) (hP : ∀ u, P u → Counted u)
    (hQ : ∀ u v b, P u → SameCounts u.usrp v → x u.usrp = .ok b v → Q b { u with usrp := v }) :
    Triple P (stoppable stops x) Q fun _ => Counted := by
  cases stops with
  | some left => exact fun u hu => (hP u hu).of_sameCounts ⟨rfl, rfl⟩
  | none =>
      refine Triple.onField fun u hu => ?_
      rintro _ rfl
      have hkept := hx u.usrp u.usrp (sameCounts_refl _)
      cases hrun : x u.usrp with
      | ok b v =>
          rw [hrun] at hkept
          exact hQ u v b hu hkept hrun
      | error e v =>
          rw [hrun] at hkept
          exact (hP u hu).of_sameCounts hkept

theorem counted_stoppable {x : UsrpM α β} (stops : Option (Usrp α))
    (hx : ∀ v, Preserves (SameCounts v) x) :
    Triple Counted (stoppable stops x) (fun _ => Counted) fun _ => Counted :=
  stoppable_triple stops hx (fun _ hu => hu) fun _ _ _ hu hv _ => hu.of_sameCounts hv

theorem counted_onUsrp {x : UsrpM α β} (hx : ∀ v, Preserves (SameCounts v) x) :
    Triple Counted (onUsrp x) (fun _ => Counted) fun _ => Counted :=
  counted_stoppable none hx

/-- A graph with its books in order, in terms of the device. -/
theorem counted_putGraph {g : StreamerGraph} {u : StreamerUsrp α} {members : FullDuplexGraph}
    (hg : Consistent members (some members.numRxStreams) g) : Counted (putGraph g u) := by
  obtain rfl := hg.graph
  exact hg

/-! ### Calls -/

/-- After the upload the device is ready for streaming. -/
theorem performUpload_triple (a : ExecuteAnswers) (w : UhdAnswers α) :
    Triple Counted (performUpload E a w) (fun _ => Uploaded) fun _ => Counted := by
  unfold performUpload
  refine Triple.bind Triple.get fun u₀ => ?_
  refine Triple.bind (Q := fun _ => Uploaded) (Triple.onField ?_) fun _ => ?_
  · rintro u ⟨rfl, hu⟩
    refine (connectForUpload_triple u₀.usrp.fdGraph (some u₀.usrp.fdGraph.numRxStreams) _).conseq
      (fun _ => ?_) ?_ ?_
    · rintro rfl
      exact hu
    · rintro _ g ⟨hg, hrx⟩
      refine ⟨counted_putGraph hg, hrx, ?_⟩
      exact congrArg FullDuplexGraph.numTxStreams hg.graph
    · rintro _ g ⟨n, hg⟩
      exact counted_putGraph hg
  · refine stoppable_triple _ (fun _ => sameCounts_uploadConfigs _ _ _) (fun _ hu => hu.counted)
      fun u v _ hu hv hrun => ⟨hu.counted.of_sameCounts hv, hu.noRxStreamer, ?_⟩
    have hkept := (preserves_uploadConfigs (u := u.usrp) a 0 _).of_ok (uploadFrame_refl _) hrun
    exact hv.tx.trans (hu.numTxStreams.trans (by rw [hkept.rfConfig]))

/-- Streaming from there leaves the books in order, wherever it stops. -/
theorem performStreaming_triple (a : ExecuteAnswers) (w : UhdAnswers α) (baseTime : ℚ) :
    Triple Uploaded (performStreaming E a w baseTime) (fun _ => Counted) fun _ => Counted := by
  unfold performStreaming
  refine Triple.bind Triple.get fun u₀ => ?_
  refine Triple.bind (Q := fun _ => Counted) (Triple.onField ?_) fun _ => ?_
  · rintro u ⟨rfl, hu⟩
    rw [← hu.numTxStreams]
    refine (connectForStreaming_triple u₀.usrp.fdGraph (some u₀.usrp.fdGraph.numRxStreams)
      _ _ _).conseq (fun _ => ?_) ?_ ?_
    · rintro rfl
      exact ⟨hu.counted, hu.noRxStreamer⟩
    · exact fun _ g hg => counted_putGraph hg
    · exact fun _ g hg => counted_putGraph hg
  · refine counted_stoppable _ fun _ => (sameCounts_onComponents _).bind fun _ => ?_
    exact Preserves.modify fun _ h => ⟨h.tx, h.rx⟩

/-- `execute` leaves the books in order, wherever it stops. -/
theorem execute_triple (a : ExecuteAnswers) (w : UhdAnswers α) (baseTime : ℚ) :
    Triple Counted (execute E a w baseTime) (fun _ => Counted) fun _ => Counted := by
  refine Triple.bind (counted_onUsrp fun _ => Preserves.modify fun _ h => ⟨h.tx, h.rx⟩) fun _ => ?_
  refine Triple.bind (counted_onUsrp fun _ => sameCounts_onReplay _) fun _ => ?_
  exact Triple.bind (performUpload_triple a w) fun _ => performStreaming_triple a w baseTime

theorem onStreamers_connectForDownload (g : GraphAnswers) (numRxStreams : UInt64) :
    Triple Counted (onStreamers (α := α) (connectForDownload g numRxStreams)) (fun _ => Counted)
      fun _ => Counted := by
  refine Triple.onField fun u hu => ?_
  refine (connectForDownload_triple u.usrp.fdGraph _).conseq (fun _ => ?_) ?_ ?_
  · rintro rfl
    exact hu
  · exact fun _ g hg => counted_putGraph hg
  · exact fun _ g hg => counted_putGraph hg

/-- `collect` leaves the books in order, wherever it stops. -/
theorem collect_triple (a : ℕ → List RecvAnswer) (w : UhdAnswers α) :
    Triple Counted (collect E a w) (fun _ => Counted) fun _ => Counted := by
  refine Triple.bind (counted_onUsrp fun _ => Preserves.modify fun _ h => ⟨h.tx, h.rx⟩) fun _ => ?_
  refine Triple.bind (counted_onUsrp fun _ => Preserves.reads _) fun _ => ?_
  refine Triple.bind (counted_onUsrp fun _ => Preserves.reads _) fun _ => ?_
  refine Triple.bind (Q := fun _ => Counted) ?_ fun _ => ?_
  · refine Triple.bind (counted_onUsrp fun _ => Preserves.modify fun _ h => ⟨h.tx, h.rx⟩)
      fun _ => ?_
    refine Triple.bind Triple.get fun u₀ => Triple.mono_pre ?_ fun _ hu => hu.2
    refine Triple.bind (onStreamers_connectForDownload _ _) fun _ => ?_
    exact counted_stoppable _ fun _ => Preserves.forM fun _ _ => Preserves.forM fun _ _ =>
      sameCounts_downloadSignal _ _
  · refine Triple.bind (counted_onUsrp fun _ => Preserves.modify fun _ h => ⟨h.tx, h.rx⟩)
      fun _ => ?_
    exact counted_onUsrp fun _ => Preserves.reads _

/-- **Every call keeps the bookkeeping**, whether it returns or throws. -/
theorem counted_callStep (u : StreamerUsrp α) (c : UsrpCall α) (hu : Counted u) :
    Counted (callStep E u c) := by
  obtain ⟨c, w⟩ := c
  cases c with
  | event e =>
      refine (counted_stoppable w.stops fun v => ?_).finalState hu
      exact Preserves.modify fun v' h =>
        ⟨(sameCounts_step e v').tx.trans h.tx, (sameCounts_step e v').rx.trans h.rx⟩
  | resetStreamingConfigs => exact hu.of_sameCounts ⟨rfl, rfl⟩
  | execute a baseTime => exact (execute_triple a w baseTime).finalState hu
  | collect a => exact (collect_triple a w).finalState hu

/-! ### Runs -/

/-- The object that the constructor starts with; the members hold anything. -/
def make (u : Usrp α) : StreamerUsrp α := ⟨u, none, none, []⟩

/-- The constructor, when it returns, leaves the books in order. -/
theorem counted_of_construct {numAnts : Int32} {g : GraphAnswers} {u₀ : Usrp α}
    {u : StreamerUsrp α} (h : construct E numAnts g (make u₀) = .ok () u) : Counted u := by
  unfold construct at h
  obtain ⟨_, u₁, hmapping, hrest⟩ := bind_eq_ok_iff.mp h
  obtain ⟨v, hmodify, rfl⟩ := onField_eq_ok_iff.mp hmapping
  cases hmodify
  obtain ⟨_, u₂, hupload, hrest'⟩ := bind_eq_ok_iff.mp hrest
  obtain ⟨g₂, hupload', rfl⟩ := onField_eq_ok_iff.mp hupload
  obtain ⟨_, u₃, hstreaming, hdownload⟩ := bind_eq_ok_iff.mp hrest'
  obtain ⟨g₃, hstreaming', rfl⟩ := onField_eq_ok_iff.mp hstreaming
  -- before the first call there is no streamer to account for
  have hstart : Consistent u₀.fdGraph none ⟨u₀.fdGraph, none, none, []⟩ := by
    refine ⟨rfl, rfl, fun d n hn => ?_, fun d n hn => ?_, trivial⟩
    all_goals cases d <;> cases hn
  have hready := (connectForUpload_triple _ _ _).of_ok hstart hupload'
  have hstreamed := (connectForStreaming_triple _ _ _ _ _).of_ok hready hstreaming'
  exact (onStreamers_connectForDownload _ _).of_ok (counted_putGraph hstreamed) hdownload

/-- **The streamers are kept account of.**  Whatever calls are made after the
construction, each of which UHD may stop at any point: a streamer that `disconnectAll`
tears down has as many channels as ports were disconnected, and a connection for the
download has the RX stream count of the last connection for streaming. -/
theorem streamers_bookkept (E : Environment α) (numAnts : Int32) (g : GraphAnswers) (u₀ : Usrp α)
    (u : StreamerUsrp α) (h : construct E numAnts g (make u₀) = .ok () u)
    (calls : List (UsrpCall α)) : Always Bookkept (Machine.run (callStep E) u calls).history := by
  have hcounted : Counted (Machine.run (callStep E) u calls) :=
    Machine.run_invariant (Q := fun _ _ => True) Counted
      (fun v c hv _ => counted_callStep v c hv) (counted_of_construct h)
      (Machine.AllSteps.of_forall fun _ _ => trivial)
  exact hcounted.bookkept

end

/-! ### A run -/

/-- UHD carries out every call, and has no connections. -/
def exampleObedient : UhdAnswers Wire := ⟨⟨fun _ _ => true, fun _ => []⟩, none, none⟩

/-- UHD does not disconnect the second port of an RX streamer. -/
def exampleStuck : UhdAnswers Wire :=
  ⟨⟨fun _ c => c ≠ .disconnectPort .rx 1, fun _ => []⟩, none, none⟩

/-- An execution that UHD stops, and a complete one with its collection, before the
next execution. -/
def exampleCalls : List (UsrpCall Wire) :=
  [(.execute exampleExecuteAnswers 0, exampleStuck),
    (.execute exampleExecuteAnswers 0, exampleObedient), (.collect fun _ => [], exampleObedient),
    (.execute exampleExecuteAnswers 0, exampleObedient)]

/-- Two RX streamers end in this run, the one of the constructor with 4 channels and one
with a single channel. -/
theorem streamers_bookkept_example :
    ∃ u, construct exampleEnvironment 4 exampleObedient.graph (make exampleUsrp) = .ok () u ∧
      Always Bookkept (Machine.run (callStep exampleEnvironment) u exampleCalls).history ∧
      (Machine.run (callStep exampleEnvironment) u exampleCalls).history.countP
        (· = .tornDown .rx) = 2 := by
  obtain ⟨⟨⟩, h⟩ := exists_of_returned (by decide +kernel : returned
    (construct exampleEnvironment 4 exampleObedient.graph (make exampleUsrp)) = true)
  exact ⟨_, h, streamers_bookkept _ _ _ _ _ h _, by decide +kernel⟩

end StreamerUsrp

end UsrpWrapper
