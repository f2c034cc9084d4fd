import UsrpWrapper.FullDuplexGraph
import UsrpWrapper.RfReconfiguration

/-!
# The device

`Usrp` (`usrp.cpp`) collects streaming configs, carries them out in `execute`,
whose transmissions and receptions two threads make after it has returned, and
fetches the received signals in `collect`.

`execute` and `collect` are the calls from the point on where they have joined
the threads.  Of the threads the state holds what they will do next; a step of a
thread is one of the events in `step`, which may come in any order, between each
other and between the calls that change configs.

The calls `ReplayBlockConfig` makes on the replay block reach the hardware at
once (`onReplay`).  `sent` and `received` record, for every completed transmit or
receive step, what the streams played or delivered.
-/

namespace UsrpWrapper

open Lib Lib.Command

/-- What the wrapper is compiled for and attached to. -/
structure Environment (α : Type) where
  blocks : RfNocBlocks
  defaultRxPort : String
  format : SampleFormat α

/-- `GUARD_OFFSET_S`: the gap between two configs. -/
def GUARD_OFFSET_S : ℚ := 1 / 20

/-- `MAX_SAMPLES_TX_SIGNAL`: the longest signal `setTxConfig` accepts. -/
def MAX_SAMPLES_TX_SIGNAL : ℕ := 200000

/-- The conversion of an `int` to a `size_t`. -/
def sizeOfInt (n : Int32) : UInt64 := UInt64.ofInt n.toInt

/-- The transmit or the receive thread: not joinable, at the start of iteration
`i`, waiting for the `total` samples of iteration `i`, or finished. -/
inductive StreamThread where
  | none
  | next (i : ℕ)
  | busy (i total : ℕ)
  | finished
  deriving DecidableEq

/-- The members of `Usrp` with its two threads and, for each direction, the samples that have
crossed the antennas. -/
structure Usrp (α : Type) where
  components : Components
  fdGraph : FullDuplexGraph
  txStreamingConfigs : List (TxStreamingConfig α)
  rxStreamingConfigs : List RxStreamingConfig
  receivedSamples : List (MimoSignal α)
  transmitThread : StreamThread
  receiveThread : StreamThread
  transmitThreadException : Option Fault
  receiveThreadException : Option Fault
  /-- `baseTime` and `rxDecimFactor`, as the thread functions captured them. -/
  baseTime : ℚ
  rxDecimFactor : ℤ
  /-- The samples of the current transmit and receive step, for each stream. -/
  sending : ℕ → List Wire
  receiving : ℕ → List Wire
  sent : List (ℕ → List Wire)
  received : List (ℕ → List Wire)

namespace Usrp

variable {α : Type}

/-- A member function of `Usrp`. -/
abbrev UsrpM (α : Type) := EStateM Fault (Usrp α)

/-! ## Members -/

/-- Store the replay configuration; the hardware carries out what it issued. -/
def putReplay (r : ReplayBlockConfig) (u : Usrp α) : Usrp α :=
  { u with
    components := { u.components with replayConfig := r }
    fdGraph := { u.fdGraph with
      replayBlock := u.fdGraph.replayBlock.commands
        (ReplayBlockConfig.issuedSince u.components.replayConfig r) } }

/-- A call of the replay configuration. -/
def onReplay {β : Type} (x : EStateM Fault ReplayBlockConfig β) : UsrpM α β :=
  onField (fun u => u.components.replayConfig) putReplay x

/-- A call of the full-duplex graph. -/
def onGraph {β : Type} (x : EStateM Fault FullDuplexGraph β) : UsrpM α β :=
  onField (fun u => u.fdGraph) (fun g u => { u with fdGraph := g }) x

/-- A call of the components behind `setRfConfig`. -/
def onComponents (x : EStateM Fault Components Unit) : UsrpM α Unit :=
  onField (fun u => u.components) (fun c u => { u with components := c }) x

/-! ## Configuration -/

section

variable (E : Environment α)

/-- `setTxConfig`; the stored copy is aligned to words. -/
def setTxConfig (conf : TxStreamingConfig α) : UsrpM α Unit := do
  reads fun u => do
    assertValidTxSignal E.format.isnan conf.samples MAX_SAMPLES_TX_SIGNAL
      (sizeOfInt u.components.rfConfig.getNumTxStreams).toNat
    assertValidTxStreamingConfig u.txStreamingConfigs.getLast? conf GUARD_OFFSET_S
      u.components.rfConfig.getTxSamplingRate
  let aligned ← liftE (conf.alignToWordSize E.format.zero)
  modify fun u => { u with txStreamingConfigs := u.txStreamingConfigs ++ [aligned] }

/-- `setRxConfig`: check the config against the last one, and store it. -/
def setRxConfig (conf : RxStreamingConfig) : UsrpM α Unit := do
  reads fun u => assertValidRxStreamingConfig u.rxStreamingConfigs.getLast? conf GUARD_OFFSET_S
    u.components.rfConfig.getRxSamplingRate
  modify fun u => { u with rxStreamingConfigs := u.rxStreamingConfigs ++ [conf] }

/-- `setRfConfig`; the streaming configs stay as they are. -/
def setRfConfig (conf : RfConfig) (a : RfAnswers) : UsrpM α Unit :=
  onComponents (Components.setRfConfig E.blocks conf a)

/-- `resetStreamingConfigs`: both lists become empty. -/
def resetStreamingConfigs (u : Usrp α) : Usrp α :=
  { u with txStreamingConfigs := [], rxStreamingConfigs := [] }

/-! ## Execution -/

/-- What UHD answers during `execute`. -/
structure ExecuteAnswers where
  replay : ℕ → ReplayAnswers
  upload : ℕ → UploadAnswers
  rf : RfAnswers
  fpgaTime : ℚ

/-- `waitOnThreadToJoin` for both threads, once they have ended. -/
def joinThreads (u : Usrp α) : Usrp α :=
  { u with transmitThread := .none, receiveThread := .none }

/-- The loop of `performUpload`, which counts the configs for the answers. -/
def uploadConfigs (a : ExecuteAnswers) : ℕ → List (TxStreamingConfig α) → UsrpM α Unit
  | _, [] => pure ()
  | i, config :: configs => do
      let first ← liftE (firstSignal config.samples)
      onReplay (ReplayBlockConfig.configUpload (UInt64.ofNat first.length) (a.replay i))
      onGraph (FullDuplexGraph.upload E.format config.samples (a.upload i))
      uploadConfigs a (i + 1) configs

/-- `performUpload`: all TX configs, in order. -/
def performUpload (a : ExecuteAnswers) : UsrpM α Unit := do
  let u ← get
  onGraph (FullDuplexGraph.connectForUpload (sizeOfInt u.components.rfConfig.getNumTxStreams))
  uploadConfigs E a 0 u.txStreamingConfigs

/-- The threads are spawned; each clears its exception first. -/
def spawnThreads (baseTime : ℚ) (rxDecimFactor : ℤ) (u : Usrp α) : Usrp α :=
  { u with
    transmitThread := .next 0
    receiveThread := .next 0
    transmitThreadException := none
    receiveThreadException := none
    baseTime := baseTime
    rxDecimFactor := rxDecimFactor
    sent := []
    received := [] }

/-- `performStreaming`: connect, renew the rates, and spawn the threads.  A negative base time
means 50 ms from now. -/
def performStreaming (a : ExecuteAnswers) (baseTime : ℚ) : UsrpM α Unit := do
  let u ← get
  onGraph (FullDuplexGraph.connectForStreaming E.blocks u.components.streamMapper
    (sizeOfInt u.components.rfConfig.getNumTxStreams)
    (sizeOfInt u.components.rfConfig.getNumRxStreams))
  onComponents (onField (fun c => c.rfConfig) (fun r c => { c with rfConfig := r })
    (RFConfiguration.renewSampleRateSettings E.blocks u.components.streamMapper a.rf))
  modify fun u =>
    let rxDecimFactor := RFConfiguration.getRxDecimationRatio E.blocks u.components.rfConfig
    spawnThreads (if baseTime < 0 then a.fpgaTime + 1 / 20 else baseTime) rxDecimFactor u

/-- `execute`: join the threads of the last run, reset the replay configuration, upload and
stream. -/
def execute (a : ExecuteAnswers) (baseTime : ℚ) : UsrpM α Unit := do
  modify joinThreads
  onReplay (modify ReplayBlockConfig.reset)
  performUpload E a
  performStreaming E a baseTime

/-! ## Collection -/

/-- One iteration of `performDownload`.  The answers are those to download number
`receivedSamples.size()`. -/
def downloadSignal (a : ℕ → List RecvAnswer) (config : RxStreamingConfig) : UsrpM α Unit := do
  onReplay (ReplayBlockConfig.configDownload config.wordAlignedNoSamples)
  let u ← get
  let signal ← onGraph (FullDuplexGraph.download E.format config.wordAlignedNoSamples
    (a u.receivedSamples.length))
  modify fun u => { u with receivedSamples := u.receivedSamples ++ [signal] }
  let short ← liftE (shortenSignal E.format.zero signal config.numSamples.toUInt64)
  modify fun u => { u with receivedSamples := u.receivedSamples.dropLast ++ [short] }

/-- `performDownload`: one signal for each repetition of each RX config. -/
def performDownload (a : ℕ → List RecvAnswer) : UsrpM α Unit := do
  modify fun u => { u with receivedSamples := [] }
  let u ← get
  onGraph (FullDuplexGraph.connectForDownload (sizeOfInt u.components.rfConfig.getNumRxStreams))
  forM u.rxStreamingConfigs fun config =>
    forM (List.range config.numRepetitions.toNat) fun _ => downloadSignal E a config

/-- `std::rethrow_exception`, if a thread ended with an exception. -/
def rethrow : Option Fault → Except Fault Unit
  | none => .ok ()
  | some e => .error e

/-- `collect`: an exception of a thread is raised before anything is downloaded, and then the
configs stay. -/
def collect (a : ℕ → List RecvAnswer) : UsrpM α (List (MimoSignal α)) := do
  modify joinThreads
  reads fun u => rethrow u.transmitThreadException
  reads fun u => rethrow u.receiveThreadException
  performDownload E a
  modify resetStreamingConfigs
  reads fun u => .ok u.receivedSamples

/-! ## The threads -/

/-- The start of an iteration of the transmit thread, up to the stream commands.
The number of samples to send is returned. -/
def startTransmit (config : TxStreamingConfig α) (a : StreamAnswers) : UsrpM α ℕ := do
  let u ← get
  let streamTime := config.sendTimeOffset + u.baseTime
  let first ← liftE (firstSignal config.samples)
  let numTxSamples := UInt64.ofNat first.length
  onReplay (ReplayBlockConfig.configTransmit numTxSamples)
  let totalSamples := numTxSamples * sizeOfInt config.numRepetitions
  onGraph (FullDuplexGraph.transmit a streamTime totalSamples)
  return totalSamples.toNat

/-- The start of an iteration of the receive thread.  The number of samples each
stream has to deliver is returned. -/
def startReceive (config : RxStreamingConfig) (a : StreamAnswers) : UsrpM α ℕ := do
  let u ← get
  let streamTime := config.receiveTimeOffset + u.baseTime
  onReplay (ReplayBlockConfig.configReceive config.wordAlignedNoSamples
    config.numRepetitions.toUInt64 config.repetitionPeriod.toUInt64 a.replay)
  onGraph (FullDuplexGraph.configureRxAntenna E.blocks u.components.streamMapper E.defaultRxPort a
    config)
  let totalRxSamples ← liftE config.totalWordAlignedSamples
  onGraph (FullDuplexGraph.receive E.blocks u.components.streamMapper a streamTime
    (totalRxSamples * UInt64.ofInt u.rxDecimFactor))
  return totalRxSamples.toNat

end

/-- What the environment does, and the calls of the client, after `execute`. -/
inductive Event (α : Type) where
  | setTxConfig (conf : TxStreamingConfig α)
  | setRxConfig (conf : RxStreamingConfig)
  | setRfConfig (conf : RfConfig) (a : RfAnswers)
  | txStart (a : StreamAnswers)
  | txSample (stream : ℕ)
  | txEnd (eventCode : Option ℕ)
  | rxStart (a : StreamAnswers)
  | rxSample (stream : ℕ) (w : Wire)
  | rxEnd (strerror : Option String)

section

variable (E : Environment α)

/-- The transmit thread starts its next iteration, or ends. -/
def txStart (a : StreamAnswers) (u : Usrp α) : Usrp α :=
  match u.transmitThread with
  | .next i =>
      match u.txStreamingConfigs[i]? with
      | none => { u with transmitThread := .finished }
      | some config =>
          match startTransmit config a u with
          | .ok total u' =>
              { u' with transmitThread := .busy i total, sending := fun _ => [] }
          | .error e u' =>
              { u' with transmitThread := .finished, transmitThreadException := some e }
  | _ => u

/-- The receive thread starts its next iteration, or ends. -/
def rxStart (a : StreamAnswers) (u : Usrp α) : Usrp α :=
  match u.receiveThread with
  | .next i =>
      match u.rxStreamingConfigs[i]? with
      | none => { u with receiveThread := .finished }
      | some config =>
          match startReceive E config a u with
          | .ok total u' =>
              { u' with receiveThread := .busy i total, receiving := fun _ => [] }
          | .error e u' =>
              { u' with receiveThread := .finished, receiveThreadException := some e }
  | _ => u

/-- The replay block plays the next sample of a stream. -/
def txSample (stream : ℕ) (u : Usrp α) : Usrp α :=
  match u.transmitThread with
  | .busy _ total =>
      if stream < u.fdGraph.numTxStreams.toNat ∧ (u.sending stream).length < total then
        { u with sending := Function.update u.sending stream (u.sending stream ++
          [u.fdGraph.replayBlock.playWord stream (u.sending stream).length]) }
      else u
  | _ => u

/-- A radio delivers the next sample of a stream to the replay block. -/
def rxSample (stream : ℕ) (w : Wire) (u : Usrp α) : Usrp α :=
  match u.receiveThread with
  | .busy _ total =>
      if stream < u.fdGraph.numRxStreams.toNat ∧ (u.receiving stream).length < total then
        { u with
          fdGraph := { u.fdGraph with replayBlock := u.fdGraph.replayBlock.store stream w }
          receiving := Function.update u.receiving stream (u.receiving stream ++ [w]) }
      else u
  | _ => u

/-- The end of an iteration of the transmit thread: with an event that is no
acknowledgement, or once all samples are sent.  The source sleeps for the duration of the config
instead and looks at no count; that everything has been played by then is an assumption on the
hardware. -/
def txEnd (eventCode : Option ℕ) (u : Usrp α) : Usrp α :=
  match u.transmitThread, eventCode with
  | .busy _ _, some code =>
      { u with transmitThread := .finished
               transmitThreadException := some (.usrp (.replayError code)) }
  | .busy i total, none =>
      if ∀ stream < u.fdGraph.numTxStreams.toNat, (u.sending stream).length = total then
        { u with transmitThread := .next (i + 1), sent := u.sent ++ [u.sending] }
      else u
  | _, _ => u

/-- The end of an iteration of the receive thread.  Without samples to receive it
does not look for errors.  As in `txEnd`, that all samples have been delivered when the sleep
ends is an assumption on the hardware: a DDC at a stale decimation, say, delivers fewer. -/
def rxEnd (strerror : Option String) (u : Usrp α) : Usrp α :=
  match u.receiveThread, strerror with
  | .busy _ total, some strerror =>
      if total = 0 then u
      else { u with receiveThread := .finished
                    receiveThreadException := some (.usrp (.recordError strerror)) }
  | .busy i total, none =>
      if ∀ stream < u.fdGraph.numRxStreams.toNat, (u.receiving stream).length = total then
        { u with receiveThread := .next (i + 1), received := u.received ++ [u.receiving] }
      else u
  | _, _ => u

/-- An event; one that is not possible changes nothing. -/
def step (u : Usrp α) : Event α → Usrp α
  | .setTxConfig conf => finalState (setTxConfig E conf u)
  | .setRxConfig conf => finalState (setRxConfig conf u)
  | .setRfConfig conf a => finalState (setRfConfig E conf a u)
  | .txStart a => txStart a u
  | .txSample stream => txSample stream u
  | .txEnd eventCode => txEnd eventCode u
  | .rxStart a => rxStart E a u
  | .rxSample stream w => rxSample stream w u
  | .rxEnd strerror => rxEnd strerror u

end

/-- A step of a thread or of the hardware, and no call of the client. -/
def Event.isStreaming : Event α → Bool
  | .setTxConfig _ => false
  | .setRxConfig _ => false
  | .setRfConfig _ _ => false
  | _ => true

end Usrp

end UsrpWrapper
