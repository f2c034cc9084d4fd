import UsrpWrapper.ReplayHardware
import UsrpWrapper.StreamMapper

/-!
# The full duplex graph

`RfNocFullDuplexGraph` (`full_duplex_rfnoc_graph.cpp`) connects the replay block
to the host for an upload or a download and to the radios for streaming, moves
the samples in packets, and issues the stream commands.

The state holds the stream counts of the last connections, the replay block, and
the calls made on radios and streamers.  What UHD answers is an argument: the
counts of `send` and `recv`, never more than they were asked for, the event
codes, and the FPGA time.  The list of the answers to a loop ends where UHD
throws.

Connections between blocks, waiting times and printed positions are left out.
-/

namespace UsrpWrapper

open Lib Lib.Command

/-! ## Samples and calls -/

/-- The sample type of the host and its conversion from and to the wire. -/
structure SampleFormat (α : Type) where
  zero : α
  isnan : α → Bool
  toWire : α → Wire
  toHost : Wire → α

/-- The calls on radios and streamers during an execution. -/
inductive RadioCommand where
  | setRxAntenna (antennaPort : String) (radio : Channel)
  | streamTx (numSamples : UInt64) (streamTime : ℚ) (stream : ℕ)
  | streamRx (numSamples : UInt64) (streamTime : ℚ) (radio : Channel)
  | streamDownload (numSamples : UInt64)
  deriving DecidableEq

/-- What UHD answers to the start of a transmission or a reception. -/
structure StreamAnswers where
  replay : ReplayAnswers
  fpgaTime : ℚ
  accepts : RadioCommand → Bool

/-- What UHD answers during an upload: the sample counts of the `send`s, and the
last event that is no acknowledgement. -/
structure UploadAnswers where
  samplesSent : List ℕ
  eventCode : Option ℕ

/-- What one `recv` returns. -/
structure RecvAnswer where
  numSamplesReceived : ℕ
  strerror : Option String
  endOfBurst : Bool

/-- The members of `RfNocFullDuplexGraph` for the streaming, the replay block it is connected to,
and the stream commands given so far. -/
structure FullDuplexGraph where
  numTxStreams : UInt64
  numRxStreams : UInt64
  replayBlock : ReplayHardware
  radioCommands : List RadioCommand

namespace FullDuplexGraph

/-- A member function of the graph. -/
abbrev GraphM := EStateM Fault FullDuplexGraph

/-- `PACKET_SIZE`: the samples of one `send` or `recv` at most. -/
def PACKET_SIZE : ℕ := 4096

/-- A call on a radio or a streamer. -/
def issue (accepts : RadioCommand → Bool) (c : RadioCommand) : GraphM Unit := do
  liftE (check (accepts c = false) .uhd)
  modify fun g => { g with radioCommands := g.radioCommands ++ [c] }

/-! ## Upload -/

/-- `connectForUpload`: the stream count is what `upload` checks the signal against. -/
def connectForUpload (numTxStreams : UInt64) : GraphM Unit :=
  modify fun g => { g with numTxStreams }

section

variable {α : Type} (F : SampleFormat α)

/-- One `send` delivers the next samples of every stream to its record port. -/
def send (txSignal : MimoSignal α) (totalSamplesSent samplesSent : ℕ) (g : FullDuplexGraph) :
    FullDuplexGraph :=
  { g with
    replayBlock := txSignal.zipIdx.foldl (fun h (signal, port) =>
      (((signal.drop totalSamplesSent).take samplesSent).map F.toWire).foldl
        (fun h w => h.store port w) h) g.replayBlock }

/-- The loop of `upload`. -/
def sendPackets (txSignal : MimoSignal α) (numSamples : ℕ) : List ℕ → ℕ → GraphM Unit
  | [], totalSamplesSent =>
      if totalSamplesSent < numSamples then throw .uhd else pure ()
  | answer :: answers, totalSamplesSent =>
      if totalSamplesSent < numSamples then do
        let samplesToSend := min (numSamples - totalSamplesSent) PACKET_SIZE
        let samplesSent := min answer samplesToSend
        modify (send F txSignal totalSamplesSent samplesSent)
        sendPackets txSignal numSamples answers (totalSamplesSent + samplesSent)
      else pure ()

/-- `upload`; all signals have the length of the first one. -/
def upload (txSignal : MimoSignal α) (a : UploadAnswers) : GraphM Unit := do
  reads fun g => check (txSignal.length ≠ g.numTxStreams.toNat) (.runtime .invalidChannelCount)
  let first ← liftE (firstSignal txSignal)
  sendPackets F txSignal first.length a.samplesSent 0
  match a.eventCode with
  | none => pure ()
  | some code => throw (.runtime (.txStreamer code))

/-! ## Download -/

/-- `connectForDownload` wants the count the streaming was connected with. -/
def connectForDownload (numRxStreams : UInt64) : GraphM Unit :=
  reads fun g => check (numRxStreams ≠ g.numRxStreams) (.usrp .wrongNumRxAntennas)

/-- The loop of `download`, with the samples received so far and the metadata of
the last `recv`. -/
def recvPackets (h : ReplayHardware) (numRxSamples : ℕ) :
    List RecvAnswer → Bool → ℕ → (ℕ → List α) → Except Fault (ℕ → List α)
  | [], endOfBurst, totalSamplesReceived, buffers =>
      if totalSamplesReceived < numRxSamples then .error .uhd
      else do
        check (endOfBurst = false) (.usrp .noEndOfBurst)
        return buffers
  | answer :: answers, endOfBurst, totalSamplesReceived, buffers =>
      if totalSamplesReceived < numRxSamples then do
        let reqSamples := min (numRxSamples - totalSamplesReceived) PACKET_SIZE
        let numSamplesReceived := min answer.numSamplesReceived reqSamples
        match answer.strerror with
        | some strerror => .error (.runtime (.rxStreamer strerror))
        | none =>
            recvPackets h numRxSamples answers answer.endOfBurst
              (totalSamplesReceived + numSamplesReceived) fun c =>
                buffers c ++ (h.memory.readCyclic 4 (h.playPorts c) totalSamplesReceived
                  numSamplesReceived).map F.toHost
      else do
        check (endOfBurst = false) (.usrp .noEndOfBurst)
        return buffers

/-- `download`: nothing is requested for no samples; otherwise one command and the loop over the
packets. -/
def download (numRxSamples : UInt64) (a : List RecvAnswer) : GraphM (MimoSignal α) := do
  let g ← get
  if numRxSamples = 0 then return List.replicate g.numRxStreams.toNat []
  else
    issue (fun _ => true) (.streamDownload numRxSamples)
    let buffers ← liftE (recvPackets F g.replayBlock numRxSamples.toNat a false 0 fun _ => [])
    return (List.range g.numRxStreams.toNat).map buffers

end

/-! ## Streaming -/

section

variable (b : RfNocBlocks) (m : StreamMapper)

/-- The loops of `connectForStreaming` over the streams of a direction. -/
def connectStreams (numStreams : UInt64) (mapStream : UInt32 → Except Fault UInt32) :
    GraphM Unit :=
  forM (List.range numStreams.toNat) fun i => liftE do
    let antIdx ← mapStream (UInt32.ofNat i)
    let _ ← b.getRadioChannelPair antIdx.toInt32
    return ()

/-- `connectForStreaming`: the TX count is that of the upload, the RX count is new, and every
stream has a radio. -/
def connectForStreaming (numTxStreams numRxStreams : UInt64) : GraphM Unit := do
  reads fun g => check (numTxStreams ≠ g.numTxStreams)
    (.usrp (.wrongNumTxAntennas numTxStreams.toNat g.numTxStreams.toNat))
  modify fun g => { g with numRxStreams }
  connectStreams b numTxStreams m.mapTxStreamToAntenna
  connectStreams b numRxStreams m.mapRxStreamToAntenna

/-- The stream time must be 20 ms ahead. -/
def checkStreamTime (streamTime fpgaTime : ℚ) : Except Fault Unit :=
  check (streamTime < fpgaTime + 1 / 50) (.usrp (.targetStreamTimeTooClose streamTime fpgaTime))

/-- `transmit` up to the stream commands. -/
def transmit (a : StreamAnswers) (streamTime : ℚ) (numTxSamples : UInt64) : GraphM Unit := do
  liftE (checkStreamTime streamTime a.fpgaTime)
  let g ← get
  forM (List.range g.numTxStreams.toNat) fun stream =>
    issue a.accepts (.streamTx numTxSamples streamTime stream)

/-- `receive` up to the stream commands. -/
def receive (a : StreamAnswers) (streamTime : ℚ) (numRxSamples : UInt64) : GraphM Unit := do
  if numRxSamples = 0 then return ()
  else
    liftE (checkStreamTime streamTime a.fpgaTime)
    let g ← get
    forM (List.range g.numRxStreams.toNat) fun stream => do
      let antIdx ← liftE (m.mapRxStreamToAntenna (UInt32.ofNat stream))
      let radio ← liftE (b.getRadioChannelPair antIdx.toInt32)
      issue a.accepts (.streamRx numRxSamples streamTime radio)

/-- `StreamMapper::configureRxAntenna`. -/
def configureRxAntenna (defaultRxPort : String) (a : StreamAnswers) (rxConfig : RxStreamingConfig) :
    GraphM Unit := do
  let antennaPort := if rxConfig.antennaPort ≠ "" then rxConfig.antennaPort else defaultRxPort
  forM (List.range m.getNumRxStreams.toNat) fun stream => do
    let antIdx ← liftE (m.mapRxStreamToAntenna (UInt32.ofNat stream))
    let radio ← liftE (b.getRadioChannelPair antIdx.toInt32)
    issue a.accepts (.setRxAntenna antennaPort radio)

end

/-! ## What the calls change -/

/-- Apart from the calls made on radios and streamers everything is as before. -/
def SameConnections (g g' : FullDuplexGraph) : Prop :=
  ∃ radioCommands, g' = { g with radioCommands }

theorem sameConnections_refl (g : FullDuplexGraph) : SameConnections g g := ⟨_, rfl⟩

section

variable {g : FullDuplexGraph}

/-- A call changes no connection. -/
theorem preserves_issue (accepts : RadioCommand → Bool) (c : RadioCommand) :
    Preserves (SameConnections g) (issue accepts c) := by
  refine (Preserves.liftE _).bind fun _ => Preserves.modify fun s hs => ?_
  obtain ⟨radioCommands, rfl⟩ := hs
  exact ⟨_, rfl⟩

/-- `transmit` changes none. -/
theorem preserves_transmit (a : StreamAnswers) (streamTime : ℚ) (numTxSamples : UInt64) :
    Preserves (SameConnections g) (transmit a streamTime numTxSamples) := by
  refine (Preserves.liftE _).bind fun _ => Preserves.get.bind fun _ => ?_
  exact Preserves.forM fun _ _ => preserves_issue _ _

/-- Neither does `receive`. -/
theorem preserves_receive (b : RfNocBlocks) (m : StreamMapper) (a : StreamAnswers)
    (streamTime : ℚ) (numRxSamples : UInt64) :
    Preserves (SameConnections g) (receive b m a streamTime numRxSamples) := by
  unfold receive
  split
  · exact Preserves.pure _
  · refine (Preserves.liftE _).bind fun _ => Preserves.get.bind fun _ => ?_
    refine Preserves.forM fun _ _ => ?_
    exact (Preserves.liftE _).bind fun _ => (Preserves.liftE _).bind fun _ => preserves_issue _ _

theorem preserves_configureRxAntenna (b : RfNocBlocks) (m : StreamMapper) (defaultRxPort : String)
    (a : StreamAnswers) (rxConfig : RxStreamingConfig) :
    Preserves (SameConnections g) (configureRxAntenna b m defaultRxPort a rxConfig) := by
  refine Preserves.forM fun _ _ => ?_
  exact (Preserves.liftE _).bind fun _ => (Preserves.liftE _).bind fun _ => preserves_issue _ _

end

/-- A connection for streaming that succeeds stores the number of RX streams. -/
theorem connectForStreaming_eq_ok {b : RfNocBlocks} {m : StreamMapper}
    {numTxStreams numRxStreams : UInt64} {g g' : FullDuplexGraph}
    (h : connectForStreaming b m numTxStreams numRxStreams g = .ok () g') :
    numTxStreams = g.numTxStreams ∧ g' = { g with numRxStreams } := by
  have hkeeps {g₁ : FullDuplexGraph} (n : UInt64) (f : UInt32 → Except Fault UInt32) :
      Preserves (fun g₂ => g₂ = g₁) (connectStreams b n f) :=
    Preserves.forM fun _ _ => Preserves.liftE _
  unfold connectForStreaming at h
  obtain ⟨_, g₁, hcheck, hrest⟩ := bind_eq_ok_iff.mp h
  obtain ⟨hcount, rfl⟩ := reads_eq_ok_iff.mp hcheck
  rw [check_eq_ok_iff, not_not] at hcount
  rw [bind_of_ok (modify_apply _ _)] at hrest
  obtain ⟨_, g₂, htx, hrx⟩ := bind_eq_ok_iff.mp hrest
  have hg₂ := (hkeeps _ _).of_ok rfl htx
  have hg' := (hkeeps _ _).of_ok rfl hrx
  exact ⟨hcount, by rw [hg', hg₂]⟩

section

variable {α : Type} {F : SampleFormat α}

/-- What an upload keeps: a property that does not depend on the replay block. -/
theorem preserves_upload {I : FullDuplexGraph → Prop}
    (hI : ∀ g replayBlock, I g → I { g with replayBlock }) (txSignal : MimoSignal α)
    (a : UploadAnswers) : Preserves I (upload F txSignal a) := by
  have hpackets {n : ℕ} (answers : List ℕ) (total : ℕ) :
      Preserves I (sendPackets F txSignal n answers total) := by
    induction answers generalizing total with
    | nil =>
        unfold sendPackets
        split
        · exact Preserves.throw _
        · exact Preserves.pure _
    | cons answer answers ih =>
        unfold sendPackets
        split
        · exact Preserves.bind (Preserves.modify fun _ hg => hI _ _ hg) fun _ => ih _
        · exact Preserves.pure _
  refine (Preserves.reads _).bind fun _ => (Preserves.liftE _).bind fun _ => ?_
  refine (hpackets _ _).bind fun _ => ?_
  split
  · exact Preserves.pure _
  · exact Preserves.throw _

/-- A download is connected for the count of the streaming, and nothing else happens. -/
theorem connectForDownload_eq_ok {n : UInt64} {g g' : FullDuplexGraph}
    (h : connectForDownload n g = .ok () g') : n = g.numRxStreams ∧ g' = g := by
  obtain ⟨hcheck, rfl⟩ := reads_eq_ok_iff.mp h
  rw [check_eq_ok_iff, not_not] at hcheck
  exact ⟨hcheck, rfl⟩

/-- The loop of `download` collects the play of every stream, up to the requested
number of samples. -/
theorem recvPackets_eq_ok {h : ReplayHardware} {n : ℕ} {answers : List RecvAnswer} {eob : Bool}
    {total : ℕ} {buffers result : ℕ → List α}
    (hok : recvPackets F h n answers eob total buffers = .ok result) (htotal : total ≤ n)
    (hbuffers : ∀ c, buffers c = (h.memory.readCyclic 4 (h.playPorts c) 0 total).map F.toHost) :
    ∀ c, result c = (h.memory.readCyclic 4 (h.playPorts c) 0 n).map F.toHost := by
  have hdone {eob : Bool} {buffers : ℕ → List α}
      (hok : (do check (eob = false) (.usrp .noEndOfBurst); return buffers) =
        (.ok result : Except Fault (ℕ → List α))) : result = buffers := by
    obtain ⟨-, hpure⟩ := check_bind_eq_ok_iff.mp hok
    cases hpure
    rfl
  induction answers generalizing eob total buffers with
  | nil =>
      unfold recvPackets at hok
      split at hok
      · cases hok
      · obtain rfl : total = n := by omega
        rw [hdone hok]
        exact hbuffers
  | cons answer answers ih =>
      unfold recvPackets at hok
      split at hok
      · simp only at hok
        split at hok
        · cases hok
        · refine ih hok (by omega) fun c => ?_
          rw [hbuffers, ← List.map_append, Store.readCyclic_add, Nat.zero_add]
      · obtain rfl : total = n := by omega
        rw [hdone hok]
        exact hbuffers

/-- A download, whichever way it ends. -/
theorem preserves_download {g : FullDuplexGraph} (n : UInt64) (a : List RecvAnswer) :
    Preserves (SameConnections g) (download F n a) := by
  refine Preserves.get.bind fun _ => ?_
  split
  · exact Preserves.pure _
  · exact (preserves_issue _ _).bind fun _ => (Preserves.liftE _).bind fun _ => Preserves.pure _

/-- **A download returns the play of every stream.** -/
theorem download_eq_ok {n : UInt64} {a : List RecvAnswer} {g g' : FullDuplexGraph}
    {signal : MimoSignal α} (h : download F n a g = .ok signal g') :
    SameConnections g g' ∧ signal = (List.range g.numRxStreams.toNat).map fun c =>
      (g.replayBlock.memory.readCyclic 4 (g.replayBlock.playPorts c) 0 n.toNat).map F.toHost := by
  refine ⟨(preserves_download n a).of_ok (sameConnections_refl g) h, ?_⟩
  unfold download at h
  rw [bind_of_ok (get_apply g)] at h
  split at h
  · rename_i hzero
    cases h
    subst hzero
    refine List.ext_getElem (by simp) fun i hi hi' => ?_
    simp [Store.readCyclic]
  · obtain ⟨_, g₁, -, hrest⟩ := bind_eq_ok_iff.mp h
    obtain ⟨buffers, g₂, hrecv, hpure⟩ := bind_eq_ok_iff.mp hrest
    obtain ⟨hpackets, rfl⟩ := liftE_eq_ok_iff.mp hrecv
    cases hpure
    refine List.map_congr_left fun c _ => ?_
    exact recvPackets_eq_ok hpackets (Nat.zero_le _) (fun _ => rfl) c

end

end FullDuplexGraph

end UsrpWrapper
