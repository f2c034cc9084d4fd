import UsrpWrapper.Execution
import UsrpWrapper.ReplayOrder

/-!
# Reception from end to end

Between `execute` and the end of its threads the receive thread records the
configs one after the other, while the transmit thread does what it likes
(`RxProgress`).  `collect` then replays every repetition once and in order
(`Downloading`), and returns of each the samples that were delivered
(`reception_correct`).
-/

namespace UsrpWrapper

open Lib Lib.Command

namespace Usrp

open ReplayBlockConfig BlockOffsetTracker

variable {α : Type} {E : Environment α}

/-! ## Recording the configs -/

/-- No size wraps: neither the 32-bit number of samples of a period, nor the byte
offsets. -/
structure NoWrap (configs : List RxStreamingConfig) (rx : ℕ) : Prop where
  period : ∀ c ∈ configs, c.repetitionPeriod ≠ 0 → exactSamples c < 2 ^ 32
  layout : (configs.map exactSamples).sum * rx * 4 < 2 ^ 64

theorem layoutEnd_configBlocks (configs : List RxStreamingConfig) :
    layoutEnd (configs.map configBlock) = (configs.map exactSamples).sum := by
  rw [layoutEnd, blockSizes, List.map_map]
  congr 1
  exact List.map_congr_left fun c _ => configBlock_exactTotal c

/-- The RX side of the device, once it has recorded the blocks of `started`. -/
structure RxSide (rx : ℕ) (configs started : List RxStreamingConfig) (u : Usrp α) : Prop where
  configs : u.rxStreamingConfigs = configs
  connected : u.fdGraph.numRxStreams.toNat = rx
  streams : (u.components.replayConfig.numStreams .rx).toNat = rx
  memSize : (u.components.replayConfig.blocks .rx).memSize.toNat =
    (buffer u.components.replayConfig.memSize.toNat .rx).size
  fits : u.components.replayConfig.DirectionFits .rx
  cursor : (u.components.replayConfig.blocks .rx).currentReplay = -1 ∧
    (u.components.replayConfig.blocks .rx).currentRepetition = -1
  blocks : (u.components.replayConfig.blocks .rx).replayBlocks = started.map configBlock
  period : ∀ c ∈ started, (configBlock c).numSamples ≤ (configBlock c).repetitionPeriod
  holding : Holding u.components.replayConfig .rx u.fdGraph.replayBlock u.received

/-- How far the receive thread is. -/
inductive RxProgress (rx : ℕ) (configs : List RxStreamingConfig) (u : Usrp α) : Prop
  | next (i : ℕ) (thread : u.receiveThread = .next i) (received : u.received.length = i)
      (le : i ≤ configs.length) (side : RxSide rx configs (configs.take i) u)
  | busy (i : ℕ) (c : RxStreamingConfig) (thread : u.receiveThread = .busy i (exactSamples c))
      (received : u.received.length = i) (config : configs[i]? = some c)
      (side : RxSide rx configs (configs.take (i + 1)) u)
      (recording : Recording u.components.replayConfig .rx u.fdGraph.replayBlock i (configBlock c)
        u.receiving)
  | finished (thread : u.receiveThread = .finished) (received : u.received.length = configs.length)
      (side : RxSide rx configs configs u)

section

variable {rx : ℕ} {configs started : List RxStreamingConfig} {u u' : Usrp α}

/-- The transmit side leaves the recordings alone. -/
theorem RxSide.frame (h : RxSide rx configs started u) (f : RxFrame u u') :
    RxSide rx configs started u' := by
  refine ⟨?_, ?_, ?_, ?_, f.agreeOn.directionFits h.fits, ?_, ?_, h.period, ?_⟩
  · rw [f.configs, h.configs]
  · rw [f.numRxStreams, h.connected]
  · rw [f.streams, h.streams]
  · rw [f.blocks, f.memSize, h.memSize]
  · rw [f.blocks]
    exact h.cursor
  · rw [f.blocks, h.blocks]
  · rw [f.received]
    exact h.holding.congr f.agreeOn f.memory

/-- What the transmit thread does is no concern of the reception. -/
theorem RxProgress.frame (h : RxProgress rx configs u) (f : RxFrame u u') :
    RxProgress rx configs u' := by
  cases h with
  | next i thread received le side =>
      exact .next i (f.thread.trans thread) (by rw [f.received, received]) le (side.frame f)
  | busy i c thread received config side recording =>
      refine .busy i c (f.thread.trans thread) (by rw [f.received, received]) config
        (side.frame f) ?_
      rw [f.receiving]
      exact recording.congr f.agreeOn f.memory f.recordPorts
  | finished thread received side =>
      exact .finished (f.thread.trans thread) (by rw [f.received, received]) (side.frame f)

/-- The number of samples to receive, when nothing wraps. -/
theorem toNat_totalWordAlignedSamples {c : RxStreamingConfig} {n : UInt64}
    (h : c.totalWordAlignedSamples = .ok n)
    (hwrap : c.repetitionPeriod ≠ 0 → exactSamples c < 2 ^ 32) : n.toNat = exactSamples c := by
  have haligned : c.repetitionPeriod.toNat % 8 = 0 := by
    by_cases hzero : c.repetitionPeriod = 0
    · rw [hzero]
      rfl
    · exact ((RxStreamingConfig.totalWordAlignedSamples_of_period hzero).mp h).1
  obtain ⟨m, hm, hval⟩ := totalWordAlignedSamples_eq haligned
  obtain rfl : n = m := Except.ok.inj (h.symm.trans hm)
  rw [hval]
  split
  · rfl
  · rename_i hzero
    exact Nat.mod_eq_of_lt (hwrap hzero)

/-- The next block ends below `2 ^ 64`. -/
theorem exactByteEnd_lt {i : ℕ} {c : RxStreamingConfig}
    (h : RxSide rx configs (configs.take i) u) (hget : configs[i]? = some c)
    (hwrap : NoWrap configs rx) :
    (u.components.replayConfig.blocks .rx).exactByteEnd (configBlock c) < 2 ^ 64 := by
  obtain ⟨hi, rfl⟩ := List.getElem?_eq_some_iff.mp hget
  have hsum : ((configs.map exactSamples).take (i + 1)).sum ≤ (configs.map exactSamples).sum :=
    Layout.start_le_sum _ _
  have hend : layoutEnd (u.components.replayConfig.blocks .rx).replayBlocks +
      (configBlock configs[i]).exactTotal = ((configs.map exactSamples).take (i + 1)).sum := by
    rw [h.blocks, layoutEnd_configBlocks, configBlock_exactTotal, List.take_add_one,
      List.sum_append, ← List.map_take]
    simp [hi]
  have hstreams : (u.components.replayConfig.blocks .rx).numStreams.toNat = rx := by
    rw [h.fits.streams_eq, h.streams]
  have hsample : (u.components.replayConfig.blocks .rx).sampleSize.toNat = 4 := by
    rw [h.fits.sampleSize]
    rfl
  rw [exactByteEnd, hend, hstreams, hsample]
  exact lt_of_le_of_lt (Nat.mul_le_mul_right _ (Nat.mul_le_mul_right _ hsum)) hwrap.layout

/-- The progress at the start of an iteration. -/
theorem RxProgress.of_next {i : ℕ} (h : RxProgress rx configs u)
    (hthread : u.receiveThread = .next i) : u.received.length = i ∧ i ≤ configs.length ∧
      RxSide rx configs (configs.take i) u := by
  cases h with
  | next j thread received le side =>
      rw [hthread] at thread
      cases thread
      exact ⟨received, le, side⟩
  | busy j c thread _ _ _ _ =>
      rw [hthread] at thread
      cases thread
  | finished thread _ _ =>
      rw [hthread] at thread
      cases thread

theorem RxProgress.of_busy {i total : ℕ} (h : RxProgress rx configs u)
    (hthread : u.receiveThread = .busy i total) :
    ∃ c, total = exactSamples c ∧ u.received.length = i ∧ configs[i]? = some c ∧
      RxSide rx configs (configs.take (i + 1)) u ∧
        Recording u.components.replayConfig .rx u.fdGraph.replayBlock i (configBlock c)
          u.receiving := by
  cases h with
  | next j thread _ _ _ =>
      rw [hthread] at thread
      cases thread
  | busy j c thread received config side recording =>
      rw [hthread] at thread
      cases thread
      exact ⟨c, rfl, received, config, side, recording⟩
  | finished thread _ _ =>
      rw [hthread] at thread
      cases thread

/-- The block of a config that was started. -/
theorem RxSide.getElem? {i : ℕ} {c : RxStreamingConfig} (h : RxSide rx configs started u)
    (hget : started[i]? = some c) :
    (u.components.replayConfig.blocks .rx).replayBlocks[i]? = some (configBlock c) := by
  rw [h.blocks, List.getElem?_map, hget]
  rfl

/-- The config of the current step is the last one that was started. -/
theorem getElem?_take_succ {i : ℕ} {c : RxStreamingConfig} (h : configs[i]? = some c) :
    (configs.take (i + 1))[i]? = some c := by
  rw [List.getElem?_take_of_lt (Nat.lt_succ_self i), h]

/-- The state of the RX side once the block of the next config is recorded. -/
theorem RxSide.recorded {i : ℕ} {c : RxStreamingConfig} {r : ReplayBlockConfig}
    (side : RxSide rx configs (configs.take i) u) (hget : configs[i]? = some c)
    (hwrap : NoWrap configs rx) (hreceived : u.received.length = i)
    (hrecorded : Recorded u.components.replayConfig .rx (configBlock c) r)
    (radioCommands : List RadioCommand) :
    RxSide rx configs (configs.take (i + 1)) (afterCalls r radioCommands u) := by
  have hfits := hrecorded.directionFits side.fits side.memSize (exactByteEnd_lt side hget hwrap)
  obtain ⟨hi, rfl⟩ := List.getElem?_eq_some_iff.mp hget
  have hext := hrecorded.extends
  have htake : configs.take (i + 1) = configs.take i ++ [configs[i]] := by
    rw [List.take_add_one, List.getElem?_eq_getElem hi]
    rfl
  have hlen : (u.components.replayConfig.blocks .rx).replayBlocks.length = i := by
    rw [side.blocks, List.length_map, List.length_take]
    omega
  have hmemory : (u.fdGraph.replayBlock.commands
      (issuedSince u.components.replayConfig r)).memory = u.fdGraph.replayBlock.memory :=
    ReplayHardware.memory_commands _ _
  rw [htake]
  refine ⟨side.configs, side.connected, ?_, ?_, hfits, ?_, ?_, ?_, ?_⟩
  · exact (congrArg UInt64.toNat (hext.streams .rx)).trans side.streams
  · show (r.blocks .rx).memSize.toNat = (buffer r.memSize.toNat .rx).size
    rw [hrecorded.blocks_eq, hext.memSize]
    exact side.memSize
  · show (r.blocks .rx).currentReplay = -1 ∧ (r.blocks .rx).currentRepetition = -1
    rw [hrecorded.blocks_eq]
    exact side.cursor
  · show (r.blocks .rx).replayBlocks = _
    rw [hrecorded.blocks_eq, withBlock_replayBlocks, side.blocks, List.map_append]
    rfl
  · intro c hc
    rcases List.mem_append.mp hc with hold | hnew
    · exact side.period c hold
    · rw [List.mem_singleton.mp hnew]
      exact hrecorded.1.period
  · exact (side.holding.congr ⟨rfl, rfl, rfl⟩ hmemory).extends hext (by rw [hlen, hreceived])

/-- **A reception that starts records the block of the next config.** -/
theorem rxProgress_start {i total : ℕ} {c : RxStreamingConfig} {a : StreamAnswers}
    (hwrap : NoWrap configs rx) (hreceived : u.received.length = i)
    (side : RxSide rx configs (configs.take i) u) (hget : configs[i]? = some c)
    (hstart : startReceive E c a u = .ok total u') :
    RxProgress rx configs { u' with receiveThread := .busy i total, receiving := fun _ => [] } := by
  obtain ⟨r, n, radioCommands, hreceive, htotal, rfl, rfl⟩ := startReceive_eq_ok hstart
  obtain ⟨haccepted, hclear⟩ := configReceive_eq_ok_iff.mp hreceive
  have hrecorded : Recorded u.components.replayConfig .rx (configBlock c) r :=
    ⟨haccepted, clearRecordingBuffer_eq_ok hclear⟩
  have hside := side.recorded hget hwrap hreceived hrecorded radioCommands
  obtain ⟨hi, hmem⟩ := List.getElem?_eq_some_iff.mp hget
  have hrecording := recording_of_recorded hrecorded hside.fits u.fdGraph.replayBlock
  rw [show (u.components.replayConfig.blocks .rx).replayBlocks.length = i by
    rw [side.blocks, List.length_map, List.length_take]; omega] at hrecording
  rw [toNat_totalWordAlignedSamples htotal (hwrap.period _ (hmem ▸ List.getElem_mem hi))]
  exact .busy i c rfl hreceived hget { hside with } hrecording

/-- A sample that arrives is stored behind the earlier ones of its stream. -/
theorem rxProgress_sample {i total stream : ℕ} (h : RxProgress rx configs u) (w : Wire)
    (hthread : u.receiveThread = .busy i total) (hstream : stream < u.fdGraph.numRxStreams.toNat)
    (hroom : (u.receiving stream).length < total) :
    RxProgress rx configs { u with
      fdGraph := { u.fdGraph with replayBlock := u.fdGraph.replayBlock.store stream w }
      receiving := Function.update u.receiving stream (u.receiving stream ++ [w]) } := by
  obtain ⟨c, rfl, received, config, side, recording⟩ := h.of_busy hthread
  rw [side.connected, ← side.streams] at hstream
  rw [← configBlock_exactTotal] at hroom
  have hblock := side.getElem? (getElem?_take_succ config)
  refine .busy i c hthread received config { side with holding := ?_ } ?_
  · exact side.holding.store recording side.fits hblock hstream received.le w
  · exact recording.store side.fits hblock hstream hroom w

/-- A reception whose samples have all arrived is one more content. -/
theorem rxProgress_finish {i total : ℕ} (h : RxProgress rx configs u)
    (hthread : u.receiveThread = .busy i total)
    (hall : ∀ stream < u.fdGraph.numRxStreams.toNat, (u.receiving stream).length = total) :
    RxProgress rx configs { u with
      receiveThread := .next (i + 1)
      received := u.received ++ [u.receiving] } := by
  obtain ⟨c, rfl, rfl, config, side, recording⟩ := h.of_busy hthread
  obtain ⟨hi, -⟩ := List.getElem?_eq_some_iff.mp config
  have hfull : ∀ s < (u.components.replayConfig.numStreams .rx).toNat,
      (u.receiving s).length = (configBlock c).exactTotal := by
    intro s hs
    rw [side.streams, ← side.connected] at hs
    rw [configBlock_exactTotal]
    exact hall s hs
  refine .next (u.received.length + 1) rfl (by simp) hi { side with holding := ?_ }
  exact side.holding.concat recording (side.getElem? (getElem?_take_succ config)) hfull

/-- The reception as a whole: it makes progress until a thread has failed. -/
theorem rxProgress_rxStep (hwrap : NoWrap configs rx) (h : RxProgress rx configs u)
    (hstep : RxStep E u u') : Failed u' ∨ RxProgress rx configs u' := by
  cases hstep with
  | idle => exact Or.inr h
  | exhausted i thread config =>
      obtain ⟨received, le, side⟩ := h.of_next thread
      rw [side.configs] at config
      have hlen := List.getElem?_eq_none_iff.mp config
      rw [List.take_of_length_le hlen] at side
      exact Or.inr (.finished rfl (show u.received.length = _ by omega) { side with })
  | start i total c a u' thread config started =>
      obtain ⟨received, -, side⟩ := h.of_next thread
      rw [side.configs] at config
      exact Or.inr (rxProgress_start hwrap received side config started)
  | startFailed c a e u' failed => exact Or.inl (Or.inr (Option.some_ne_none e))
  | sample i total stream w thread connected room =>
      exact Or.inr (rxProgress_sample h w thread connected room)
  | finish i total thread all => exact Or.inr (rxProgress_finish h thread all)
  | fail strerror => exact Or.inl (Or.inr (Option.some_ne_none _))

/-- **Every step of a thread keeps the progress of the reception**, unless one of
the threads ends with an exception. -/
theorem rxProgress_step (hwrap : NoWrap configs rx) (h : Failed u ∨ RxProgress rx configs u)
    {e : Event α} (he : e.isStreaming = true) :
    Failed (step E u e) ∨ RxProgress rx configs (step E u e) := by
  rcases step_cases (E := E) he u with htx | hrx
  · exact h.imp htx.failed fun h => h.frame htx.rxFrame
  · rcases h with hfailed | h
    · exact Or.inl (hrx.failed hfailed)
    · exact rxProgress_rxStep hwrap h hrx

/-- A run of the threads makes progress, or fails. -/
theorem rxProgress_run (hwrap : NoWrap configs rx) (h : RxProgress rx configs u)
    {events : List (Event α)} (hevents : ∀ e ∈ events, e.isStreaming = true) :
    Failed (Machine.run (step E) u events) ∨
      RxProgress rx configs (Machine.run (step E) u events) :=
  Machine.run_invariant (fun u => Failed u ∨ RxProgress rx configs u)
    (fun _ _ hinv he => rxProgress_step hwrap hinv he) (Or.inr h)
    (Machine.AllSteps.of_forall hevents)

/-- **The reception starts from empty buffers.** -/
theorem rxProgress_of_execute {tx : ℕ} {a : ExecuteAnswers} {baseTime : ℚ}
    (hconfigured : u.components.Configured tx rx) (hconfigs : u.rxStreamingConfigs = configs)
    (h : execute E a baseTime u = .ok () u') : RxProgress rx configs u' := by
  obtain ⟨v, r, startTime, rxDecimFactor, hupload, -, hstored, rfl⟩ := execute_eq_ok h
  have hframe := (preserves_performUpload a).of_ok (uploadFrame_refl (prepared u)) hupload
  have hagree := hframe.replay.agreeOn
  have hcounts := hconfigured.counts
  have hrx : (u.components.replayConfig.numStreams .rx).toNat = rx := hcounts.replayRx
  have hreset : v.components.replayConfig.blocks .rx = u.components.replayConfig.rxBlocks.reset :=
    hagree.blocks.symm
  have hstart := hconfigured.consistent.directionFits_reset
  have hconnected : (sizeOfInt v.components.rfConfig.getNumRxStreams).toNat = rx := by
    rw [hframe.rfConfig]
    exact toNat_sizeOfInt hcounts.storedRx
  refine .next 0 rfl rfl (Nat.zero_le _) ⟨?_, hconnected, ?_, ?_, ?_, ?_, ?_, ?_, ?_⟩
  · exact hframe.rxConfigs.trans hconfigs
  · exact (congrArg UInt64.toNat hagree.streams.symm).trans hrx
  · show (v.components.replayConfig.blocks .rx).memSize.toNat =
      (buffer v.components.replayConfig.memSize.toNat .rx).size
    rw [hreset, ← hagree.memSize]
    exact hconfigured.consistent.toNat_memSize .rx
  · exact hagree.directionFits (hstart .rx)
  · show (v.components.replayConfig.blocks .rx).currentReplay = -1 ∧
      (v.components.replayConfig.blocks .rx).currentRepetition = -1
    rw [hreset]
    exact ⟨rfl, rfl⟩
  · show (v.components.replayConfig.blocks .rx).replayBlocks = _
    rw [hreset]
    rfl
  · exact fun c hc => nomatch hc
  · exact holding_nil _ _ _

end

/-! ## Replaying the repetitions -/

/-- The signal that replaying repetition `j` of block `i` returns for a config. -/
def downloaded (E : Environment α) (r : ReplayBlockConfig) (m : Store UInt8) (c : RxStreamingConfig)
    (i j : ℕ) (block : ReplayBlock) : MimoSignal α :=
  (List.range (r.numStreams .rx).toNat).map fun s =>
    resize E.format.zero c.numSamples.toNat
      ((m.readCyclic 4 ⟨(r.slotRegion .rx i block s).offset + j * block.repetitionPeriod.toNat * 4,
        (c.wordAlignedNoSamples * SAMPLE_SIZE).toNat⟩ 0 c.wordAlignedNoSamples.toNat).map
          E.format.toHost)

/-- The device after `k` downloads: only the RX cursors have moved. -/
structure Downloading (r : ReplayBlockConfig) (m : Store UInt8) (k : ℕ) (u : Usrp α) : Prop where
  memSize : u.components.replayConfig.memSize = r.memSize
  streams : u.components.replayConfig.numStreams .rx = r.numStreams .rx
  blocks : ∃ c, u.components.replayConfig.blocks .rx = (r.blocks .rx).moveTo c
  cursor : (u.components.replayConfig.blocks .rx).CursorOk
  done : (u.components.replayConfig.blocks .rx).replaysDone = k
  memory : u.fdGraph.replayBlock.memory = m
  connected : u.fdGraph.numRxStreams = r.numStreams .rx

section

variable {r : ReplayBlockConfig} {m : Store UInt8} {k : ℕ} {u u' : Usrp α}

/-- The signal a download reads from the play ports, shortened. -/
theorem downloadSignal_inv {a : ℕ → List RecvAnswer} {c : RxStreamingConfig}
    (h : downloadSignal E a c u = .ok () u') :
    ∃ r₁ radioCommands, ReplayBlockConfig.configDownload c.wordAlignedNoSamples
        u.components.replayConfig = .ok () r₁ ∧
      u' = { afterCalls r₁ radioCommands u with
        receivedSamples := u.receivedSamples ++
          [(List.range u.fdGraph.numRxStreams.toNat).map fun s =>
            resize E.format.zero c.numSamples.toNat
              (((putReplay r₁ u).fdGraph.replayBlock.memory.readCyclic 4
                ((putReplay r₁ u).fdGraph.replayBlock.playPorts s) 0
                  c.wordAlignedNoSamples.toNat).map E.format.toHost)] } := by
  obtain ⟨_, u₁, hreplay, hrest⟩ := bind_eq_ok_iff.mp h
  obtain ⟨r₁, hplay, rfl⟩ := onField_eq_ok_iff.mp hreplay
  rw [bind_of_ok (get_apply _)] at hrest
  obtain ⟨signal, u₂, hgraph, hrest⟩ := bind_eq_ok_iff.mp hrest
  obtain ⟨g, hdownload, rfl⟩ := onField_eq_ok_iff.mp hgraph
  rw [bind_of_ok (modify_apply _ _)] at hrest
  obtain ⟨short, u₃, hlift, hmodify⟩ := bind_eq_ok_iff.mp hrest
  obtain ⟨hshort, rfl⟩ := liftE_eq_ok_iff.mp hlift
  cases hmodify
  obtain ⟨⟨radioCommands, rfl⟩, hsignal⟩ := FullDuplexGraph.download_eq_ok hdownload
  have hresult : (u.receivedSamples ++ [signal]).dropLast ++ [short] =
      u.receivedSamples ++ [short] := by
    rw [List.dropLast_concat]
  have hresized := shortenSignal_eq_ok hshort
  rw [resizeSignal, hsignal, List.map_map, UInt32.toNat_toUInt64] at hresized
  refine ⟨r₁, radioCommands, hplay, ?_⟩
  exact congrArg (fun receivedSamples => ({ afterCalls r₁ radioCommands u with
    receivedSamples } : Usrp α))
      (hresult.trans (congrArg (fun signal => u.receivedSamples ++ [signal]) hresized))

/-- Downloads do not move the end of the buffer. -/
theorem Downloading.fits (hd : Downloading r m k u) (hfits : r.DirectionFits .rx) :
    u.components.replayConfig.DirectionFits .rx := by
  obtain ⟨cur, hcur⟩ := hd.blocks
  show LayoutOk _ _ _
  rw [hcur, hd.streams, hd.memSize]
  exact ⟨hfits.streams_eq, hfits.sampleSize, hfits.end_le⟩

/-- A replay moves the cursors, and issues its plays. -/
theorem Downloading.played {n : UInt64} {i j : ℕ} {block : ReplayBlock} {r₁ : ReplayBlockConfig}
    (hd : Downloading r m k u) (hplayed : Played u.components.replayConfig .rx n i j block r₁)
    (hnumber : Layout.start (r.blocks .rx).replayCounts i + j = k)
    (radioCommands : List RadioCommand) (receivedSamples : List (MimoSignal α)) :
    Downloading r m (k + 1) { afterCalls r₁ radioCommands u with receivedSamples } := by
  obtain ⟨cur, hcur⟩ := hd.blocks
  have hblocks : r₁.blocks .rx = (r.blocks .rx).moveTo ((i : ℤ), (j : ℤ)) := by
    rw [hplayed.blocks_eq, hcur]
    rfl
  refine ⟨?_, ?_, ⟨_, hblocks⟩, hplayed.cursorOk hd.cursor, ?_, ?_, hd.connected⟩
  · exact hplayed.extends.memSize.trans hd.memSize
  · exact (hplayed.extends.streams .rx).trans hd.streams
  · show (r₁.blocks .rx).replaysDone = k + 1
    rw [hblocks, replaysDone_moveTo, hnumber]
  · exact (ReplayHardware.memory_commands _ _).trans hd.memory

/-- **A download replays the repetition with its number.** -/
theorem downloadSignal_eq_ok {a : ℕ → List RecvAnswer} {c : RxStreamingConfig}
    (hfits : r.DirectionFits .rx) (hcount : r.numStreams .rx ≠ 0) (hd : Downloading r m k u)
    (h : downloadSignal E a c u = .ok () u') :
    ∃ i j block, Layout.start (r.blocks .rx).replayCounts i + j = k ∧
      (r.blocks .rx).replayBlocks[i]? = some block ∧ j < block.replayCount ∧
      u'.receivedSamples = u.receivedSamples ++ [downloaded E r m c i j block] ∧
      Downloading r m (k + 1) u' := by
  obtain ⟨cur, hcur⟩ := hd.blocks
  obtain ⟨r₁, radioCommands, hplay, rfl⟩ := downloadSignal_inv h
  have hne : (u.components.replayConfig.blocks .rx).numStreams ≠ 0 := by
    rw [hcur, moveTo_numStreams, hfits.streams_eq]
    exact hcount
  obtain ⟨i, j, block, hplayed⟩ : ∃ i j block,
      Played u.components.replayConfig .rx c.wordAlignedNoSamples i j block r₁ :=
    playBlock_eq_ok (d := .rx) hne hd.cursor hplay
  have hselects := hplayed.1
  have hslot (s : ℕ) : u.components.replayConfig.slotRegion .rx i block s =
      r.slotRegion .rx i block s := by
    rw [slotRegion, slotRegion, hcur, hd.memSize]
    rfl
  have hnumber := number_of_selects hd.cursor hselects
  rw [hd.done, hcur, replayCounts_moveTo] at hnumber
  refine ⟨i, j, block, hnumber, ?_, lt_replayCount_of_selects hselects, ?_,
    hd.played hplayed hnumber _ _⟩
  · rw [← hselects.block_eq, hcur]
    rfl
  · have hmemory : (putReplay r₁ u).fdGraph.replayBlock.memory = m :=
      (ReplayHardware.memory_commands _ _).trans hd.memory
    show u.receivedSamples ++ [_] = _
    rw [hd.connected, hmemory, downloaded]
    congr 2
    refine List.map_congr_left fun s hs => ?_
    have hport : (putReplay r₁ u).fdGraph.replayBlock.playPorts s =
        ⟨(r.slotRegion .rx i block s).offset + j * block.repetitionPeriod.toNat * 4,
          (c.wordAlignedNoSamples * SAMPLE_SIZE).toNat⟩ := by
      rw [← hslot]
      refine playPorts_of_played hplayed (hd.fits hfits) _ ?_
      rw [hd.streams]
      exact List.mem_range.mp hs
    rw [hport]

/-- **A list of downloads replays the repetitions in order.** -/
theorem downloads_eq_ok {a : ℕ → List RecvAnswer} {items : List RxStreamingConfig}
    (hfits : r.DirectionFits .rx) (hcount : r.numStreams .rx ≠ 0) (hd : Downloading r m k u)
    (h : forM items (downloadSignal E a) u = .ok () u') :
    Downloading r m (k + items.length) u' ∧
      ∃ signals, u'.receivedSamples = u.receivedSamples ++ signals ∧
        signals.length = items.length ∧
        ∀ p c, items[p]? = some c → ∃ i j block,
          Layout.start (r.blocks .rx).replayCounts i + j = k + p ∧
          (r.blocks .rx).replayBlocks[i]? = some block ∧ j < block.replayCount ∧
          signals[p]? = some (downloaded E r m c i j block) := by
  induction items generalizing u k with
  | nil =>
      cases h
      exact ⟨hd, [], by simp, rfl, fun p c hc => nomatch hc⟩
  | cons c items ih =>
      rw [List.forM_cons] at h
      obtain ⟨_, u₁, hfirst, htail⟩ := bind_eq_ok_iff.mp h
      obtain ⟨i, j, block, hnumber, hblock, hj, hreceived, hd₁⟩ :=
        downloadSignal_eq_ok hfits hcount hd hfirst
      obtain ⟨hd', signals, hsignals, hlen, hall⟩ := ih hd₁ htail
      refine ⟨?_, downloaded E r m c i j block :: signals, ?_, ?_, ?_⟩
      · rw [List.length_cons, show k + (items.length + 1) = k + 1 + items.length by omega]
        exact hd'
      · rw [hsignals, hreceived, List.append_assoc]
        rfl
      · rw [List.length_cons, List.length_cons, hlen]
      · intro p c' hc'
        cases p with
        | zero =>
            obtain rfl : c = c' := by simpa using hc'
            exact ⟨i, j, block, hnumber, hblock, hj, rfl⟩
        | succ p =>
            obtain ⟨i', j', block', hnumber', hrest⟩ := hall p c' hc'
            exact ⟨i', j', block', by omega, hrest⟩

end

/-! ## What is collected -/

/-- The samples of repetition `j` of a config, out of those a stream delivered. -/
def repetition (E : Environment α) (c : RxStreamingConfig) (j : ℕ) (delivered : List Wire) :
    List α :=
  ((delivered.drop (j * c.period)).take c.numSamples.toNat).map E.format.toHost

/-- How often each config is repeated. -/
def repetitionCounts (configs : List RxStreamingConfig) : List ℕ :=
  configs.map fun c => c.numRepetitions.toNat

/-- The result of `collect`: one signal for each repetition of each config, in this
order, with the samples the streams delivered for it. -/
structure Collected (E : Environment α) (configs : List RxStreamingConfig) (rx : ℕ)
    (received : List (ℕ → List Wire)) (result : List (MimoSignal α)) : Prop where
  received_length : received.length = configs.length
  delivered : ∀ (i : ℕ) (c : RxStreamingConfig) (content : ℕ → List Wire) (s : ℕ),
    configs[i]? = some c → received[i]? = some content → s < rx →
      (content s).length = exactSamples c
  length : result.length = (repetitionCounts configs).sum
  signal : ∀ (i : ℕ) (c : RxStreamingConfig) (content : ℕ → List Wire) (j : ℕ),
    configs[i]? = some c → received[i]? = some content → j < c.numRepetitions.toNat →
      ∃ signal, result[Layout.start (repetitionCounts configs) i + j]? = some signal ∧
        signal.length = rx ∧ ∀ s < rx, signal[s]? = some (repetition E c j (content s)) ∧
          (repetition E c j (content s)).length = c.numSamples.toNat

section

variable {r : ReplayBlockConfig} {rx : ℕ} {configs : List RxStreamingConfig} {u u' : Usrp α}

/-- A repetition lies within what its stream delivered. -/
theorem repetition_end_le {c : RxStreamingConfig} {j : ℕ}
    (hperiod : (configBlock c).numSamples ≤ (configBlock c).repetitionPeriod)
    (hj : j < c.numRepetitions.toNat) :
    j * c.period + c.wordAlignedNoSamples.toNat ≤ exactSamples c := by
  rw [UInt64.le_iff_toNat_le, repetitionPeriod_configBlock] at hperiod
  have hlength : c.wordAlignedNoSamples.toNat ≤ c.period := hperiod
  calc j * c.period + c.wordAlignedNoSamples.toNat
      ≤ (j + 1) * c.period := by rw [Nat.succ_mul]; omega
    _ ≤ c.numRepetitions.toNat * c.period := Nat.mul_le_mul_right _ hj
    _ = exactSamples c := Nat.mul_comm _ _

/-- **A download of a recorded config returns its repetition.** -/
theorem downloaded_getElem? {hw : ReplayHardware} {contents : List (ℕ → List Wire)}
    {content : ℕ → List Wire} {c : RxStreamingConfig} {i j s : ℕ}
    (hholding : Holding r .rx hw contents) (hcontent : contents[i]? = some content)
    (hblock : (r.blocks .rx).replayBlocks[i]? = some (configBlock c))
    (hperiod : (configBlock c).numSamples ≤ (configBlock c).repetitionPeriod)
    (hj : j < c.numRepetitions.toNat) (hs : s < (r.numStreams .rx).toNat) :
    (downloaded E r hw.memory c i j (configBlock c))[s]? = some (repetition E c j (content s)) ∧
      (repetition E c j (content s)).length = c.numSamples.toNat := by
  obtain ⟨hlen, hholds⟩ := hholding.slot i content _ s hcontent hblock hs
  rw [configBlock_exactTotal] at hlen
  have hend := repetition_end_le hperiod hj
  have hle := c.numSamples_le_wordAlignedNoSamples
  have hbytes :
      (c.wordAlignedNoSamples * SAMPLE_SIZE).toNat = c.wordAlignedNoSamples.toNat * 4 := by
    have hlt := c.numSamples.toNat_lt
    have haligned := c.wordAlignedNoSamples_toNat
    rw [UInt64.toNat_mul, show SAMPLE_SIZE.toNat = 4 from rfl, Nat.mod_eq_of_lt]
    omega
  refine ⟨?_, ?_⟩
  · rw [downloaded, List.getElem?_map, List.getElem?_range hs, Option.map_some, hbytes,
      Store.readCyclic_of_le (by decide) (le_refl _), repetitionPeriod_configBlock,
      hholds.readSeq_window (by rw [hlen]; exact hend), repetition]
    congr 1
    rw [resize_of_le (by rw [List.length_map, List.length_take, List.length_drop]; omega),
      ← List.map_take, List.take_take, Nat.min_eq_left hle]
  · rw [repetition, List.length_map, List.length_take, List.length_drop]
    omega

/-- The configs in the order in which `performDownload` visits them. -/
theorem getElem?_downloads {c : RxStreamingConfig} {i j : ℕ} (h : configs[i]? = some c)
    (hj : j < c.numRepetitions.toNat) :
    (configs.flatMap fun c => List.replicate c.numRepetitions.toNat c)[
      Layout.start (repetitionCounts configs) i + j]? = some c :=
  Layout.getElem?_flatMap_replicate h hj

/-- There is a download for each repetition. -/
theorem length_downloads (configs : List RxStreamingConfig) :
    (configs.flatMap fun c => List.replicate c.numRepetitions.toNat c).length =
      (repetitionCounts configs).sum := by
  simp [repetitionCounts, List.length_flatMap]

/-- **What `performDownload` does**: with the connected number of streams it is one
loop over the repetitions of all configs. -/
theorem performDownload_apply (a : ℕ → List RecvAnswer) (u : Usrp α) :
    performDownload E a u =
      if sizeOfInt u.components.rfConfig.getNumRxStreams = u.fdGraph.numRxStreams then
        forM (u.rxStreamingConfigs.flatMap fun c => List.replicate c.numRepetitions.toNat c)
          (downloadSignal E a) { u with receivedSamples := [] }
      else .error (.usrp .wrongNumRxAntennas) { u with receivedSamples := [] } := by
  unfold performDownload
  rw [bind_of_ok (modify_apply _ _), bind_of_ok (get_apply _), forM_flatMap]
  simp only [forM_range_const]
  split
  · rename_i hcount
    refine bind_of_ok (onField_of_ok (t := u.fdGraph) (a := ()) ?_)
    exact reads_eq_ok_iff.mpr ⟨check_eq_ok_iff.mpr (not_not.mpr hcount), rfl⟩
  · rename_i hcount
    refine bind_of_error (onField_of_error (t := u.fdGraph) ?_)
    exact reads_eq_error_iff.mpr ⟨check_eq_error_iff.mpr ⟨hcount, rfl⟩, rfl⟩

/-- A collection that returns is a sequence of downloads, of a device whose threads have not
failed. -/
theorem collect_eq_ok {a : ℕ → List RecvAnswer} {result : List (MimoSignal α)}
    (h : collect E a u = .ok result u') :
    ¬ Failed u ∧ sizeOfInt u.components.rfConfig.getNumRxStreams = u.fdGraph.numRxStreams ∧
      ∃ v, forM (u.rxStreamingConfigs.flatMap fun c => List.replicate c.numRepetitions.toNat c)
          (downloadSignal E a) { joinThreads u with receivedSamples := [] } = .ok () v ∧
        result = v.receivedSamples := by
  have hreturned {e : Option Fault} (he : rethrow e = .ok ()) : e = none := by
    cases e with
    | none => rfl
    | some e => cases he
  unfold collect at h
  rw [bind_of_ok (modify_apply _ _)] at h
  obtain ⟨_, u₁, hreadTx, hrest⟩ := bind_eq_ok_iff.mp h
  obtain ⟨htx, rfl⟩ := reads_eq_ok_iff.mp hreadTx
  obtain ⟨_, u₂, hreadRx, hrest⟩ := bind_eq_ok_iff.mp hrest
  obtain ⟨hrx, rfl⟩ := reads_eq_ok_iff.mp hreadRx
  obtain ⟨_, v, hdownload, hrest⟩ := bind_eq_ok_iff.mp hrest
  rw [bind_of_ok (modify_apply _ _)] at hrest
  obtain ⟨hresult, -⟩ := reads_eq_ok_iff.mp hrest
  cases hresult
  rw [performDownload_apply] at hdownload
  split at hdownload
  · rename_i hcount
    refine ⟨?_, hcount, v, hdownload, rfl⟩
    rintro (hfailed | hfailed)
    · exact hfailed (hreturned htx)
    · exact hfailed (hreturned hrx)
  · cases hdownload

/-- A block is not replayed more often than its config is repeated. -/
theorem replayCount_configBlock_le {c : RxStreamingConfig} (h : RxLengthsOk c) :
    (configBlock c).replayCount ≤ c.numRepetitions.toNat := by
  have hreps : (configBlock c).repetitions.toNat = c.numRepetitions.toNat :=
    UInt32.toNat_toUInt64 _
  rw [← hreps]
  exact ReplayBlock.replayCount_le (by rw [hreps]; exact h.numRepetitions_pos)

/-- The numbers of repetitions that are replayed and that are collected are the
same, since the former are not exceeded and not more than the latter. -/
theorem replayCounts_eq {t : BlockOffsetTracker}
    (hblocks : t.replayBlocks = configs.map configBlock)
    (hlengths : ∀ c ∈ configs, RxLengthsOk c) (hcursor : t.CursorOk)
    (hdone : t.replaysDone = (repetitionCounts configs).sum) :
    t.replayCounts = repetitionCounts configs := by
  have hcounts : t.replayCounts = configs.map fun c => (configBlock c).replayCount := by
    rw [replayCounts, hblocks, List.map_map]
    rfl
  have hle : ∀ c ∈ configs, (configBlock c).replayCount ≤ c.numRepetitions.toNat :=
    fun c hc => replayCount_configBlock_le (hlengths c hc)
  have hsum := replaysDone_le_sum hcursor
  rw [hdone, hcounts] at hsum
  rw [hcounts]
  exact List.map_congr_left (Layout.eq_of_sum_le hle hsum)

/-- The replay with the number of repetition `j` of config `i` is the one of that
repetition. -/
theorem replay_of_number {t : BlockOffsetTracker} {c : RxStreamingConfig} {i j i' j' : ℕ}
    {block : ReplayBlock} (hcounts : t.replayCounts = repetitionCounts configs)
    (hget : configs[i]? = some c) (hj : j < c.numRepetitions.toNat)
    (hblock : t.replayBlocks[i]? = some (configBlock c))
    (hblock' : t.replayBlocks[i']? = some block) (hj' : j' < block.replayCount)
    (hnumber : Layout.start t.replayCounts i' + j' =
      Layout.start (repetitionCounts configs) i + j) : i' = i ∧ j' = j ∧ block = configBlock c := by
  obtain ⟨hi, hcount⟩ := replayCounts_getElem hblock
  obtain ⟨hi', hcount'⟩ := replayCounts_getElem hblock'
  have hreplayed : (configBlock c).replayCount = c.numRepetitions.toNat := by
    rw [← hcount]
    obtain ⟨hlt, rfl⟩ := List.getElem?_eq_some_iff.mp hget
    simp only [hcounts]
    simp [repetitionCounts]
  rw [← hcounts] at hnumber
  obtain ⟨rfl, rfl⟩ := Layout.item_eq_of_number_eq hi' (by rw [hcount']; exact hj') hi
    (by rw [hcount, hreplayed]; exact hj) hnumber
  exact ⟨rfl, rfl, Option.some.inj (hblock'.symm.trans hblock)⟩

/-- The device is ready to replay what it has received. -/
theorem downloading_start {rx : ℕ} {configs : List RxStreamingConfig}
    (side : RxSide rx configs configs u) :
    Downloading u.components.replayConfig u.fdGraph.replayBlock.memory 0
      { joinThreads u with receivedSamples := [] } :=
  ⟨rfl, rfl, ⟨((u.components.replayConfig.blocks .rx).currentReplay,
    (u.components.replayConfig.blocks .rx).currentRepetition), rfl⟩, Or.inl side.cursor,
    replaysDone_start side.cursor.1, rfl,
    UInt64.toNat_inj.mp (side.connected.trans side.streams.symm)⟩

/-- **What `collect` returns after a complete reception.** -/
theorem collected_of_collect {a : ℕ → List RecvAnswer} {result : List (MimoSignal α)}
    (hlengths : ∀ c ∈ configs, RxLengthsOk c) (hrx : 0 < rx) (side : RxSide rx configs configs u)
    (hreceived : u.received.length = configs.length) (h : collect E a u = .ok result u') :
    Collected E configs rx u.received result := by
  obtain ⟨-, -, v, hdownloads, rfl⟩ := collect_eq_ok h
  rw [side.configs] at hdownloads
  have hcount : u.components.replayConfig.numStreams .rx ≠ 0 := by
    intro hzero
    have hstreams := side.streams
    rw [hzero, show (0 : UInt64).toNat = 0 from rfl] at hstreams
    omega
  obtain ⟨hend, signals, hsignals, hlen, hall⟩ :=
    downloads_eq_ok side.fits hcount (downloading_start side) hdownloads
  rw [Nat.zero_add, length_downloads] at hend
  obtain ⟨cur, hcur⟩ := hend.blocks
  have hcounts := replayCounts_eq (t := v.components.replayConfig.blocks .rx)
    (by rw [hcur, moveTo_replayBlocks, side.blocks]) hlengths hend.cursor hend.done
  rw [hcur, replayCounts_moveTo] at hcounts
  have hresult : v.receivedSamples = signals := hsignals.trans (List.nil_append _)
  rw [hresult]
  refine ⟨hreceived, ?_, by rw [hlen, length_downloads], ?_⟩
  · intro i c content s hget hcontent hs
    rw [← configBlock_exactTotal]
    exact (side.holding.slot i content _ s hcontent (side.getElem? hget)
      (by rw [side.streams]; exact hs)).1
  · intro i c content j hget hcontent hj
    obtain ⟨i', j', block, hnumber, hblock', hj', hsignal⟩ := hall _ c (getElem?_downloads hget hj)
    rw [Nat.zero_add] at hnumber
    obtain ⟨rfl, rfl, rfl⟩ :=
      replay_of_number hcounts hget hj (side.getElem? hget) hblock' hj' hnumber
    obtain ⟨hlt, hc⟩ := List.getElem?_eq_some_iff.mp hget
    have hmem : c ∈ configs := hc ▸ List.getElem_mem hlt
    refine ⟨_, hsignal, ?_, ?_⟩
    · rw [downloaded, List.length_map, List.length_range, side.streams]
    · intro s hs
      exact downloaded_getElem? side.holding hcontent hblock' (side.period c hmem) hj
        (by rw [side.streams]; exact hs)

/-- **Reception from end to end.**  On a configured device, RX configs that are
accepted and executed are collected, if nothing fails and no size wraps: one
signal for each repetition, with the samples the streams delivered for it. -/
theorem reception_correct {tx : ℕ} {u₀ u₁ u₂ u₃ : Usrp α} {a : ExecuteAnswers} {baseTime : ℚ}
    {events : List (Event α)} {answers : ℕ → List RecvAnswer} {result : List (MimoSignal α)}
    (hconfigured : u₀.components.Configured tx rx) (hempty : u₀.rxStreamingConfigs = [])
    (haccepted : forM configs setRxConfig u₀ = .ok () u₁)
    (hexecute : execute E a baseTime u₁ = .ok () u₂)
    (hstreaming : ∀ e ∈ events, e.isStreaming = true)
    (hfinished : (Machine.run (step E) u₂ events).receiveThread = .finished)
    (hcollect : collect E answers (Machine.run (step E) u₂ events) = .ok result u₃)
    (hwrap : NoWrap configs rx) :
    Collected E configs rx (Machine.run (step E) u₂ events).received result := by
  obtain ⟨hlengths, rfl⟩ := forM_setRxConfig_eq_ok haccepted
  have hconfigs : u₀.rxStreamingConfigs ++ configs = configs := by rw [hempty, List.nil_append]
  have hstart : RxProgress rx configs u₂ := rxProgress_of_execute (u := { u₀ with
    rxStreamingConfigs := u₀.rxStreamingConfigs ++ configs }) hconfigured hconfigs hexecute
  rcases rxProgress_run hwrap hstart hstreaming with hfailed | hprogress
  · exact absurd hfailed (collect_eq_ok hcollect).1
  · cases hprogress with
    | next i thread _ _ _ =>
        rw [hfinished] at thread
        cases thread
    | busy i c thread _ _ _ _ =>
        rw [hfinished] at thread
        cases thread
    | finished _ hreceived side =>
        exact collected_of_collect hlengths hconfigured.rx_pos side hreceived hcollect

end

/-- Two repetitions of 8 samples, and 5 samples of a period of 16. -/
def exampleRxConfigs : List RxStreamingConfig := [⟨8, 0, 2, 0, ""⟩, ⟨5, 1, 1, 16, ""⟩]

/-- Each config receives 16 samples. -/
def exampleRxEvents : List (Event Wire) :=
  let samples := List.replicate 16 (Event.rxSample 0 fun i => UInt8.ofNat i)
  [.txStart exampleStreamAnswers, .rxStart exampleStreamAnswers] ++ samples ++
    [.rxEnd none, .rxStart exampleStreamAnswers] ++ samples ++
      [.rxEnd none, .rxStart exampleStreamAnswers]

/-- The example device executes and collects these configs. -/
theorem reception_correct_example :
    ∃ u₁ u₂ u₃ result, forM exampleRxConfigs setRxConfig exampleUsrp = .ok () u₁ ∧
      execute exampleEnvironment exampleExecuteAnswers 1 u₁ = .ok () u₂ ∧
      collect exampleEnvironment (fun _ => [⟨8, none, true⟩])
        (Machine.run (step exampleEnvironment) u₂ exampleRxEvents) = .ok result u₃ ∧
      Collected exampleEnvironment exampleRxConfigs 1
        (Machine.run (step exampleEnvironment) u₂ exampleRxEvents).received result := by
  obtain ⟨_, haccepted⟩ := exists_of_returned
    (by decide +kernel : returned (forM exampleRxConfigs setRxConfig exampleUsrp) = true)
  obtain ⟨_, hexecute⟩ := exists_of_returned
    (by decide +kernel : returned (execute exampleEnvironment exampleExecuteAnswers 1
      (finalState (forM exampleRxConfigs setRxConfig exampleUsrp))) = true)
  obtain ⟨result, hcollect⟩ := exists_of_returned
    (by decide +kernel : returned (collect exampleEnvironment (fun _ => [⟨8, none, true⟩])
      (Machine.run (step exampleEnvironment) (finalState (execute exampleEnvironment
        exampleExecuteAnswers 1 (finalState (forM exampleRxConfigs setRxConfig exampleUsrp))))
          exampleRxEvents)) = true)
  refine ⟨_, _, _, result, haccepted, hexecute, hcollect, ?_⟩
  exact reception_correct configured_exampleComponents rfl haccepted hexecute (by decide)
    (by decide +kernel) hcollect ⟨by decide, by decide⟩

end Usrp

end UsrpWrapper
