import UsrpWrapper.BlockOffsetTracker

/-!
# The replay block configuration

`ReplayBlockConfig` (`replay_config.cpp`) splits the replay memory into a TX
buffer, the first quarter, and an RX buffer, three quarters of the size right
behind it.  Each buffer has its own tracker.  A record call appends a block to
the tracker and issues one `record` for each stream; a replay call moves the
cursors and issues one `config_play` for each stream.

The calls on the replay block are collected in `commands`, in the order in which
they are made.  What the block answers is an argument of the calls that ask.

`configUpload` and `configReceive` are one function of the direction
(`recordBlock`), and so are `configTransmit` and `configDownload` (`playBlock`).
-/

namespace UsrpWrapper

open Lib Lib.Command

/-! ## The calls on the replay block -/

/-- The calls of `ReplayBlockInterface` that change the replay block. -/
inductive ReplayCommand where
  | record (offset size : UInt64) (port : ℕ)
  | recordRestart (port : ℕ)
  | configPlay (offset size : UInt64) (port : ℕ)
  deriving DecidableEq

/-- What the replay block answers while `clearRecordingBuffer` polls it: the
fullness of a port in each of the three rounds. -/
structure ReplayAnswers where
  numInputPorts : UInt64
  recordFullness : ℕ → ℕ → UInt64

/-- The two halves of the class: the TX members and the RX members. -/
inductive Direction where
  | tx
  | rx
  deriving DecidableEq

/-- `SAMPLE_SIZE`: 16 bit IQ data. -/
def SAMPLE_SIZE : UInt64 := 4

/-- `ReplayBlockConfig`: a tracker for each half of the memory, the stream counts, and the calls
made on the replay block so far. -/
structure ReplayBlockConfig where
  memSize : UInt64
  numTxStreams : UInt64
  numRxStreams : UInt64
  txBlocks : BlockOffsetTracker
  rxBlocks : BlockOffsetTracker
  commands : List ReplayCommand

/-- A member function of the class. -/
abbrev ConfigM := EStateM Fault ReplayBlockConfig

namespace ReplayBlockConfig

open BlockOffsetTracker

/-! ## The class -/

/-- The first quarter of the memory is for the signals to transmit. -/
def getTxBufferSize (memSize : UInt64) : UInt64 := memSize / 4

/-- Three quarters are for the recordings. -/
def getRxBufferSize (memSize : UInt64) : UInt64 := memSize / 4 * 3

/-- The RX buffer starts where the TX buffer ends. -/
def getRxBufferOffset (r : ReplayBlockConfig) : UInt64 := getTxBufferSize r.memSize

/-- The constructor. -/
def make (memSize : UInt64) : ReplayBlockConfig :=
  { memSize, numTxStreams := 0, numRxStreams := 0,
    txBlocks := BlockOffsetTracker.make (getTxBufferSize memSize) SAMPLE_SIZE,
    rxBlocks := BlockOffsetTracker.make (getRxBufferSize memSize) SAMPLE_SIZE,
    commands := [] }

/-- `setStreamCount`, which passes the counts on to the trackers. -/
def setStreamCount (numTx numRx : UInt64) (r : ReplayBlockConfig) : ReplayBlockConfig :=
  { r with
    txBlocks := r.txBlocks.setStreamCount numTx
    rxBlocks := r.rxBlocks.setStreamCount numRx
    numTxStreams := numTx
    numRxStreams := numRx }

/-- `reset`: both trackers forget their blocks. -/
def reset (r : ReplayBlockConfig) : ReplayBlockConfig :=
  { r with txBlocks := r.txBlocks.reset, rxBlocks := r.rxBlocks.reset }

/-- The tracker of a direction. -/
def blocks (r : ReplayBlockConfig) : Direction → BlockOffsetTracker
  | .tx => r.txBlocks
  | .rx => r.rxBlocks

/-- Store the tracker of a direction. -/
def setBlocks (d : Direction) (t : BlockOffsetTracker) (r : ReplayBlockConfig) :
    ReplayBlockConfig :=
  match d with
  | .tx => { r with txBlocks := t }
  | .rx => { r with rxBlocks := t }

/-- The stream count of a direction. -/
def numStreams (r : ReplayBlockConfig) : Direction → UInt64
  | .tx => r.numTxStreams
  | .rx => r.numRxStreams

/-- Where the buffer of a direction starts in the memory. -/
def bufferOffset (r : ReplayBlockConfig) : Direction → UInt64
  | .tx => 0
  | .rx => r.getRxBufferOffset

/-- Make a call on the replay block. -/
def issue (c : ReplayCommand) (r : ReplayBlockConfig) : ReplayBlockConfig :=
  { r with commands := r.commands ++ [c] }

/-- Round `t` of `clearRecordingBuffer` finds a port that is not empty. -/
def needClear (answers : ReplayAnswers) (t : ℕ) : Bool :=
  (List.range (intOfSize answers.numInputPorts).toNat).any fun c =>
    decide (0 < answers.recordFullness t c)

/-- The record buffer can be cleared: one of the three polls finds all ports empty. -/
def Clearable (answers : ReplayAnswers) : Prop :=
  ∃ t ∈ [0, 1, 2], needClear answers t = false

/-- The rounds of `clearRecordingBuffer`.  The fullness is not read again after
the restarts of the last round. -/
def clearRounds (answers : ReplayAnswers) : List ℕ → ConfigM Unit
  | [] => throw (.usrp .cannotClearRecordBuffer)
  | t :: rounds =>
      if needClear answers t then do
        forM (List.range (intOfSize answers.numInputPorts).toNat) fun c =>
          modify (issue (.recordRestart c))
        clearRounds answers rounds
      else return ()

/-- `clearRecordingBuffer`: three rounds at most. -/
def clearRecordingBuffer (answers : ReplayAnswers) : ConfigM Unit :=
  clearRounds answers [0, 1, 2]

/-- The loop over the streams of a direction that all four calls contain. -/
def issueForStreams (d : Direction)
    (offset : BlockOffsetTracker → UInt64 → Except Fault UInt64)
    (command : UInt64 → ℕ → ReplayCommand) : ConfigM Unit := do
  let r ← get
  forM (List.range (r.numStreams d).toNat) fun s => do
    let off ← reads fun r => offset (r.blocks d) (UInt64.ofNat s)
    modify (issue (command (r.bufferOffset d + off) s))

/-- `configUpload` and `configReceive`, for a direction. -/
def recordBlock (d : Direction) (numSamples numRepetitions repetitionPeriod numBytes : UInt64)
    (answers : ReplayAnswers) : ConfigM Unit := do
  onField (fun r => r.blocks d) (setBlocks d)
    (recordNewBlock numSamples numRepetitions repetitionPeriod)
  issueForStreams d recordOffset fun off s => .record off numBytes s
  clearRecordingBuffer answers

/-- `configTransmit` and `configDownload`, for a direction. -/
def playBlock (d : Direction) (numSamples : UInt64) : ConfigM Unit := do
  onField (fun r => r.blocks d) (setBlocks d) (replayNextBlock numSamples)
  issueForStreams d replayOffset fun off s => .configPlay off (numSamples * SAMPLE_SIZE) s

/-- `configUpload`: a new TX block without repetitions. -/
def configUpload (numSamples : UInt64) : ReplayAnswers → ConfigM Unit :=
  recordBlock .tx numSamples 1 0 (numSamples * SAMPLE_SIZE)

/-- `configTransmit`: play the next TX block. -/
def configTransmit (numSamples : UInt64) : ConfigM Unit := playBlock .tx numSamples

/-- `configReceive`: a new RX block with all its repetitions; a period of 0 is the length of the
signal. -/
def configReceive (numSamples numRepetitions repetitionPeriod : UInt64) :
    ReplayAnswers → ConfigM Unit :=
  let repetitionPeriod := if repetitionPeriod = 0 then numSamples else repetitionPeriod
  recordBlock .rx numSamples numRepetitions repetitionPeriod
    (numRepetitions * repetitionPeriod * SAMPLE_SIZE)

/-- `configDownload`: play the next repetition of the RX blocks. -/
def configDownload (numSamples : UInt64) : ConfigM Unit := playBlock .rx numSamples

/-! ## Members of a direction -/

@[simp] theorem blocks_setBlocks (d : Direction) (t : BlockOffsetTracker)
    (r : ReplayBlockConfig) : (r.setBlocks d t).blocks d = t := by
  cases d <;> rfl

/-- Storing the tracker of one direction leaves the other alone. -/
theorem blocks_setBlocks_of_ne {d d' : Direction} (h : d' ≠ d) (t : BlockOffsetTracker)
    (r : ReplayBlockConfig) : (r.setBlocks d t).blocks d' = r.blocks d' := by
  cases d <;> cases d' <;> first | rfl | exact absurd rfl h

@[simp] theorem memSize_setBlocks (d : Direction) (t : BlockOffsetTracker)
    (r : ReplayBlockConfig) : (r.setBlocks d t).memSize = r.memSize := by
  cases d <;> rfl

@[simp] theorem numStreams_setBlocks (d d' : Direction) (t : BlockOffsetTracker)
    (r : ReplayBlockConfig) : (r.setBlocks d t).numStreams d' = r.numStreams d' := by
  cases d <;> rfl

@[simp] theorem bufferOffset_setBlocks (d d' : Direction) (t : BlockOffsetTracker)
    (r : ReplayBlockConfig) : (r.setBlocks d t).bufferOffset d' = r.bufferOffset d' := by
  cases d <;> rfl

@[simp] theorem commands_setBlocks (d : Direction) (t : BlockOffsetTracker)
    (r : ReplayBlockConfig) : (r.setBlocks d t).commands = r.commands := by
  cases d <;> rfl

/-- Make several calls on the replay block. -/
def issueAll (cs : List ReplayCommand) (r : ReplayBlockConfig) : ReplayBlockConfig :=
  { r with commands := r.commands ++ cs }

@[simp] theorem blocks_issueAll (cs : List ReplayCommand) (r : ReplayBlockConfig) (d : Direction) :
    (r.issueAll cs).blocks d = r.blocks d := by
  cases d <;> rfl

@[simp] theorem memSize_issueAll (cs : List ReplayCommand) (r : ReplayBlockConfig) :
    (r.issueAll cs).memSize = r.memSize := rfl

@[simp] theorem numStreams_issueAll (cs : List ReplayCommand) (r : ReplayBlockConfig)
    (d : Direction) : (r.issueAll cs).numStreams d = r.numStreams d := by
  cases d <;> rfl

@[simp] theorem bufferOffset_issueAll (cs : List ReplayCommand) (r : ReplayBlockConfig)
    (d : Direction) : (r.issueAll cs).bufferOffset d = r.bufferOffset d := by
  cases d <;> rfl

@[simp] theorem commands_issueAll (cs : List ReplayCommand) (r : ReplayBlockConfig) :
    (r.issueAll cs).commands = r.commands ++ cs := rfl

theorem issueAll_issueAll (cs ds : List ReplayCommand) (r : ReplayBlockConfig) :
    (r.issueAll cs).issueAll ds = r.issueAll (cs ++ ds) := by
  simp [issueAll]

@[simp] theorem issueAll_nil (r : ReplayBlockConfig) : r.issueAll [] = r := by
  simp [issueAll]

/-! ## What the loops issue -/

/-- A loop that issues one call in each iteration. -/
theorem foldl_issue {ι : Type} (command : ι → ReplayCommand) (l : List ι)
    (r : ReplayBlockConfig) :
    l.foldl (fun r i => issue (command i) r) r = r.issueAll (l.map command) := by
  induction l generalizing r with
  | nil => simp
  | cons i l ih =>
      rw [List.foldl_cons, ih]
      simp [issue, issueAll]

/-- The calls of the restarts of a round. -/
theorem restart_loop (ports : List ℕ) (r : ReplayBlockConfig) :
    (forM ports fun c => (modify (issue (.recordRestart c)) : ConfigM Unit)) r =
      .ok () (r.issueAll (ports.map .recordRestart)) := by
  rw [← foldl_issue]
  exact (forM_eq_ok (P := fun _ => True) ports
    (fun c _ r _ => ⟨modify_apply _ _, trivial⟩) r trivial).1

/-- Clearing the buffer only issues restarts, whether it succeeds or not. -/
theorem clearRounds_spec (answers : ReplayAnswers) (rounds : List ℕ) (r : ReplayBlockConfig) :
    ∃ ports : List ℕ,
      clearRounds answers rounds r = .ok () (r.issueAll (ports.map .recordRestart)) ∨
        clearRounds answers rounds r =
          .error (.usrp .cannotClearRecordBuffer) (r.issueAll (ports.map .recordRestart)) := by
  induction rounds generalizing r with
  | nil => exact ⟨[], Or.inr (by simp [clearRounds])⟩
  | cons t rounds ih =>
      by_cases hneed : needClear answers t
      · simp only [clearRounds, hneed, if_true]
        rw [bind_of_ok (restart_loop _ r)]
        obtain ⟨ports, hports⟩ := ih (r.issueAll _)
        refine ⟨List.range (intOfSize answers.numInputPorts).toNat ++ ports, ?_⟩
        rw [issueAll_issueAll, ← List.map_append] at hports
        exact hports
      · exact ⟨[], Or.inl (by simp [clearRounds, hneed])⟩

theorem clearRecordingBuffer_eq_ok {answers : ReplayAnswers} {r r' : ReplayBlockConfig}
    (h : clearRecordingBuffer answers r = .ok () r') :
    ∃ ports : List ℕ, r' = r.issueAll (ports.map .recordRestart) := by
  obtain ⟨ports, hok | herror⟩ := clearRounds_spec answers [0, 1, 2] r
  · rw [clearRecordingBuffer, hok] at h
    cases h
    exact ⟨ports, rfl⟩
  · rw [clearRecordingBuffer, herror] at h
    cases h

theorem clearRecordingBuffer_eq_error {answers : ReplayAnswers} {r r' : ReplayBlockConfig}
    {e : Fault} (h : clearRecordingBuffer answers r = .error e r') :
    e = .usrp .cannotClearRecordBuffer := by
  obtain ⟨ports, hok | herror⟩ := clearRounds_spec answers [0, 1, 2] r
  · rw [clearRecordingBuffer, hok] at h
    cases h
  · rw [clearRecordingBuffer, herror] at h
    cases h
    rfl

/-- A buffer that can be cleared is: the first poll that finds nothing ends the call. -/
theorem clearRounds_of_clearable {answers : ReplayAnswers} {rounds : List ℕ}
    (h : ∃ t ∈ rounds, needClear answers t = false) (r : ReplayBlockConfig) :
    ∃ r', clearRounds answers rounds r = .ok () r' := by
  induction rounds generalizing r with
  | nil =>
      obtain ⟨t, ht, -⟩ := h
      cases ht
  | cons t rounds ih =>
      by_cases hneed : needClear answers t = true
      · simp only [clearRounds, hneed, if_true]
        rw [bind_of_ok (restart_loop _ r)]
        obtain ⟨t', ht', hempty⟩ := h
        rcases List.mem_cons.mp ht' with rfl | hlater
        · rw [hneed] at hempty
          cases hempty
        · exact ih ⟨t', hlater, hempty⟩ _
      · exact ⟨r, by simp [clearRounds, hneed]⟩

/-- A replay block whose buffers are always empty. -/
def noFullness : ReplayAnswers := ⟨1, fun _ _ => 0⟩

/-- Ports that are empty at once can be cleared. -/
theorem clearable_noFullness : Clearable noFullness :=
  ⟨0, List.mem_cons_self, by simp [needClear, noFullness]⟩

/-- An empty buffer needs no clearing. -/
theorem clearRecordingBuffer_noFullness (r : ReplayBlockConfig) :
    clearRecordingBuffer noFullness r = .ok () r := by
  have hneed : needClear noFullness 0 = false := by simp [needClear, noFullness]
  simp [clearRecordingBuffer, clearRounds, hneed]

/-- The commands of the loop over the streams, given their offsets. -/
def streamCommands (r : ReplayBlockConfig) (d : Direction) (off : ℕ → UInt64)
    (command : UInt64 → ℕ → ReplayCommand) : List ReplayCommand :=
  (List.range (r.numStreams d).toNat).map fun s => command (r.bufferOffset d + off s) s

/-- The loop over the streams issues one call for each of them. -/
theorem issueForStreams_eq_ok {d : Direction}
    {offset : BlockOffsetTracker → UInt64 → Except Fault UInt64} {off : ℕ → UInt64}
    (command : UInt64 → ℕ → ReplayCommand) {r : ReplayBlockConfig}
    (hoff : ∀ s < (r.numStreams d).toNat,
      offset (r.blocks d) (UInt64.ofNat s) = .ok (off s)) :
    issueForStreams d offset command r =
      .ok () (r.issueAll (r.streamCommands d off command)) := by
  rw [issueForStreams, bind_of_ok (get_apply r), streamCommands, ← foldl_issue]
  -- the loop invariant: issuing commands does not change the tracker that is read
  refine (forM_eq_ok (P := fun r' => r'.blocks d = r.blocks d) _ (fun s hs r' hr' => ?_) r rfl).1
  have hread : (reads fun r => offset (r.blocks d) (UInt64.ofNat s) : ConfigM UInt64) r' =
      .ok (off s) r' := by
    rw [reads_eq_ok_iff, hr']
    exact ⟨hoff s (List.mem_range.mp hs), rfl⟩
  refine ⟨bind_of_ok hread, ?_⟩
  rw [← hr']
  cases d <;> rfl

/-! ## What the calls do -/

theorem toNat_ofNat_of_lt {n : UInt64} {s : ℕ} (h : s < n.toNat) : (UInt64.ofNat s).toNat = s := by
  have hlt := n.toNat_lt
  rw [UInt64.toNat_ofNat', Nat.mod_eq_of_lt (by omega)]

/-- The tracker of a direction once a block is appended. -/
def withBlock (t : BlockOffsetTracker) (block : ReplayBlock) : BlockOffsetTracker :=
  { t with replayBlocks := t.replayBlocks ++ [block] }

@[simp] theorem withBlock_replayBlocks (t : BlockOffsetTracker) (block : ReplayBlock) :
    (withBlock t block).replayBlocks = t.replayBlocks ++ [block] := rfl

/-- A new block leaves the cursors where they were. -/
theorem cursorOk_withBlock {t : BlockOffsetTracker} (h : t.CursorOk) (block : ReplayBlock) :
    (withBlock t block).CursorOk := by
  rcases h with hstart | ⟨b, hb, hrest⟩
  · exact Or.inl hstart
  · exact Or.inr ⟨b, block?_append hb _, hrest⟩

@[simp] theorem streamCommands_setBlocks (d d' : Direction) (t : BlockOffsetTracker)
    (r : ReplayBlockConfig) (off : ℕ → UInt64) (command : UInt64 → ℕ → ReplayCommand) :
    (r.setBlocks d t).streamCommands d' off command = r.streamCommands d' off command := by
  simp only [streamCommands, numStreams_setBlocks, bufferOffset_setBlocks]

/-- The offset in its buffer of stream `s` in repetition `j` of block `i`. -/
def offsetOf (t : BlockOffsetTracker) (i j : ℕ) (block : ReplayBlock) (s : ℕ) : UInt64 :=
  UInt64.ofNat
    ((t.slotStart i block s + j * block.repetitionPeriod.toNat) * t.sampleSize.toNat)

/-- The `record`s of a block that is appended. -/
def recordCommands (r : ReplayBlockConfig) (d : Direction) (block : ReplayBlock)
    (numBytes : UInt64) : List ReplayCommand :=
  r.streamCommands d
    (offsetOf (withBlock (r.blocks d) block) (r.blocks d).replayBlocks.length 0 block)
    fun off s => .record off numBytes s

/-- The configuration once a block is recorded and its `record`s are issued. -/
def recorded (r : ReplayBlockConfig) (d : Direction) (block : ReplayBlock) (numBytes : UInt64) :
    ReplayBlockConfig :=
  (r.setBlocks d (withBlock (r.blocks d) block)).issueAll (r.recordCommands d block numBytes)

/-- **What a record call does**: an accepted block is appended, its `record`s are
issued, and the buffer is cleared. -/
theorem recordBlock_of_accepted {r : ReplayBlockConfig} {d : Direction}
    {numSamples reps period : UInt64}
    (h : (r.blocks d).RecordAccepted (newBlock numSamples reps period)) (numBytes : UInt64)
    (answers : ReplayAnswers) :
    recordBlock d numSamples reps period numBytes answers r =
      clearRecordingBuffer answers
        (r.recorded d (newBlock numSamples reps period) numBytes) := by
  have hrecord : onField (fun r => r.blocks d) (setBlocks d)
      (recordNewBlock numSamples reps period) r =
        .ok () (r.setBlocks d (withBlock (r.blocks d) (newBlock numSamples reps period))) :=
    onField_of_ok (recordNewBlock_eq_ok_iff.mpr ⟨h, rfl⟩)
  have hissue := issueForStreams_eq_ok (fun off s => .record off numBytes s) (d := d)
    (r := r.setBlocks d (withBlock (r.blocks d) (newBlock numSamples reps period)))
    (fun s hs => show recordOffset _ _ = .ok (offsetOf (withBlock (r.blocks d)
        (newBlock numSamples reps period)) (r.blocks d).replayBlocks.length 0
        (newBlock numSamples reps period) s) by
      rw [blocks_setBlocks, recordOffset_concat rfl, toNat_ofNat_of_lt hs, offsetOf,
        Nat.zero_mul, Nat.add_zero])
  rw [streamCommands_setBlocks] at hissue
  rw [recordBlock, bind_of_ok hrecord, bind_of_ok hissue]
  rfl

/-- When a block is recorded, and what is issued then. -/
theorem recordBlock_eq_ok_iff {r r' : ReplayBlockConfig} {d : Direction}
    {numSamples reps period numBytes : UInt64} {answers : ReplayAnswers} :
    recordBlock d numSamples reps period numBytes answers r = .ok () r' ↔
      (r.blocks d).RecordAccepted (newBlock numSamples reps period) ∧
        clearRecordingBuffer answers
          (r.recorded d (newBlock numSamples reps period) numBytes) = .ok () r' := by
  constructor
  · intro h
    obtain ⟨_, _, hrecord, -⟩ := bind_eq_ok_iff.mp h
    obtain ⟨_, hok, -⟩ := onField_eq_ok_iff.mp hrecord
    have haccepted := (recordNewBlock_eq_ok_iff.mp hok).1
    rw [recordBlock_of_accepted haccepted] at h
    exact ⟨haccepted, h⟩
  · rintro ⟨haccepted, h⟩
    rw [recordBlock_of_accepted haccepted]
    exact h

/-- A block the tracker rejects is not heard of by the replay block. -/
theorem recordBlock_of_error {r : ReplayBlockConfig} {d : Direction}
    {numSamples reps period : UInt64} {t' : BlockOffsetTracker} {e : Fault}
    (h : recordNewBlock numSamples reps period (r.blocks d) = .error e t') (numBytes : UInt64)
    (answers : ReplayAnswers) :
    recordBlock d numSamples reps period numBytes answers r = .error e (r.setBlocks d t') := by
  have hfield : onField (fun r => r.blocks d) (setBlocks d)
      (recordNewBlock numSamples reps period) r = .error e (r.setBlocks d t') :=
    onField_of_error h
  rw [recordBlock, bind_of_error hfield]

/-- The errors of a record call: those of the tracker, if the buffer can be cleared. -/
theorem recordBlock_eq_error {r r' : ReplayBlockConfig} {d : Direction}
    {numSamples reps period numBytes : UInt64} {answers : ReplayAnswers} {e : Fault}
    (hclearable : Clearable answers)
    (h : recordBlock d numSamples reps period numBytes answers r = .error e r') :
    ∃ t', recordNewBlock numSamples reps period (r.blocks d) = .error e t' := by
  cases hrecord : recordNewBlock numSamples reps period (r.blocks d) with
  | error e' t' =>
      rw [recordBlock_of_error hrecord] at h
      cases h
      exact ⟨t', rfl⟩
  | ok u t' =>
      rw [recordBlock_of_accepted (recordNewBlock_eq_ok_iff.mp hrecord).1] at h
      obtain ⟨_, hcleared⟩ := clearRounds_of_clearable hclearable
        (r.recorded d (newBlock numSamples reps period) numBytes)
      rw [clearRecordingBuffer, hcleared] at h
      cases h

/-- The `config_play`s of repetition `j` of block `i`. -/
def playCommands (r : ReplayBlockConfig) (d : Direction) (i j : ℕ) (block : ReplayBlock)
    (numBytes : UInt64) : List ReplayCommand :=
  r.streamCommands d (offsetOf (r.blocks d) i j block) fun off s => .configPlay off numBytes s

/-- The offset the tracker computes for a repetition. -/
theorem replayOffset_moveTo {t : BlockOffsetTracker} {i : ℕ} {block : ReplayBlock}
    (h : t.replayBlocks[i]? = some block) (j : ℕ) (s : UInt64) :
    (t.moveTo ((i : ℤ), (j : ℤ))).replayOffset s = .ok (offsetOf t i j block s.toNat) := by
  obtain ⟨hi, rfl⟩ := List.getElem?_eq_some_iff.mp h
  exact replayOffset_eq (t := t.moveTo ((i : ℤ), (j : ℤ))) hi rfl rfl s

/-- The next replay selects repetition `j` of block `i`. -/
structure Selects (t : BlockOffsetTracker) (i j : ℕ) (block : ReplayBlock) : Prop where
  cursor : t.next = ((i : ℤ), (j : ℤ))
  block_eq : t.replayBlocks[i]? = some block
  repetition : j = 0 ∨ (j : ℤ) < intOfSize block.repetitions

/-- With cursors in order, a replay that has something left selects a
repetition of a recorded block. -/
theorem exists_selects {t : BlockOffsetTracker} (hcursor : t.CursorOk) (hnext : t.HasNext) :
    ∃ i j block, Selects t i j block := by
  rcases cursorOk_moveTo_next hcursor hnext with ⟨-, hneg⟩ | ⟨b, hb, hpos, hrep⟩
  · exfalso
    rw [moveTo_currentRepetition] at hneg
    have hnonneg : 0 ≤ t.next.2 := by
      unfold next
      split
      · rename_i hleft
        rcases hcursor with ⟨hreplay, -⟩ | ⟨b, -, hpos, -⟩
        · exact absurd hleft (not_repetitionLeft_of_start hreplay)
        · simp only
          omega
      · exact le_refl _
    omega
  · obtain ⟨i, hi, hget⟩ := block?_eq_some hb
    simp only [moveTo_currentReplay, moveTo_currentRepetition, moveTo_replayBlocks]
      at hi hget hpos hrep
    obtain ⟨j, hj⟩ := Int.eq_ofNat_of_zero_le hpos
    refine ⟨i, j, b, ⟨Prod.ext hi hj, hget, ?_⟩⟩
    rw [hj] at hrep
    exact_mod_cast hrep

/-- **What a replay call does**: the cursors move to the selected repetition, and
its `config_play`s are issued. -/
theorem playBlock_of_selects {r : ReplayBlockConfig} {d : Direction} {i j : ℕ}
    {block : ReplayBlock} (hcount : (r.blocks d).numStreams ≠ 0) (hcursor : (r.blocks d).CursorOk)
    (hnext : (r.blocks d).HasNext) (hselects : Selects (r.blocks d) i j block)
    (numSamples : UInt64) :
    playBlock d numSamples r = .ok ()
      ((r.setBlocks d ((r.blocks d).moveTo ((i : ℤ), (j : ℤ)))).issueAll
        (r.playCommands d i j block (numSamples * SAMPLE_SIZE))) := by
  have hreplay := replayNextBlock_of_cursorOk hcount hcursor numSamples
  rw [if_pos hnext, hselects.cursor] at hreplay
  have hmove : onField (fun r => r.blocks d) (setBlocks d) (replayNextBlock numSamples) r =
      .ok () (r.setBlocks d ((r.blocks d).moveTo ((i : ℤ), (j : ℤ)))) := onField_of_ok hreplay
  have hissue := issueForStreams_eq_ok
    (fun off s => .configPlay off (numSamples * SAMPLE_SIZE) s) (d := d)
    (r := r.setBlocks d ((r.blocks d).moveTo ((i : ℤ), (j : ℤ))))
    (fun s hs => show replayOffset _ _ = .ok (offsetOf (r.blocks d) i j block s) by
      rw [blocks_setBlocks, replayOffset_moveTo hselects.block_eq, toNat_ofNat_of_lt hs])
  rw [streamCommands_setBlocks] at hissue
  rw [playBlock, bind_of_ok hmove, hissue]
  rfl

/-- A playback that returns has selected a repetition of a block. -/
theorem playBlock_eq_ok {r r' : ReplayBlockConfig} {d : Direction} {numSamples : UInt64}
    (hcount : (r.blocks d).numStreams ≠ 0) (hcursor : (r.blocks d).CursorOk)
    (h : playBlock d numSamples r = .ok () r') :
    ∃ i j block, Selects (r.blocks d) i j block ∧ (r.blocks d).HasNext ∧
      r' = (r.setBlocks d ((r.blocks d).moveTo ((i : ℤ), (j : ℤ)))).issueAll
        (r.playCommands d i j block (numSamples * SAMPLE_SIZE)) := by
  have hreplay := replayNextBlock_of_cursorOk hcount hcursor numSamples
  by_cases hnext : (r.blocks d).HasNext
  · obtain ⟨i, j, block, hselects⟩ := exists_selects hcursor hnext
    rw [playBlock_of_selects hcount hcursor hnext hselects] at h
    cases h
    exact ⟨i, j, block, hselects, hnext, rfl⟩
  · rw [if_neg hnext] at hreplay
    have hmove : onField (fun r => r.blocks d) (setBlocks d) (replayNextBlock numSamples) r =
        .error (.usrp .tooManyReplayRequests)
          (r.setBlocks d ((r.blocks d).moveTo (r.blocks d).next)) := onField_of_error hreplay
    rw [playBlock, bind_of_error hmove] at h
    cases h

/-! ### The four calls -/

/-- The bytes one stream of a block takes, as the word `record` is given. -/
def numBytes (block : ReplayBlock) : UInt64 := UInt64.ofNat (block.exactTotal * 4)

theorem newBlock_idem (numSamples reps period : UInt64) :
    newBlock numSamples reps (if period = 0 then numSamples else period) =
      newBlock numSamples reps period := by
  unfold newBlock
  by_cases hzero : period = 0
  · simp [hzero]
  · simp [hzero]

/-- The size passed to the ports is that of the block. -/
theorem numBytes_newBlock (numSamples reps period : UInt64) :
    reps * (if period = 0 then numSamples else period) * SAMPLE_SIZE =
      numBytes (newBlock numSamples reps period) := by
  rw [numBytes, newBlock, ReplayBlock.exactTotal, Nat.mul_comm (UInt64.toNat _) reps.toNat,
    UInt64.ofNat_mul, UInt64.ofNat_mul, UInt64.ofNat_toNat, UInt64.ofNat_toNat]
  rfl

/-- **Inversion of `configReceive`.** -/
theorem configReceive_eq_ok_iff {r r' : ReplayBlockConfig} {numSamples reps period : UInt64}
    {answers : ReplayAnswers} :
    configReceive numSamples reps period answers r = .ok () r' ↔
      r.rxBlocks.RecordAccepted (newBlock numSamples reps period) ∧
        clearRecordingBuffer answers (r.recorded .rx (newBlock numSamples reps period)
          (numBytes (newBlock numSamples reps period))) = .ok () r' := by
  rw [configReceive, recordBlock_eq_ok_iff, numBytes_newBlock, newBlock_idem]
  rfl

/-- **Inversion of `configUpload`.** -/
theorem configUpload_eq_ok_iff {r r' : ReplayBlockConfig} {numSamples : UInt64}
    {answers : ReplayAnswers} :
    configUpload numSamples answers r = .ok () r' ↔
      r.txBlocks.RecordAccepted (newBlock numSamples 1 0) ∧
        clearRecordingBuffer answers (r.recorded .tx (newBlock numSamples 1 0)
          (numBytes (newBlock numSamples 1 0))) = .ok () r' := by
  have hbytes : numSamples * SAMPLE_SIZE = numBytes (newBlock numSamples 1 0) := by
    rw [← numBytes_newBlock, if_pos rfl, UInt64.one_mul]
  rw [configUpload, recordBlock_eq_ok_iff, hbytes]
  rfl

/-! ## Accepted RX configs -/

/-- The sizes and counts that stay fixed between two calls of `setStreamCount`. -/
structure Consistent (r : ReplayBlockConfig) : Prop where
  txStreams : r.txBlocks.numStreams = r.numTxStreams
  rxStreams : r.rxBlocks.numStreams = r.numRxStreams
  txSize : r.txBlocks.memSize = getTxBufferSize r.memSize
  rxSize : r.rxBlocks.memSize = getRxBufferSize r.memSize
  txSample : r.txBlocks.sampleSize = SAMPLE_SIZE
  rxSample : r.rxBlocks.sampleSize = SAMPLE_SIZE

/-- The constructor and `setStreamCount` divide the memory. -/
theorem consistent_make (memSize numTx numRx : UInt64) :
    (setStreamCount numTx numRx (make memSize)).Consistent :=
  ⟨rfl, rfl, rfl, rfl, rfl, rfl⟩

/-- The replay part of one iteration of `rxFunc`: record the config, then compute
the number of samples to receive. -/
def receiveConfig (c : RxStreamingConfig) (answers : ReplayAnswers) : ConfigM UInt64 := do
  configReceive c.wordAlignedNoSamples c.numRepetitions.toUInt64 c.repetitionPeriod.toUInt64
    answers
  reads fun _ => c.totalWordAlignedSamples

/-- A config can be carried out: on a device with streams, whose record buffer can be cleared,
nothing goes wrong apart from a full buffer and repetitions with several streams; and every
`record` gets a whole number of words that is the number of bytes to receive. -/
structure Executable (c : RxStreamingConfig) : Prop where
  errors : ∀ r (answers : ReplayAnswers) e r', r.Consistent → r.numRxStreams ≠ 0 →
    Clearable answers → receiveConfig c answers r = .error e r' →
      e = .usrp .tooManySamplesInBuffer ∨ e = .usrp .multiStreamRepetitions
  recordSize : ∀ r answers n r', r.Consistent → receiveConfig c answers r = .ok n r' →
    ∀ offset size port, .record offset size port ∈ r'.commands.drop r.commands.length →
      size.toNat % (8 * 4) = 0 ∧ size.toNat = 4 * n.toNat

/-- The exact number of samples of one stream of a config. -/
def exactSamples (c : RxStreamingConfig) : ℕ := c.period * c.numRepetitions.toNat

/-- The period is word-aligned even if there is only one repetition, and the
number of samples is the same in the 32 bits of `totalWordAlignedSamples` and in
the 62 bits that count bytes. -/
structure WordAlignedTotal (c : RxStreamingConfig) : Prop where
  period_aligned : c.repetitionPeriod.toNat % 8 = 0
  noPeriod_lt : c.repetitionPeriod = 0 → exactSamples c < 2 ^ 62
  period_lt : c.repetitionPeriod ≠ 0 → exactSamples c % 2 ^ 62 < 2 ^ 32

theorem repetitionPeriod_configBlock (c : RxStreamingConfig) :
    (configBlock c).repetitionPeriod.toNat = c.period := by
  rw [configBlock, newBlock, RxStreamingConfig.period]
  by_cases hzero : c.repetitionPeriod = 0
  · simp [hzero]
  · have hzero' : ¬ c.repetitionPeriod.toUInt64 = 0 := by
      intro h
      apply hzero
      rw [← UInt64.toNat_inj] at h
      exact UInt32.toNat_inj.mp (by simpa using h)
    simp [hzero, hzero']

/-- The samples of an RX config, as those of its block. -/
theorem configBlock_exactTotal (c : RxStreamingConfig) :
    (configBlock c).exactTotal = exactSamples c := by
  rw [ReplayBlock.exactTotal, repetitionPeriod_configBlock, exactSamples]
  exact congrArg _ (UInt32.toNat_toUInt64 _)

/-- When the iteration of the receive thread gets past the replay configuration. -/
theorem receiveConfig_eq_ok_iff {c : RxStreamingConfig} {answers : ReplayAnswers}
    {r r' : ReplayBlockConfig} {n : UInt64} :
    receiveConfig c answers r = .ok n r' ↔
      r.rxBlocks.RecordAccepted (configBlock c) ∧
        clearRecordingBuffer answers (r.recorded .rx (configBlock c) (numBytes (configBlock c))) =
          .ok () r' ∧ c.totalWordAlignedSamples = .ok n := by
  rw [receiveConfig, bind_eq_ok_iff]
  constructor
  · rintro ⟨_, r₁, hreceive, htotal⟩
    obtain ⟨hn, rfl⟩ := reads_eq_ok_iff.mp htotal
    obtain ⟨haccepted, hclear⟩ := configReceive_eq_ok_iff.mp hreceive
    exact ⟨haccepted, hclear, hn⟩
  · rintro ⟨haccepted, hclear, hn⟩
    exact ⟨(), r', configReceive_eq_ok_iff.mpr ⟨haccepted, hclear⟩,
      reads_eq_ok_iff.mpr ⟨hn, rfl⟩⟩

/-- The `record`s among the commands of a record call have the size of its
block. -/
theorem size_of_mem_recorded {r r' : ReplayBlockConfig} {d : Direction} {block : ReplayBlock}
    {bytes : UInt64} {answers : ReplayAnswers}
    (hclear : clearRecordingBuffer answers (r.recorded d block bytes) = .ok () r')
    {offset size : UInt64} {port : ℕ}
    (h : .record offset size port ∈ r'.commands.drop r.commands.length) : size = bytes := by
  obtain ⟨ports, rfl⟩ := clearRecordingBuffer_eq_ok hclear
  rw [recorded, commands_issueAll, commands_issueAll, commands_setBlocks, List.append_assoc,
    List.drop_left, List.mem_append] at h
  rcases h with h | h
  · obtain ⟨s, -, hs⟩ := List.mem_map.mp h
    cases hs
    rfl
  · obtain ⟨p, -, hp⟩ := List.mem_map.mp h
    cases hp

/-- Aligned configs keep the following ones aligned. -/
theorem exactSamples_mod (c : RxStreamingConfig) (haligned : c.repetitionPeriod.toNat % 8 = 0) :
    exactSamples c % 8 = 0 := by
  have hperiod : c.period % 8 = 0 := by
    rw [RxStreamingConfig.period]
    split
    · exact nextMultipleOfWordSize_mod _
    · exact haligned
  rw [exactSamples, Nat.mul_mod, hperiod]
  simp

/-- With an aligned period the number of samples to receive is the exact one,
modulo `2 ^ 64` without a period and modulo `2 ^ 32` with one. -/
theorem totalWordAlignedSamples_eq {c : RxStreamingConfig}
    (haligned : c.repetitionPeriod.toNat % 8 = 0) :
    ∃ n, c.totalWordAlignedSamples = .ok n ∧
      n.toNat = if c.repetitionPeriod = 0 then exactSamples c else exactSamples c % 2 ^ 32 := by
  by_cases hzero : c.repetitionPeriod = 0
  · obtain ⟨n, hn, hval⟩ := RxStreamingConfig.totalWordAlignedSamples_of_noPeriod hzero
    exact ⟨n, hn, by rw [if_pos hzero, hval, exactSamples]⟩
  · refine ⟨_, (RxStreamingConfig.totalWordAlignedSamples_of_period hzero).mpr
      ⟨haligned, rfl⟩, ?_⟩
    rw [if_neg hzero, exactSamples, RxStreamingConfig.period, if_neg hzero,
      UInt32.toNat_toUInt64, UInt32.toNat_mul]

/-- A fresh RX buffer of the largest memory, with the given blocks in it. -/
def largest (blocks : List ReplayBlock) : ReplayBlockConfig :=
  let r := setStreamCount 1 1 (make 0xFFFFFFFFFFFFFFFF)
  { r with rxBlocks := { r.rxBlocks with replayBlocks := blocks } }

theorem consistent_largest (blocks : List ReplayBlock) : (largest blocks).Consistent :=
  ⟨rfl, rfl, rfl, rfl, rfl, rfl⟩

/-- The check against the largest memory wraps. -/
theorem fitsBuffer_largest_iff (blocks : List ReplayBlock) (block : ReplayBlock) :
    (largest blocks).rxBlocks.FitsBuffer block ↔
      (layoutEnd blocks + block.exactTotal) * 4 % 2 ^ 64 < 3 * (2 ^ 62 - 1) := by
  rw [FitsBuffer, exactByteEnd,
    ← show (getRxBufferSize 0xFFFFFFFFFFFFFFFF).toNat = 3 * (2 ^ 62 - 1) from rfl]
  simp [largest, make, setStreamCount, SAMPLE_SIZE, BlockOffsetTracker.make,
    BlockOffsetTracker.setStreamCount]

/-- For every size some buffer of one stream has room: if the size does not fit
an empty one, it wraps to the front of one that holds `2 ^ 61` samples. -/
theorem exists_room (block : ReplayBlock) :
    ∃ blocks, (largest blocks).rxBlocks.FitsBuffer block := by
  by_cases hempty : block.exactTotal * 4 % 2 ^ 64 < 3 * (2 ^ 62 - 1)
  · refine ⟨[], (fitsBuffer_largest_iff _ _).mpr ?_⟩
    rw [layoutEnd_nil, Nat.zero_add]
    exact hempty
  · refine ⟨[⟨0x80000000, 0x40000000, 0x80000000⟩], (fitsBuffer_largest_iff _ _).mpr ?_⟩
    rw [layoutEnd_singleton, show ReplayBlock.exactTotal _ = 2 ^ 61 from rfl]
    omega

theorem not_multiStream_largest (blocks : List ReplayBlock) :
    ¬ 1 < (largest blocks).rxBlocks.numStreams := by
  rw [show (largest blocks).rxBlocks.numStreams = 1 from rfl]
  decide

theorem recordAccepted_largest {blocks : List ReplayBlock} {block : ReplayBlock}
    (hfits : (largest blocks).rxBlocks.FitsBuffer block)
    (hperiod : block.numSamples ≤ block.repetitionPeriod) :
    (largest blocks).rxBlocks.RecordAccepted block :=
  ⟨by rw [show (largest blocks).rxBlocks.numStreams = 1 from rfl]; decide, hperiod,
    fun h => not_multiStream_largest blocks h.2, hfits⟩

/-- An accepted config with an aligned period keeps the word-aligned length
within the period. -/
theorem aligned_le_period {c : RxStreamingConfig} (hlengths : RxLengthsOk c)
    (haligned : c.repetitionPeriod.toNat % 8 = 0) :
    (configBlock c).numSamples ≤ (configBlock c).repetitionPeriod := by
  rw [configBlock, newBlock]
  by_cases hzero : c.repetitionPeriod.toUInt64 = 0
  · simp [hzero]
  · have hne : c.repetitionPeriod ≠ 0 := fun h => hzero (by rw [h]; rfl)
    have hle := hlengths.numSamples_le hne
    rw [if_neg hzero, UInt64.le_iff_toNat_le, RxStreamingConfig.wordAlignedNoSamples_toNat,
      UInt32.toNat_toUInt64]
    omega

/-- The errors that are left for configs that were accepted. -/
theorem receiveConfig_errors {c : RxStreamingConfig} (hlengths : RxLengthsOk c)
    (haligned : c.repetitionPeriod.toNat % 8 = 0) {r r' : ReplayBlockConfig}
    {answers : ReplayAnswers} {e : Fault} (hconsistent : r.Consistent)
    (hstreams : r.numRxStreams ≠ 0) (hclearable : Clearable answers)
    (h : receiveConfig c answers r = .error e r') :
    e = .usrp .tooManySamplesInBuffer ∨ e = .usrp .multiStreamRepetitions := by
  rcases bind_eq_error_iff.mp h with hreceive | ⟨_, r₁, -, hread⟩
  · obtain ⟨t', hrecord⟩ := recordBlock_eq_error hclearable hreceive
    have hcases := (recordNewBlock_eq_error hrecord).2
    rw [newBlock_idem] at hcases
    rcases hcases with ⟨hzero, -⟩ | ⟨hshort, -⟩ | ⟨-, -, he⟩ | ⟨-, he⟩
    · exact absurd (hconsistent.rxStreams.symm.trans hzero) hstreams
    · exact absurd hshort (UInt64.not_lt.mpr (aligned_le_period hlengths haligned))
    · exact Or.inr he
    · exact Or.inl he
  · obtain ⟨n, hn, -⟩ := totalWordAlignedSamples_eq haligned
    rw [reads_eq_error_iff, hn] at hread
    cases hread.1

theorem toNat_numBytes_configBlock (c : RxStreamingConfig) :
    (numBytes (configBlock c)).toNat = 4 * (exactSamples c % 2 ^ 62) := by
  rw [numBytes, UInt64.toNat_ofNat', configBlock_exactTotal]
  omega

/-- The size of the `record`s is that of the received samples exactly when the
two moduli agree on the number of samples. -/
theorem numBytes_eq_iff {c : RxStreamingConfig} {n : UInt64}
    (hn : n.toNat = if c.repetitionPeriod = 0 then exactSamples c else exactSamples c % 2 ^ 32) :
    (numBytes (configBlock c)).toNat = 4 * n.toNat ↔
      (c.repetitionPeriod = 0 → exactSamples c < 2 ^ 62) ∧
        (c.repetitionPeriod ≠ 0 → exactSamples c % 2 ^ 62 < 2 ^ 32) := by
  rw [toNat_numBytes_configBlock, hn]
  by_cases hzero : c.repetitionPeriod = 0
  · simp only [hzero, if_true, forall_const, ne_eq, not_true_eq_false, false_imp_iff, and_true]
    omega
  · simp only [hzero, if_false, false_imp_iff, true_and, ne_eq, not_false_eq_true, forall_const]
    omega

/-- A config that can be carried out never stops because of its period. -/
theorem Executable.error_ne {c : RxStreamingConfig} (h : Executable c) {blocks : List ReplayBlock}
    {e : Fault} {r' : ReplayBlockConfig}
    (hcall : receiveConfig c noFullness (largest blocks) = .error e r') :
    e ≠ .usrp .repetitionPeriodTooSmall ∧ e ≠ .usrp .periodNotWordAligned := by
  have hstreams : (largest blocks).numRxStreams ≠ 0 := by exact (by decide : (1 : UInt64) ≠ 0)
  rcases h.errors _ _ _ _ (consistent_largest blocks) hstreams clearable_noFullness hcall with
    rfl | rfl <;>
    exact ⟨fun he => (nomatch he), fun he => (nomatch he)⟩

/-- If the length exceeded the period, the record call would stop. -/
theorem numSamples_le_of_executable {c : RxStreamingConfig} (h : Executable c) :
    (configBlock c).numSamples ≤ (configBlock c).repetitionPeriod := by
  obtain ⟨blocks, hfits⟩ := exists_room (configBlock c)
  by_contra hperiod
  cases hrecord : recordNewBlock c.wordAlignedNoSamples c.numRepetitions.toUInt64
      (if c.repetitionPeriod.toUInt64 = 0 then c.wordAlignedNoSamples
        else c.repetitionPeriod.toUInt64) (largest blocks).rxBlocks with
  | ok u t' =>
      have haccepted := (recordNewBlock_eq_ok_iff.mp hrecord).1
      rw [newBlock_idem] at haccepted
      exact hperiod haccepted.period
  | error e t' =>
      have hcall : receiveConfig c noFullness (largest blocks) = .error e _ :=
        bind_of_error (recordBlock_of_error (d := .rx) hrecord _ _)
      have hcases := (recordNewBlock_eq_error hrecord).2
      rw [newBlock_idem] at hcases
      -- of the four reasons to stop, only the period is left
      rcases hcases with ⟨hcount, -⟩ | ⟨-, he⟩ | ⟨-, hmulti, -⟩ | ⟨hfull, -⟩
      · cases hcount
      · exact (h.error_ne hcall).1 he
      · exact not_multiStream_largest blocks hmulti
      · exact hfull hfits

/-- If the period were not aligned, the number of samples to receive would be an error. -/
theorem period_aligned_of_executable {c : RxStreamingConfig} (h : Executable c) :
    c.repetitionPeriod.toNat % 8 = 0 := by
  by_contra hunaligned
  have hzero : c.repetitionPeriod ≠ 0 := fun hz => hunaligned (by rw [hz]; rfl)
  obtain ⟨blocks, hfits⟩ := exists_room (configBlock c)
  have hreceive : configReceive c.wordAlignedNoSamples c.numRepetitions.toUInt64
      c.repetitionPeriod.toUInt64 noFullness (largest blocks) = .ok () _ :=
    configReceive_eq_ok_iff.mpr ⟨recordAccepted_largest hfits (numSamples_le_of_executable h),
      clearRecordingBuffer_noFullness _⟩
  cases htotal : c.totalWordAlignedSamples with
  | ok n =>
      exact hunaligned ((RxStreamingConfig.totalWordAlignedSamples_of_period hzero).mp htotal).1
  | error e =>
      have hread (r : ReplayBlockConfig) :
          (reads fun _ => c.totalWordAlignedSamples : ConfigM UInt64) r = .error e r :=
        reads_eq_error_iff.mpr ⟨htotal, rfl⟩
      have hcall : receiveConfig c noFullness (largest blocks) = .error e _ :=
        (bind_of_ok hreceive).trans (hread _)
      exact (h.error_ne hcall).2 (RxStreamingConfig.totalWordAlignedSamples_eq_error htotal)

/-- **Which accepted RX configs can be carried out.**  A config that
`assertValidRxStreamingConfig` accepts is recorded and received without a period
or alignment error, as long as the record buffer can be cleared, and with `record`s
of the size of the received samples, if and only if its period is word-aligned and its
number of samples does not wrap differently in the two computations of the size. -/
theorem executable_iff (prevConfig : Option RxStreamingConfig) (c : RxStreamingConfig)
    (guardOffset fs : ℚ)
    (haccepted : assertValidRxStreamingConfig prevConfig c guardOffset fs = .ok ()) :
    Executable c ↔ WordAlignedTotal c := by
  have hlengths := ((assertValidRxStreamingConfig_eq_ok_iff _ _ _ _).mp haccepted).1
  constructor
  · intro h
    have haligned := period_aligned_of_executable h
    obtain ⟨n, hn, hval⟩ := totalWordAlignedSamples_eq haligned
    obtain ⟨blocks, hfits⟩ := exists_room (configBlock c)
    have hblock := recordAccepted_largest hfits (aligned_le_period hlengths haligned)
    have hclear := clearRecordingBuffer_noFullness
      ((largest blocks).recorded .rx (configBlock c) (numBytes (configBlock c)))
    have hsize := (h.recordSize _ _ _ _ (consistent_largest blocks)
      (receiveConfig_eq_ok_iff.mpr ⟨hblock, hclear, hn⟩) _ _ 0 (List.mem_singleton.mpr rfl)).2
    obtain ⟨hno, hsome⟩ := (numBytes_eq_iff hval).mp hsize
    exact ⟨haligned, hno, hsome⟩
  · rintro ⟨haligned, hno, hsome⟩
    refine ⟨fun r answers e r' hconsistent hstreams hclearable hcall =>
      receiveConfig_errors hlengths haligned hconsistent hstreams hclearable hcall, ?_⟩
    intro r answers n r' hconsistent hcall offset size port hmem
    obtain ⟨-, hclear, htotal⟩ := receiveConfig_eq_ok_iff.mp hcall
    obtain ⟨n', hn', hval⟩ := totalWordAlignedSamples_eq haligned
    rw [htotal] at hn'
    cases hn'
    rw [size_of_mem_recorded hclear hmem]
    refine ⟨?_, (numBytes_eq_iff hval).mpr ⟨hno, hsome⟩⟩
    have hmod := exactSamples_mod c haligned
    rw [toNat_numBytes_configBlock]
    omega

/-- One repetition of 8 samples with a period of 9: accepted, but the number of
samples to receive is an error. -/
theorem unaligned_period_not_executable :
    assertValidRxStreamingConfig none ⟨8, 0, 1, 9, ""⟩ (5 / 100) 245760000 = .ok () ∧
      ¬ Executable ⟨8, 0, 1, 9, ""⟩ := by
  refine ⟨by decide +kernel, fun h => ?_⟩
  have haligned := period_aligned_of_executable h
  revert haligned
  decide

/-- One repetition of 8 samples with a period of 16. -/
theorem executable_example : Executable ⟨8, 0, 1, 16, ""⟩ :=
  (executable_iff none _ (5 / 100) 245760000 (by decide +kernel)).mpr
    ⟨by decide, by decide, by decide⟩

end ReplayBlockConfig

end UsrpWrapper
