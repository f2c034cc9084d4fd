import UsrpWrapper.Config
import UsrpWrapper.Lib.Layout
import UsrpWrapper.Lib.Machine
import Mathlib.Algebra.BigOperators.Group.List.Basic
import Mathlib.Tactic.NormNum
import Mathlib.Tactic.Ring

/-!
# The block offset tracker

`BlockOffsetTracker` (`replay_config.cpp`) hands out the addresses of one half
of the replay memory.  `recordNewBlock` appends a block to a consecutive layout,
with one slot of `repetitionPeriod * repetitions` samples for each stream, and
`replayNextBlock` moves two cursors through the repetitions of the recorded
blocks, in the order in which they were recorded.

The sizes are `size_t`s, so every product and every sum is one modulo `2 ^ 64`;
the cursors are `int`s that start at `-1`, and the code compares them with sizes
converted to `int`.  The vector `replayBlocks_` is read without a bounds check;
`readBlock` makes a read outside of it a `Fault.outOfBounds`.

The file has three layers:

* the class, function by function;
* the exact, unbounded sizes behind the machine words (`layoutEnd`,
  `currentRecordBlockEnd_eq`), with the inversion of `recordNewBlock`;
* the cursors: what a replay does to them (`replayNextBlock_of_cursorOk`) and
  that the failing replays are exactly the steps that break the class
  (`tracker_safe_iff`).
-/

namespace UsrpWrapper

open Lib Lib.Command

/-! ## The class -/

/-- One recorded block; all fields are `size_t`s. -/
structure ReplayBlock where
  numSamples : UInt64
  repetitions : UInt64
  repetitionPeriod : UInt64
  deriving DecidableEq

/-- `ReplayBlock::totalSamples`. -/
def ReplayBlock.totalSamples (b : ReplayBlock) : UInt64 :=
  b.repetitionPeriod * b.repetitions

/-- The conversion of a `size_t` to `int`. -/
def intOfSize (n : UInt64) : ℤ := Int.bmod n.toNat (2 ^ 32)

/-- The book-keeping of one buffer of the replay memory: the blocks recorded so far, in order, and
the two cursors of the playback, which are -1 before the first request. -/
structure BlockOffsetTracker where
  numStreams : UInt64
  memSize : UInt64
  sampleSize : UInt64
  replayBlocks : List ReplayBlock
  currentRepetition : ℤ
  currentReplay : ℤ
  deriving DecidableEq

/-- A member function of the tracker. -/
abbrev TrackerM := EStateM Fault BlockOffsetTracker

namespace BlockOffsetTracker

/-- `BlockOffsetTracker::reset`. -/
def reset (t : BlockOffsetTracker) : BlockOffsetTracker :=
  { t with replayBlocks := [], currentRepetition := -1, currentReplay := -1 }

/-- `BlockOffsetTracker::setStreamCount`. -/
def setStreamCount (streamCount : UInt64) (t : BlockOffsetTracker) : BlockOffsetTracker :=
  { t with numStreams := streamCount }

/-- The constructor. -/
def make (memSize sampleSize : UInt64) : BlockOffsetTracker :=
  { numStreams := 0, memSize, sampleSize, replayBlocks := [],
    currentRepetition := -1, currentReplay := -1 }

/-- `checkStreamCount`: the stream count has been set. -/
def checkStreamCount : TrackerM Unit :=
  reads fun t => check (t.numStreams = 0) (.usrp .streamCountNotSet)

/-- `samplesToByteOffset`, modulo 2^64 like all sizes of the tracker. -/
def byteOffset (t : BlockOffsetTracker) (samplesOffset : UInt64) : UInt64 :=
  samplesOffset * t.sampleSize

/-- The samples of all streams in the blocks before the last one. -/
def currentRecordBlockStart (t : BlockOffsetTracker) : UInt64 :=
  t.replayBlocks.dropLast.foldl (fun off b => off + b.totalSamples * t.numStreams) 0

/-- The samples the last block holds for one stream; none without a block. -/
def currentRecordBlockLength (t : BlockOffsetTracker) : UInt64 :=
  match t.replayBlocks.getLast? with
  | none => 0
  | some b => b.totalSamples

/-- Where the next block would start. -/
def currentRecordBlockEnd (t : BlockOffsetTracker) : UInt64 :=
  t.currentRecordBlockStart + t.numStreams * t.currentRecordBlockLength

/-- `recordNewBlock`. -/
def recordNewBlock (numSamples numRepetitions repetitionPeriod : UInt64) : TrackerM Unit := do
  checkStreamCount
  let repetitionPeriod := if repetitionPeriod = 0 then numSamples else repetitionPeriod
  reads fun t => do
    check (repetitionPeriod < numSamples) (.usrp .repetitionPeriodTooSmall)
    check (1 < numRepetitions ∧ 1 < t.numStreams) (.usrp .multiStreamRepetitions)
  let block : ReplayBlock := ⟨numSamples, numRepetitions, repetitionPeriod⟩
  reads fun t =>
    check (t.memSize ≤
        t.byteOffset (t.currentRecordBlockEnd + block.totalSamples * t.numStreams))
      (.usrp .tooManySamplesInBuffer)
  modify fun t => { t with replayBlocks := t.replayBlocks ++ [block] }

/-- `replayBlocks_[i]` for an `int` index. -/
def block? (t : BlockOffsetTracker) (i : ℤ) : Option ReplayBlock :=
  if i < 0 then none else t.replayBlocks[i.toNat]?

/-- The unchecked read `replayBlocks_[i]`. -/
def readBlock (t : BlockOffsetTracker) (i : ℤ) : Except Fault ReplayBlock :=
  match t.block? i with
  | some b => .ok b
  | none => .error .outOfBounds

/-- `repsInCurrentBlock` of `replayNextBlock`. -/
def repsInCurrentBlock (t : BlockOffsetTracker) : Except Fault ℤ :=
  if 0 ≤ t.currentReplay then do
    let b ← t.readBlock t.currentReplay
    return intOfSize b.repetitions
  else return 0

/-- `replayNextBlock`; its argument is not used by the source either.  Both
cursors are advanced before the check for exhaustion. -/
def replayNextBlock (_numSamples : UInt64) : TrackerM Unit := do
  checkStreamCount
  modify fun t => { t with currentRepetition := t.currentRepetition + 1 }
  let reps ← reads repsInCurrentBlock
  modify fun t =>
    if reps ≤ t.currentRepetition then
      { t with currentReplay := t.currentReplay + 1, currentRepetition := 0 }
    else t
  reads fun t =>
    check (intOfSize (UInt64.ofNat t.replayBlocks.length) ≤ t.currentReplay)
      (.usrp .tooManyReplayRequests)

/-- `recordOffset`: where a stream records in the last block. -/
def recordOffset (t : BlockOffsetTracker) (streamIdx : UInt64) : Except Fault UInt64 := do
  check (t.replayBlocks.length = 0) (.usrp .recordingNotStarted)
  return t.byteOffset (t.currentRecordBlockStart + t.currentRecordBlockLength * streamIdx)

/-- The loop of `replayOffset` over the blocks before the current one. -/
def replayOffsetBefore (t : BlockOffsetTracker) : ℕ → Except Fault UInt64
  | 0 => return 0
  | i + 1 => do
      let off ← replayOffsetBefore t i
      let b ← t.readBlock i
      return off + b.totalSamples * t.numStreams

/-- `replayOffset`: where a stream of the current repetition starts in the current block. -/
def replayOffset (t : BlockOffsetTracker) (streamIdx : UInt64) : Except Fault UInt64 := do
  check (t.currentRepetition = -1) (.usrp .replayingNotStarted)
  let offsetBefore ← t.replayOffsetBefore t.currentReplay.toNat
  let currentBlock ← t.readBlock t.currentReplay
  let offsetBefore :=
    offsetBefore + UInt64.ofInt t.currentRepetition * currentBlock.repetitionPeriod
  return t.byteOffset (offsetBefore + currentBlock.totalSamples * streamIdx)

end BlockOffsetTracker

/-! ## Exact sizes -/

/-- The number of samples a block holds for one stream, without a wrap. -/
def ReplayBlock.exactTotal (b : ReplayBlock) : ℕ :=
  b.repetitionPeriod.toNat * b.repetitions.toNat

/-- The code computes the exact size modulo 2^64. -/
theorem ReplayBlock.totalSamples_eq (b : ReplayBlock) :
    b.totalSamples = UInt64.ofNat b.exactTotal := by
  rw [totalSamples, exactTotal, UInt64.ofNat_mul, UInt64.ofNat_toNat, UInt64.ofNat_toNat]

/-- The sizes of the blocks, as the items of a consecutive layout. -/
def blockSizes (blocks : List ReplayBlock) : List ℕ := blocks.map ReplayBlock.exactTotal

@[simp] theorem blockSizes_length (blocks : List ReplayBlock) :
    (blockSizes blocks).length = blocks.length := by
  simp [blockSizes]

@[simp] theorem blockSizes_append (blocks more : List ReplayBlock) :
    blockSizes (blocks ++ more) = blockSizes blocks ++ blockSizes more := by
  simp [blockSizes]

/-- The exact number of samples for one stream in a list of blocks. -/
def layoutEnd (blocks : List ReplayBlock) : ℕ := (blockSizes blocks).sum

@[simp] theorem layoutEnd_nil : layoutEnd [] = 0 := rfl

/-- Blocks are laid out one after the other. -/
theorem layoutEnd_append (blocks more : List ReplayBlock) :
    layoutEnd (blocks ++ more) = layoutEnd blocks + layoutEnd more := by
  simp [layoutEnd]

@[simp] theorem layoutEnd_singleton (b : ReplayBlock) : layoutEnd [b] = b.exactTotal := by
  simp [layoutEnd, blockSizes]

namespace BlockOffsetTracker

/-- The sum the offset loops compute, as a word. -/
theorem foldl_totalSamples (n : UInt64) (blocks : List ReplayBlock) (before : ℕ) :
    blocks.foldl (fun off b => off + b.totalSamples * n) (UInt64.ofNat before) =
      UInt64.ofNat (before + layoutEnd blocks * n.toNat) := by
  induction blocks generalizing before with
  | nil => simp
  | cons b blocks ih =>
      have hb : UInt64.ofNat before + b.totalSamples * n =
          UInt64.ofNat (before + b.exactTotal * n.toNat) := by
        rw [b.totalSamples_eq, UInt64.ofNat_add, UInt64.ofNat_mul, UInt64.ofNat_toNat]
      rw [List.foldl_cons, hb, ih]
      congr 1
      rw [show b :: blocks = [b] ++ blocks from rfl, layoutEnd_append, layoutEnd_singleton]
      ring

/-- The loop over the blocks before the last one is a sum, modulo 2^64. -/
theorem currentRecordBlockStart_eq (t : BlockOffsetTracker) :
    t.currentRecordBlockStart =
      UInt64.ofNat (layoutEnd t.replayBlocks.dropLast * t.numStreams.toNat) := by
  have h := foldl_totalSamples t.numStreams t.replayBlocks.dropLast 0
  rw [Nat.zero_add] at h
  exact h

/-- The end of the recorded layout is the exact end, modulo `2 ^ 64`. -/
theorem currentRecordBlockEnd_eq (t : BlockOffsetTracker) :
    t.currentRecordBlockEnd =
      UInt64.ofNat (layoutEnd t.replayBlocks * t.numStreams.toNat) := by
  rw [currentRecordBlockEnd, currentRecordBlockStart_eq, currentRecordBlockLength]
  rcases List.eq_nil_or_concat t.replayBlocks with hnil | ⟨blocks, b, hconcat⟩
  · simp [hnil]
  · rw [List.concat_eq_append] at hconcat
    rw [hconcat, List.getLast?_concat, List.dropLast_concat]
    simp only [b.totalSamples_eq, layoutEnd_append, layoutEnd_singleton]
    rw [Nat.add_mul, UInt64.ofNat_add, UInt64.ofNat_mul b.exactTotal, UInt64.ofNat_toNat,
      UInt64.mul_comm]

/-- The exact byte end of the layout once a block is appended: the sum of
`period * repetitions * streams * sample size`. -/
def exactByteEnd (t : BlockOffsetTracker) (block : ReplayBlock) : ℕ :=
  (layoutEnd t.replayBlocks + block.exactTotal) * t.numStreams.toNat * t.sampleSize.toNat

/-- The value `recordNewBlock` compares with the buffer size. -/
theorem byteOffset_recordEnd (t : BlockOffsetTracker) (block : ReplayBlock) :
    t.byteOffset (t.currentRecordBlockEnd + block.totalSamples * t.numStreams) =
      UInt64.ofNat (t.exactByteEnd block) := by
  rw [byteOffset, currentRecordBlockEnd_eq, block.totalSamples_eq, exactByteEnd, Nat.add_mul,
    UInt64.ofNat_mul _ t.sampleSize.toNat, UInt64.ofNat_add, UInt64.ofNat_mul block.exactTotal]
  simp only [UInt64.ofNat_toNat]

/-- The block `recordNewBlock` stores; a period of `0` means the block length. -/
def newBlock (numSamples numRepetitions repetitionPeriod : UInt64) : ReplayBlock :=
  ⟨numSamples, numRepetitions,
    if repetitionPeriod = 0 then numSamples else repetitionPeriod⟩

/-- The capacity check of `recordNewBlock`, on the machine word. -/
def FitsBuffer (t : BlockOffsetTracker) (block : ReplayBlock) : Prop :=
  t.exactByteEnd block % 2 ^ 64 < t.memSize.toNat

instance (t : BlockOffsetTracker) (block : ReplayBlock) : Decidable (t.FitsBuffer block) :=
  inferInstanceAs (Decidable (_ < _))

/-- The requests `recordNewBlock` accepts. -/
structure RecordAccepted (t : BlockOffsetTracker) (block : ReplayBlock) : Prop where
  streamCount : t.numStreams ≠ 0
  period : block.numSamples ≤ block.repetitionPeriod
  singleStream : ¬ (1 < block.repetitions ∧ 1 < t.numStreams)
  fits : t.FitsBuffer block

theorem fitsBuffer_iff (t : BlockOffsetTracker) (block : ReplayBlock) :
    t.FitsBuffer block ↔ ¬ t.memSize ≤
      t.byteOffset (t.currentRecordBlockEnd + block.totalSamples * t.numStreams) := by
  rw [byteOffset_recordEnd, UInt64.le_iff_toNat_le, UInt64.toNat_ofNat', FitsBuffer]
  omega

/-- **Inversion of `recordNewBlock`.**  It returns exactly on the accepted
requests, and then all it does is append the block. -/
theorem recordNewBlock_eq_ok_iff {t t' : BlockOffsetTracker} {numSamples reps period : UInt64} :
    recordNewBlock numSamples reps period t = .ok () t' ↔
      t.RecordAccepted (newBlock numSamples reps period) ∧
        t' = { t with
          replayBlocks := t.replayBlocks ++ [newBlock numSamples reps period] } := by
  unfold recordNewBlock checkStreamCount
  simp only [bind_eq_ok_iff, reads_eq_ok_iff, check_bind_eq_ok_iff, check_eq_ok_iff,
    modify_apply, EStateM.Result.ok.injEq, ← fitsBuffer_iff]
  constructor
  · rintro ⟨_, _, ⟨hcount, rfl⟩, _, _, ⟨⟨hperiod, hsingle⟩, rfl⟩, _, _, ⟨hfits, rfl⟩, -, rfl⟩
    exact ⟨⟨hcount, UInt64.not_lt.mp hperiod, hsingle, hfits⟩, rfl⟩
  · rintro ⟨⟨hcount, hperiod, hsingle, hfits⟩, rfl⟩
    exact ⟨(), t, ⟨hcount, rfl⟩, (), t, ⟨⟨UInt64.not_lt.mpr hperiod, hsingle⟩, rfl⟩, (), t,
      ⟨hfits, rfl⟩, trivial, rfl⟩

/-- A request that is not accepted leaves the tracker as it was, and the error
says which check failed. -/
theorem recordNewBlock_eq_error {t t' : BlockOffsetTracker} {numSamples reps period : UInt64}
    {e : Fault} (h : recordNewBlock numSamples reps period t = .error e t') :
    t' = t ∧
      (t.numStreams = 0 ∧ e = .usrp .streamCountNotSet ∨
        (newBlock numSamples reps period).repetitionPeriod < numSamples ∧
          e = .usrp .repetitionPeriodTooSmall ∨
        1 < reps ∧ 1 < t.numStreams ∧ e = .usrp .multiStreamRepetitions ∨
        ¬ t.FitsBuffer (newBlock numSamples reps period) ∧
          e = .usrp .tooManySamplesInBuffer) := by
  unfold recordNewBlock checkStreamCount at h
  rw [bind_eq_error_iff] at h
  rcases h with h | ⟨_, _, hok, h⟩
  · obtain ⟨hbad, rfl⟩ := reads_eq_error_iff.mp h
    obtain ⟨hcount, rfl⟩ := check_eq_error_iff.mp hbad
    exact ⟨rfl, Or.inl ⟨hcount, rfl⟩⟩
  obtain ⟨-, rfl⟩ := reads_eq_ok_iff.mp hok
  rw [bind_eq_error_iff] at h
  rcases h with h | ⟨_, _, hok, h⟩
  · obtain ⟨hbad, rfl⟩ := reads_eq_error_iff.mp h
    refine ⟨rfl, Or.inr ?_⟩
    by_cases hperiod : (newBlock numSamples reps period).repetitionPeriod < numSamples
    · have hperiod' : (if period = 0 then numSamples else period) < numSamples := hperiod
      simp only [check, hperiod', if_true, bind, Except.bind, Except.error.injEq] at hbad
      exact Or.inl ⟨hperiod, hbad.symm⟩
    · have hperiod' : ¬ (if period = 0 then numSamples else period) < numSamples := hperiod
      simp only [check, hperiod', if_false, bind, Except.bind] at hbad
      obtain ⟨⟨hreps, hstreams⟩, rfl⟩ := check_eq_error_iff.mp hbad
      exact Or.inr (Or.inl ⟨hreps, hstreams, rfl⟩)
  obtain ⟨-, rfl⟩ := reads_eq_ok_iff.mp hok
  rw [bind_eq_error_iff] at h
  rcases h with h | ⟨_, _, hok, h⟩
  · obtain ⟨hbad, rfl⟩ := reads_eq_error_iff.mp h
    obtain ⟨hfull, rfl⟩ := check_eq_error_iff.mp hbad
    exact ⟨rfl, Or.inr (Or.inr (Or.inr ⟨fun hfits => (fitsBuffer_iff _ _).mp hfits hfull, rfl⟩))⟩
  · rw [modify_apply] at h
    cases h

/-! ## Offsets -/

/-- The exact sample offset of stream `s` in block `i` of the layout. -/
def slotStart (t : BlockOffsetTracker) (i : ℕ) (b : ReplayBlock) (s : ℕ) : ℕ :=
  Layout.start (blockSizes t.replayBlocks) i * t.numStreams.toNat + b.exactTotal * s

/-- A block starts where those before it end. -/
theorem start_blockSizes (blocks : List ReplayBlock) (i : ℕ) :
    Layout.start (blockSizes blocks) i = layoutEnd (blocks.take i) := by
  simp [Layout.start, blockSizes, layoutEnd, List.map_take]

/-- `recordOffset` is the slot of the last recorded block. -/
theorem recordOffset_concat {t : BlockOffsetTracker} {blocks : List ReplayBlock}
    {b : ReplayBlock} (h : t.replayBlocks = blocks ++ [b]) (s : UInt64) :
    t.recordOffset s =
      .ok (UInt64.ofNat (t.slotStart blocks.length b s.toNat * t.sampleSize.toNat)) := by
  have hstart : Layout.start (blockSizes t.replayBlocks) blocks.length = layoutEnd blocks := by
    rw [start_blockSizes, h, List.take_left]
  rw [recordOffset, check_bind_eq_ok_iff]
  refine ⟨by simp [h], ?_⟩
  rw [byteOffset, currentRecordBlockStart_eq, currentRecordBlockLength, slotStart, hstart]
  simp only [h, List.getLast?_concat, List.dropLast_concat, b.totalSamples_eq]
  rw [UInt64.ofNat_mul _ t.sampleSize.toNat, UInt64.ofNat_add, UInt64.ofNat_mul b.exactTotal]
  simp only [UInt64.ofNat_toNat]
  rfl

theorem block?_natCast (t : BlockOffsetTracker) (i : ℕ) :
    t.block? i = t.replayBlocks[i]? := by
  simp [block?]

theorem readBlock_natCast {t : BlockOffsetTracker} {i : ℕ} (h : i < t.replayBlocks.length) :
    t.readBlock i = .ok t.replayBlocks[i] := by
  rw [readBlock, block?_natCast, List.getElem?_eq_getElem h]

/-- The loop of `replayOffset` is a sum, modulo 2^64. -/
theorem replayOffsetBefore_eq {t : BlockOffsetTracker} {i : ℕ}
    (h : i ≤ t.replayBlocks.length) :
    t.replayOffsetBefore i =
      .ok (UInt64.ofNat (Layout.start (blockSizes t.replayBlocks) i * t.numStreams.toNat)) := by
  induction i with
  | zero => simp [replayOffsetBefore, pure, Except.pure]
  | succ i ih =>
      have hi : i < t.replayBlocks.length := h
      have hsize : i < (blockSizes t.replayBlocks).length := by simpa using hi
      rw [replayOffsetBefore, ih hi.le, readBlock_natCast hi, Layout.start_succ hsize, Nat.add_mul,
        UInt64.ofNat_add, UInt64.ofNat_mul (blockSizes t.replayBlocks)[i], UInt64.ofNat_toNat]
      simp [blockSizes, ReplayBlock.totalSamples_eq, bind, Except.bind, pure, Except.pure]

theorem ofInt_natCast (j : ℕ) : UInt64.ofInt j = UInt64.ofNat j := by
  apply UInt64.toNat_inj.mp
  simp only [UInt64.ofInt, UInt64.toNat_ofNat']
  omega

/-- `replayOffset` is the slot of the current block, moved by the repetitions
before the current one. -/
theorem replayOffset_eq {t : BlockOffsetTracker} {i j : ℕ} (hi : i < t.replayBlocks.length)
    (hreplay : t.currentReplay = i) (hrepetition : t.currentRepetition = j) (s : UInt64) :
    t.replayOffset s =
      .ok (UInt64.ofNat ((t.slotStart i t.replayBlocks[i] s.toNat +
        j * t.replayBlocks[i].repetitionPeriod.toNat) * t.sampleSize.toNat)) := by
  rw [replayOffset, check_bind_eq_ok_iff]
  refine ⟨by omega, ?_⟩
  rw [hreplay, Int.toNat_natCast, replayOffsetBefore_eq hi.le, readBlock_natCast hi, hrepetition]
  simp only [bind, Except.bind, pure, Except.pure, Except.ok.injEq]
  rw [byteOffset, slotStart, ReplayBlock.totalSamples_eq, Nat.add_right_comm,
    UInt64.ofNat_mul _ t.sampleSize.toNat, UInt64.ofNat_add, UInt64.ofNat_add,
    UInt64.ofNat_mul j, UInt64.ofNat_mul (ReplayBlock.exactTotal _), ofInt_natCast]
  simp only [UInt64.ofNat_toNat]

/-! ## Cursors -/

/-- A count below `2 ^ 31` survives the conversion to `int`. -/
theorem intOfSize_of_lt {n : UInt64} (h : n.toNat < 2 ^ 31) : intOfSize n = n.toNat :=
  Int.bmod_eq_of_le (by omega) (by omega)

theorem intOfSize_lt (n : UInt64) : intOfSize n < 2 ^ 31 := by
  have h : intOfSize n < (((2 ^ 32 : ℕ) : ℤ) + 1) / 2 := Int.bmod_lt (Nat.two_pow_pos 32)
  norm_num at h ⊢
  exact h

/-- The conversion does not enlarge a number. -/
theorem intOfSize_le (n : UInt64) : intOfSize n ≤ n.toNat := by
  rcases Nat.lt_or_ge n.toNat (2 ^ 31) with h | h
  · exact (intOfSize_of_lt h).le
  · have hlt := intOfSize_lt n
    omega

/-- The current block has a repetition that was not replayed yet. -/
def RepetitionLeft (t : BlockOffsetTracker) : Prop :=
  match t.block? t.currentReplay with
  | none => False
  | some b => t.currentRepetition + 1 < intOfSize b.repetitions

instance (t : BlockOffsetTracker) : Decidable t.RepetitionLeft :=
  match h : t.block? t.currentReplay with
  | none => isFalse (by simp [RepetitionLeft, h])
  | some b => decidable_of_iff (t.currentRepetition + 1 < intOfSize b.repetitions)
      (by simp [RepetitionLeft, h])

/-- Block and repetition of the next replay. -/
def next (t : BlockOffsetTracker) : ℤ × ℤ :=
  if t.RepetitionLeft then (t.currentReplay, t.currentRepetition + 1)
  else (t.currentReplay + 1, 0)

/-- The tracker with its cursors moved. -/
def moveTo (t : BlockOffsetTracker) (cursor : ℤ × ℤ) : BlockOffsetTracker :=
  { t with currentReplay := cursor.1, currentRepetition := cursor.2 }

@[simp] theorem moveTo_currentReplay (t : BlockOffsetTracker) (c : ℤ × ℤ) :
    (t.moveTo c).currentReplay = c.1 := rfl

@[simp] theorem moveTo_currentRepetition (t : BlockOffsetTracker) (c : ℤ × ℤ) :
    (t.moveTo c).currentRepetition = c.2 := rfl

@[simp] theorem moveTo_replayBlocks (t : BlockOffsetTracker) (c : ℤ × ℤ) :
    (t.moveTo c).replayBlocks = t.replayBlocks := rfl

@[simp] theorem moveTo_numStreams (t : BlockOffsetTracker) (c : ℤ × ℤ) :
    (t.moveTo c).numStreams = t.numStreams := rfl

@[simp] theorem block?_moveTo (t : BlockOffsetTracker) (c : ℤ × ℤ) (i : ℤ) :
    (t.moveTo c).block? i = t.block? i := rfl

/-- A repetition of the current block, or a recorded block after it, is left to
replay. -/
def HasNext (t : BlockOffsetTracker) : Prop :=
  t.next.1 < intOfSize (UInt64.ofNat t.replayBlocks.length)

instance (t : BlockOffsetTracker) : Decidable t.HasNext := inferInstanceAs (Decidable (_ < _))

/-- The cursors are at their start, or select a repetition of a recorded block.
The first repetition of a block is replayed even if its count, as an `int`, is
not positive. -/
def CursorOk (t : BlockOffsetTracker) : Prop :=
  t.currentReplay = -1 ∧ t.currentRepetition = -1 ∨
    ∃ b, t.block? t.currentReplay = some b ∧ 0 ≤ t.currentRepetition ∧
      (t.currentRepetition = 0 ∨ t.currentRepetition < intOfSize b.repetitions)

/-- A cursor that reads a block is not negative. -/
theorem block?_eq_some {t : BlockOffsetTracker} {i : ℤ} {b : ReplayBlock}
    (h : t.block? i = some b) : ∃ n : ℕ, i = n ∧ t.replayBlocks[n]? = some b := by
  unfold block? at h
  split at h
  · cases h
  · exact ⟨i.toNat, by omega, h⟩

/-- The comparison of `replayNextBlock`. -/
theorem repetitionLeft_iff {t : BlockOffsetTracker} {b : ReplayBlock}
    (h : t.block? t.currentReplay = some b) :
    t.RepetitionLeft ↔ t.currentRepetition + 1 < intOfSize b.repetitions := by
  simp [RepetitionLeft, h]

theorem not_repetitionLeft_of_start {t : BlockOffsetTracker} (h : t.currentReplay = -1) :
    ¬ t.RepetitionLeft := by
  simp [RepetitionLeft, block?, h]

/-- **What a replay does.**  From cursors in order, `replayNextBlock` moves them
to the next repetition, and it throws afterwards if there is none. -/
theorem replayNextBlock_of_cursorOk {t : BlockOffsetTracker} (hcount : t.numStreams ≠ 0)
    (hcursor : t.CursorOk) (numSamples : UInt64) :
    replayNextBlock numSamples t =
      if t.HasNext then .ok () (t.moveTo t.next)
      else .error (.usrp .tooManyReplayRequests) (t.moveTo t.next) := by
  have hcheck : checkStreamCount t = .ok () t := by
    rw [checkStreamCount, reads_eq_ok_iff]
    exact ⟨check_eq_ok_iff.mpr hcount, rfl⟩
  -- both cursor states lead to the same two moves, with the count of the block read in between
  have hmove : ∃ reps : ℤ,
      repsInCurrentBlock { t with currentRepetition := t.currentRepetition + 1 } = .ok reps ∧
        (t.RepetitionLeft ↔ ¬ reps ≤ t.currentRepetition + 1) := by
    rcases hcursor with ⟨hreplay, hrepetition⟩ | ⟨b, hb, hpos, -⟩
    · refine ⟨0, ?_, ?_⟩
      · simp [repsInCurrentBlock, hreplay]
        rfl
      · simp [not_repetitionLeft_of_start hreplay, hrepetition]
    · refine ⟨intOfSize b.repetitions, ?_, ?_⟩
      · obtain ⟨n, hn, -⟩ := block?_eq_some hb
        have hread : readBlock { t with currentRepetition := t.currentRepetition + 1 }
            t.currentReplay = .ok b := by
          rw [readBlock, show block? { t with currentRepetition := t.currentRepetition + 1 }
            t.currentReplay = some b from hb]
        rw [repsInCurrentBlock, if_pos (show 0 ≤ t.currentReplay by omega), hread]
        rfl
      · rw [repetitionLeft_iff hb]
        omega
  obtain ⟨reps, hreps, hleft⟩ := hmove
  rw [replayNextBlock, bind_of_ok hcheck, bind_of_ok (modify_apply _ _),
    bind_of_ok (reads_eq_ok_iff.mpr ⟨hreps, rfl⟩), bind_of_ok (modify_apply _ _)]
  have hstate : (if reps ≤ t.currentRepetition + 1 then
        { t with currentReplay := t.currentReplay + 1, currentRepetition := 0 }
      else { t with currentRepetition := t.currentRepetition + 1 }) = t.moveTo t.next := by
    by_cases hle : reps ≤ t.currentRepetition + 1
    · rw [if_pos hle, moveTo, next, if_neg (by rw [hleft]; exact not_not_intro hle)]
    · rw [if_neg hle, moveTo, next, if_pos (hleft.mpr hle)]
  rw [hstate]
  by_cases hnext : t.HasNext
  · rw [if_pos hnext, reads_eq_ok_iff]
    exact ⟨check_eq_ok_iff.mpr (not_le.mpr hnext), rfl⟩
  · rw [if_neg hnext, reads_eq_error_iff]
    exact ⟨check_eq_error_iff.mpr ⟨not_lt.mp hnext, rfl⟩, rfl⟩

/-- A replay that has a next repetition leaves the cursors in order. -/
theorem cursorOk_moveTo_next {t : BlockOffsetTracker} (hcursor : t.CursorOk)
    (hnext : t.HasNext) : (t.moveTo t.next).CursorOk := by
  right
  by_cases hleft : t.RepetitionLeft
  · rcases hcursor with ⟨hreplay, -⟩ | ⟨b, hb, hpos, -⟩
    · exact absurd hleft (not_repetitionLeft_of_start hreplay)
    · refine ⟨b, ?_, ?_, Or.inr ?_⟩
      · simpa [next, hleft] using hb
      · simp only [moveTo_currentRepetition, next, hleft, if_true]
        omega
      · simpa [next, hleft] using (repetitionLeft_iff hb).mp hleft
  · have hlt : t.currentReplay + 1 < (t.replayBlocks.length : ℤ) := by
      have h := hnext
      rw [HasNext, next, if_neg hleft] at h
      have hle := intOfSize_le (UInt64.ofNat t.replayBlocks.length)
      rw [UInt64.toNat_ofNat'] at hle
      have hmod := Nat.mod_le t.replayBlocks.length (2 ^ 64)
      exact lt_of_lt_of_le h (hle.trans (by exact_mod_cast hmod))
    have hge : -1 ≤ t.currentReplay := by
      rcases hcursor with ⟨hreplay, -⟩ | ⟨b, hb, -⟩
      · omega
      · obtain ⟨n, hn, -⟩ := block?_eq_some hb
        omega
    obtain ⟨n, hn⟩ : ∃ n : ℕ, t.currentReplay + 1 = n := ⟨(t.currentReplay + 1).toNat, by omega⟩
    have hlen : n < t.replayBlocks.length := by omega
    refine ⟨t.replayBlocks[n], ?_, ?_, Or.inl ?_⟩
    · simp only [block?_moveTo, moveTo_currentReplay, next, hleft, if_false, hn]
      exact (block?_natCast t n).trans (List.getElem?_eq_getElem hlen)
    · simp [next, hleft]
    · simp [next, hleft]

/-- A replay always changes the cursors. -/
theorem moveTo_next_ne {t : BlockOffsetTracker} : t.moveTo t.next ≠ t := by
  intro h
  by_cases hleft : t.RepetitionLeft
  · have hrep := congrArg currentRepetition h
    simp only [moveTo_currentRepetition, next, hleft, if_true] at hrep
    omega
  · have hrep := congrArg currentReplay h
    simp only [moveTo_currentReplay, next, hleft, if_false] at hrep
    omega

/-! ## Every sequence of calls -/

/-- The calls of the public interface. -/
inductive Op where
  | setStreamCount (streamCount : UInt64)
  | reset
  | recordNewBlock (numSamples numRepetitions repetitionPeriod : UInt64)
  | replayNextBlock (numSamples : UInt64)
  | recordOffset (streamIdx : UInt64)
  | replayOffset (streamIdx : UInt64)

/-- Perform a call; the offset functions return a number, which is dropped. -/
def Op.apply : Op → TrackerM Unit
  | .setStreamCount n => modify (BlockOffsetTracker.setStreamCount n)
  | .reset => modify BlockOffsetTracker.reset
  | .recordNewBlock n r p => BlockOffsetTracker.recordNewBlock n r p
  | .replayNextBlock n => BlockOffsetTracker.replayNextBlock n
  | .recordOffset s => reads fun t => (t.recordOffset s).map fun _ => ()
  | .replayOffset s => reads fun t => (t.replayOffset s).map fun _ => ()

/-- The tracker after a call; a call that throws leaves what it changed. -/
def opStep (t : BlockOffsetTracker) (op : Op) : BlockOffsetTracker := finalState (op.apply t)

/-- A call reads no block outside the recorded ones, and if it is a replay that
throws, it leaves the tracker as it was. -/
structure StepSafe (t : BlockOffsetTracker) (op : Op) : Prop where
  inBounds : ∀ t', op.apply t ≠ .error .outOfBounds t'
  failedReplay : ∀ n e t', op = .replayNextBlock n → op.apply t = .error e t' → t' = t

/-- If the call is a replay, a repetition is left to replay, or the stream count
was never set and the call stops before it touches the cursors. -/
def ReplayAvailable (t : BlockOffsetTracker) (op : Op) : Prop :=
  ∀ n, op = .replayNextBlock n → t.numStreams = 0 ∨ t.HasNext

/-- Without streams nothing moves. -/
theorem replayNextBlock_of_noStreams {t : BlockOffsetTracker} (h : t.numStreams = 0)
    (numSamples : UInt64) :
    replayNextBlock numSamples t = .error (.usrp .streamCountNotSet) t := by
  rw [replayNextBlock]
  refine bind_of_error ?_
  rw [checkStreamCount, reads_eq_error_iff]
  exact ⟨check_eq_error_iff.mpr ⟨h, rfl⟩, rfl⟩

/-- A new block does not move those before it. -/
theorem block?_append {t : BlockOffsetTracker} {i : ℤ} {b : ReplayBlock}
    (h : t.block? i = some b) (more : List ReplayBlock) :
    block? { t with replayBlocks := t.replayBlocks ++ more } i = some b := by
  obtain ⟨n, rfl, hn⟩ := block?_eq_some h
  obtain ⟨hlt, -⟩ := List.getElem?_eq_some_iff.mp hn
  rw [block?_natCast, List.getElem?_append_left hlt, hn]

/-- `recordOffset` reads no block out of bounds. -/
theorem recordOffset_inBounds (t : BlockOffsetTracker) (s : UInt64) :
    t.recordOffset s ≠ .error .outOfBounds := by
  unfold recordOffset check
  split <;> simp [bind, Except.bind, pure, Except.pure]

/-- With cursors in order, `replayOffset` stays inside the recorded blocks. -/
theorem replayOffset_inBounds {t : BlockOffsetTracker} (hcursor : t.CursorOk) (s : UInt64) :
    t.replayOffset s ≠ .error .outOfBounds := by
  rcases hcursor with ⟨-, hrepetition⟩ | ⟨b, hb, hpos, -⟩
  · simp [replayOffset, check, hrepetition, bind, Except.bind]
  · obtain ⟨i, hi, hget⟩ := block?_eq_some hb
    obtain ⟨hlt, -⟩ := List.getElem?_eq_some_iff.mp hget
    rw [replayOffset_eq (j := t.currentRepetition.toNat) hlt hi (by omega)]
    simp

/-- A call whose replay, if it is one, has something to replay keeps the cursors
in order. -/
theorem cursorOk_opStep {t : BlockOffsetTracker} {op : Op} (hcursor : t.CursorOk)
    (havailable : ReplayAvailable t op) : (opStep t op).CursorOk := by
  cases op with
  | setStreamCount n => exact hcursor
  | reset => exact Or.inl ⟨rfl, rfl⟩
  | recordNewBlock n r p =>
      rw [opStep, Op.apply]
      cases hcall : recordNewBlock n r p t with
      | ok u t' =>
          obtain ⟨-, rfl⟩ := recordNewBlock_eq_ok_iff.mp hcall
          rcases hcursor with hstart | ⟨b, hb, hrest⟩
          · exact Or.inl hstart
          · exact Or.inr ⟨b, block?_append hb _, hrest⟩
      | error e t' =>
          obtain ⟨rfl, -⟩ := recordNewBlock_eq_error hcall
          exact hcursor
  | replayNextBlock n =>
      rw [opStep, Op.apply]
      by_cases hcount : t.numStreams = 0
      · rw [replayNextBlock_of_noStreams hcount]
        exact hcursor
      · have hnext := (havailable n rfl).resolve_left hcount
        rw [replayNextBlock_of_cursorOk hcount hcursor, if_pos hnext]
        exact cursorOk_moveTo_next hcursor hnext
  | recordOffset s =>
      rw [opStep, Op.apply, finalState_reads]
      exact hcursor
  | replayOffset s =>
      rw [opStep, Op.apply, finalState_reads]
      exact hcursor

theorem map_ne_outOfBounds {β : Type} {x : Except Fault β} (h : x ≠ .error .outOfBounds) :
    (x.map fun _ => ()) ≠ .error .outOfBounds := by
  cases x with
  | ok b => simp [Except.map]
  | error e => simpa [Except.map] using h

/-- With cursors in order, a call is safe exactly when it is no replay beyond the
last repetition. -/
theorem stepSafe_iff {t : BlockOffsetTracker} {op : Op} (hcursor : t.CursorOk) :
    StepSafe t op ↔ ReplayAvailable t op := by
  cases op with
  | replayNextBlock n =>
      by_cases hcount : t.numStreams = 0
      · have hcall := replayNextBlock_of_noStreams hcount n
        refine ⟨fun _ _ _ => Or.inl hcount, fun _ => ⟨fun t' => ?_, fun n' e t' hop h => ?_⟩⟩
        · rw [Op.apply, hcall]
          simp
        · rw [Op.apply, hcall] at h
          cases h
          rfl
      · have hcall := replayNextBlock_of_cursorOk hcount hcursor n
        by_cases hnext : t.HasNext
        · rw [if_pos hnext] at hcall
          refine ⟨fun _ _ _ => Or.inr hnext, fun _ => ⟨fun t' => ?_, fun n' e t' hop h => ?_⟩⟩
          · rw [Op.apply, hcall]
            simp
          · rw [Op.apply, hcall] at h
            cases h
        · rw [if_neg hnext] at hcall
          constructor
          · intro hsafe
            exact absurd (hsafe.failedReplay n _ _ rfl hcall) moveTo_next_ne
          · intro havailable
            exact absurd (havailable n rfl) (by simp [hcount, hnext])
  | setStreamCount n =>
      refine ⟨fun _ _ h => ?_, fun _ => ⟨fun t' h => ?_, fun _ _ _ h => ?_⟩⟩ <;> cases h
  | reset =>
      refine ⟨fun _ _ h => ?_, fun _ => ⟨fun t' h => ?_, fun _ _ _ h => ?_⟩⟩ <;> cases h
  | recordNewBlock n r p =>
      refine ⟨fun _ _ h => (by cases h), fun _ => ⟨fun t' h => ?_, fun _ _ _ h => (by cases h)⟩⟩
      obtain ⟨-, hcase⟩ := recordNewBlock_eq_error h
      simp at hcase
  | recordOffset s =>
      refine ⟨fun _ _ h => (by cases h), fun _ => ⟨fun t' h => ?_, fun _ _ _ h => (by cases h)⟩⟩
      rw [Op.apply, reads_eq_error_iff] at h
      exact map_ne_outOfBounds (recordOffset_inBounds t s) h.1
  | replayOffset s =>
      refine ⟨fun _ _ h => (by cases h), fun _ => ⟨fun t' h => ?_, fun _ _ _ h => (by cases h)⟩⟩
      rw [Op.apply, reads_eq_error_iff] at h
      exact map_ne_outOfBounds (replayOffset_inBounds hcursor s) h.1

/-- The cursors start before the first block. -/
theorem cursorOk_make (memSize sampleSize : UInt64) : (make memSize sampleSize).CursorOk :=
  Or.inl ⟨rfl, rfl⟩

/-- **The tracker is safe exactly as long as nothing is replayed beyond the last
repetition.**  In a sequence of calls on a new tracker, including calls that
throw, every call stays inside the recorded blocks and every replay that throws
leaves the tracker as it was, if and only if each replay finds a repetition left
to replay (or no stream count, in which case it stops at once). -/
theorem tracker_safe_iff (memSize sampleSize : UInt64) (ops : List Op) :
    Machine.AllSteps opStep StepSafe (make memSize sampleSize) ops ↔
      Machine.AllSteps opStep ReplayAvailable (make memSize sampleSize) ops :=
  Machine.AllSteps.iff_of_invariant CursorOk (fun _ _ => stepSafe_iff)
    (fun _ _ => cursorOk_opStep) (cursorOk_make memSize sampleSize)

/-- One block, three replays: the second replay throws and leaves the cursor
behind the block, and the third reads `replayBlocks_[1]`. -/
theorem tracker_unsafe_after_failed_replay :
    ¬ Machine.AllSteps opStep StepSafe (make 1000 4)
      [.setStreamCount 1, .recordNewBlock 5 1 0, .replayNextBlock 5, .replayNextBlock 5,
        .replayNextBlock 5] := by
  rintro ⟨-, -, -, -, hlast, -⟩
  exact hlast.inBounds _ rfl

/-! ## Capacity -/

/-- The call of `recordNewBlock` that an RX config leads to. -/
def recordConfig (c : RxStreamingConfig) : TrackerM Unit :=
  recordNewBlock c.wordAlignedNoSamples c.numRepetitions.toUInt64 c.repetitionPeriod.toUInt64

/-- The block this call appends. -/
def configBlock (c : RxStreamingConfig) : ReplayBlock :=
  newBlock c.wordAlignedNoSamples c.numRepetitions.toUInt64 c.repetitionPeriod.toUInt64

/-- The exact byte end of the recorded blocks lies below the buffer size. -/
def EndInBuffer (t : BlockOffsetTracker) : Prop :=
  layoutEnd t.replayBlocks * t.numStreams.toNat * t.sampleSize.toNat < t.memSize.toNat

/-- The end of the layout reaches `2 ^ 64` once the block is appended, and its
low 64 bits lie below the buffer size. -/
def EndWrapsIntoBuffer (t : BlockOffsetTracker) (block : ReplayBlock) : Prop :=
  2 ^ 64 ≤ t.exactByteEnd block ∧ t.exactByteEnd block % 2 ^ 64 < t.memSize.toNat

/-- The end of the last block, in terms of the sizes. -/
theorem endInBuffer_append_iff (t : BlockOffsetTracker) (block : ReplayBlock) :
    EndInBuffer { t with replayBlocks := t.replayBlocks ++ [block] } ↔
      t.exactByteEnd block < t.memSize.toNat := by
  rw [EndInBuffer, exactByteEnd]
  simp only [layoutEnd_append, layoutEnd_singleton]

/-- **The capacity check against the exact layout.**  What `recordNewBlock`
accepts ends below the buffer size, in exact arithmetic, unless the end of the
layout wraps into the buffer in a call that passes the other three checks. -/
theorem recordConfig_end_iff (t : BlockOffsetTracker) (c : RxStreamingConfig) :
    (∀ t', recordConfig c t = .ok () t' → t'.EndInBuffer) ↔
      (t.EndWrapsIntoBuffer (configBlock c) →
        t.numStreams = 0 ∨
        (configBlock c).repetitionPeriod < c.wordAlignedNoSamples ∨
        (1 < c.numRepetitions.toUInt64 ∧ 1 < t.numStreams)) := by
  have hmem := t.memSize.toNat_lt
  constructor
  · rintro hend ⟨hlarge, hfits⟩
    by_contra hpass
    rw [not_or, not_or, UInt64.not_lt] at hpass
    obtain ⟨hcount, hperiod, hsingle⟩ := hpass
    have haccepted : t.RecordAccepted (configBlock c) := ⟨hcount, hperiod, hsingle, hfits⟩
    have hexact := hend _ (recordNewBlock_eq_ok_iff.mpr ⟨haccepted, rfl⟩)
    have hlt := (t.endInBuffer_append_iff (configBlock c)).mp hexact
    omega
  · rintro hwraps t' hok
    obtain ⟨⟨hcount, hperiod, hsingle, hfits⟩, rfl⟩ := recordNewBlock_eq_ok_iff.mp hok
    refine (t.endInBuffer_append_iff (configBlock c)).mpr ?_
    rcases Nat.lt_or_ge (t.exactByteEnd (configBlock c)) (2 ^ 64) with hlt | hge
    · have hmod := Nat.mod_eq_of_lt hlt
      have hfits' : t.exactByteEnd (configBlock c) % 2 ^ 64 < t.memSize.toNat := hfits
      omega
    · rcases hwraps ⟨hge, hfits⟩ with hzero | hshort | hmulti
      · exact absurd hzero hcount
      · exact absurd hshort (UInt64.not_lt.mpr hperiod)
      · exact absurd hmulti hsingle

/-- `2 ^ 31` repetitions of a period of `2 ^ 31` samples are `2 ^ 64` bytes: a
config the validator accepts, and the wrapped end `0` passes the capacity check
of the RX half of a memory of 4 GiB. -/
theorem recordConfig_accepts_wrapped_end :
    ∃ (t t' : BlockOffsetTracker) (c : RxStreamingConfig),
      t = setStreamCount 1 (make 0xC0000000 4) ∧
        assertValidRxStreamingConfig none c (5 / 100) 245760000 = .ok () ∧
        recordConfig c t = .ok () t' ∧ ¬ t'.EndInBuffer := by
  refine ⟨_, { setStreamCount 1 (make 0xC0000000 4) with
      replayBlocks := [⟨64, 0x80000000, 0x80000000⟩] },
    ⟨64, 0, 0x80000000, 0x80000000, ""⟩, rfl, by decide +kernel, rfl, ?_⟩
  unfold EndInBuffer
  decide

/-! ### The boundary -/

/-- A request that passes the other checks, with a layout that does not wrap. -/
structure OnlyCapacity (t : BlockOffsetTracker) (block : ReplayBlock) : Prop where
  streamCount : t.numStreams ≠ 0
  period : block.numSamples ≤ block.repetitionPeriod
  singleStream : ¬ (1 < block.repetitions ∧ 1 < t.numStreams)
  noWrap : t.exactByteEnd block < 2 ^ 64

/-- If only the capacity can reject the request, it throws exactly when the layout
with the new block would end behind the buffer, and then nothing has changed. -/
def ThrowsBeyondBuffer (t : BlockOffsetTracker) (op : Op) : Prop :=
  ∀ numSamples reps period, op = .recordNewBlock numSamples reps period →
    t.OnlyCapacity (newBlock numSamples reps period) →
    ((∃ e t', op.apply t = .error e t') ↔
        t.memSize.toNat < t.exactByteEnd (newBlock numSamples reps period)) ∧
      ∀ e t', op.apply t = .error e t' → t' = t

/-- The block of the request does not fill the buffer to its last byte. -/
def NotExactlyFull (t : BlockOffsetTracker) (op : Op) : Prop :=
  ∀ numSamples reps period, op = .recordNewBlock numSamples reps period →
    t.OnlyCapacity (newBlock numSamples reps period) →
    t.exactByteEnd (newBlock numSamples reps period) ≠ t.memSize.toNat

/-- When a request that only the capacity can reject throws. -/
theorem recordNewBlock_throws_iff {t : BlockOffsetTracker} {numSamples reps period : UInt64}
    (h : t.OnlyCapacity (newBlock numSamples reps period)) :
    (∃ e t', recordNewBlock numSamples reps period t = .error e t') ↔
      t.memSize.toNat ≤ t.exactByteEnd (newBlock numSamples reps period) := by
  have hfits : t.FitsBuffer (newBlock numSamples reps period) ↔
      t.exactByteEnd (newBlock numSamples reps period) < t.memSize.toNat := by
    rw [FitsBuffer, Nat.mod_eq_of_lt h.noWrap]
  cases hcall : recordNewBlock numSamples reps period t with
  | ok u t' =>
      obtain ⟨haccepted, -⟩ := recordNewBlock_eq_ok_iff.mp hcall
      constructor
      · rintro ⟨_, _, herror⟩
        cases herror
      · intro hle
        exact absurd (hfits.mp haccepted.fits) (not_lt.mpr hle)
  | error e t' =>
      refine ⟨fun _ => not_lt.mp fun hlt => ?_, fun _ => ⟨e, t', rfl⟩⟩
      have haccepted : t.RecordAccepted (newBlock numSamples reps period) :=
        ⟨h.streamCount, h.period, h.singleStream, hfits.mpr hlt⟩
      rw [recordNewBlock_eq_ok_iff.mpr ⟨haccepted, rfl⟩] at hcall
      cases hcall

/-- The check of the code rejects too much when the buffer is filled exactly, and only then. -/
theorem throwsBeyondBuffer_iff (t : BlockOffsetTracker) (op : Op) :
    ThrowsBeyondBuffer t op ↔ NotExactlyFull t op := by
  constructor
  · intro hthrows n r p hop hscope hfull
    obtain ⟨hiff, -⟩ := hthrows n r p hop hscope
    subst hop
    have hlt := hiff.mp ((recordNewBlock_throws_iff hscope).mpr hfull.ge)
    omega
  · intro hnotFull n r p hop hscope
    have hne := hnotFull n r p hop hscope
    subst hop
    refine ⟨(recordNewBlock_throws_iff hscope).trans ?_, fun e t' herror => ?_⟩
    · omega
    · exact (recordNewBlock_eq_error herror).1

/-- **The capacity check is exact everywhere but at the boundary.**  In a sequence of
calls on a new tracker, every request that only the capacity can reject throws
exactly when its block would end behind the buffer, and leaves everything as it was
when it throws, if and only if no such request fills the buffer to its last byte. -/
theorem capacity_exact_iff (memSize sampleSize : UInt64) (ops : List Op) :
    Machine.AllSteps opStep ThrowsBeyondBuffer (make memSize sampleSize) ops ↔
      Machine.AllSteps opStep NotExactlyFull (make memSize sampleSize) ops :=
  Machine.AllSteps.iff_of_invariant (fun _ => True) (fun t op _ => throwsBeyondBuffer_iff t op)
    (fun _ _ _ _ => trivial) trivial

/-- 250 samples of 4 bytes fill a buffer of 1000 bytes, and are rejected. -/
theorem capacity_exactFill :
    ¬ Machine.AllSteps opStep ThrowsBeyondBuffer (make 1000 4)
      [.setStreamCount 1, .recordNewBlock 250 1 0] := by
  rintro ⟨-, hrecord, -⟩
  have hscope : OnlyCapacity (setStreamCount 1 (make 1000 4)) (newBlock 250 1 0) :=
    ⟨by decide, by decide, by decide, by decide⟩
  obtain ⟨hiff, -⟩ := hrecord 250 1 0 rfl hscope
  have hlt : 1000 < exactByteEnd (setStreamCount 1 (make 1000 4)) (newBlock 250 1 0) :=
    hiff.mp ⟨_, _, rfl⟩
  exact absurd hlt (by decide)

end BlockOffsetTracker

end UsrpWrapper
