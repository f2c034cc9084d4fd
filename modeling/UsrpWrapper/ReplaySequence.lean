import UsrpWrapper.ReplayOrder

/-!
# The sequence of the replays

A sequence of `recordNewBlock`s and `replayNextBlock`s after a reset, in any
order, so that the list of blocks may still grow between two replays.  As long as
no call throws, the recorded blocks are those of the calls (`recordedBlocks`), and
the cursors have passed as many repetitions as there were replays (`replays`).
A replay therefore selects the repetition whose number is the number of replays
before it (`replay_order`), and a replay behind the last repetition throws.
-/

namespace UsrpWrapper

open Lib Lib.Command

namespace BlockOffsetTracker

open ReplayBlockConfig

/-! ## What a sequence of calls asks for -/

/-- The block a call records. -/
def Op.recordedBlock : Op → Option ReplayBlock
  | .recordNewBlock numSamples numRepetitions repetitionPeriod =>
      some (newBlock numSamples numRepetitions repetitionPeriod)
  | _ => none

/-- The call asks for the next playback. -/
def Op.isReplay : Op → Bool
  | .replayNextBlock _ => true
  | _ => false

/-- A `recordNewBlock` whose count is a positive `int`, or a `replayNextBlock`. -/
def Op.RecordsOrReplays : Op → Prop
  | .recordNewBlock _ numRepetitions _ =>
      1 ≤ numRepetitions.toNat ∧ numRepetitions.toNat < 2 ^ 31
  | .replayNextBlock _ => True
  | _ => False

instance : DecidablePred Op.RecordsOrReplays
  | .recordNewBlock _ _ _ => inferInstanceAs (Decidable (_ ∧ _))
  | .replayNextBlock _ => inferInstanceAs (Decidable True)
  | .setStreamCount _ | .reset | .recordOffset _ | .replayOffset _ =>
      inferInstanceAs (Decidable False)

/-- The blocks the calls record, in their order. -/
def recordedBlocks (ops : List Op) : List ReplayBlock := ops.filterMap Op.recordedBlock

/-- The number of replays among the calls. -/
def replays (ops : List Op) : ℕ := ops.countP Op.isReplay

/-- How often each block is to be replayed. -/
def blockRepetitions (blocks : List ReplayBlock) : List ℕ :=
  blocks.map fun b => b.repetitions.toNat

/-- The number of repetition `j` of block `i`: the repetitions of the blocks
before it, and those before it in its block. -/
def repetitionNumber (blocks : List ReplayBlock) (i j : ℕ) : ℕ :=
  Layout.start (blockRepetitions blocks) i + j

/-- The exact byte offset of stream `s` in repetition `j` of block `i`. -/
def exactReplayOffset (sampleSize numStreams : ℕ) (blocks : List ReplayBlock) (i j : ℕ)
    (block : ReplayBlock) (s : ℕ) : ℕ :=
  sampleSize * (numStreams * layoutEnd (blocks.take i) +
    j * block.repetitionPeriod.toNat + s * block.exactTotal)

/-- The call does not throw. -/
def Returns (t : BlockOffsetTracker) (op : Op) : Prop := returned (op.apply t) = true

instance (t : BlockOffsetTracker) (op : Op) : Decidable (Returns t op) :=
  inferInstanceAs (Decidable (_ = true))

@[simp] theorem recordedBlocks_append (ops more : List Op) :
    recordedBlocks (ops ++ more) = recordedBlocks ops ++ recordedBlocks more :=
  List.filterMap_append

@[simp] theorem replays_append (ops more : List Op) :
    replays (ops ++ more) = replays ops + replays more := List.countP_append

@[simp] theorem blockRepetitions_append (blocks more : List ReplayBlock) :
    blockRepetitions (blocks ++ more) = blockRepetitions blocks ++ blockRepetitions more :=
  List.map_append

/-- A count that is a positive `int` is the number of replays of the block. -/
theorem replayCount_eq {block : ReplayBlock} (hpos : 1 ≤ block.repetitions.toNat)
    (hint : block.repetitions.toNat < 2 ^ 31) :
    block.replayCount = block.repetitions.toNat := by
  rw [ReplayBlock.replayCount, intOfSize_of_lt hint]
  omega

/-! ## What the calls do -/

/-- A tracker after the calls `ops`, where `before` are the calls before them. -/
structure Progressed (t : BlockOffsetTracker) (ops : List Op) (t' : BlockOffsetTracker) :
    Prop where
  numStreams : t'.numStreams = t.numStreams
  sampleSize : t'.sampleSize = t.sampleSize
  blocks : t'.replayBlocks = t.replayBlocks ++ recordedBlocks ops
  cursor : t'.CursorOk
  done : t'.replaysDone = t.replaysDone + replays ops

/-- One call that returns. -/
theorem progressed_opStep {t : BlockOffsetTracker} {op : Op} (hcount : t.numStreams ≠ 0)
    (hcursor : t.CursorOk) (hop : op.RecordsOrReplays) (hreturns : Returns t op) :
    Progressed t [op] (opStep t op) := by
  obtain ⟨⟨⟩, hcall⟩ := exists_of_returned hreturns
  cases op with
  | recordNewBlock n r p =>
      obtain ⟨-, hstate⟩ := recordNewBlock_eq_ok_iff.mp hcall
      have hstep : opStep t (.recordNewBlock n r p) = withBlock t (newBlock n r p) := hstate
      rw [hstep]
      exact ⟨rfl, rfl, rfl, cursorOk_withBlock hcursor _, replaysDone_withBlock hcursor _⟩
  | replayNextBlock n =>
      have hnext : t.HasNext := by
        by_contra hnone
        rw [Op.apply, replayNextBlock_of_cursorOk hcount hcursor, if_neg hnone] at hcall
        cases hcall
      have hstep : opStep t (.replayNextBlock n) = t.moveTo t.next := by
        rw [opStep, Op.apply, replayNextBlock_of_cursorOk hcount hcursor, if_pos hnext,
          finalState_ok]
      rw [hstep]
      exact ⟨rfl, rfl, by simp [recordedBlocks, Op.recordedBlock],
        cursorOk_moveTo_next hcursor hnext, replaysDone_moveTo_next hcursor hnext⟩
  | setStreamCount n => exact absurd hop not_false
  | reset => exact absurd hop not_false
  | recordOffset s => exact absurd hop not_false
  | replayOffset s => exact absurd hop not_false

/-- **Calls that return**: the tracker holds the blocks they recorded, and its
cursors have passed as many repetitions as there were replays. -/
theorem progressed_run {t : BlockOffsetTracker} {ops : List Op} (hcount : t.numStreams ≠ 0)
    (hcursor : t.CursorOk) (hops : ∀ op ∈ ops, op.RecordsOrReplays)
    (hreturns : Machine.AllSteps opStep Returns t ops) :
    Progressed t ops (Machine.run opStep t ops) := by
  induction ops generalizing t with
  | nil => exact ⟨rfl, rfl, (List.append_nil _).symm, hcursor, rfl⟩
  | cons op ops ih =>
      have hfirst := progressed_opStep hcount hcursor (hops op List.mem_cons_self) hreturns.1
      have hcount' : (opStep t op).numStreams ≠ 0 := by rwa [hfirst.numStreams]
      have hrest := ih hcount' hfirst.cursor (fun op' h => hops op' (List.mem_cons_of_mem op h))
        hreturns.2
      refine ⟨hrest.numStreams.trans hfirst.numStreams,
        hrest.sampleSize.trans hfirst.sampleSize, ?_, hrest.cursor, ?_⟩
      · show (Machine.run opStep (opStep t op) ops).replayBlocks = _
        rw [hrest.blocks, hfirst.blocks, List.append_assoc, ← recordedBlocks_append]
        rfl
      · show (Machine.run opStep (opStep t op) ops).replaysDone = _
        rw [hrest.done, hfirst.done, Nat.add_assoc, ← replays_append]
        rfl

/-- Blocks whose counts are positive `int`s. -/
def PositiveCounts (blocks : List ReplayBlock) : Prop :=
  ∀ b ∈ blocks, 1 ≤ b.repetitions.toNat ∧ b.repetitions.toNat < 2 ^ 31

/-- Blocks that are recorded are to be played. -/
theorem positiveCounts_recordedBlocks {ops : List Op} (hops : ∀ op ∈ ops, op.RecordsOrReplays) :
    PositiveCounts (recordedBlocks ops) := by
  intro block hblock
  obtain ⟨op, hop, hrecorded⟩ := List.mem_filterMap.mp hblock
  have hcounts := hops op hop
  cases op with
  | recordNewBlock n r p =>
      obtain rfl := Option.some.inj hrecorded
      exact hcounts
  | setStreamCount | reset | replayNextBlock | recordOffset | replayOffset => cases hrecorded

/-- For such blocks the counts are the repetitions. -/
theorem replayCounts_eq_blockRepetitions {t : BlockOffsetTracker}
    (h : PositiveCounts t.replayBlocks) : t.replayCounts = blockRepetitions t.replayBlocks :=
  List.map_congr_left fun block hblock => replayCount_eq (h block hblock).1 (h block hblock).2

/-- The number of a repetition determines it. -/
theorem repetition_unique {blocks : List ReplayBlock} {i j i' j' : ℕ} {block block' : ReplayBlock}
    (hi : blocks[i]? = some block) (hj : j < block.repetitions.toNat)
    (hi' : blocks[i']? = some block') (hj' : j' < block'.repetitions.toNat)
    (h : repetitionNumber blocks i j = repetitionNumber blocks i' j') : i = i' ∧ j = j' := by
  obtain ⟨hlt, rfl⟩ := List.getElem?_eq_some_iff.mp hi
  obtain ⟨hlt', rfl⟩ := List.getElem?_eq_some_iff.mp hi'
  have hnumber : Layout.start (blockRepetitions blocks) i + j =
      Layout.start (blockRepetitions blocks) i' + j' := h
  refine Layout.item_eq_of_number_eq ?_ ?_ ?_ ?_ hnumber
  · simpa [blockRepetitions] using hlt
  · simpa [blockRepetitions] using hj
  · simpa [blockRepetitions] using hlt'
  · simpa [blockRepetitions] using hj'

/-- Blocks that are recorded later do not change the number of a repetition. -/
theorem repetitionNumber_append {blocks : List ReplayBlock} (more : List ReplayBlock) {i : ℕ}
    (h : i ≤ blocks.length) (j : ℕ) :
    repetitionNumber (blocks ++ more) i j = repetitionNumber blocks i j := by
  rw [repetitionNumber, repetitionNumber, blockRepetitions_append,
    Layout.start_append _ (by simpa [blockRepetitions] using h)]

/-- The offset of a replay, in the arithmetic of `size_t`. -/
theorem offsetOf_toNat (t : BlockOffsetTracker) (i j : ℕ) (block : ReplayBlock) (s : ℕ) :
    (offsetOf t i j block s).toNat =
      exactReplayOffset t.sampleSize.toNat t.numStreams.toNat t.replayBlocks i j block s %
        2 ^ 64 := by
  rw [offsetOf, UInt64.toNat_ofNat', slotStart, start_blockSizes, exactReplayOffset]
  congr 1
  ring

/-- **The next replay** of a tracker whose cursors have passed `k` repetitions. -/
theorem replayNextBlock_selects {t : BlockOffsetTracker} (hcount : t.numStreams ≠ 0)
    (hcursor : t.CursorOk) (hcounts : PositiveCounts t.replayBlocks) {numSamples : UInt64}
    (hreturns : Returns t (.replayNextBlock numSamples)) :
    ∃ i j block, t.replayBlocks[i]? = some block ∧ j < block.repetitions.toNat ∧
      repetitionNumber t.replayBlocks i j = t.replaysDone ∧
      opStep t (.replayNextBlock numSamples) = t.moveTo ((i : ℤ), (j : ℤ)) := by
  have hcall := replayNextBlock_of_cursorOk hcount hcursor numSamples
  by_cases hnext : t.HasNext
  · rw [if_pos hnext] at hcall
    obtain ⟨i, j, block, hselects⟩ := exists_selects hcursor hnext
    obtain ⟨hpos, hint⟩ := hcounts block (List.mem_of_getElem? hselects.block_eq)
    refine ⟨i, j, block, hselects.block_eq, ?_, ?_, ?_⟩
    · rw [← replayCount_eq hpos hint]
      exact lt_replayCount_of_selects hselects
    · rw [← number_of_selects hcursor hselects, replayCounts_eq_blockRepetitions hcounts]
      rfl
    · rw [opStep, Op.apply, hcall, finalState_ok, hselects.cursor]
  · rw [if_neg hnext] at hcall
    rw [Returns, Op.apply, hcall] at hreturns
    cases hreturns

/-- **Behind the last repetition** a replay throws. -/
theorem replayNextBlock_throws {t : BlockOffsetTracker} (hcount : t.numStreams ≠ 0)
    (hcursor : t.CursorOk) (hcounts : PositiveCounts t.replayBlocks)
    (hdone : t.replaysDone = (blockRepetitions t.replayBlocks).sum) (numSamples : UInt64) :
    ∃ t', replayNextBlock numSamples t = .error (.usrp .tooManyReplayRequests) t' := by
  have hnone : ¬ t.HasNext := by
    intro hnext
    have hle := replaysDone_le_sum (cursorOk_moveTo_next hcursor hnext)
    rw [replaysDone_moveTo_next hcursor hnext, replayCounts_moveTo,
      replayCounts_eq_blockRepetitions hcounts, hdone] at hle
    omega
  rw [replayNextBlock_of_cursorOk hcount hcursor, if_neg hnone]
  exact ⟨_, rfl⟩

/-- **The order of the replays.**  In a sequence of records and replays after a
reset in which no call throws, the replay with `k` replays before it selects the
one repetition with the number `k`; `replayOffset` then is the offset of this
repetition, in the arithmetic of `size_t`.  When all repetitions are replayed, the
next replay throws. -/
theorem replay_order (t : BlockOffsetTracker) (hcount : t.numStreams ≠ 0) (ops : List Op)
    (hops : ∀ op ∈ ops, op.RecordsOrReplays)
    (hreturns : Machine.AllSteps opStep Returns t.reset ops) :
    (∀ before numSamples after, ops = before ++ .replayNextBlock numSamples :: after →
      ∃ i j block, (recordedBlocks before)[i]? = some block ∧ j < block.repetitions.toNat ∧
        repetitionNumber (recordedBlocks ops) i j = replays before ∧
        (∀ i' j' block', (recordedBlocks ops)[i']? = some block' →
          j' < block'.repetitions.toNat →
          repetitionNumber (recordedBlocks ops) i' j' = replays before → i' = i ∧ j' = j) ∧
        ∃ t', Machine.run opStep t.reset (before ++ [.replayNextBlock numSamples]) = t' ∧
          t'.currentReplay = i ∧ t'.currentRepetition = j ∧
          ∀ s, ∃ offset, t'.replayOffset s = .ok offset ∧
            offset.toNat = exactReplayOffset t.sampleSize.toNat t.numStreams.toNat
              (recordedBlocks before) i j block s.toNat % 2 ^ 64) ∧
    (replays ops = (blockRepetitions (recordedBlocks ops)).sum →
      ∀ numSamples, ∃ t', replayNextBlock numSamples (Machine.run opStep t.reset ops) =
        .error (.usrp .tooManyReplayRequests) t') := by
  have hstart : t.reset.CursorOk := Or.inl ⟨rfl, rfl⟩
  constructor
  · rintro before numSamples after rfl
    obtain ⟨hbefore, hreplay, -⟩ := Machine.allSteps_append.mp hreturns
    have hops' : ∀ op ∈ before, op.RecordsOrReplays :=
      fun op h => hops op (List.mem_append_left _ h)
    have hdone := progressed_run (t := t.reset) hcount hstart hops' hbefore
    generalize hrun : Machine.run opStep t.reset before = t₁ at hdone hreplay
    have hblocks : t₁.replayBlocks = recordedBlocks before := hdone.blocks
    have hnumber : t₁.replaysDone = replays before := by
      rw [hdone.done, replaysDone_start rfl, Nat.zero_add]
    obtain ⟨i, j, block, hblock, hj, hk, hstep⟩ := replayNextBlock_selects
      (by rwa [hdone.numStreams]) hdone.cursor
      (by rw [hblocks]; exact positiveCounts_recordedBlocks hops') hreplay
    rw [hblocks] at hblock
    rw [hblocks, hnumber] at hk
    obtain ⟨hi, -⟩ := List.getElem?_eq_some_iff.mp hblock
    have hlater : (recordedBlocks (before ++ .replayNextBlock numSamples :: after))[i]? =
        some block := by
      rw [recordedBlocks_append, List.getElem?_append_left hi, hblock]
    have hk' : repetitionNumber (recordedBlocks (before ++ .replayNextBlock numSamples :: after))
        i j = replays before := by
      rw [recordedBlocks_append, repetitionNumber_append _ hi.le, hk]
    refine ⟨i, j, block, hblock, hj, hk', ?_, t₁.moveTo ((i : ℤ), (j : ℤ)), ?_, rfl, rfl, ?_⟩
    · intro i' j' block' hblock' hj' hnumber'
      exact repetition_unique hblock' hj' hlater hj (hnumber'.trans hk'.symm)
    · rw [Machine.run_append, hrun]
      exact hstep
    · intro s
      refine ⟨_, replayOffset_moveTo (by rw [hblocks]; exact hblock) j s, ?_⟩
      rw [offsetOf_toNat, hdone.sampleSize, hdone.numStreams, hblocks]
      rfl
  · intro hall numSamples
    have hdone := progressed_run (t := t.reset) hcount hstart hops hreturns
    have hblocks : (Machine.run opStep t.reset ops).replayBlocks = recordedBlocks ops :=
      hdone.blocks
    refine replayNextBlock_throws ?_ hdone.cursor ?_ ?_ numSamples
    · rw [hdone.numStreams]
      exact hcount
    · rw [hblocks]
      exact positiveCounts_recordedBlocks hops
    · rw [hdone.done, replaysDone_start rfl, Nat.zero_add, hblocks, hall]

/-- A block with three repetitions, replayed once before a second one is recorded. -/
def exampleCalls : List Op :=
  [.recordNewBlock 10 3 30, .replayNextBlock 10, .recordNewBlock 45 1 0, .replayNextBlock 10,
    .replayNextBlock 10, .replayNextBlock 45]

/-- The second block is replayed fourth, and then nothing is left. -/
theorem replay_order_example :
    (∃ t', Machine.run opStep (reset (setStreamCount 1 (make 1000 4))) exampleCalls = t' ∧
        t'.currentReplay = 1 ∧ t'.currentRepetition = 0) ∧
      ∃ t', replayNextBlock 45
        (Machine.run opStep (reset (setStreamCount 1 (make 1000 4))) exampleCalls) =
          .error (.usrp .tooManyReplayRequests) t' := by
  obtain ⟨hselected, hthrows⟩ := replay_order (setStreamCount 1 (make 1000 4)) (by decide)
    exampleCalls (by decide) (by decide +kernel)
  refine ⟨?_, hthrows (by decide) 45⟩
  obtain ⟨i, j, block, -, -, -, hunique, t', hrun, hreplay, hrepetition, -⟩ :=
    hselected (exampleCalls.take 5) 45 [] rfl
  obtain ⟨rfl, rfl⟩ := hunique 1 0 ⟨45, 1, 45⟩ rfl (by decide) (by decide)
  exact ⟨t', hrun, hreplay, hrepetition⟩

end BlockOffsetTracker

end UsrpWrapper
