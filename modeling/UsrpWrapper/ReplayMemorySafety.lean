import UsrpWrapper.ReplayBlockConfig

/-!
# Safety of the replay memory

The TX and the RX thread drive one `ReplayBlockConfig`.  This file follows the
calls on the replay block through every interleaving of their configuration
calls and shows that the memory they address is used consistently.

## Runs

`Run` performs configuration calls in an arbitrary order and keeps the calls on
the replay block, each with the direction and the number of the block it was
issued for (`Issue`).  `Admissible` are the conditions on the arguments: sizes
that do not wrap, repetition counts the cursors can count, and replays with the
sample count of the block they replay.

## Results

`replayMemory_safe`: records stay in the buffer of their direction and overlap
no other record, plays read what was recorded before, and the addresses of a
direction are determined by the calls of that direction.
-/

namespace UsrpWrapper

open Lib Lib.Command

/-! ## Regions of the replay block -/

/-- Region and port of a `record`. -/
def ReplayCommand.recordRegion : ReplayCommand → Option (Region × ℕ)
  | .record offset size port => some (⟨offset.toNat, size.toNat⟩, port)
  | _ => none

/-- Region and port of a `config_play`. -/
def ReplayCommand.playRegion : ReplayCommand → Option (Region × ℕ)
  | .configPlay offset size port => some (⟨offset.toNat, size.toNat⟩, port)
  | _ => none

/-- The buffer of a direction: the first quarter of the memory, and three
quarters behind it. -/
def buffer (memSize : ℕ) : Direction → Region
  | .tx => ⟨0, memSize / 4⟩
  | .rx => ⟨memSize / 4, memSize / 4 * 3⟩

/-- The halves of the memory share no address. -/
theorem buffer_disjoint (memSize : ℕ) {d d' : Direction} (h : d ≠ d') :
    Disjoint (buffer memSize d).addresses (buffer memSize d').addresses := by
  have htx : (buffer memSize .tx).offset + (buffer memSize .tx).size ≤
      (buffer memSize .rx).offset := by
    simp [buffer]
  cases d <;> cases d'
  · exact absurd rfl h
  · exact Region.disjoint_of_le htx
  · exact (Region.disjoint_of_le htx).symm
  · exact absurd rfl h

theorem buffer_end_le (memSize : ℕ) (d : Direction) :
    (buffer memSize d).offset + (buffer memSize d).size ≤ memSize := by
  cases d <;> simp only [buffer] <;> omega

namespace ReplayBlockConfig

open BlockOffsetTracker

/-- The slot of stream `s` in block `i`, as a region of the memory. -/
def slotRegion (r : ReplayBlockConfig) (d : Direction) (i : ℕ) (block : ReplayBlock) (s : ℕ) :
    Region :=
  ⟨(buffer r.memSize.toNat d).offset + (r.blocks d).slotStart i block s * 4,
    block.exactTotal * 4⟩

/-- The recorded layout fits the buffer. -/
structure LayoutOk (t : BlockOffsetTracker) (streams : UInt64) (size : ℕ) : Prop where
  streams_eq : t.numStreams = streams
  sampleSize : t.sampleSize = SAMPLE_SIZE
  end_le : layoutEnd t.replayBlocks * streams.toNat * 4 ≤ size

/-- The layout of a direction fits its buffer. -/
abbrev DirectionFits (r : ReplayBlockConfig) (d : Direction) : Prop :=
  LayoutOk (r.blocks d) (r.numStreams d) (buffer r.memSize.toNat d).size

/-- A tracker between two calls: the fixed members, cursors in order, and a
recorded layout that fits the buffer. -/
structure TrackerOk (t : BlockOffsetTracker) (streams : UInt64) (size : ℕ) : Prop
    extends LayoutOk t streams size where
  streams_ne : streams ≠ 0
  memSize : t.memSize.toNat = size
  cursor : t.CursorOk
  blocks_ok : ∀ b ∈ t.replayBlocks,
    b.numSamples ≤ b.repetitionPeriod ∧ 0 < b.repetitions.toNat ∧ b.repetitions.toNat < 2 ^ 31

/-- The tracker of a direction is in order. -/
abbrev DirectionOk (r : ReplayBlockConfig) (d : Direction) : Prop :=
  TrackerOk (r.blocks d) (r.numStreams d) (buffer r.memSize.toNat d).size

/-- The offset that is added to the addresses is that of the half. -/
theorem toNat_bufferOffset (r : ReplayBlockConfig) (d : Direction) :
    (r.bufferOffset d).toNat = (buffer r.memSize.toNat d).offset := by
  cases d
  · rfl
  · simp [bufferOffset, getRxBufferOffset, getTxBufferSize, buffer]

theorem Consistent.toNat_memSize {r : ReplayBlockConfig} (h : r.Consistent) (d : Direction) :
    (r.blocks d).memSize.toNat = (buffer r.memSize.toNat d).size := by
  cases d
  · show r.txBlocks.memSize.toNat = r.memSize.toNat / 4
    rw [h.txSize, getTxBufferSize, UInt64.toNat_div]
    rfl
  · show r.rxBlocks.memSize.toNat = r.memSize.toNat / 4 * 3
    have hmem := r.memSize.toNat_lt
    rw [h.rxSize, getRxBufferSize, UInt64.toNat_mul, UInt64.toNat_div]
    simp only [UInt64.reduceToNat]
    omega

/-- Empty trackers fit. -/
theorem Consistent.directionFits_reset {r : ReplayBlockConfig} (h : r.Consistent) (d : Direction) :
    r.reset.DirectionFits d := by
  cases d
  · exact ⟨h.txStreams, h.txSample, by show layoutEnd [] * _ * 4 ≤ _; simp⟩
  · exact ⟨h.rxStreams, h.rxSample, by show layoutEnd [] * _ * 4 ≤ _; simp⟩

/-- The sizes of the blocks of a direction, at a recorded block. -/
theorem getElem_blockSizes {blocks : List ReplayBlock} {i : ℕ} {block : ReplayBlock}
    (h : blocks[i]? = some block) :
    ∃ hi : i < (blockSizes blocks).length, (blockSizes blocks)[i] = block.exactTotal := by
  obtain ⟨hi, rfl⟩ := List.getElem?_eq_some_iff.mp h
  exact ⟨by simpa using hi, by simp [blockSizes]⟩

/-- A slot lies in the buffer of its direction. -/
theorem slotRegion_inside {r : ReplayBlockConfig} {d : Direction} (hd : r.DirectionFits d) {i s : ℕ}
    {block : ReplayBlock} (hblock : (r.blocks d).replayBlocks[i]? = some block)
    (hs : s < (r.numStreams d).toNat) :
    (r.slotRegion d i block s).Inside (buffer r.memSize.toNat d) := by
  obtain ⟨hi, hsize⟩ := getElem_blockSizes hblock
  have hend := Layout.part_end_le_sum hi hs
  rw [hsize] at hend
  have hfits := hd.end_le
  rw [layoutEnd] at hfits
  refine ⟨Nat.le_add_right _ _, ?_⟩
  rw [slotRegion, slotStart, hd.streams_eq]
  simp only
  omega

/-- A slot ends before the slots of every later block start. -/
theorem slotRegion_end_le_of_block {r : ReplayBlockConfig} {d : Direction} (hd : r.DirectionFits d)
    {i s i' s' : ℕ} {block block' : ReplayBlock}
    (hblock : (r.blocks d).replayBlocks[i]? = some block)
    (hs : s < (r.numStreams d).toNat) (hlt : i < i') :
    (r.slotRegion d i block s).offset + (r.slotRegion d i block s).size ≤
      (r.slotRegion d i' block' s').offset := by
  obtain ⟨hi, hsize⟩ := getElem_blockSizes hblock
  have hend := Layout.part_end_le_start hi hs hlt
  rw [hsize] at hend
  simp only [slotRegion, slotStart, hd.streams_eq]
  omega

/-- A slot ends before the slots of the later streams of its block start. -/
theorem slotRegion_end_le_of_stream {r : ReplayBlockConfig} {d : Direction}
    (hd : r.DirectionFits d) {i s s' : ℕ} {block : ReplayBlock}
    (hblock : (r.blocks d).replayBlocks[i]? = some block) (hlt : s < s') :
    (r.slotRegion d i block s).offset + (r.slotRegion d i block s).size ≤
      (r.slotRegion d i block s').offset := by
  obtain ⟨hi, hsize⟩ := getElem_blockSizes hblock
  have hend := Layout.part_end_le_part (n := (r.numStreams d).toNat) hi hlt
  rw [hsize] at hend
  simp only [slotRegion, slotStart, hd.streams_eq]
  omega

/-- Different slots of a direction do not overlap. -/
theorem slotRegion_disjoint {r : ReplayBlockConfig} {d : Direction} (hd : r.DirectionFits d)
    {i s i' s' : ℕ} {block block' : ReplayBlock}
    (hblock : (r.blocks d).replayBlocks[i]? = some block)
    (hblock' : (r.blocks d).replayBlocks[i']? = some block')
    (hs : s < (r.numStreams d).toNat) (hs' : s' < (r.numStreams d).toNat)
    (hne : ¬ (i = i' ∧ s = s')) :
    Disjoint (r.slotRegion d i block s).addresses (r.slotRegion d i' block' s').addresses := by
  -- the slot that comes first in the layout ends before the other one starts
  rcases Nat.lt_trichotomy i i' with hlt | rfl | hgt
  · exact Region.disjoint_of_le (slotRegion_end_le_of_block hd hblock hs hlt)
  · obtain rfl : block = block' := Option.some.inj (hblock.symm.trans hblock')
    rcases Nat.lt_or_gt_of_ne (fun h => hne ⟨rfl, h⟩) with hlt | hgt
    · exact Region.disjoint_of_le (slotRegion_end_le_of_stream hd hblock hlt)
    · exact (Region.disjoint_of_le (slotRegion_end_le_of_stream hd hblock hgt)).symm
  · exact (Region.disjoint_of_le (slotRegion_end_le_of_block hd hblock' hs' hgt)).symm

/-- In a layout that fits its buffer the offsets of the calls are exact. -/
theorem toNat_offsetOf {r : ReplayBlockConfig} {d : Direction} (hd : r.DirectionFits d)
    {i j s : ℕ} {block : ReplayBlock} (hblock : (r.blocks d).replayBlocks[i]? = some block)
    (hs : s < (r.numStreams d).toNat)
    (hj : j * block.repetitionPeriod.toNat ≤ block.exactTotal) :
    (r.bufferOffset d + offsetOf (r.blocks d) i j block s).toNat =
      (r.slotRegion d i block s).offset + j * block.repetitionPeriod.toNat * 4 := by
  have hinside := (slotRegion_inside hd hblock hs).end_le
  have hbuffer := buffer_end_le r.memSize.toNat d
  have hmem := r.memSize.toNat_lt
  have hsample : (r.blocks d).sampleSize.toNat = 4 := by rw [hd.sampleSize]; rfl
  rw [slotRegion] at hinside ⊢
  simp only at hinside ⊢
  rw [UInt64.toNat_add, toNat_bufferOffset, offsetOf, UInt64.toNat_ofNat', hsample]
  omega

/-! ## Calls -/

/-- The configuration calls of an execution. -/
inductive Call where
  | configUpload (numSamples : UInt64)
  | configTransmit (numSamples : UInt64)
  | configReceive (numSamples numRepetitions repetitionPeriod : UInt64)
  | configDownload (numSamples : UInt64)
  deriving DecidableEq

/-- The half of the memory a call is about. -/
def Call.direction : Call → Direction
  | .configUpload _ => .tx
  | .configTransmit _ => .tx
  | .configReceive _ _ _ => .rx
  | .configDownload _ => .rx

/-- The block a call records; `none` for a replay. -/
def Call.block : Call → Option ReplayBlock
  | .configUpload n => some (newBlock n 1 0)
  | .configReceive n reps period => some (newBlock n reps period)
  | .configTransmit _ => none
  | .configDownload _ => none

/-- The samples a call is given. -/
def Call.numSamples : Call → UInt64
  | .configUpload n => n
  | .configTransmit n => n
  | .configReceive n _ _ => n
  | .configDownload n => n

/-- Perform a call, with the answers of the replay block. -/
def Call.apply (answers : ReplayAnswers) : Call → ConfigM Unit
  | .configUpload n => ReplayBlockConfig.configUpload n answers
  | .configTransmit n => ReplayBlockConfig.configTransmit n
  | .configReceive n reps period => ReplayBlockConfig.configReceive n reps period answers
  | .configDownload n => ReplayBlockConfig.configDownload n

/-- A record call that returns appended its block. -/
def Recorded (r : ReplayBlockConfig) (d : Direction) (block : ReplayBlock)
    (r' : ReplayBlockConfig) : Prop :=
  (r.blocks d).RecordAccepted block ∧
    ∃ ports : List ℕ,
      r' = (r.recorded d block (numBytes block)).issueAll (ports.map .recordRestart)

/-- A replay call that returns moved the cursors to repetition `j` of block
`i`. -/
def Played (r : ReplayBlockConfig) (d : Direction) (numSamples : UInt64) (i j : ℕ)
    (block : ReplayBlock) (r' : ReplayBlockConfig) : Prop :=
  Selects (r.blocks d) i j block ∧ (r.blocks d).HasNext ∧
    r' = (r.setBlocks d ((r.blocks d).moveTo ((i : ℤ), (j : ℤ)))).issueAll
      (r.playCommands d i j block (numSamples * SAMPLE_SIZE))

/-- What a call does, by its kind. -/
theorem apply_eq_ok {r r' : ReplayBlockConfig} {c : Call} {answers : ReplayAnswers}
    (hd : r.DirectionOk c.direction) (h : c.apply answers r = .ok () r') :
    (∃ block, c.block = some block ∧ Recorded r c.direction block r') ∨
      (c.block = none ∧ ∃ i j block, Played r c.direction c.numSamples i j block r') := by
  have hcount : (r.blocks c.direction).numStreams ≠ 0 := by
    rw [hd.streams_eq]
    exact hd.streams_ne
  cases c with
  | configUpload n =>
      obtain ⟨haccepted, hclear⟩ := configUpload_eq_ok_iff.mp h
      exact Or.inl ⟨_, rfl, haccepted, clearRecordingBuffer_eq_ok hclear⟩
  | configReceive n reps period =>
      obtain ⟨haccepted, hclear⟩ := configReceive_eq_ok_iff.mp h
      exact Or.inl ⟨_, rfl, haccepted, clearRecordingBuffer_eq_ok hclear⟩
  | configTransmit n => exact Or.inr ⟨rfl, playBlock_eq_ok (d := .tx) hcount hd.cursor h⟩
  | configDownload n => exact Or.inr ⟨rfl, playBlock_eq_ok (d := .rx) hcount hd.cursor h⟩

/-- The conditions on the arguments of a call: a recorded layout that does not
wrap, a repetition count between 1 and the largest `int`, and a replay with the
sample count of the block it replays. -/
structure Admissible (r : ReplayBlockConfig) (c : Call) : Prop where
  record : ∀ block, c.block = some block →
    0 < block.repetitions.toNat ∧ block.repetitions.toNat < 2 ^ 31 ∧
      (r.blocks c.direction).exactByteEnd block < 2 ^ 64
  replay : c.block = none → ∀ i j block, Selects (r.blocks c.direction) i j block →
    c.numSamples = block.numSamples

/-! ### The state of the directions -/

/-- `DirectionOk` only depends on the members of its direction. -/
theorem DirectionOk.congr {r r' : ReplayBlockConfig} {d : Direction} (hd : r.DirectionOk d)
    (hblocks : r'.blocks d = r.blocks d) (hstreams : r'.numStreams d = r.numStreams d)
    (hmem : r'.memSize = r.memSize) : r'.DirectionOk d := by
  show TrackerOk _ _ _
  rw [hblocks, hstreams, hmem]
  exact hd

/-- A block that is accepted without a wrap still fits. -/
theorem LayoutOk.withBlock {t : BlockOffsetTracker} {streams : UInt64} {size : ℕ}
    (ht : LayoutOk t streams size) (hmem : t.memSize.toNat = size) {block : ReplayBlock}
    (hfits : t.FitsBuffer block) (hend : t.exactByteEnd block < 2 ^ 64) :
    LayoutOk (ReplayBlockConfig.withBlock t block) streams size := by
  have hsample : t.sampleSize.toNat = 4 := by rw [ht.sampleSize]; rfl
  refine ⟨ht.streams_eq, ht.sampleSize, ?_⟩
  rw [FitsBuffer, Nat.mod_eq_of_lt hend, exactByteEnd, hsample, ht.streams_eq, hmem] at hfits
  rw [withBlock_replayBlocks, layoutEnd_append, layoutEnd_singleton]
  exact hfits.le

/-- A block that is accepted and does not wrap lies in the half. -/
theorem TrackerOk.withBlock {t : BlockOffsetTracker} {streams : UInt64} {size : ℕ}
    (ht : TrackerOk t streams size) {block : ReplayBlock} (haccepted : t.RecordAccepted block)
    (hpos : 0 < block.repetitions.toNat) (hlt : block.repetitions.toNat < 2 ^ 31)
    (hend : t.exactByteEnd block < 2 ^ 64) :
    TrackerOk (ReplayBlockConfig.withBlock t block) streams size := by
  refine ⟨ht.toLayoutOk.withBlock ht.memSize haccepted.fits hend, ht.streams_ne, ht.memSize,
    cursorOk_withBlock ht.cursor block, ?_⟩
  intro b hb
  rw [withBlock_replayBlocks, List.mem_append, List.mem_singleton] at hb
  rcases hb with hb | rfl
  · exact ht.blocks_ok b hb
  · exact ⟨haccepted.period, hpos, hlt⟩

theorem TrackerOk.moveTo {t : BlockOffsetTracker} {streams : UInt64} {size : ℕ}
    (ht : TrackerOk t streams size) (hnext : t.HasNext) :
    TrackerOk (t.moveTo t.next) streams size :=
  ⟨⟨ht.streams_eq, ht.sampleSize, ht.end_le⟩, ht.streams_ne, ht.memSize,
    cursorOk_moveTo_next ht.cursor hnext, ht.blocks_ok⟩

/-- A call that returns leaves the members of both directions in order, and the
other direction as it was. -/
theorem directionOk_of_apply {r r' : ReplayBlockConfig} {c : Call} {answers : ReplayAnswers}
    (hok : ∀ d, r.DirectionOk d) (hadmissible : r.Admissible c)
    (h : c.apply answers r = .ok () r') : ∀ d, r'.DirectionOk d := by
  intro d
  rcases apply_eq_ok (hok c.direction) h with
    ⟨block, hblock, haccepted, ports, rfl⟩ | ⟨-, i, j, block, hselects, hnext, rfl⟩
  · obtain ⟨hpos, hlt, hend⟩ := hadmissible.record block hblock
    by_cases hd : d = c.direction
    · subst hd
      have ht := (hok c.direction).withBlock haccepted hpos hlt hend
      show TrackerOk _ _ _
      simpa [recorded] using ht
    · refine (hok d).congr ?_ ?_ ?_
      · simp [recorded, blocks_setBlocks_of_ne hd]
      · simp [recorded]
      · simp [recorded]
  · by_cases hd : d = c.direction
    · subst hd
      have ht := (hok c.direction).moveTo hnext
      rw [hselects.cursor] at ht
      show TrackerOk _ _ _
      simpa using ht
    · refine (hok d).congr ?_ ?_ ?_
      · simp [blocks_setBlocks_of_ne hd]
      · simp
      · simp

/-! ## Runs -/

/-- A call on the replay block, with the direction of the configuration call that
issued it and the number of blocks recorded before for that direction. -/
structure Issue where
  direction : Direction
  block : ℕ
  command : ReplayCommand
  deriving DecidableEq

/-- The calls on the replay block between two states. -/
def issuesOf (c : Call) (r r' : ReplayBlockConfig) : List Issue :=
  (r'.commands.drop r.commands.length).map fun command =>
    ⟨c.direction, (r.blocks c.direction).replayBlocks.length, command⟩

/-- A sequence of admissible calls that all return. -/
inductive Run (start : ReplayBlockConfig) : List Call → List Issue → ReplayBlockConfig → Prop
  | nil : Run start [] [] start
  | snoc {calls : List Call} {issues : List Issue} {r r' : ReplayBlockConfig} (c : Call)
      (answers : ReplayAnswers) (before : Run start calls issues r) (admissible : r.Admissible c)
      (returned : c.apply answers r = .ok () r') :
      Run start (calls ++ [c]) (issues ++ issuesOf c r r') r'

/-- Both trackers stay in order in every run. -/
theorem directionOk_of_run {start r : ReplayBlockConfig} {calls : List Call}
    {issues : List Issue} (hstart : ∀ d, start.DirectionOk d) (h : Run start calls issues r) :
    ∀ d, r.DirectionOk d := by
  induction h with
  | nil => exact hstart
  | snoc c answers _ hadmissible hreturned ih =>
      exact directionOk_of_apply ih hadmissible hreturned

/-! ### What a step issues -/

/-- The blocks of both directions are a continuation of earlier ones. -/
structure Extends (r r' : ReplayBlockConfig) : Prop where
  memSize : r'.memSize = r.memSize
  streams : ∀ d, r'.numStreams d = r.numStreams d
  trackerStreams : ∀ d, (r'.blocks d).numStreams = (r.blocks d).numStreams
  blocks : ∀ d, (r.blocks d).replayBlocks <+: (r'.blocks d).replayBlocks

/-- What is recorded stays where it is. -/
theorem Extends.slotRegion_eq {r r' : ReplayBlockConfig} (h : Extends r r') {d : Direction}
    {i : ℕ} {block : ReplayBlock} (hblock : (r.blocks d).replayBlocks[i]? = some block) (s : ℕ) :
    r'.slotRegion d i block s = r.slotRegion d i block s := by
  obtain ⟨more, hmore⟩ := h.blocks d
  obtain ⟨hi, -⟩ := List.getElem?_eq_some_iff.mp hblock
  rw [slotRegion, slotRegion, slotStart, slotStart, ← hmore, blockSizes_append,
    Layout.start_append _ (by rw [blockSizes_length]; exact hi.le), h.memSize,
    h.trackerStreams d]

theorem Extends.getElem? {r r' : ReplayBlockConfig} (h : Extends r r') {d : Direction} {i : ℕ}
    {block : ReplayBlock} (hblock : (r.blocks d).replayBlocks[i]? = some block) :
    (r'.blocks d).replayBlocks[i]? = some block := by
  obtain ⟨more, hmore⟩ := h.blocks d
  obtain ⟨hi, -⟩ := List.getElem?_eq_some_iff.mp hblock
  rw [← hmore, List.getElem?_append_left hi, hblock]

theorem Recorded.extends {r r' : ReplayBlockConfig} {d : Direction} {block : ReplayBlock}
    (h : Recorded r d block r') : Extends r r' := by
  obtain ⟨-, ports, rfl⟩ := h
  have hother {d' : Direction} (hd : d' ≠ d) :
      (((r.recorded d block (numBytes block)).issueAll (ports.map .recordRestart)).blocks d') =
        r.blocks d' := by
    simp [recorded, blocks_setBlocks_of_ne hd]
  refine ⟨by simp [recorded], fun d' => by simp [recorded], fun d' => ?_, fun d' => ?_⟩
  · by_cases hd : d' = d
    · subst hd
      simp [recorded, withBlock]
    · rw [hother hd]
  · by_cases hd : d' = d
    · subst hd
      exact ⟨[block], by simp [recorded]⟩
    · exact ⟨[], by rw [hother hd, List.append_nil]⟩

/-- A recorded block is added to the tracker of its direction. -/
theorem Recorded.blocks_eq {r r' : ReplayBlockConfig} {d : Direction} {block : ReplayBlock}
    (h : Recorded r d block r') : r'.blocks d = withBlock (r.blocks d) block := by
  obtain ⟨-, ports, rfl⟩ := h
  simp [recorded]

/-- A record call whose end does not wrap leaves a layout that fits. -/
theorem Recorded.directionFits {r r' : ReplayBlockConfig} {d : Direction} {block : ReplayBlock}
    (h : Recorded r d block r') (hd : r.DirectionFits d)
    (hmem : (r.blocks d).memSize.toNat = (buffer r.memSize.toNat d).size)
    (hend : (r.blocks d).exactByteEnd block < 2 ^ 64) : r'.DirectionFits d := by
  show LayoutOk _ _ _
  rw [h.blocks_eq, h.extends.streams, h.extends.memSize]
  exact hd.withBlock hmem h.1.fits hend

theorem Recorded.getElem?_eq_some {r r' : ReplayBlockConfig} {d d' : Direction}
    {block b : ReplayBlock} {i : ℕ} (h : Recorded r d block r')
    (hb : (r'.blocks d').replayBlocks[i]? = some b) :
    (r.blocks d').replayBlocks[i]? = some b ∨
      d' = d ∧ i = (r.blocks d).replayBlocks.length ∧ b = block := by
  obtain ⟨-, ports, rfl⟩ := h
  by_cases hd : d' = d
  · subst hd
    rw [recorded, blocks_issueAll, blocks_issueAll, blocks_setBlocks, withBlock_replayBlocks,
      List.getElem?_append] at hb
    split at hb
    · exact Or.inl hb
    · obtain ⟨hi, hb⟩ := List.getElem?_eq_some_iff.mp hb
      simp only [List.length_singleton, Nat.lt_one_iff] at hi
      right
      refine ⟨rfl, by omega, ?_⟩
      simpa [hi] using hb.symm
  · left
    rw [recorded, blocks_issueAll, blocks_issueAll, blocks_setBlocks_of_ne hd] at hb
    exact hb

theorem Played.extends {r r' : ReplayBlockConfig} {d : Direction} {n : UInt64} {i j : ℕ}
    {block : ReplayBlock} (h : Played r d n i j block r') : Extends r r' := by
  obtain ⟨-, -, rfl⟩ := h
  refine ⟨by simp, fun d' => by simp, fun d' => ?_, fun d' => ?_⟩
  · by_cases hd : d' = d
    · subst hd
      simp
    · simp [blocks_setBlocks_of_ne hd]
  · by_cases hd : d' = d
    · subst hd
      simp
    · simp [blocks_setBlocks_of_ne hd]

theorem Played.blocks_eq {r r' : ReplayBlockConfig} {d : Direction} {n : UInt64} {i j : ℕ}
    {block : ReplayBlock} (h : Played r d n i j block r') :
    r'.blocks d = (r.blocks d).moveTo ((i : ℤ), (j : ℤ)) := by
  obtain ⟨-, -, rfl⟩ := h
  simp

/-- A replay call leaves the layout and moves the cursors on. -/
theorem Played.directionFits {r r' : ReplayBlockConfig} {d : Direction} {n : UInt64} {i j : ℕ}
    {block : ReplayBlock} (h : Played r d n i j block r') (hd : r.DirectionFits d) :
    r'.DirectionFits d := by
  show LayoutOk _ _ _
  rw [h.blocks_eq, h.extends.streams, h.extends.memSize]
  exact ⟨hd.streams_eq, hd.sampleSize, hd.end_le⟩

theorem Played.cursorOk {r r' : ReplayBlockConfig} {d : Direction} {n : UInt64} {i j : ℕ}
    {block : ReplayBlock} (h : Played r d n i j block r') (hcursor : (r.blocks d).CursorOk) :
    (r'.blocks d).CursorOk := by
  have hmoved := cursorOk_moveTo_next hcursor h.2.1
  rw [h.1.cursor] at hmoved
  rw [h.blocks_eq]
  exact hmoved

/-- The size of a recorded block does not wrap. -/
theorem toNat_numBytes {r : ReplayBlockConfig} {d : Direction} (hd : r.DirectionFits d) {i s : ℕ}
    {block : ReplayBlock} (hblock : (r.blocks d).replayBlocks[i]? = some block)
    (hs : s < (r.numStreams d).toNat) : (numBytes block).toNat = block.exactTotal * 4 := by
  have hinside := (slotRegion_inside hd hblock hs).end_le
  have hbuffer := buffer_end_le r.memSize.toNat d
  have hmem := r.memSize.toNat_lt
  rw [slotRegion] at hinside
  simp only at hinside
  rw [numBytes, UInt64.toNat_ofNat']
  omega

/-- The `record`s of a step are the slots of the new block. -/
theorem recordRegion_recordCommands {r r' : ReplayBlockConfig} {d : Direction}
    {block : ReplayBlock} (h : Recorded r d block r') (hd : r'.DirectionFits d) {s : ℕ}
    (hs : s < (r.numStreams d).toNat) :
    (ReplayCommand.record (r.bufferOffset d +
        offsetOf (withBlock (r.blocks d) block) (r.blocks d).replayBlocks.length 0 block s)
        (numBytes block) s).recordRegion =
      some (r'.slotRegion d (r.blocks d).replayBlocks.length block s, s) := by
  have hext := h.extends
  obtain ⟨-, ports, rfl⟩ := h
  have hblocks : ((r.recorded d block (numBytes block)).issueAll
      (ports.map .recordRestart)).blocks d = withBlock (r.blocks d) block := by
    simp [recorded]
  have hblock : (((r.recorded d block (numBytes block)).issueAll
      (ports.map .recordRestart)).blocks d).replayBlocks[(r.blocks d).replayBlocks.length]? =
        some block := by
    rw [hblocks, withBlock_replayBlocks, List.getElem?_concat_length]
  have hoffset := toNat_offsetOf (j := 0) hd hblock (by rw [hext.streams d]; exact hs)
    (by rw [Nat.zero_mul]; exact Nat.zero_le _)
  have hbuffer : ((r.recorded d block (numBytes block)).issueAll
      (ports.map .recordRestart)).bufferOffset d = r.bufferOffset d := by
    simp [recorded]
  rw [hblocks, hbuffer, Nat.zero_mul, Nat.zero_mul, Nat.add_zero] at hoffset
  have hs' := hs
  rw [← hext.streams d] at hs'
  simp only [ReplayCommand.recordRegion, hoffset, toNat_numBytes hd hblock hs']
  rfl

/-- The `config_play`s of a selected repetition lie in the slot of its block. -/
theorem playRegion_of_selects {r : ReplayBlockConfig} {d : Direction} {i j : ℕ}
    {block : ReplayBlock} (hd : r.DirectionFits d) (hselects : Selects (r.blocks d) i j block)
    (hperiod : block.numSamples ≤ block.repetitionPeriod) (hpos : 0 < block.repetitions.toNat)
    {s : ℕ} (hs : s < (r.numStreams d).toNat) :
    ∃ region : Region, (ReplayCommand.configPlay (r.bufferOffset d +
          offsetOf (r.blocks d) i j block s) (block.numSamples * SAMPLE_SIZE) s).playRegion =
        some (region, s) ∧
      region.Inside (r.slotRegion d i block s) ∧
      region = ⟨(r.slotRegion d i block s).offset + j * block.repetitionPeriod.toNat * 4,
        block.numSamples.toNat * 4⟩ := by
  rw [UInt64.le_iff_toNat_le] at hperiod
  have hj : j + 1 ≤ block.repetitions.toNat := by
    rcases hselects.repetition with rfl | hj
    · exact hpos
    · have hle := intOfSize_le block.repetitions
      omega
  -- the repetition ends within the slot, because its samples fit in the period
  have hend : j * block.repetitionPeriod.toNat + block.numSamples.toNat ≤ block.exactTotal := by
    calc j * block.repetitionPeriod.toNat + block.numSamples.toNat
        ≤ (j + 1) * block.repetitionPeriod.toNat := by rw [Nat.succ_mul]; omega
      _ ≤ block.repetitions.toNat * block.repetitionPeriod.toNat := Nat.mul_le_mul_right _ hj
      _ = block.exactTotal := Nat.mul_comm _ _
  have hbytes : (block.numSamples * SAMPLE_SIZE).toNat = block.numSamples.toNat * 4 := by
    have htotal := toNat_numBytes hd hselects.block_eq hs
    have hlt := (numBytes block).toNat_lt
    rw [UInt64.toNat_mul, show SAMPLE_SIZE.toNat = 4 from rfl, Nat.mod_eq_of_lt]
    omega
  have hoffset := toNat_offsetOf (j := j) hd hselects.block_eq hs (by omega)
  refine ⟨_, rfl, ?_, ?_⟩
  · rw [hoffset, hbytes]
    refine ⟨Nat.le_add_right _ _, ?_⟩
    rw [slotRegion]
    simp only
    omega
  · rw [hoffset, hbytes]

/-- The `config_play`s of a step lie in the slot of the selected block. -/
theorem playRegion_playCommands {r r' : ReplayBlockConfig} {d : Direction} {n : UInt64} {i j : ℕ}
    {block : ReplayBlock} (h : Played r d n i j block r') (hd : r.DirectionOk d)
    (hn : n = block.numSamples) {s : ℕ} (hs : s < (r.numStreams d).toNat) :
    ∃ region : Region, (ReplayCommand.configPlay (r.bufferOffset d +
          offsetOf (r.blocks d) i j block s) (n * SAMPLE_SIZE) s).playRegion = some (region, s) ∧
      region.Inside (r.slotRegion d i block s) ∧
      region = ⟨(r.slotRegion d i block s).offset + j * block.repetitionPeriod.toNat * 4,
        block.numSamples.toNat * 4⟩ := by
  obtain ⟨hselects, -, -⟩ := h
  obtain ⟨hi, hget⟩ := List.getElem?_eq_some_iff.mp hselects.block_eq
  have hmem : block ∈ (r.blocks d).replayBlocks := hget ▸ List.getElem_mem hi
  obtain ⟨hperiod, hpos, -⟩ := hd.blocks_ok block hmem
  subst hn
  exact playRegion_of_selects hd.toLayoutOk hselects hperiod hpos hs

/-- The issues of a record call: one `record` for each stream, then restarts. -/
theorem issuesOf_recorded {r r' : ReplayBlockConfig} {c : Call} {block : ReplayBlock}
    (h : Recorded r c.direction block r') :
    ∃ ports : List ℕ, issuesOf c r r' =
      ((r.recordCommands c.direction block (numBytes block)) ++
          ports.map ReplayCommand.recordRestart).map
        fun command => ⟨c.direction, (r.blocks c.direction).replayBlocks.length, command⟩ := by
  obtain ⟨-, ports, rfl⟩ := h
  refine ⟨ports, ?_⟩
  rw [issuesOf, recorded, commands_issueAll, commands_issueAll, commands_setBlocks,
    List.append_assoc, List.drop_left]

/-- The issues of a replay call: one `config_play` for each stream. -/
theorem issuesOf_played {r r' : ReplayBlockConfig} {c : Call} {i j : ℕ} {block : ReplayBlock}
    (h : Played r c.direction c.numSamples i j block r') :
    issuesOf c r r' =
      (r.playCommands c.direction i j block (c.numSamples * SAMPLE_SIZE)).map
        fun command => ⟨c.direction, (r.blocks c.direction).replayBlocks.length, command⟩ := by
  obtain ⟨-, -, rfl⟩ := h
  rw [issuesOf, commands_issueAll, commands_setBlocks, List.drop_left]

/-- Every issue of a replay call is the `config_play` of a stream. -/
theorem play_of_mem_issuesOf {r r' : ReplayBlockConfig} {c : Call} {i j : ℕ} {block : ReplayBlock}
    (h : Played r c.direction c.numSamples i j block r') {x : Issue} (hx : x ∈ issuesOf c r r') :
    ∃ s < (r.numStreams c.direction).toNat,
      x.direction = c.direction ∧ x.command = .configPlay (r.bufferOffset c.direction +
        offsetOf (r.blocks c.direction) i j block s) (c.numSamples * SAMPLE_SIZE) s := by
  rw [issuesOf_played h] at hx
  obtain ⟨command, hcommand, rfl⟩ := List.mem_map.mp hx
  obtain ⟨s, hs, rfl⟩ := List.mem_map.mp hcommand
  exact ⟨s, List.mem_range.mp hs, rfl, rfl⟩

/-- The `record`s of a record call are exactly the slots of the new block. -/
theorem slot_of_mem_issuesOf {r r' : ReplayBlockConfig} {c : Call} {block : ReplayBlock}
    (h : Recorded r c.direction block r') (hd : r'.DirectionOk c.direction) {x : Issue}
    {region : Region} {p : ℕ} (hx : x ∈ issuesOf c r r')
    (hregion : x.command.recordRegion = some (region, p)) :
    x.direction = c.direction ∧ x.block = (r.blocks c.direction).replayBlocks.length ∧
      p < (r.numStreams c.direction).toNat ∧
      region = r'.slotRegion c.direction (r.blocks c.direction).replayBlocks.length block p := by
  obtain ⟨ports, hissues⟩ := issuesOf_recorded h
  rw [hissues] at hx
  obtain ⟨command, hcommand, rfl⟩ := List.mem_map.mp hx
  rcases List.mem_append.mp hcommand with hrecord | hrestart
  · obtain ⟨s, hs, rfl⟩ := List.mem_map.mp hrecord
    have hs' := List.mem_range.mp hs
    rw [recordRegion_recordCommands h hd.toLayoutOk hs'] at hregion
    cases hregion
    exact ⟨rfl, rfl, hs', rfl⟩
  · obtain ⟨port, -, rfl⟩ := List.mem_map.mp hrestart
    cases hregion

/-- Each slot of the new block is recorded. -/
theorem exists_issue_of_slot {r r' : ReplayBlockConfig} {c : Call} {block : ReplayBlock}
    (h : Recorded r c.direction block r') (hd : r'.DirectionOk c.direction) {p : ℕ}
    (hp : p < (r.numStreams c.direction).toNat) :
    ∃ x ∈ issuesOf c r r', x.direction = c.direction ∧
      x.command.recordRegion =
        some (r'.slotRegion c.direction (r.blocks c.direction).replayBlocks.length block p, p) := by
  obtain ⟨ports, hissues⟩ := issuesOf_recorded h
  refine ⟨⟨c.direction, (r.blocks c.direction).replayBlocks.length, _⟩, ?_, rfl,
    recordRegion_recordCommands h hd.toLayoutOk hp⟩
  rw [hissues]
  exact List.mem_map_of_mem (List.mem_append_left _
    (List.mem_map.mpr ⟨p, List.mem_range.mpr hp, rfl⟩))

/-- A record call has one `record` for each port. -/
theorem pairwise_ports_issuesOf {r r' : ReplayBlockConfig} {c : Call} {block : ReplayBlock}
    (h : Recorded r c.direction block r') :
    (issuesOf c r r').Pairwise fun x y => ∀ region region' p p',
      x.command.recordRegion = some (region, p) → y.command.recordRegion = some (region', p') →
        p ≠ p' := by
  obtain ⟨ports, hissues⟩ := issuesOf_recorded h
  rw [hissues, List.pairwise_map, List.pairwise_append]
  refine ⟨?_, ?_, ?_⟩
  · rw [recordCommands, streamCommands, List.pairwise_map]
    refine List.pairwise_lt_range.imp_of_mem fun {s s'} hs hs' hlt => ?_
    intro region region' p p' hregion hregion'
    cases hregion
    cases hregion'
    exact hlt.ne
  · rw [List.pairwise_map]
    refine List.pairwise_of_forall fun port port' region region' p p' hregion => ?_
    cases hregion
  · intro x _ y hy region region' p p' _ hregion'
    obtain ⟨port, -, rfl⟩ := List.mem_map.mp hy
    cases hregion'

/-! ### The trace of a run -/

/-- Every play lies inside a region that was recorded before it, for the same
direction and port. -/
def PlaysCovered (issues : List Issue) : Prop :=
  ∀ k (hk : k < issues.length), ∀ region p,
    issues[k].command.playRegion = some (region, p) →
      ∃ x ∈ issues.take k, ∃ region', x.direction = issues[k].direction ∧
        x.command.recordRegion = some (region', p) ∧ region.Inside region'

/-- A playback is covered by a recording before it. -/
theorem playsCovered_append {issues new : List Issue} (h : PlaysCovered issues)
    (hnew : ∀ x ∈ new, ∀ region p, x.command.playRegion = some (region, p) →
      ∃ y ∈ issues, ∃ region', y.direction = x.direction ∧
        y.command.recordRegion = some (region', p) ∧ region.Inside region') :
    PlaysCovered (issues ++ new) := by
  intro k hk region p hregion
  rcases Nat.lt_or_ge k issues.length with hlt | hge
  · rw [List.getElem_append_left hlt] at hregion ⊢
    rw [List.take_append_of_le_length hlt.le]
    exact h k hlt region p hregion
  · rw [List.getElem_append_right hge] at hregion ⊢
    obtain ⟨y, hy, hcovered⟩ := hnew _ (List.getElem_mem _) region p hregion
    refine ⟨y, ?_, hcovered⟩
    rw [List.take_append, List.take_of_length_le hge]
    exact List.mem_append_left _ hy

/-- The issues so far are the slots of the recorded blocks, each recorded once,
and plays inside of slots that were recorded before. -/
structure TraceOk (r : ReplayBlockConfig) (issues : List Issue) : Prop where
  slot : ∀ x ∈ issues, ∀ region p, x.command.recordRegion = some (region, p) →
    ∃ block, (r.blocks x.direction).replayBlocks[x.block]? = some block ∧
      p < (r.numStreams x.direction).toNat ∧ region = r.slotRegion x.direction x.block block p
  recorded : ∀ d i block p, (r.blocks d).replayBlocks[i]? = some block →
    p < (r.numStreams d).toNat →
      ∃ x ∈ issues, x.direction = d ∧
        x.command.recordRegion = some (r.slotRegion d i block p, p)
  once : issues.Pairwise fun x y => ∀ region region' p p',
    x.command.recordRegion = some (region, p) → y.command.recordRegion = some (region', p') →
      ¬ (x.direction = y.direction ∧ x.block = y.block ∧ p = p')
  played : PlaysCovered issues

/-- The slots of the records stay where they are when blocks are added. -/
theorem TraceOk.slot_of_extends {r r' : ReplayBlockConfig} {issues : List Issue}
    (hissues : TraceOk r issues) (hext : Extends r r') {x : Issue} (hx : x ∈ issues)
    {region : Region} {p : ℕ} (hregion : x.command.recordRegion = some (region, p)) :
    ∃ block, (r'.blocks x.direction).replayBlocks[x.block]? = some block ∧
      p < (r'.numStreams x.direction).toNat ∧
        region = r'.slotRegion x.direction x.block block p := by
  obtain ⟨b, hb, hp, hslot⟩ := hissues.slot x hx region p hregion
  exact ⟨b, hext.getElem? hb, by rw [hext.streams]; exact hp,
    by rw [hext.slotRegion_eq hb, hslot]⟩

/-- The old blocks stay recorded when blocks are added. -/
theorem TraceOk.recorded_of_extends {r r' : ReplayBlockConfig} {issues : List Issue}
    (hissues : TraceOk r issues) (hext : Extends r r') {d : Direction} {i p : ℕ}
    {block : ReplayBlock} (hb : (r.blocks d).replayBlocks[i]? = some block)
    (hp : p < (r.numStreams d).toNat) :
    ∃ x ∈ issues, x.direction = d ∧
      x.command.recordRegion = some (r'.slotRegion d i block p, p) := by
  obtain ⟨x, hx, hdir, hregion⟩ := hissues.recorded d i block p hb hp
  exact ⟨x, hx, hdir, by rw [hext.slotRegion_eq hb, hregion]⟩

/-- A recording keeps the trace in order. -/
theorem traceOk_recorded {r r' : ReplayBlockConfig} {issues : List Issue} {c : Call}
    {block : ReplayBlock} (hissues : TraceOk r issues) (h : Recorded r c.direction block r')
    (hd : r'.DirectionOk c.direction) : TraceOk r' (issues ++ issuesOf c r r') := by
  have hext := h.extends
  have hnew : (r'.blocks c.direction).replayBlocks[(r.blocks c.direction).replayBlocks.length]? =
      some block := by
    obtain ⟨-, ports, rfl⟩ := h
    simp [ReplayBlockConfig.recorded]
  refine ⟨?_, ?_, ?_, ?_⟩
  · intro x hx region p hregion
    rcases List.mem_append.mp hx with hold | hx
    · exact hissues.slot_of_extends hext hold hregion
    · obtain ⟨hdir, hblock, hp, hslot⟩ := slot_of_mem_issuesOf h hd hx hregion
      rw [hdir, hblock]
      exact ⟨block, hnew, by rw [hext.streams]; exact hp, hslot⟩
  · intro d i b p hb hp
    rw [hext.streams] at hp
    rcases h.getElem?_eq_some hb with hold | ⟨rfl, rfl, rfl⟩
    · obtain ⟨x, hx, hrecorded⟩ := hissues.recorded_of_extends hext hold hp
      exact ⟨x, List.mem_append_left _ hx, hrecorded⟩
    · obtain ⟨x, hx, hdir, hregion⟩ := exists_issue_of_slot h hd hp
      exact ⟨x, List.mem_append_right _ hx, hdir, hregion⟩
  · rw [List.pairwise_append]
    refine ⟨hissues.once, ?_, ?_⟩
    · refine (pairwise_ports_issuesOf h).imp fun hports => ?_
      rintro region region' p p' hregion hregion' ⟨-, -, hp⟩
      exact hports region region' p p' hregion hregion' hp
    · rintro x hx y hy region region' p p' hregion hregion' ⟨hdir, hblock, -⟩
      obtain ⟨b, hb, -⟩ := hissues.slot x hx region p hregion
      obtain ⟨hdir', hblock', -⟩ := slot_of_mem_issuesOf h hd hy hregion'
      rw [hdir, hblock, hdir', hblock'] at hb
      obtain ⟨hlt, -⟩ := List.getElem?_eq_some_iff.mp hb
      exact lt_irrefl _ hlt
  · refine playsCovered_append hissues.played fun x hx region p hregion => ?_
    obtain ⟨ports, hnewIssues⟩ := issuesOf_recorded h
    rw [hnewIssues] at hx
    obtain ⟨command, hcommand, rfl⟩ := List.mem_map.mp hx
    rcases List.mem_append.mp hcommand with hrecord | hrestart
    · obtain ⟨s, -, rfl⟩ := List.mem_map.mp hrecord
      cases hregion
    · obtain ⟨port, -, rfl⟩ := List.mem_map.mp hrestart
      cases hregion

/-- So does a playback. -/
theorem traceOk_played {r r' : ReplayBlockConfig} {issues : List Issue} {c : Call} {i j : ℕ}
    {block : ReplayBlock} (hissues : TraceOk r issues)
    (h : Played r c.direction c.numSamples i j block r') (hd : r.DirectionOk c.direction)
    (hn : c.numSamples = block.numSamples) : TraceOk r' (issues ++ issuesOf c r r') := by
  have hext := h.extends
  have hblocks : ∀ d, (r'.blocks d).replayBlocks = (r.blocks d).replayBlocks := by
    intro d
    obtain ⟨-, -, rfl⟩ := h
    by_cases hdir : d = c.direction
    · subst hdir
      simp
    · simp [blocks_setBlocks_of_ne hdir]
  have hnoRecord : ∀ x ∈ issuesOf c r r', x.command.recordRegion = none := by
    intro x hx
    obtain ⟨s, -, -, hcommand⟩ := play_of_mem_issuesOf h hx
    rw [hcommand]
    rfl
  refine ⟨?_, ?_, ?_, ?_⟩
  · intro x hx region p hregion
    rcases List.mem_append.mp hx with hold | hx
    · exact hissues.slot_of_extends hext hold hregion
    · rw [hnoRecord x hx] at hregion
      cases hregion
  · intro d b' b p hb hp
    rw [hblocks] at hb
    rw [hext.streams] at hp
    obtain ⟨x, hx, hrecorded⟩ := hissues.recorded_of_extends hext hb hp
    exact ⟨x, List.mem_append_left _ hx, hrecorded⟩
  · rw [List.pairwise_append]
    refine ⟨hissues.once, ?_, ?_⟩
    · refine List.pairwise_of_forall_mem_list fun x hx y _ region _ _ _ hregion => ?_
      rw [hnoRecord x hx] at hregion
      cases hregion
    · intro x _ y hy _ region' _ _ _ hregion'
      rw [hnoRecord y hy] at hregion'
      cases hregion'
  · refine playsCovered_append hissues.played fun x hx region p hregion => ?_
    obtain ⟨s, hs, hdir, hcommand⟩ := play_of_mem_issuesOf h hx
    obtain ⟨region', hregion', hinside, -⟩ := playRegion_playCommands h hd hn hs
    rw [hcommand, hregion'] at hregion
    cases hregion
    obtain ⟨y, hy, hdir', hrecord⟩ :=
      hissues.recorded c.direction i block _ h.1.block_eq hs
    exact ⟨y, hy, _, hdir'.trans hdir.symm, hrecord, hinside⟩

/-- No call takes a block away. -/
theorem extends_of_apply {r r' : ReplayBlockConfig} {c : Call} {answers : ReplayAnswers}
    (hd : r.DirectionOk c.direction) (h : c.apply answers r = .ok () r') : Extends r r' := by
  rcases apply_eq_ok hd h with ⟨block, -, hrecorded⟩ | ⟨-, i, j, block, hplayed⟩
  · exact hrecorded.extends
  · exact hplayed.extends

/-- The memory keeps its size. -/
theorem memSize_of_run {start r : ReplayBlockConfig} {calls : List Call} {issues : List Issue}
    (hstart : ∀ d, start.DirectionOk d) (h : Run start calls issues r) :
    r.memSize = start.memSize := by
  induction h with
  | nil => rfl
  | snoc c answers hbefore _ hreturned ih =>
      have hd := directionOk_of_run hstart hbefore c.direction
      exact (extends_of_apply hd hreturned).memSize.trans ih

/-- The trace of every run is in order. -/
theorem traceOk_of_run {start r : ReplayBlockConfig} {calls : List Call} {issues : List Issue}
    (hstart : ∀ d, start.DirectionOk d) (hempty : ∀ d, (start.blocks d).replayBlocks = [])
    (h : Run start calls issues r) : TraceOk r issues := by
  induction h with
  | nil =>
      refine ⟨?_, ?_, List.Pairwise.nil, ?_⟩
      · intro x hx
        cases hx
      · intro d i b p hb
        rw [hempty d] at hb
        cases hb
      · intro k hk
        cases hk
  | snoc c answers hbefore hadmissible hreturned ih =>
      have hd := directionOk_of_run hstart hbefore
      have hd' := directionOk_of_apply hd hadmissible hreturned
      rcases apply_eq_ok (hd c.direction) hreturned with
        ⟨block, -, hrecorded⟩ | ⟨hnone, i, j, block, hplayed⟩
      · exact traceOk_recorded ih hrecorded (hd' c.direction)
      · exact traceOk_played ih hplayed (hd c.direction)
          (hadmissible.replay hnone i j block hplayed.1)

/-! ## Memory safety -/

/-- The memory is used consistently: records stay in the buffer of their
direction, records of different direction, block or stream do not overlap, and
plays read what was recorded. -/
structure MemorySafe (memSize : ℕ) (issues : List Issue) : Prop where
  inside : ∀ x ∈ issues, ∀ region p, x.command.recordRegion = some (region, p) →
    region.Inside ⟨0, memSize⟩ ∧ region.Inside (buffer memSize x.direction)
  disjoint : issues.Pairwise fun x y => ∀ region region' p p',
    x.command.recordRegion = some (region, p) → y.command.recordRegion = some (region', p') →
      (x.direction, x.block, p) ≠ (y.direction, y.block, p') ∧
        Disjoint region.addresses region'.addresses
  covered : PlaysCovered issues

/-- A trace in order is safe. -/
theorem memorySafe_of_traceOk {r : ReplayBlockConfig} {issues : List Issue}
    (hd : ∀ d, r.DirectionOk d) (h : TraceOk r issues) :
    MemorySafe r.memSize.toNat issues := by
  refine ⟨?_, ?_, h.played⟩
  · intro x hx region p hregion
    obtain ⟨block, hblock, hp, rfl⟩ := h.slot x hx region p hregion
    have hinside := slotRegion_inside (hd x.direction).toLayoutOk hblock hp
    refine ⟨hinside.trans ⟨Nat.zero_le _, ?_⟩, hinside⟩
    rw [Nat.zero_add]
    exact buffer_end_le _ _
  · refine h.once.imp_of_mem fun {x y} hx hy honce region region' p p' hregion hregion' => ?_
    have hne := honce region region' p p' hregion hregion'
    obtain ⟨block, hblock, hp, rfl⟩ := h.slot x hx region p hregion
    obtain ⟨block', hblock', hp', rfl⟩ := h.slot y hy region' p' hregion'
    refine ⟨fun heq => hne (by simpa using heq), ?_⟩
    by_cases hdir : x.direction = y.direction
    · rw [← hdir] at hblock' hp' ⊢
      exact slotRegion_disjoint (hd _).toLayoutOk hblock hblock' hp hp'
        fun hsame => hne ⟨hdir, hsame.1, hsame.2⟩
    · exact Region.disjoint_of_inside (slotRegion_inside (hd _).toLayoutOk hblock hp)
        (slotRegion_inside (hd _).toLayoutOk hblock' hp') (buffer_disjoint _ hdir)

/-! ## Independence of the directions -/

/-- The `record`s and `config_play`s of a direction. -/
def addresses (d : Direction) (issues : List Issue) : List ReplayCommand :=
  (issues.filter fun x => x.direction = d ∧
    (x.command.recordRegion.isSome ∨ x.command.playRegion.isSome)).map Issue.command

theorem addresses_append (d : Direction) (issues new : List Issue) :
    addresses d (issues ++ new) = addresses d issues ++ addresses d new := by
  simp [addresses]

/-- Commands that carry an address are kept. -/
theorem addresses_map_of_kept {d : Direction} {n : ℕ} {commands : List ReplayCommand}
    (h : ∀ command ∈ commands, command.recordRegion.isSome ∨ command.playRegion.isSome) :
    addresses d (commands.map fun command => ⟨d, n, command⟩) = commands := by
  rw [addresses, List.filter_map, List.map_map, List.filter_eq_self.mpr]
  · exact List.map_id _
  · intro command hcommand
    simpa using h command hcommand

theorem addresses_issuesOf_recorded {r r' : ReplayBlockConfig} {c : Call} {block : ReplayBlock}
    (h : Recorded r c.direction block r') :
    addresses c.direction (issuesOf c r r') =
      r.recordCommands c.direction block (numBytes block) := by
  obtain ⟨ports, hissues⟩ := issuesOf_recorded h
  rw [hissues, List.map_append, addresses_append, addresses_map_of_kept]
  · simp [addresses, ReplayCommand.recordRegion, ReplayCommand.playRegion]
  · intro command hcommand
    obtain ⟨s, -, rfl⟩ := List.mem_map.mp hcommand
    exact Or.inl rfl

theorem addresses_issuesOf_played {r r' : ReplayBlockConfig} {c : Call} {i j : ℕ}
    {block : ReplayBlock} (h : Played r c.direction c.numSamples i j block r') :
    addresses c.direction (issuesOf c r r') =
      r.playCommands c.direction i j block (c.numSamples * SAMPLE_SIZE) := by
  rw [issuesOf_played h, addresses_map_of_kept]
  intro command hcommand
  obtain ⟨s, -, rfl⟩ := List.mem_map.mp hcommand
  exact Or.inr rfl

/-- Two configurations agree on a direction. -/
structure AgreeOn (d : Direction) (r₁ r₂ : ReplayBlockConfig) : Prop where
  memSize : r₁.memSize = r₂.memSize
  streams : r₁.numStreams d = r₂.numStreams d
  blocks : r₁.blocks d = r₂.blocks d

theorem AgreeOn.bufferOffset_eq {d : Direction} {r₁ r₂ : ReplayBlockConfig}
    (h : AgreeOn d r₁ r₂) : r₁.bufferOffset d = r₂.bufferOffset d := by
  rw [← UInt64.toNat_inj, toNat_bufferOffset, toNat_bufferOffset, h.memSize]

theorem AgreeOn.streamCommands_eq {d : Direction} {r₁ r₂ : ReplayBlockConfig}
    (h : AgreeOn d r₁ r₂) (off : ℕ → UInt64) (command : UInt64 → ℕ → ReplayCommand) :
    r₁.streamCommands d off command = r₂.streamCommands d off command := by
  rw [streamCommands, streamCommands, h.streams, h.bufferOffset_eq]

theorem Selects.unique {t : BlockOffsetTracker} {i j i' j' : ℕ} {b b' : ReplayBlock}
    (h : Selects t i j b) (h' : Selects t i' j' b') : i = i' ∧ j = j' ∧ b = b' := by
  have hcursor := h.cursor.symm.trans h'.cursor
  simp only [Prod.mk.injEq, Nat.cast_inj] at hcursor
  obtain ⟨rfl, rfl⟩ := hcursor
  exact ⟨rfl, rfl, Option.some.inj (h.block_eq.symm.trans h'.block_eq)⟩

/-- A call of the other direction changes nothing of this direction. -/
theorem agreeOn_of_other {d : Direction} {r r' : ReplayBlockConfig} {c : Call}
    {answers : ReplayAnswers} (hd : r.DirectionOk c.direction)
    (h : c.apply answers r = .ok () r') (hother : c.direction ≠ d) :
    AgreeOn d r r' ∧ addresses d (issuesOf c r r') = [] := by
  refine ⟨?_, ?_⟩
  · rcases apply_eq_ok hd h with ⟨block, -, -, ports, rfl⟩ | ⟨-, i, j, block, -, -, rfl⟩
    · exact ⟨by simp [recorded], by simp [recorded],
        by simp [recorded, blocks_setBlocks_of_ne hother.symm]⟩
    · exact ⟨by simp, by simp, by simp [blocks_setBlocks_of_ne hother.symm]⟩
  · rw [addresses, List.map_eq_nil_iff, List.filter_eq_nil_iff]
    intro x hx hkeep
    obtain ⟨command, -, rfl⟩ := List.mem_map.mp hx
    exact hother (of_decide_eq_true hkeep).1

/-- A call of this direction does the same in both configurations. -/
theorem agreeOn_of_same {d : Direction} {r₁ r₁' r₂ r₂' : ReplayBlockConfig} {c : Call}
    {answers₁ answers₂ : ReplayAnswers} (hagree : AgreeOn d r₁ r₂)
    (hd₁ : r₁.DirectionOk d) (hd₂ : r₂.DirectionOk d)
    (h₁ : c.apply answers₁ r₁ = .ok () r₁') (h₂ : c.apply answers₂ r₂ = .ok () r₂')
    (hsame : c.direction = d) :
    AgreeOn d r₁' r₂' ∧
      addresses d (issuesOf c r₁ r₁') = addresses d (issuesOf c r₂ r₂') := by
  subst hsame
  rcases apply_eq_ok hd₁ h₁ with ⟨block, hblock, hrec₁⟩ | ⟨hnone, i, j, block, hplay₁⟩
  · rcases apply_eq_ok hd₂ h₂ with ⟨block', hblock', hrec₂⟩ | ⟨hnone, -⟩
    · obtain rfl : block = block' := Option.some.inj (hblock.symm.trans hblock')
      rw [addresses_issuesOf_recorded hrec₁, addresses_issuesOf_recorded hrec₂, recordCommands,
        recordCommands, hagree.blocks, hagree.streamCommands_eq]
      obtain ⟨-, ports₁, rfl⟩ := hrec₁
      obtain ⟨-, ports₂, rfl⟩ := hrec₂
      exact ⟨⟨by simp [recorded, hagree.memSize], by simp [recorded, hagree.streams],
        by simp [recorded, hagree.blocks]⟩, rfl⟩
    · rw [hblock] at hnone
      cases hnone
  · rcases apply_eq_ok hd₂ h₂ with ⟨block', hblock', -⟩ | ⟨-, i', j', block', hplay₂⟩
    · rw [hnone] at hblock'
      cases hblock'
    · have hselects := hplay₁.1
      rw [hagree.blocks] at hselects
      obtain ⟨rfl, rfl, rfl⟩ := hselects.unique hplay₂.1
      rw [addresses_issuesOf_played hplay₁, addresses_issuesOf_played hplay₂, playCommands,
        playCommands, hagree.blocks, hagree.streamCommands_eq]
      obtain ⟨-, -, rfl⟩ := hplay₁
      obtain ⟨-, -, rfl⟩ := hplay₂
      exact ⟨⟨by simp [hagree.memSize], by simp [hagree.streams], by simp [hagree.blocks]⟩, rfl⟩

theorem AgreeOn.trans {d : Direction} {r₁ r₂ r₃ : ReplayBlockConfig} (h : AgreeOn d r₁ r₂)
    (h' : AgreeOn d r₂ r₃) : AgreeOn d r₁ r₃ :=
  ⟨h.memSize.trans h'.memSize, h.streams.trans h'.streams, h.blocks.trans h'.blocks⟩

/-- Two runs with the same calls of a direction agree on it.  The induction is on
the last calls of both: those of the other direction are dropped one at a time,
until both runs end with the same call. -/
theorem agreeOn_of_run {start : ReplayBlockConfig} (hstart : ∀ d, start.DirectionOk d)
    (d : Direction) {calls₁ : List Call} {issues₁ : List Issue} {r₁ : ReplayBlockConfig}
    (h₁ : Run start calls₁ issues₁ r₁) :
    ∀ {calls₂ : List Call} {issues₂ : List Issue} {r₂ : ReplayBlockConfig},
      Run start calls₂ issues₂ r₂ →
        calls₁.filter (·.direction = d) = calls₂.filter (·.direction = d) →
          AgreeOn d r₁ r₂ ∧ addresses d issues₁ = addresses d issues₂ := by
  induction h₁ with
  | nil =>
      intro calls₂ issues₂ r₂ h₂
      induction h₂ with
      | nil => exact fun _ => ⟨⟨rfl, rfl, rfl⟩, rfl⟩
      | snoc c answers hbefore _ hreturned ih =>
          intro hcalls
          have hother : c.direction ≠ d := by
            intro hdir
            simp [List.filter_append, hdir] at hcalls
          have hd := directionOk_of_run hstart hbefore c.direction
          obtain ⟨hagree, haddresses⟩ := agreeOn_of_other hd hreturned hother
          obtain ⟨hih, hihAddresses⟩ := ih (by simpa [List.filter_append, hother] using hcalls)
          exact ⟨hih.trans hagree, by
            rw [addresses_append, haddresses, List.append_nil, hihAddresses]⟩
  | snoc c₁ answers₁ hbefore₁ _ hreturned₁ ih₁ =>
      have hd₁ := directionOk_of_run hstart hbefore₁
      intro calls₂ issues₂ r₂ h₂
      by_cases hdir₁ : c₁.direction = d
      · induction h₂ with
        | nil =>
            intro hcalls
            simp [List.filter_append, hdir₁] at hcalls
        | snoc c₂ answers₂ hbefore₂ _ hreturned₂ ih₂ =>
            intro hcalls
            have hd₂ := directionOk_of_run hstart hbefore₂
            by_cases hdir₂ : c₂.direction = d
            · rw [List.filter_append, List.filter_append] at hcalls
              simp only [List.filter_singleton, hdir₁, hdir₂, decide_true, cond_true] at hcalls
              obtain ⟨hfront, hlast⟩ := List.append_inj' hcalls rfl
              obtain rfl : c₁ = c₂ := List.singleton_inj.mp hlast
              obtain ⟨hih, hihAddresses⟩ := ih₁ hbefore₂ hfront
              obtain ⟨hagree, haddresses⟩ :=
                agreeOn_of_same hih (hd₁ d) (hd₂ d) hreturned₁ hreturned₂ hdir₁
              exact ⟨hagree, by rw [addresses_append, addresses_append, hihAddresses, haddresses]⟩
            · obtain ⟨hagree, haddresses⟩ := agreeOn_of_other (hd₂ _) hreturned₂ hdir₂
              obtain ⟨hih, hihAddresses⟩ := ih₂ (by
                rw [hcalls, List.filter_append]
                simp [hdir₂])
              exact ⟨hih.trans hagree, by
                rw [hihAddresses, addresses_append _ _ (issuesOf _ _ _), haddresses,
                  List.append_nil]⟩
      · intro hcalls
        obtain ⟨hagree, haddresses⟩ := agreeOn_of_other (hd₁ _) hreturned₁ hdir₁
        obtain ⟨hih, hihAddresses⟩ := ih₁ h₂ (by
          rw [← hcalls, List.filter_append]
          simp [hdir₁])
        refine ⟨⟨hagree.memSize.symm.trans hih.memSize, hagree.streams.symm.trans hih.streams,
          hagree.blocks.symm.trans hih.blocks⟩, ?_⟩
        rw [addresses_append, haddresses, List.append_nil, hihAddresses]

/-! ## Replay memory safety -/

/-- The configuration after the stream counts are set and the trackers reset. -/
def start (memSize numTx numRx : UInt64) : ReplayBlockConfig :=
  reset (setStreamCount numTx numRx (make memSize))

theorem directionOk_start (memSize : UInt64) {numTx numRx : UInt64} (htx : numTx ≠ 0)
    (hrx : numRx ≠ 0) (d : Direction) : (start memSize numTx numRx).DirectionOk d := by
  have hconsistent := consistent_make memSize numTx numRx
  have hsize := hconsistent.toNat_memSize d
  have hfits := hconsistent.directionFits_reset d
  cases d
  · exact ⟨hfits, htx, hsize, Or.inl ⟨rfl, rfl⟩, fun _ hb => nomatch hb⟩
  · exact ⟨hfits, hrx, hsize, Or.inl ⟨rfl, rfl⟩, fun _ hb => nomatch hb⟩

/-- **Replay memory safety.**  In every interleaving of admissible calls after a
reset, the issued addresses are safe, and those of a direction only depend on
the calls of that direction. -/
theorem replayMemory_safe (memSize numTx numRx : UInt64) (htx : numTx ≠ 0) (hrx : numRx ≠ 0) :
    (∀ calls issues r, Run (start memSize numTx numRx) calls issues r →
      MemorySafe memSize.toNat issues) ∧
    ∀ d calls₁ calls₂ issues₁ issues₂ r₁ r₂,
      Run (start memSize numTx numRx) calls₁ issues₁ r₁ →
      Run (start memSize numTx numRx) calls₂ issues₂ r₂ →
      calls₁.filter (·.direction = d) = calls₂.filter (·.direction = d) →
        addresses d issues₁ = addresses d issues₂ := by
  have hstart := directionOk_start memSize htx hrx
  refine ⟨fun calls issues r hrun => ?_, fun d calls₁ calls₂ issues₁ issues₂ r₁ r₂ hrun₁ hrun₂
    hcalls => (agreeOn_of_run hstart d hrun₁ hrun₂ hcalls).2⟩
  have hempty : ∀ d, ((start memSize numTx numRx).blocks d).replayBlocks = [] := by
    intro d
    cases d <;> rfl
  have hsafe := memorySafe_of_traceOk (directionOk_of_run hstart hrun)
    (traceOk_of_run hstart hempty hrun)
  have hmem : r.memSize = memSize := memSize_of_run hstart hrun
  rw [hmem] at hsafe
  exact hsafe

/-- A memory of 1000 bytes, one stream in each direction, and 8 samples that are
uploaded, received into the other buffer, and transmitted. -/
theorem replayMemory_safe_example :
    MemorySafe 1000
      [⟨.tx, 0, .record 0 32 0⟩, ⟨.rx, 0, .record 250 32 0⟩, ⟨.tx, 1, .configPlay 0 32 0⟩] := by
  have hone : (1 : UInt64) ≠ 0 := by decide
  have hstart := directionOk_start 1000 hone hone
  have hupload := Run.nil.snoc (.configUpload 8) noFullness
    (⟨fun block h => (by cases h; decide), fun h => nomatch h⟩ :
      (start 1000 1 1).Admissible (.configUpload 8))
    (configUpload_eq_ok_iff.mpr
      ⟨⟨by decide, by decide, by decide, by decide⟩, clearRecordingBuffer_noFullness _⟩)
  have hreceive := hupload.snoc (.configReceive 8 1 0) noFullness
    ⟨fun block h => (by cases h; decide), fun h => nomatch h⟩
    (configReceive_eq_ok_iff.mpr
      ⟨⟨by decide, by decide, by decide, by decide⟩, clearRecordingBuffer_noFullness _⟩)
  have htransmit := hreceive.snoc (.configTransmit 8) noFullness
    ⟨fun block h => (nomatch h), by
      rintro - i j block ⟨hcursor, hblock, -⟩
      have hi : (0 : ℤ) = i := congrArg Prod.fst hcursor
      obtain rfl : i = 0 := by omega
      exact congrArg ReplayBlock.numSamples (Option.some.inj hblock)⟩
    (playBlock_of_selects (i := 0) (j := 0) (by decide)
      (directionOk_of_run hstart hreceive .tx).cursor (by decide) ⟨rfl, rfl, Or.inl rfl⟩ 8)
  exact (replayMemory_safe 1000 1 1 (by decide) (by decide)).1 _ _ _ htransmit

end ReplayBlockConfig

end UsrpWrapper
