import UsrpWrapper.ReplayBlockConfig

/-!
# The order of the replays

The cursors of a tracker go through the repetitions of its blocks one after the
other.  `replaysDone` counts how many they have passed; the next replay selects
the repetition with this number (`number_of_selects`), so that after as many
replays as there are repetitions every repetition was selected once, in the order
of the blocks.

A count that is no positive `int` is replayed once (`replayCount`).
-/

namespace UsrpWrapper

open Lib

/-- How often a block is replayed. -/
def ReplayBlock.replayCount (b : ReplayBlock) : ℕ := max 1 (intOfSize b.repetitions).toNat

/-- The conversion to `int` does not add repetitions. -/
theorem ReplayBlock.replayCount_le {b : ReplayBlock} (h : 1 ≤ b.repetitions.toNat) :
    b.replayCount ≤ b.repetitions.toNat := by
  have hle := BlockOffsetTracker.intOfSize_le b.repetitions
  rw [replayCount]
  generalize intOfSize b.repetitions = reps at hle ⊢
  omega

namespace BlockOffsetTracker

open ReplayBlockConfig

/-- How often each block is to be played. -/
def replayCounts (t : BlockOffsetTracker) : List ℕ :=
  t.replayBlocks.map ReplayBlock.replayCount

@[simp] theorem replayCounts_moveTo (t : BlockOffsetTracker) (c : ℤ × ℤ) :
    (t.moveTo c).replayCounts = t.replayCounts := rfl

/-- The number of repetitions the cursors have passed. -/
def replaysDone (t : BlockOffsetTracker) : ℕ :=
  if t.currentReplay < 0 then 0
  else Layout.start t.replayCounts t.currentReplay.toNat + t.currentRepetition.toNat + 1

theorem replaysDone_start {t : BlockOffsetTracker} (h : t.currentReplay = -1) :
    t.replaysDone = 0 := by
  rw [replaysDone, if_pos (by omega)]

theorem replaysDone_moveTo (t : BlockOffsetTracker) (i j : ℕ) :
    (t.moveTo ((i : ℤ), (j : ℤ))).replaysDone = Layout.start t.replayCounts i + j + 1 := by
  rw [replaysDone, if_neg (by simp)]
  rfl

theorem replayCounts_getElem {t : BlockOffsetTracker} {i : ℕ} {block : ReplayBlock}
    (h : t.replayBlocks[i]? = some block) :
    ∃ hi : i < t.replayCounts.length, t.replayCounts[i] = block.replayCount := by
  obtain ⟨hi, rfl⟩ := List.getElem?_eq_some_iff.mp h
  exact ⟨by simpa [replayCounts] using hi, by simp [replayCounts]⟩

/-- A block that is appended does not change how far the cursors are. -/
theorem replaysDone_withBlock {t : BlockOffsetTracker} (hcursor : t.CursorOk)
    (block : ReplayBlock) : (withBlock t block).replaysDone = t.replaysDone := by
  have hcounts : (withBlock t block).replayCounts = t.replayCounts ++ [block.replayCount] := by
    simp [replayCounts]
  rw [replaysDone, replaysDone, hcounts]
  rcases hcursor with ⟨hreplay, -⟩ | ⟨b, hb, -⟩
  · rw [if_pos (show t.currentReplay < 0 by omega)]
    exact if_pos (show t.currentReplay < 0 by omega)
  · obtain ⟨m, hm, hget⟩ := block?_eq_some hb
    obtain ⟨hlt, -⟩ := replayCounts_getElem hget
    have hle : t.currentReplay.toNat ≤ t.replayCounts.length := by omega
    rw [← Layout.start_append [block.replayCount] hle]
    rfl

/-- The selected repetition is one of those that are replayed. -/
theorem lt_replayCount_of_selects {t : BlockOffsetTracker} {i j : ℕ} {block : ReplayBlock}
    (h : Selects t i j block) : j < block.replayCount := by
  have hrepetition := h.repetition
  rw [ReplayBlock.replayCount]
  generalize intOfSize block.repetitions = reps at hrepetition ⊢
  omega

/-- **The next replay selects the repetition with the number of replays done.** -/
theorem number_of_selects {t : BlockOffsetTracker} {i j : ℕ} {block : ReplayBlock}
    (hcursor : t.CursorOk) (h : Selects t i j block) :
    Layout.start t.replayCounts i + j = t.replaysDone := by
  have hnext := h.cursor
  rw [next] at hnext
  rw [replaysDone]
  rcases hcursor with ⟨hreplay, -⟩ | ⟨b, hb, hpos, hrepetition⟩
  · rw [if_neg (not_repetitionLeft_of_start hreplay), Prod.mk.injEq, hreplay] at hnext
    obtain ⟨hi, hj⟩ := hnext
    obtain rfl : i = 0 := by omega
    obtain rfl : j = 0 := by omega
    rw [if_pos (by omega), Layout.start_zero]
  · obtain ⟨m, hm, hget⟩ := block?_eq_some hb
    rw [if_neg (by omega)]
    by_cases hleft : t.RepetitionLeft
    · rw [if_pos hleft, Prod.mk.injEq] at hnext
      obtain ⟨hi, hj⟩ := hnext
      obtain rfl : i = t.currentReplay.toNat := by omega
      omega
    · rw [if_neg hleft, Prod.mk.injEq] at hnext
      obtain ⟨hi, hj⟩ := hnext
      obtain rfl : i = m + 1 := by omega
      obtain ⟨hlt, hcount⟩ := replayCounts_getElem hget
      -- the current repetition is the last one of its block
      have hlast : b.replayCount = t.currentRepetition.toNat + 1 := by
        rw [repetitionLeft_iff hb] at hleft
        rw [ReplayBlock.replayCount]
        generalize intOfSize b.repetitions = reps at hleft hrepetition ⊢
        omega
      rw [Layout.start_succ hlt, hcount, hlast, show t.currentReplay.toNat = m by omega]
      omega

/-- A replay passes one more repetition. -/
theorem replaysDone_moveTo_next {t : BlockOffsetTracker} (hcursor : t.CursorOk)
    (hnext : t.HasNext) : (t.moveTo t.next).replaysDone = t.replaysDone + 1 := by
  obtain ⟨i, j, block, hselects⟩ := exists_selects hcursor hnext
  rw [hselects.cursor, replaysDone_moveTo, number_of_selects hcursor hselects]

/-- The cursors never pass more repetitions than there are. -/
theorem replaysDone_le_sum {t : BlockOffsetTracker} (hcursor : t.CursorOk) :
    t.replaysDone ≤ t.replayCounts.sum := by
  rw [replaysDone]
  rcases hcursor with ⟨hreplay, -⟩ | ⟨b, hb, hpos, hrepetition⟩
  · rw [if_pos (by omega)]
    exact Nat.zero_le _
  · obtain ⟨m, hm, hget⟩ := block?_eq_some hb
    obtain ⟨hlt, hcount⟩ := replayCounts_getElem hget
    have hend := Layout.start_add_le_sum hlt
    rw [hcount, ReplayBlock.replayCount] at hend
    generalize intOfSize b.repetitions = reps at hend hrepetition
    rw [if_neg (by omega), show t.currentReplay.toNat = m by omega]
    omega

end BlockOffsetTracker

end UsrpWrapper
