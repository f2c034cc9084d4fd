import Mathlib.Algebra.Order.Monoid.Defs
import Mathlib.Data.List.Basic

/-!
# Schedules

Items with a start and a duration are scheduled one after the other, with a guard
time between the end of an item and the start of the next (`Follows`).

A scheduler that only compares a new item with the last one keeps every two items
apart, if no guard and no scheduled duration is negative (`pairwise_concat`).
-/

namespace UsrpWrapper.Lib.Schedule

variable {ι K : Type} [AddCommMonoid K] [PartialOrder K] [IsOrderedAddMonoid K]
  {start duration : ι → K} {guard : K}

/-- Item `b` starts at least the guard time after item `a` has ended. -/
def Follows (start duration : ι → K) (guard : K) (a b : ι) : Prop :=
  start a + guard + duration a ≤ start b

theorem Follows.start_le {a b : ι} (hguard : 0 ≤ guard) (hduration : 0 ≤ duration a)
    (h : Follows start duration guard a b) : start a ≤ start b := by
  calc start a ≤ start a + guard := le_add_of_nonneg_right hguard
    _ ≤ start a + guard + duration a := le_add_of_nonneg_right hduration
    _ ≤ start b := h

theorem Follows.trans {a b c : ι} (hguard : 0 ≤ guard) (hduration : 0 ≤ duration b)
    (hab : Follows start duration guard a b) (hbc : Follows start duration guard b c) :
    Follows start duration guard a c :=
  le_trans hab (hbc.start_le hguard hduration)

/-- **Following the last item is following all items.** -/
theorem pairwise_concat {l : List ι} {b : ι} (hguard : 0 ≤ guard)
    (hduration : ∀ a ∈ l, 0 ≤ duration a) (hl : l.Pairwise (Follows start duration guard))
    (hlast : ∀ a ∈ l.getLast?, Follows start duration guard a b) :
    (l ++ [b]).Pairwise (Follows start duration guard) := by
  rw [List.pairwise_append]
  refine ⟨hl, List.pairwise_singleton _ _, fun a ha c hc => ?_⟩
  obtain rfl := List.mem_singleton.mp hc
  rcases List.eq_nil_or_concat l with rfl | ⟨before, last, rfl⟩
  · exact nomatch ha
  · rw [List.concat_eq_append] at hl ha hlast hduration
    have hfollows : Follows start duration guard last c :=
      hlast last (by rw [List.getLast?_concat]; rfl)
    rcases List.mem_append.mp ha with hbefore | hmem
    · have habove := (List.pairwise_append.mp hl).2.2 a hbefore last (List.mem_singleton.mpr rfl)
      exact habove.trans hguard (hduration last (by simp)) hfollows
    · obtain rfl := List.mem_singleton.mp hmem
      exact hfollows

end UsrpWrapper.Lib.Schedule
