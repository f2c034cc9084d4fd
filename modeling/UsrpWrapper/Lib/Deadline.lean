import Mathlib.Algebra.Order.Monoid.Defs
import Mathlib.Algebra.Group.Basic
import Mathlib.Data.List.Basic

/-!
# Jobs with start times

A worker carries out jobs one after the other.  It needs `setup` for each job.  A
job with a duration has to be announced `lead` before it starts, and occupies the
worker until it has ended and for `poll` after that; a job without one is left out
at once.

`InTime` simulates the clock of the worker.  `inTime_iff_clears` replaces the clock
by a condition on the jobs alone: the start of each job lies far enough behind the
end of the last job before it that was carried out.
-/

namespace UsrpWrapper.Lib.Deadline

variable {K : Type}

/-- A start, and the duration of a job that is carried out. -/
structure Job (K : Type) where
  start : K
  duration : Option K

/-- The times of a worker: what it takes to begin a job, how often it looks for the end of one,
and how far ahead of a start it has to be. -/
structure Worker (K : Type) where
  setup : K
  poll : K
  lead : K

/-- Job `i` is the last one before job `j` that is carried out. -/
def Precedes (jobs : List (Job K)) (i j : ℕ) : Prop :=
  i < j ∧ ∀ (k : ℕ) (job : Job K), i < k → k < j → jobs[k]? = some job → job.duration = none

/-- The jobs before job `j` are all left out, or one of them is the last one that is
carried out. -/
theorem none_or_precedes (jobs : List (Job K)) (j : ℕ) :
    (∀ (k : ℕ) (job : Job K), k < j → jobs[k]? = some job → job.duration = none) ∨
      ∃ i a d, Precedes jobs i j ∧ jobs[i]? = some a ∧ a.duration = some d := by
  induction j with
  | zero => exact Or.inl fun k job hk => absurd hk (Nat.not_lt_zero k)
  | succ j ih =>
      by_cases hlast : ∃ a d, jobs[j]? = some a ∧ a.duration = some d
      · obtain ⟨a, d, ha, hd⟩ := hlast
        exact Or.inr ⟨j, a, d, ⟨Nat.lt_succ_self j, fun k job hjk hk => by omega⟩, ha, hd⟩
      · have hskip (job : Job K) (hjob : jobs[j]? = some job) : job.duration = none := by
          cases hd : job.duration with
          | none => rfl
          | some d => exact absurd ⟨job, d, hjob, hd⟩ hlast
        rcases ih with hnone | ⟨i, a, d, hij, ha, hd⟩
        · refine Or.inl fun k job hk hjob => ?_
          rcases Nat.lt_succ_iff_lt_or_eq.mp hk with hk | rfl
          · exact hnone k job hk hjob
          · exact hskip job hjob
        · refine Or.inr ⟨i, a, d, ⟨Nat.lt_succ_of_lt hij.1, fun k job hik hk hjob => ?_⟩, ha, hd⟩
          rcases Nat.lt_succ_iff_lt_or_eq.mp hk with hk | rfl
          · exact hij.2 k job hik hk hjob
          · exact hskip job hjob

variable [AddCommMonoid K]

/-- When the worker is done with a job it comes to at `now`. -/
def Worker.done (w : Worker K) (now : K) (job : Job K) : K :=
  match job.duration with
  | none => now + w.setup
  | some d => job.start + d + w.poll

/-- When the worker is done with all the jobs. -/
def Worker.doneAll (w : Worker K) (now : K) (jobs : List (Job K)) : K :=
  jobs.foldl w.done now

theorem Worker.doneAll_concat (w : Worker K) (now : K) (jobs : List (Job K)) (job : Job K) :
    w.doneAll now (jobs ++ [job]) = w.done (w.doneAll now jobs) job := by
  rw [doneAll, doneAll, List.foldl_append]
  rfl

variable [LE K]

/-- A job the worker comes to at `now` can still be announced. -/
def Worker.Meets (w : Worker K) (now : K) (job : Job K) : Prop :=
  job.duration ≠ none → now + w.setup + w.lead ≤ job.start

/-- All the jobs of the list are announced in time, if the worker starts at `now`. -/
def InTime (w : Worker K) (now : K) (jobs : List (Job K)) : Prop :=
  ∀ (j : ℕ) (job : Job K), jobs[j]? = some job → w.Meets (w.doneAll now (jobs.take j)) job

/-- Each job that is carried out starts late enough after the last one before it. -/
def Clears (w : Worker K) (jobs : List (Job K)) : Prop :=
  ∀ (i j : ℕ) (a b : Job K) (d : K), Precedes jobs i j → jobs[i]? = some a → jobs[j]? = some b →
    a.duration = some d → b.duration ≠ none →
      a.start + d + w.poll + (j - i - 1) • w.setup + w.setup + w.lead ≤ b.start

section

omit [LE K]

variable {w : Worker K} {now : K} {jobs : List (Job K)}

/-- Up to the first job that is carried out the worker only needs its setup. -/
theorem doneAll_of_none (j : ℕ) (hj : j ≤ jobs.length)
    (hnone : ∀ (k : ℕ) (job : Job K), k < j → jobs[k]? = some job → job.duration = none) :
    w.doneAll now (jobs.take j) = now + j • w.setup := by
  induction j with
  | zero => rw [List.take_zero, zero_nsmul, add_zero]; rfl
  | succ j ih =>
      have hget : jobs[j]? = some jobs[j] := List.getElem?_eq_getElem hj
      have hprefix := ih (Nat.le_of_succ_le hj) fun k job hk => hnone k job (Nat.lt_succ_of_lt hk)
      rw [List.take_add_one, hget, Option.toList_some, Worker.doneAll_concat, hprefix, Worker.done,
        hnone j _ (Nat.lt_succ_self j) hget]
      show now + j • w.setup + w.setup = _
      rw [add_assoc, ← succ_nsmul]

/-- After job `i` the worker needs its setup for the jobs that are left out. -/
theorem doneAll_of_precedes {i j : ℕ} {a : Job K} {d : K} (hj : j ≤ jobs.length)
    (hij : Precedes jobs i j) (ha : jobs[i]? = some a) (hd : a.duration = some d) :
    w.doneAll now (jobs.take j) = a.start + d + w.poll + (j - i - 1) • w.setup := by
  obtain ⟨hlt, hnone⟩ := hij
  induction j, hlt using Nat.le_induction with
  | base =>
      rw [List.take_add_one, ha, Option.toList_some, Worker.doneAll_concat, Worker.done, hd]
      simp
  | succ j hle ih =>
      have hget : jobs[j]? = some jobs[j] := List.getElem?_eq_getElem hj
      have hprefix := ih (Nat.le_of_succ_le hj) fun k job hik hk =>
        hnone k job hik (Nat.lt_succ_of_lt hk)
      have hcount : j + 1 - i - 1 = (j - i - 1) + 1 := by omega
      rw [List.take_add_one, hget, Option.toList_some, Worker.doneAll_concat, hprefix, Worker.done,
        hnone j _ hle (Nat.lt_succ_self j) hget, hcount, succ_nsmul]
      show _ + w.setup = _
      rw [add_assoc]

end

/-- **The clock of the worker is not needed**: if the worker reaches each job in time
that has none carried out before it, all are announced in time exactly if each job
starts late enough after the last one before it. -/
theorem inTime_iff_clears {w : Worker K} {now : K} {jobs : List (Job K)}
    (hfirst : ∀ (j : ℕ) (job : Job K), jobs[j]? = some job →
      now + j • w.setup + w.setup + w.lead ≤ job.start) :
    InTime w now jobs ↔ Clears w jobs := by
  constructor
  · intro h i j a b d hij ha hb hd hcarried
    have hlt := (List.getElem?_eq_some_iff.mp hb).1
    have hmeets := h j b hb hcarried
    rw [doneAll_of_precedes (Nat.le_of_lt hlt) hij ha hd] at hmeets
    exact hmeets
  · intro h j b hb hcarried
    have hlt := (List.getElem?_eq_some_iff.mp hb).1
    rcases none_or_precedes jobs j with hnone | ⟨i, a, d, hij, ha, hd⟩
    · rw [doneAll_of_none j (Nat.le_of_lt hlt) hnone]
      exact hfirst j b hb
    · rw [doneAll_of_precedes (Nat.le_of_lt hlt) hij ha hd]
      exact h i j a b d hij ha hb hd hcarried

/-- Jobs announced in time, and one more. -/
theorem inTime_take_succ {w : Worker K} {now : K} {jobs : List (Job K)} {j : ℕ} {job : Job K}
    (hjob : jobs[j]? = some job) :
    InTime w now (jobs.take (j + 1)) ↔
      InTime w now (jobs.take j) ∧ w.Meets (w.doneAll now (jobs.take j)) job := by
  have hget {k : ℕ} (n : ℕ) : (jobs.take n)[k]? = if k < n then jobs[k]? else none := by
    rw [List.getElem?_take]
  have htake {k n : ℕ} (hk : k < n) : (jobs.take n).take k = jobs.take k := by
    rw [List.take_take, Nat.min_eq_left (Nat.le_of_lt hk)]
  constructor
  · intro h
    refine ⟨fun k b hb => ?_, ?_⟩
    · rw [hget] at hb
      split at hb
      · rename_i hk
        have hmeets := h k b (by rw [hget, if_pos (Nat.lt_succ_of_lt hk), hb])
        rw [htake (Nat.lt_succ_of_lt hk)] at hmeets
        rw [htake hk]
        exact hmeets
      · cases hb
    · have hmeets := h j job (by rw [hget, if_pos (Nat.lt_succ_self j), hjob])
      rw [htake (Nat.lt_succ_self j)] at hmeets
      exact hmeets
  · rintro ⟨hbefore, hmeets⟩ k b hb
    rw [hget] at hb
    split at hb
    · rename_i hk
      rw [htake hk]
      rcases Nat.lt_succ_iff_lt_or_eq.mp hk with hk' | rfl
      · have hold := hbefore k b (by rw [hget, if_pos hk', hb])
        rw [htake hk'] at hold
        exact hold
      · rw [hjob] at hb
        cases hb
        exact hmeets
    · cases hb

end UsrpWrapper.Lib.Deadline
