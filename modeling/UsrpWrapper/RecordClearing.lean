import UsrpWrapper.ReplayBlockConfig
import Mathlib.Data.List.Count
import Mathlib.Data.List.Nodup

/-!
# Clearing the record buffer

`clearRecordingBuffer` polls the fullness of the ports, at most three times, and
restarts the ports as long as one of them is not empty.  It polls before each round of
restarts and not after the last one: whether the third round has emptied the buffer is
not looked at.

`clearRounds_eq` says which rounds are issued and how the call ends.  From it follows
when the outcome is that of the ports after the last round (`VerdictExact`).
-/

namespace UsrpWrapper

open Lib Lib.Command BlockOffsetTracker

namespace ReplayAnswers

/-- The ports that are polled and restarted; `numPorts` is an `int`. -/
def polledPorts (answers : ReplayAnswers) : ℕ := (intOfSize answers.numInputPorts).toNat

/-- The ports that are polled are empty after `t` rounds of restarts. -/
def PolledEmpty (answers : ReplayAnswers) (t : ℕ) : Prop :=
  ∀ c < answers.polledPorts, answers.recordFullness t c = 0

/-- All ports are empty after `t` rounds of restarts. -/
def AllEmpty (answers : ReplayAnswers) (t : ℕ) : Prop :=
  ∀ c < answers.numInputPorts.toNat, answers.recordFullness t c = 0

instance (answers : ReplayAnswers) (t : ℕ) : Decidable (answers.PolledEmpty t) :=
  inferInstanceAs (Decidable (∀ c < answers.polledPorts, answers.recordFullness t c = 0))

instance (answers : ReplayAnswers) (t : ℕ) : Decidable (answers.AllEmpty t) :=
  inferInstanceAs (Decidable (∀ c < answers.numInputPorts.toNat, answers.recordFullness t c = 0))

variable {answers : ReplayAnswers} {t : ℕ}

/-- As long as the number of ports fits in an `int`, all ports are polled. -/
theorem polledEmpty_iff (h : answers.numInputPorts.toNat < 2 ^ 31) :
    answers.PolledEmpty t ↔ answers.AllEmpty t := by
  have hports : answers.polledPorts = answers.numInputPorts.toNat := by
    rw [polledPorts, intOfSize_of_lt h, Int.toNat_natCast]
  rw [PolledEmpty, AllEmpty, hports]

/-- Without ports there is nothing to find. -/
theorem polledPorts_pos (h : ¬ answers.PolledEmpty t) : 0 < answers.polledPorts := by
  refine Nat.pos_of_ne_zero fun hzero => h fun c hc => ?_
  rw [hzero] at hc
  exact absurd hc (Nat.not_lt_zero c)

/-- The poll finds all ports empty that it looks at. -/
theorem needClear_eq_false_iff : ReplayBlockConfig.needClear answers t = false ↔
    answers.PolledEmpty t := by
  simp [ReplayBlockConfig.needClear, PolledEmpty, polledPorts]

end ReplayAnswers

namespace ReplayBlockConfig

/-! ## The rounds -/

/-- The calls of one round of restarts. -/
def restartRound (answers : ReplayAnswers) : List ReplayCommand :=
  (List.range answers.polledPorts).map .recordRestart

/-- The calls of `n` rounds. -/
def restartRounds (answers : ReplayAnswers) (n : ℕ) : List ReplayCommand :=
  (List.replicate n (restartRound answers)).flatten

/-- How many rounds of restarts have been issued: each one restarts port 0 once. -/
def roundsIssued (issued : List ReplayCommand) : ℕ := issued.count (.recordRestart 0)

theorem restartRounds_succ (answers : ReplayAnswers) (n : ℕ) :
    restartRounds answers (n + 1) = restartRound answers ++ restartRounds answers n := by
  rw [restartRounds, List.replicate_succ, List.flatten_cons]
  rfl

theorem roundsIssued_restartRounds {answers : ReplayAnswers} (h : 0 < answers.polledPorts)
    (n : ℕ) : roundsIssued (restartRounds answers n) = n := by
  have hround : (restartRound answers).count (.recordRestart 0) = 1 := by
    have hinj : Function.Injective ReplayCommand.recordRestart := fun _ _ heq => by cases heq; rfl
    rw [restartRound, List.count_map_of_injective _ _ hinj]
    exact List.count_eq_one_of_mem List.nodup_range (List.mem_range.mpr h)
  induction n with
  | zero => rfl
  | succ n ih =>
      rw [roundsIssued, restartRounds_succ, List.count_append, hround, Nat.add_comm]
      exact congrArg (· + 1) ih

/-- The rounds from `t` on: the first one whose poll finds nothing ends the call, after the
rounds of restarts before it; if there is none, the call throws after all of them. -/
theorem clearRounds_eq (answers : ReplayAnswers) (n t : ℕ) (r : ReplayBlockConfig) :
    (∃ k < n, (∀ i < k, ¬ answers.PolledEmpty (t + i)) ∧ answers.PolledEmpty (t + k) ∧
        clearRounds answers (List.range' t n) r = .ok () (r.issueAll (restartRounds answers k))) ∨
      (∀ i < n, ¬ answers.PolledEmpty (t + i)) ∧
        clearRounds answers (List.range' t n) r =
          .error (.usrp .cannotClearRecordBuffer) (r.issueAll (restartRounds answers n)) := by
  induction n generalizing t r with
  | zero =>
      refine Or.inr ⟨fun i hi => absurd hi (Nat.not_lt_zero i), ?_⟩
      simp [clearRounds, restartRounds]
  | succ n ih =>
      rw [List.range'_succ]
      cases hneed : needClear answers t with
      | false =>
          have hempty := ReplayAnswers.needClear_eq_false_iff.mp hneed
          refine Or.inl ⟨0, Nat.succ_pos n, fun i hi => absurd hi (Nat.not_lt_zero i), hempty, ?_⟩
          simp [clearRounds, hneed, restartRounds]
      | true =>
          have hfull : ¬ answers.PolledEmpty t := by
            rw [← ReplayAnswers.needClear_eq_false_iff, hneed]
            decide
          have hround : clearRounds answers (t :: List.range' (t + 1) n) r =
              clearRounds answers (List.range' (t + 1) n) (r.issueAll (restartRound answers)) := by
            simp only [clearRounds, hneed, if_true]
            exact bind_of_ok (restart_loop _ r)
          -- the poll of this round, and those of the rounds after it
          have hbefore {k : ℕ} (h : ∀ i < k, ¬ answers.PolledEmpty (t + 1 + i)) :
              ∀ i < k + 1, ¬ answers.PolledEmpty (t + i) := by
            intro i hi
            cases i with
            | zero => exact hfull
            | succ i =>
                rw [Nat.add_comm i 1, ← Nat.add_assoc]
                exact h i (Nat.lt_of_succ_lt_succ hi)
          rw [hround]
          rcases ih (t + 1) (r.issueAll (restartRound answers)) with
            ⟨k, hk, hpolls, hempty, hok⟩ | ⟨hpolls, herror⟩
          · refine Or.inl ⟨k + 1, Nat.succ_lt_succ hk, hbefore hpolls, ?_, ?_⟩
            · rwa [Nat.add_comm k 1, ← Nat.add_assoc]
            · rw [hok, issueAll_issueAll, restartRounds_succ]
          · refine Or.inr ⟨hbefore hpolls, ?_⟩
            rw [herror, issueAll_issueAll, restartRounds_succ]

/-- How the call ends. -/
theorem clearRecordingBuffer_cases (answers : ReplayAnswers) (r : ReplayBlockConfig) :
    (∃ k < 3, (∀ i < k, ¬ answers.PolledEmpty i) ∧ answers.PolledEmpty k ∧
        clearRecordingBuffer answers r = .ok () (r.issueAll (restartRounds answers k))) ∨
      (∀ i < 3, ¬ answers.PolledEmpty i) ∧
        clearRecordingBuffer answers r =
          .error (.usrp .cannotClearRecordBuffer) (r.issueAll (restartRounds answers 3)) := by
  have hcases := clearRounds_eq answers 3 0 r
  simp only [Nat.zero_add] at hcases
  exact hcases

/-! ## The verdict -/

/-- The call returns if all ports are empty after the last round of restarts it has
issued, or from the start; else it reports that the buffer cannot be cleared. -/
def VerdictExact (answers : ReplayAnswers) (r : ReplayBlockConfig) : Prop :=
  ∃ issued, (finalState (clearRecordingBuffer answers r)).commands = r.commands ++ issued ∧
    outcome (clearRecordingBuffer answers r) =
      if answers.AllEmpty (roundsIssued issued) then .ok ()
      else .error (.usrp .cannotClearRecordBuffer)

/-- The calls of a run say how many rounds it has issued. -/
theorem verdictExact_iff_of_rounds {answers : ReplayAnswers} {r : ReplayBlockConfig} {n : ℕ}
    (hpolls : ∀ i < n, ¬ answers.PolledEmpty i)
    (hcommands : (finalState (clearRecordingBuffer answers r)).commands =
      r.commands ++ restartRounds answers n) :
    VerdictExact answers r ↔ outcome (clearRecordingBuffer answers r) =
      if answers.AllEmpty n then .ok () else .error (.usrp .cannotClearRecordBuffer) := by
  have hrounds : roundsIssued (restartRounds answers n) = n := by
    cases n with
    | zero => rfl
    | succ n =>
        exact roundsIssued_restartRounds (ReplayAnswers.polledPorts_pos (hpolls 0 n.succ_pos)) _
  constructor
  · rintro ⟨issued, hissued, houtcome⟩
    obtain rfl : restartRounds answers n = issued :=
      List.append_cancel_left (hcommands.symm.trans hissued)
    rwa [hrounds] at houtcome
  · intro houtcome
    exact ⟨restartRounds answers n, hcommands, by rwa [hrounds]⟩

theorem verdictExact_iff (answers : ReplayAnswers) (r : ReplayBlockConfig) :
    VerdictExact answers r ↔
      (∀ t < 3, (∀ i < t, ¬ answers.PolledEmpty i) → answers.PolledEmpty t →
          answers.AllEmpty t) ∧
        ((∀ t < 3, ¬ answers.PolledEmpty t) → ¬ answers.AllEmpty 3) := by
  rcases clearRecordingBuffer_cases answers r with ⟨k, hk, hpolls, hempty, hok⟩ | ⟨hpolls, herror⟩
  · have hverdict : VerdictExact answers r ↔ answers.AllEmpty k := by
      rw [verdictExact_iff_of_rounds hpolls (by rw [hok]; rfl), hok]
      by_cases hall : answers.AllEmpty k <;> simp [outcome, hall]
    rw [hverdict]
    constructor
    · refine fun hall => ⟨fun t ht hbefore hpoll => ?_, fun hnone => absurd hempty (hnone k hk)⟩
      -- the first poll that finds nothing is the one that ends the call
      obtain rfl : t = k := by
        rcases Nat.lt_trichotomy t k with hlt | heq | hgt
        · exact absurd hpoll (hpolls t hlt)
        · exact heq
        · exact absurd hempty (hbefore k hgt)
      exact hall
    · exact fun h => h.1 k hk hpolls hempty
  · have hverdict : VerdictExact answers r ↔ ¬ answers.AllEmpty 3 := by
      rw [verdictExact_iff_of_rounds hpolls (by rw [herror]; rfl), herror]
      by_cases hall : answers.AllEmpty 3 <;> simp [outcome, hall]
    rw [hverdict]
    constructor
    · exact fun hfull => ⟨fun t ht _ hpoll => absurd hpoll (hpolls t ht), fun _ => hfull⟩
    · exact fun h => h.2 hpolls

/-- **Clearing the record buffer.**  The verdict is that of the ports after the last
round of restarts exactly if a poll that ends the call does not miss ports beyond the
range of an `int`, and a third round, which no poll follows, does not empty the buffer.
With as many ports as an `int` can count, only the third round matters. -/
theorem clearing_exact_iff (answers : ReplayAnswers) (r : ReplayBlockConfig) :
    (VerdictExact answers r ↔
        (∀ t < 3, (∀ i < t, ¬ answers.PolledEmpty i) → answers.PolledEmpty t →
            answers.AllEmpty t) ∧
          ((∀ t < 3, ¬ answers.PolledEmpty t) → ¬ answers.AllEmpty 3)) ∧
      (answers.numInputPorts.toNat < 2 ^ 31 →
        (VerdictExact answers r ↔ ((∀ t < 3, ¬ answers.AllEmpty t) → ¬ answers.AllEmpty 3))) := by
  refine ⟨verdictExact_iff answers r, fun hports => ?_⟩
  simp only [verdictExact_iff, ReplayAnswers.polledEmpty_iff hports]
  exact and_iff_right fun t _ _ hempty => hempty

/-- One port, which the third restart empties. -/
def lateAnswers : ReplayAnswers := ⟨1, fun t _ => if t < 3 then 1 else 0⟩

/-- The third restart empties the buffer, and the call reports that it cannot be cleared. -/
theorem clearing_late : ¬ VerdictExact lateAnswers (make 1024) ∧ lateAnswers.AllEmpty 3 ∧
    outcome (clearRecordingBuffer lateAnswers (make 1024)) =
      .error (.usrp .cannotClearRecordBuffer) := by
  have hpolls : ∀ t < 3, ¬ lateAnswers.PolledEmpty t := by decide
  have hempty : lateAnswers.AllEmpty 3 := by decide
  refine ⟨fun h => ((verdictExact_iff _ _).mp h).2 hpolls hempty, hempty, ?_⟩
  rcases clearRecordingBuffer_cases lateAnswers (make 1024) with ⟨k, hk, -, hpoll, -⟩ | ⟨-, herror⟩
  · exact absurd hpoll (hpolls k hk)
  · rw [herror]
    rfl

end ReplayBlockConfig

end UsrpWrapper
