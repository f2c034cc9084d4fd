import Mathlib.Data.Nat.Basic

/-!
# Loops that are told something in each iteration

The body of such a loop takes the state and one input, and goes on with a new
state or leaves the loop with a result.  `Loop.run` performs at most `fuel`
iterations; a loop that never leaves has no result for any fuel.

* `run_spec` is the rule for what a loop that leaves results in.
* `leaves_of_progress` is the rule for leaving: a measure that no iteration
  raises, and that a useful input lowers, while a useful input is always still to
  come.  With every input useful this is the usual rule for a variant.
* `run_eq_none` is its converse, for a loop that always goes on.
-/

namespace UsrpWrapper.Lib

/-- What one iteration comes to. -/
inductive Iteration (σ ρ : Type) where
  | goOn (s : σ)
  | leave (r : ρ)

namespace Loop

variable {σ ι ρ : Type} (body : σ → ι → Iteration σ ρ) (input : ℕ → ι)

/-- The loop from iteration `i` on, for at most `fuel` iterations. -/
def run : ℕ → ℕ → σ → Option ρ
  | 0, _, _ => none
  | fuel + 1, i, s =>
      match body s (input i) with
      | .goOn s' => run fuel (i + 1) s'
      | .leave r => some r

/-- The loop leaves after finitely many iterations. -/
def Leaves (i : ℕ) (s : σ) : Prop := ∃ fuel r, run body input fuel i s = some r

variable {body input} {I : ℕ → σ → Prop} {i fuel : ℕ} {s s' : σ} {r : ρ}

theorem run_succ_of_goOn (h : body s (input i) = .goOn s') :
    run body input (fuel + 1) i s = run body input fuel (i + 1) s' := by
  rw [run, h]

theorem run_succ_of_leave (h : body s (input i) = .leave r) :
    run body input (fuel + 1) i s = some r := by
  rw [run, h]

/-- **The invariant rule.** -/
theorem run_spec {P : ρ → Prop}
    (hgoOn : ∀ i s s', I i s → body s (input i) = .goOn s' → I (i + 1) s')
    (hleave : ∀ i s r, I i s → body s (input i) = .leave r → P r)
    (hinv : I i s) (h : run body input fuel i s = some r) : P r := by
  induction fuel generalizing i s with
  | zero => cases h
  | succ fuel ih =>
      cases hbody : body s (input i) with
      | goOn s' =>
          rw [run_succ_of_goOn hbody] at h
          exact ih (hgoOn i s s' hinv hbody) h
      | leave r' =>
          rw [run_succ_of_leave hbody] at h
          cases h
          exact hleave i s r hinv hbody

/-- A loop that ends after an iteration ends. -/
theorem leaves_of_goOn (hbody : body s (input i) = .goOn s')
    (h : Leaves body input (i + 1) s') : Leaves body input i s := by
  obtain ⟨fuel, r, hrun⟩ := h
  exact ⟨fuel + 1, r, by rw [run_succ_of_goOn hbody, hrun]⟩

theorem leaves_of_leave (hbody : body s (input i) = .leave r) : Leaves body input i s :=
  ⟨1, r, run_succ_of_leave hbody⟩

/-- **The progress rule.** -/
theorem leaves_of_progress (m : σ → ℕ) (U : ℕ → Prop)
    (hgoOn : ∀ i s s', I i s → body s (input i) = .goOn s' →
      I (i + 1) s' ∧ m s' ≤ m s ∧ (U i → m s' < m s))
    (huseful : ∀ i s s', I i s → body s (input i) = .goOn s' → ∃ j, i ≤ j ∧ U j)
    (hinv : I i s) : Leaves body input i s := by
  induction hm : m s using Nat.strongRecOn generalizing i s with
  | _ n ih =>
      -- the iterations up to a given useful input
      have hupto (d : ℕ) {i : ℕ} {s : σ} (hinv : I i s) (hle : m s ≤ n)
          (hd : U (i + d)) : Leaves body input i s := by
        induction d generalizing i s with
        | zero =>
            cases hbody : body s (input i) with
            | goOn s' =>
                obtain ⟨hinv', -, hlt⟩ := hgoOn i s s' hinv hbody
                exact leaves_of_goOn hbody (ih (m s') (Nat.lt_of_lt_of_le (hlt hd) hle) hinv' rfl)
            | leave r => exact leaves_of_leave hbody
        | succ d ihd =>
            cases hbody : body s (input i) with
            | goOn s' =>
                obtain ⟨hinv', hle', -⟩ := hgoOn i s s' hinv hbody
                refine leaves_of_goOn hbody (ihd hinv' (Nat.le_trans hle' hle) ?_)
                rwa [Nat.succ_add_eq_add_succ]
            | leave r => exact leaves_of_leave hbody
      cases hbody : body s (input i) with
      | goOn s' =>
          obtain ⟨j, hj, huse⟩ := huseful i s s' hinv hbody
          obtain ⟨d, rfl⟩ := Nat.exists_eq_add_of_le hj
          exact hupto d hinv (Nat.le_of_eq hm) huse
      | leave r => exact leaves_of_leave hbody

/-- **A loop that always goes on** never leaves. -/
theorem run_eq_none (hgoOn : ∀ i s, I i s → ∃ s', body s (input i) = .goOn s' ∧ I (i + 1) s')
    (hinv : I i s) : run body input fuel i s = none := by
  induction fuel generalizing i s with
  | zero => rfl
  | succ fuel ih =>
      obtain ⟨s', hbody, hinv'⟩ := hgoOn i s hinv
      rw [run_succ_of_goOn hbody]
      exact ih hinv'

end Loop

end UsrpWrapper.Lib
