import Mathlib.Data.List.Induction

/-!
# Runs of a state machine

A machine is given by its step function.  `Machine.run` performs a list of
inputs, and `AllSteps` says that every step of such a run satisfies a relation
between the state before the step and its input.

* `AllSteps.iff_of_steps` and `AllSteps.iff_of_invariant` exchange one relation for
  another along a run, the second one under an invariant that the new relation
  maintains.  They turn "the step is
  correct exactly when the input meets the condition" into "the run is correct
  exactly when its inputs meet the condition".
* `run_invariant` is the induction rule for a property of the states, and
  `run_filter` the one for a relation between a run and the run without some of
  its inputs.
* `exists_appended` finds the step of a run that appended an element of a list.
-/

namespace UsrpWrapper.Lib.Machine

variable {σ ι : Type} (step : σ → ι → σ)

/-- The state after a list of inputs. -/
def run (s : σ) (inputs : List ι) : σ := inputs.foldl step s

/-- Every step of the run satisfies `P`. -/
def AllSteps (P : σ → ι → Prop) : σ → List ι → Prop
  | _, [] => True
  | s, i :: inputs => P s i ∧ AllSteps P (step s i) inputs

variable {step} {P Q : σ → ι → Prop}

@[simp] theorem allSteps_cons {s : σ} {i : ι} {inputs : List ι} :
    AllSteps step P s (i :: inputs) ↔ P s i ∧ AllSteps step P (step s i) inputs := Iff.rfl

@[simp] theorem run_append (s : σ) (inputs more : List ι) :
    run step s (inputs ++ more) = run step (run step s inputs) more := List.foldl_append

theorem allSteps_append {s : σ} {inputs more : List ι} :
    AllSteps step P s (inputs ++ more) ↔
      AllSteps step P s inputs ∧ AllSteps step P (run step s inputs) more := by
  induction inputs generalizing s with
  | nil => exact ⟨fun h => ⟨trivial, h⟩, fun h => h.2⟩
  | cons i inputs ih =>
      rw [List.cons_append, allSteps_cons, allSteps_cons, ih, and_assoc]
      rfl

/-- Every step of a run, found by the inputs before it. -/
theorem allSteps_iff_forall {s : σ} {inputs : List ι} : AllSteps step P s inputs ↔
    ∀ before i later, inputs = before ++ i :: later → P (run step s before) i := by
  constructor
  · rintro h before i later rfl
    exact (allSteps_append.mp h).2.1
  · intro h
    induction inputs generalizing s with
    | nil => trivial
    | cons i inputs ih =>
        refine ⟨h [] i inputs rfl, ih fun before j later heq => ?_⟩
        exact h (i :: before) j later (congrArg (i :: ·) heq)

instance decidableAllSteps [∀ s i, Decidable (P s i)] :
    ∀ s inputs, Decidable (AllSteps step P s inputs)
  | _, [] => inferInstanceAs (Decidable True)
  | s, i :: inputs =>
      have := decidableAllSteps (step s i) inputs
      inferInstanceAs (Decidable (_ ∧ AllSteps step P (step s i) inputs))

theorem AllSteps.and {inputs : List ι} {s : σ} (hP : AllSteps step P s inputs)
    (hQ : AllSteps step Q s inputs) : AllSteps step (fun s i => P s i ∧ Q s i) s inputs := by
  induction inputs generalizing s with
  | nil => trivial
  | cons i inputs ih => exact ⟨⟨hP.1, hQ.1⟩, ih hP.2 hQ.2⟩

/-- A relation that only concerns the input. -/
theorem AllSteps.of_forall {R : ι → Prop} {inputs : List ι} {s : σ} (h : ∀ i ∈ inputs, R i) :
    AllSteps step (fun _ i => R i) s inputs := by
  induction inputs generalizing s with
  | nil => trivial
  | cons i inputs ih =>
      exact ⟨h i List.mem_cons_self, ih fun j hj => h j (List.mem_cons_of_mem i hj)⟩

/-- An invariant that steps satisfying `Q` preserve holds after a run of such
steps. -/
theorem run_invariant (Inv : σ → Prop)
    (hstep : ∀ s i, Inv s → Q s i → Inv (step s i)) {inputs : List ι} {s : σ}
    (hinv : Inv s) (hQ : AllSteps step Q s inputs) : Inv (run step s inputs) := by
  induction inputs generalizing s with
  | nil => exact hinv
  | cons i inputs ih => exact ih (hstep s i hinv hQ.1) hQ.2

/-- A list that every step keeps, empties, or extends by one element: each of its
elements was appended by a step of the run, from a state in which the list held
the elements before it. -/
theorem exists_appended {β : Type} {f : σ → List β} {V : σ → Option β → β → Prop}
    (hstep : ∀ s i, f (step s i) = f s ∨ f (step s i) = [] ∨
      ∃ b, V s (f s).getLast? b ∧ f (step s i) = f s ++ [b])
    {s : σ} (hempty : f s = []) (inputs : List ι) {n : ℕ} {b : β}
    (hget : (f (run step s inputs))[n]? = some b) :
    ∃ k < inputs.length, f (run step s (inputs.take k)) = (f (run step s inputs)).take n ∧
      V (run step s (inputs.take k)) ((f (run step s inputs)).take n).getLast? b := by
  induction inputs using List.reverseRecOn generalizing n b with
  | nil =>
      rw [show f (run step s []) = [] from hempty] at hget
      cases hget
  | append_singleton inputs i ih =>
      have hrun : run step s (inputs ++ [i]) = step (run step s inputs) i := run_append s inputs [i]
      have htake {k : ℕ} (hk : k ≤ inputs.length) : (inputs ++ [i]).take k = inputs.take k := by
        rw [List.take_append_of_le_length hk]
      -- the element was in the list already
      have hold {l : List β} (hl : l.take n = (f (run step s inputs)).take n)
          (hget' : (f (run step s inputs))[n]? = some b) : ∃ k < (inputs ++ [i]).length,
          f (run step s ((inputs ++ [i]).take k)) = l.take n ∧
            V (run step s ((inputs ++ [i]).take k)) (l.take n).getLast? b := by
        obtain ⟨k, hk, hbefore, hvalid⟩ := ih hget'
        refine ⟨k, by rw [List.length_append]; omega, ?_⟩
        rw [htake (by omega), hl]
        exact ⟨hbefore, hvalid⟩
      rw [hrun] at hget ⊢
      rcases hstep (run step s inputs) i with hkept | hnil | ⟨b', hvalid, happend⟩
      · rw [hkept] at hget ⊢
        exact hold rfl hget
      · rw [hnil] at hget
        cases hget
      · rw [happend] at hget ⊢
        by_cases hn : n < (f (run step s inputs)).length
        · rw [List.getElem?_append_left hn] at hget
          exact hold (List.take_append_of_le_length (Nat.le_of_lt hn)) hget
        · obtain ⟨hlt, hb⟩ := List.getElem?_eq_some_iff.mp hget
          rw [List.length_append, List.length_singleton] at hlt
          obtain rfl : n = (f (run step s inputs)).length := by omega
          rw [List.getElem_concat_length rfl] at hb
          subst hb
          refine ⟨inputs.length, by simp, ?_⟩
          rw [htake (Nat.le_refl _), List.take_length, List.take_left]
          exact ⟨rfl, hvalid⟩

/-- Leaving out inputs: a relation between two runs that the kept inputs maintain
when both runs perform them, and the other ones when only the first run does. -/
theorem run_filter (R : σ → σ → Prop) (kept : ι → Bool)
    (hkept : ∀ s t i, kept i = true → R s t → Q s i → R (step s i) (step t i))
    (hleft : ∀ s t i, kept i = false → R s t → Q s i → R (step s i) t) {inputs : List ι} {s t : σ}
    (hR : R s t) (hQ : AllSteps step Q s inputs) :
    R (run step s inputs) (run step t (inputs.filter kept)) := by
  induction inputs generalizing s t with
  | nil => exact hR
  | cons i inputs ih =>
      cases hi : kept i with
      | true =>
          rw [List.filter_cons_of_pos hi]
          exact ih (hkept s t i hi hR hQ.1) hQ.2
      | false =>
          rw [List.filter_cons_of_neg (by rw [hi]; decide)]
          exact ih (hleft s t i hi hR hQ.1) hQ.2

/-- Along a run whose steps all satisfy `R`, relations that agree on such steps
are exchangeable. -/
theorem AllSteps.iff_of_steps {R : σ → ι → Prop} (hiff : ∀ s i, R s i → (P s i ↔ Q s i))
    {inputs : List ι} {s : σ} (hR : AllSteps step R s inputs) :
    AllSteps step P s inputs ↔ AllSteps step Q s inputs := by
  induction inputs generalizing s with
  | nil => exact Iff.rfl
  | cons i inputs ih =>
      rw [allSteps_cons, allSteps_cons, ih hR.2]
      exact and_congr_left fun _ => hiff s i hR.1

/-- If, under an invariant, a step satisfies `P` exactly when it satisfies `Q`,
and steps that satisfy `Q` preserve the invariant, then a run satisfies `P`
throughout exactly when it satisfies `Q` throughout. -/
theorem AllSteps.iff_of_invariant (Inv : σ → Prop)
    (hiff : ∀ s i, Inv s → (P s i ↔ Q s i))
    (hstep : ∀ s i, Inv s → Q s i → Inv (step s i)) {inputs : List ι} {s : σ}
    (hinv : Inv s) : AllSteps step P s inputs ↔ AllSteps step Q s inputs := by
  induction inputs generalizing s with
  | nil => exact Iff.rfl
  | cons i inputs ih =>
      rw [allSteps_cons, allSteps_cons]
      constructor
      · rintro ⟨hP, htail⟩
        have hQ := (hiff s i hinv).mp hP
        exact ⟨hQ, (ih (hstep s i hinv hQ)).mp htail⟩
      · rintro ⟨hQ, htail⟩
        exact ⟨(hiff s i hinv).mpr hQ, (ih (hstep s i hinv hQ)).mpr htail⟩

end UsrpWrapper.Lib.Machine
