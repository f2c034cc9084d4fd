import UsrpWrapper.Lib.Command

/-!
# Histories of events

A history lists the events of a run, the newest first.

* `Extends K h h'`: the events that `h'` has after `h` are all of the kind `K`;
  `Extends.keeps` is the induction rule for what such events keep.
* `Since good bad h`: a good event happened, and no bad one after it.
* `Always P h`: every event satisfies `P`, which also sees the history before it.
-/

namespace UsrpWrapper.Lib.Trace

open Command

variable {ε τ : Type} {K : ε → Prop} {h₀ h₁ : List ε} {e : ε}

/-- The history `h` is `h₀` with more events, all of the kind `K`. -/
def Extends (K : ε → Prop) (h₀ h : List ε) : Prop := ∃ new, (∀ e ∈ new, K e) ∧ h = new ++ h₀

namespace Extends

theorem refl (h : List ε) : Extends K h h := ⟨[], fun _ he => (nomatch he), rfl⟩

theorem cons (he : K e) (h : Extends K h₀ h₁) : Extends K h₀ (e :: h₁) := by
  obtain ⟨new, hnew, rfl⟩ := h
  exact ⟨e :: new, List.forall_mem_cons.mpr ⟨he, hnew⟩, rfl⟩

/-- What every single event of the kind keeps. -/
theorem keeps {I : List ε → Prop} (hI : ∀ e h, K e → I h → I (e :: h)) (h : Extends K h₀ h₁)
    (h₀I : I h₀) : I h₁ := by
  obtain ⟨new, hnew, rfl⟩ := h
  induction new with
  | nil => exact h₀I
  | cons e new ih =>
      obtain ⟨he, htail⟩ := List.forall_mem_cons.mp hnew
      exact hI e _ he (ih htail)

/-- A view of the history that the events do not change. -/
theorem view_eq {view : List ε → τ} (hview : ∀ e h, K e → view (e :: h) = view h)
    (h : Extends K h₀ h₁) : view h₁ = view h₀ :=
  h.keeps (I := fun h => view h = view h₀) (fun e h he heq => (hview e h he).trans heq) rfl

end Extends

/-! ## Temporal properties -/

/-- A good event happened, and no bad one after it. -/
def Since (good bad : ε → Prop) : List ε → Prop
  | [] => False
  | e :: h => good e ∨ ¬ bad e ∧ Since good bad h

instance Since.decidable (good bad : ε → Prop) [DecidablePred good] [DecidablePred bad] :
    ∀ h : List ε, Decidable (Since good bad h)
  | [] => inferInstanceAs (Decidable False)
  | e :: h =>
      have := Since.decidable good bad h
      inferInstanceAs (Decidable (good e ∨ ¬ bad e ∧ Since good bad h))

/-- A weaker condition on both kinds of events. -/
theorem Since.mono {good good' bad bad' : ε → Prop} (hgood : ∀ e, good e → good' e)
    (hbad : ∀ e, bad' e → bad e) {h : List ε} (hsince : Since good bad h) :
    Since good' bad' h := by
  induction h with
  | nil => exact hsince
  | cons e h ih =>
      rcases hsince with he | ⟨he, htail⟩
      · exact Or.inl (hgood e he)
      · exact Or.inr ⟨fun h => he (hbad e h), ih htail⟩

/-- Every event satisfies `P`, which also sees the history before it. -/
def Always (P : ε → List ε → Prop) : List ε → Prop
  | [] => True
  | e :: h => P e h ∧ Always P h

instance Always.decidable (P : ε → List ε → Prop) [∀ e h, Decidable (P e h)] :
    ∀ h : List ε, Decidable (Always P h)
  | [] => inferInstanceAs (Decidable True)
  | e :: h =>
      have := Always.decidable P h
      inferInstanceAs (Decidable (P e h ∧ Always P h))

/-- The last good event, and the events after it. -/
theorem Since.exists {good bad : ε → Prop} {h : List ε} (hsince : Since good bad h) :
    ∃ new e h₀, h = new ++ e :: h₀ ∧ good e ∧ ∀ e' ∈ new, ¬ bad e' := by
  induction h with
  | nil => exact absurd hsince id
  | cons e h ih =>
      rcases hsince with he | ⟨he, htail⟩
      · exact ⟨[], e, h, rfl, he, fun _ he' => nomatch he'⟩
      · obtain ⟨new, e', h₀, rfl, hgood, hnew⟩ := ih htail
        exact ⟨e :: new, e', h₀, rfl, hgood, List.forall_mem_cons.mpr ⟨he, hnew⟩⟩

/-- A property of all events, each with its past. -/
theorem always_iff {P : ε → List ε → Prop} {h : List ε} :
    Always P h ↔ ∀ e h₀, e :: h₀ <:+ h → P e h₀ := by
  induction h with
  | nil =>
      refine ⟨fun _ e h₀ hsuffix => ?_, fun _ => trivial⟩
      exact absurd (List.suffix_nil.mp hsuffix) (List.cons_ne_nil _ _)
  | cons e h ih =>
      constructor
      · rintro ⟨he, htail⟩ e' h₀ hsuffix
        rcases List.suffix_cons_iff.mp hsuffix with heq | hsuffix
        · cases heq
          exact he
        · exact ih.mp htail e' h₀ hsuffix
      · intro hall
        exact ⟨hall e h (List.suffix_refl _), ih.mpr fun e' h₀ hsuffix =>
          hall e' h₀ (hsuffix.trans (List.suffix_cons _ _))⟩

/-! ## Commands that record events -/

/-- Append an event. -/
def record {err : Type} (e : ε) : EStateM err (List ε) Unit := modify fun h => e :: h

end UsrpWrapper.Lib.Trace
