import UsrpWrapper.Lib.Triple

/-!
# Commands that extend a log

`Emits log I plan x`: when `x` returns it has appended exactly `plan` to the log, and when
it stops a beginning of `plan`.  The invariant `I` is what the plan may be read from.

Plans are joined along sequences (`bind`) and loops (`forM`), so that the plan of a
computation has the shape of the computation.
-/

namespace UsrpWrapper.Lib.Command

variable {ε σ τ α β γ ι : Type}

/-- `x` appends `plan` to the log; if it stops, it has come to some point of it. -/
def Emits (log : σ → List γ) (I : σ → Prop) (plan : List γ) (x : EStateM ε σ α) : Prop :=
  ∀ before, Triple (fun s => I s ∧ log s = before) x
    (fun _ s => I s ∧ log s = before ++ plan)
    (fun _ s => I s ∧ ∃ done, done <+: plan ∧ log s = before ++ done)

namespace Emits

variable {log : σ → List γ} {I : σ → Prop} {plan plan' : List γ} {x : EStateM ε σ α}
  {f : α → EStateM ε σ β}

/-- A computation that returns has logged its plan. -/
theorem of_ok (h : Emits log I plan x) {s s' : σ} {a : α} (hs : I s) (hx : x s = .ok a s') :
    I s' ∧ log s' = log s ++ plan := (h (log s)).of_ok ⟨hs, rfl⟩ hx

/-- One that throws has logged a first part of it. -/
theorem of_error (h : Emits log I plan x) {s s' : σ} {e : ε} (hs : I s)
    (hx : x s = .error e s') : I s' ∧ ∃ done, done <+: plan ∧ log s' = log s ++ done :=
  (h (log s)).of_error ⟨hs, rfl⟩ hx

/-- A computation that leaves the log alone. -/
theorem silent (h : ∀ before, Preserves (fun s => I s ∧ log s = before) x) :
    Emits log I [] x := by
  intro before
  refine (Triple.of_preserves (h before)).conseq (fun _ hs => hs) ?_ ?_
  · rintro _ s ⟨hs, hlog⟩
    exact ⟨hs, by rw [hlog, List.append_nil]⟩
  · rintro _ s ⟨hs, hlog⟩
    exact ⟨hs, [], List.prefix_rfl, by rw [hlog, List.append_nil]⟩

theorem pure (a : α) : Emits (ε := ε) log I [] (Pure.pure a) :=
  silent fun _ => Preserves.pure a

/-- A computation that finds its value without the state. -/
theorem liftE (y : Except ε α) : Emits log I [] (Command.liftE y) :=
  silent fun _ => Preserves.liftE y

/-- One entry. -/
theorem modify {f : σ → σ} {c : γ} (hI : ∀ s, I s → I (f s))
    (hlog : ∀ s, log (f s) = log s ++ [c]) : Emits (ε := ε) log I [c] (modify f) := by
  intro before
  refine Triple.modify ?_
  rintro s ⟨hs, rfl⟩
  exact ⟨hI s hs, hlog s⟩

/-- The plans of a sequence, one after the other. -/
theorem bind (hx : Emits log I plan x) (hf : ∀ a, Emits log I plan' (f a)) :
    Emits log I (plan ++ plan') (x >>= f) := by
  intro before
  refine Triple.bind ((hx before).mono_error ?_) fun a => (hf a (before ++ plan)).conseq
    (fun _ hs => hs) ?_ ?_
  · rintro _ s ⟨hs, done, hdone, hlog⟩
    exact ⟨hs, done, hdone.trans (List.prefix_append _ _), hlog⟩
  · rintro _ s ⟨hs, hlog⟩
    exact ⟨hs, by rw [hlog, List.append_assoc]⟩
  · rintro _ s ⟨hs, done, hdone, hlog⟩
    exact ⟨hs, plan ++ done, (List.prefix_append_right_inj plan).mpr hdone,
      by rw [hlog, List.append_assoc]⟩

/-- After a silent computation. -/
theorem after (hx : Emits log I [] x) (hf : ∀ a, Emits log I plan (f a)) :
    Emits log I plan (x >>= f) := hx.bind hf

/-- The plan may depend on the value, if there is one. -/
theorem liftE_bind {y : Except ε α} (hf : ∀ a, y = .ok a → Emits log I plan (f a)) :
    Emits log I plan (Command.liftE y >>= f) := by
  cases y with
  | ok a => exact hf a rfl
  | error e =>
      intro before
      refine fun s hs => ⟨hs.1, [], List.nil_prefix, ?_⟩
      rw [hs.2, List.append_nil]

/-- What the invariant says of the state. -/
theorem get_bind {f : σ → EStateM ε σ β} (hf : ∀ s, I s → Emits log I plan (f s)) :
    Emits log I plan (get >>= f) :=
  fun before s hs => hf s hs.1 before s hs

/-- The plan of a loop. -/
theorem forM {body : ι → EStateM ε σ Unit} {plans : ι → List γ} (l : List ι)
    (h : ∀ i, Emits log I (plans i) (body i)) :
    Emits log I (l.flatMap plans) (ForM.forM l body) := by
  induction l with
  | nil => exact pure ()
  | cons i l ih =>
      rw [List.forM_cons, List.flatMap_cons]
      exact (h i).bind fun _ => ih

/-- A log that lies in a field. -/
theorem onField {get : σ → τ} {put : τ → σ → σ} {log : τ → List γ} {J : τ → Prop} {I : σ → Prop}
    {x : EStateM ε τ α} (hx : Emits log J plan x) (hget : ∀ t s, get (put t s) = t)
    (hJ : ∀ s, I s → J (get s)) (hI : ∀ t s, I s → J t → I (put t s)) :
    Emits (fun s => log (get s)) I plan (Command.onField get put x) := by
  intro before
  refine Triple.onField fun s hs => ?_
  refine (hx before).conseq ?_ ?_ ?_
  · rintro t rfl
    exact ⟨hJ s hs.1, hs.2⟩
  · rintro _ t ⟨ht, hlog⟩
    exact ⟨hI t s hs.1 ht, (congrArg log (hget t s)).trans hlog⟩
  · rintro _ t ⟨ht, done, hdone, hlog⟩
    exact ⟨hI t s hs.1 ht, done, hdone, (congrArg log (hget t s)).trans hlog⟩

end Emits

end UsrpWrapper.Lib.Command
