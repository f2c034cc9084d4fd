import UsrpWrapper.Lib.Command

/-!
# Exceptions

`Throws P x`: every exception the command `x` stops with satisfies `P`, from whatever
state it is started.  The rules take a command apart like those of `Preserves`;
`Rejects` is the same for computations without a state.
-/

namespace UsrpWrapper.Lib.Command

variable {ε σ τ α β : Type} {P : ε → Prop}

/-! ## Computations without a state -/

/-- A computation that fails does so with an exception that satisfies `P`. -/
def Rejects (P : ε → Prop) (c : Except ε α) : Prop := ∀ e, c = .error e → P e

namespace Rejects

/-- A computation that returns raises nothing. -/
theorem ok (a : α) : Rejects P (.ok a) := fun _ h => nomatch h

/-- The exception of `throw` has to satisfy the property. -/
theorem error {e : ε} (h : P e) : Rejects P (.error e : Except ε α) := by
  intro e' he
  cases he
  exact h

theorem check {bad : Prop} [Decidable bad] {e : ε} (h : P e) : Rejects P (check bad e) := by
  intro e' he
  obtain ⟨-, rfl⟩ := check_eq_error_iff.mp he
  exact h

theorem bind {c : Except ε α} {f : α → Except ε β} (hc : Rejects P c)
    (hf : ∀ a, Rejects P (f a)) : Rejects P (c >>= f) := by
  intro e he
  cases c with
  | ok a => exact hf a e he
  | error e' =>
      cases he
      exact hc e rfl

/-- The first item that fails ends the traversal with its exception. -/
theorem mapM {ι : Type} {f : ι → Except ε α} (hf : ∀ i, Rejects P (f i)) (l : List ι) :
    Rejects P (l.mapM f) := by
  induction l with
  | nil => exact ok []
  | cons i l ih =>
      rw [List.mapM_cons]
      exact bind (hf i) fun a => bind ih fun as => ok (a :: as)

end Rejects

/-! ## Commands -/

/-- From whatever state it starts, the command only stops with exceptions that satisfy `P`. -/
def Throws (P : ε → Prop) (x : EStateM ε σ α) : Prop := ∀ s, Rejects P (outcome (x s))

namespace Throws

/-- What is known of the exception a run has stopped with. -/
theorem of_error {x : EStateM ε σ α} (h : Throws P x) {s s' : σ} {e : ε}
    (hx : x s = .error e s') : P e := h s e (by rw [hx]; rfl)

/-- A command that only returns raises nothing. -/
theorem pure (a : α) : Throws (σ := σ) P (Pure.pure a) := fun _ => Rejects.ok a

/-- The exception that is thrown has to satisfy the property. -/
theorem throw {e : ε} (h : P e) : Throws P (MonadExcept.throw e : EStateM ε σ α) :=
  fun _ => Rejects.error h

theorem get : Throws (σ := σ) P get := fun s => Rejects.ok s

theorem modify (f : σ → σ) : Throws P (modify f : EStateM ε σ Unit) := fun _ => Rejects.ok ()

/-- A sequence raises what its parts raise. -/
theorem bind {x : EStateM ε σ α} {f : α → EStateM ε σ β} (hx : Throws P x)
    (hf : ∀ a, Throws P (f a)) : Throws P (x >>= f) := by
  intro s
  rw [bind_apply]
  cases h : x s with
  | ok a s₁ => exact hf a s₁
  | error e s₁ => exact Rejects.error (hx.of_error h)

/-- A reading command raises what the read computation raises. -/
theorem reads {f : σ → Except ε α} (h : ∀ s, Rejects P (f s)) : Throws P (reads f) := by
  intro s
  unfold Command.reads
  cases hf : f s with
  | ok a => exact Rejects.ok a
  | error e => exact Rejects.error (h s e hf)

/-- A computation without a state raises in a command what it raises by itself. -/
theorem liftE {c : Except ε α} (h : Rejects P c) : Throws (σ := σ) P (liftE c) := reads fun _ => h

theorem forM {ι : Type} {body : ι → EStateM ε σ Unit} {l : List ι}
    (h : ∀ i ∈ l, Throws P (body i)) : Throws P (ForM.forM l body) := by
  induction l with
  | nil => exact pure ()
  | cons i l ih =>
      rw [List.forM_cons]
      exact bind (h i List.mem_cons_self) fun _ => ih fun j hj => h j (List.mem_cons_of_mem i hj)

/-- A command on a part of the state raises there what it raises by itself. -/
theorem onField {get : σ → τ} {put : τ → σ → σ} {x : EStateM ε τ α} (hx : Throws P x) :
    Throws P (onField get put x) := by
  intro s
  unfold Command.onField
  cases h : x (get s) with
  | ok a t => exact Rejects.ok a
  | error e t => exact Rejects.error (hx.of_error h)

end Throws

end UsrpWrapper.Lib.Command
