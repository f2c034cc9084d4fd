import UsrpWrapper.Lib.Command

/-!
# Triples

`Triple P x Q E`: started in a state with `P`, the command `x` returns with `Q`, or stops
with `E`.  A command is taken apart at its sequences (`bind`), and what it keeps
whichever way it ends (`Preserves`) is a triple (`of_preserves`).  Loops have an invariant
that may see the number of rounds (`forM_range`), the items before (`mapM`), or these and
what came of them (`mapM_split`).
-/

namespace UsrpWrapper.Lib.Command

variable {ε σ α β : Type} {P P' : σ → Prop} {Q Q' : α → σ → Prop} {R : β → σ → Prop}
  {E E' : ε → σ → Prop} {x : EStateM ε σ α}

/-- Started with `P`, the command returns with `Q` or stops with `E`. -/
def Triple (P : σ → Prop) (x : EStateM ε σ α) (Q : α → σ → Prop) (E : ε → σ → Prop) : Prop :=
  ∀ s, P s → match x s with
    | .ok a s' => Q a s'
    | .error e s' => E e s'

namespace Triple

/-- What a triple says of a run that returns. -/
theorem of_ok (h : Triple P x Q E) {s s' : σ} {a : α} (hs : P s) (hx : x s = .ok a s') :
    Q a s' := by
  have hend := h s hs
  rw [hx] at hend
  exact hend

theorem of_error (h : Triple P x Q E) {s s' : σ} {e : ε} (hs : P s) (hx : x s = .error e s') :
    E e s' := by
  have hend := h s hs
  rw [hx] at hend
  exact hend

/-- What the command leaves, whichever way it ends. -/
theorem finalState {S : σ → Prop} (h : Triple P x (fun _ => S) (fun _ => S)) {s : σ} (hs : P s) :
    S (Command.finalState (x s)) := by
  cases hx : x s with
  | ok a s' => exact h.of_ok hs hx
  | error e s' => exact h.of_error hs hx

/-- A property of the final state, whichever way the command ends. -/
theorem of_finalState {S : σ → Prop} (h : ∀ s, P s → S (Command.finalState (x s))) :
    Triple P x (fun _ => S) (fun _ => S) := by
  intro s hs
  have hend := h s hs
  cases hx : x s with
  | ok a s' => rwa [hx] at hend
  | error e s' => rwa [hx] at hend

theorem of_preserves {I : σ → Prop} (h : Preserves I x) : Triple I x (fun _ => I) (fun _ => I) :=
  of_finalState h

/-- A stronger precondition, and weaker postconditions. -/
theorem conseq (h : Triple P x Q E) (hP : ∀ s, P' s → P s) (hQ : ∀ a s, Q a s → Q' a s)
    (hE : ∀ e s, E e s → E' e s) : Triple P' x Q' E' := by
  intro s hs
  cases hx : x s with
  | ok a s' => exact hQ a s' (h.of_ok (hP s hs) hx)
  | error e s' => exact hE e s' (h.of_error (hP s hs) hx)

theorem mono_pre (h : Triple P x Q E) (hP : ∀ s, P' s → P s) : Triple P' x Q E :=
  h.conseq hP (fun _ _ hs => hs) fun _ _ hs => hs

/-- A weaker postcondition for a run that returns. -/
theorem mono_post (h : Triple P x Q E) (hQ : ∀ a s, Q a s → Q' a s) : Triple P x Q' E :=
  h.conseq (fun _ hs => hs) hQ fun _ _ hs => hs

/-- A weaker postcondition for a run that raises. -/
theorem mono_error (h : Triple P x Q E) (hE : ∀ e s, E e s → E' e s) : Triple P x Q E' :=
  h.conseq (fun _ hs => hs) (fun _ _ hs => hs) hE

/-- In a sequence, the second command starts where the first one has returned. -/
theorem bind {f : α → EStateM ε σ β} (hx : Triple P x Q E) (hf : ∀ a, Triple (Q a) (f a) R E) :
    Triple P (x >>= f) R E := by
  intro s hs
  rw [bind_apply]
  cases h : x s with
  | ok a s₁ => exact hf a s₁ (hx.of_ok hs h)
  | error e s₁ => exact hx.of_error hs h

/-- A command that only returns needs its postcondition before. -/
theorem pure {a : α} (h : ∀ s, P s → Q a s) : Triple P (Pure.pure a) Q E := h

/-- A command that only raises needs its exceptional postcondition before. -/
theorem throw {e : ε} (h : ∀ s, P s → E e s) :
    Triple P (MonadExcept.throw e : EStateM ε σ α) Q E := h

theorem get : Triple (ε := ε) P get (fun s₀ s => s₀ = s ∧ P s) E := fun _ hs => ⟨rfl, hs⟩

/-- A change establishes what it makes of the precondition. -/
theorem modify {f : σ → σ} {S : σ → Prop} (h : ∀ s, P s → S (f s)) :
    Triple (ε := ε) P (modify f) (fun _ => S) E := h

/-- Reading leaves the state, and the value is known. -/
theorem reads {f : σ → Except ε α} (hE : ∀ s e, P s → E e s) :
    Triple P (reads f) (fun a s => f s = .ok a ∧ P s) E := by
  intro s hs
  unfold Command.reads
  cases h : f s with
  | ok a => exact ⟨h, hs⟩
  | error e => exact hE s e hs

/-- A computation that finds the same value in every state with `P`. -/
theorem reads_of_ok {f : σ → Except ε α} {a : α} (h : ∀ s, P s → f s = .ok a) :
    Triple P (Command.reads f) (fun b s => b = a ∧ P s) E := by
  intro s hs
  unfold Command.reads
  rw [h s hs]
  exact ⟨rfl, hs⟩

/-- Both branches, each under its condition. -/
theorem ite {c : Prop} [Decidable c] {y : EStateM ε σ α} (hx : c → Triple P x Q E)
    (hy : ¬ c → Triple P y Q E) : Triple P (if c then x else y) Q E := by
  split
  · exact hx ‹c›
  · exact hy ‹¬ c›

/-- A precondition may state a fact. -/
theorem of_fact {p : Prop} (h : p → Triple P x Q E) : Triple (fun s => p ∧ P s) x Q E :=
  fun s hs => h hs.1 s hs.2

/-- A command on a field, started with the field of a state that has `P`. -/
theorem onField {τ : Type} {get : σ → τ} {put : τ → σ → σ} {x : EStateM ε τ α}
    (h : ∀ s, P s → Triple (fun t => t = get s) x (fun a t => Q a (put t s))
      fun e t => E e (put t s)) : Triple P (Command.onField get put x) Q E := by
  intro s hs
  unfold Command.onField
  cases hx : x (get s) with
  | ok a t => exact (h s hs).of_ok rfl hx
  | error e t => exact (h s hs).of_error rfl hx

/-- A loop keeps the invariant that its body keeps for every item. -/
theorem forM {ι : Type} {body : ι → EStateM ε σ Unit} {l : List ι}
    (h : ∀ i ∈ l, Triple P (body i) (fun _ => P) E) :
    Triple P (ForM.forM l body) (fun _ => P) E := by
  induction l with
  | nil => exact Triple.pure fun _ hs => hs
  | cons i l ih =>
      rw [List.forM_cons]
      exact Triple.bind (h i List.mem_cons_self) fun _ =>
        ih fun j hj => h j (List.mem_cons_of_mem i hj)

/-- A loop that counts, with an invariant that sees the number of rounds. -/
theorem forM_range {body : ℕ → EStateM ε σ Unit} {I : ℕ → σ → Prop} (n : ℕ)
    (h : ∀ i < n, Triple (I i) (body i) (fun _ => I (i + 1)) E) :
    Triple (I 0) (ForM.forM (List.range n) body) (fun _ => I n) E := by
  induction n with
  | zero => exact Triple.pure fun _ hs => hs
  | succ n ih =>
      rw [List.range_succ, List.forM_append]
      refine Triple.bind (ih fun i hi => h i (by omega)) fun _ => ?_
      rw [List.forM_cons]
      exact Triple.bind (h n (Nat.lt_succ_self n)) fun _ => Triple.pure fun _ hs => hs

/-- A loop that collects values, with an invariant that sees the items before. -/
theorem mapM {ι : Type} {f : ι → EStateM ε σ α} {value : ι → α} {I : List ι → σ → Prop}
    {l : List ι} (before : List ι)
    (h : ∀ i ∈ l, ∀ before, Triple (I before) (f i)
      (fun a s => a = value i ∧ I (before ++ [i]) s) E) :
    Triple (I before) (l.mapM f) (fun as s => as = l.map value ∧ I (before ++ l) s) E := by
  induction l generalizing before with
  | nil =>
      rw [List.append_nil]
      exact Triple.pure fun s hs => ⟨rfl, hs⟩
  | cons i l ih =>
      rw [List.mapM_cons]
      refine Triple.bind (h i List.mem_cons_self before) fun a => ?_
      refine Triple.bind (Q := fun as s => a = value i ∧ as = l.map value ∧
        I (before ++ i :: l) s) ?_ fun as => Triple.pure ?_
      · rintro s ⟨ha, hs⟩
        have htail := ih (before ++ [i]) (fun j hj => h j (List.mem_cons_of_mem i hj))
        rw [List.append_assoc] at htail
        exact htail.mono_post (fun _ _ hs => ⟨ha, hs⟩) s hs
      · rintro s ⟨rfl, rfl, hs⟩
        exact ⟨rfl, hs⟩

/-- A loop that collects values, with an invariant that sees the items before and what
came of them. -/
theorem mapM_split {ι : Type} {f : ι → EStateM ε σ α} {I : List ι → List α → σ → Prop} (l : List ι)
    (h : ∀ before i after as, l = before ++ i :: after →
      Triple (I before as) (f i) (fun a => I (before ++ [i]) (as ++ [a])) E) :
    Triple (I [] []) (l.mapM f) (I l) E := by
  have hrest : ∀ after before as, l = before ++ after →
      Triple (I before as) (after.mapM f) (fun bs => I l (as ++ bs)) E := by
    intro after
    induction after with
    | nil =>
        intro before as hl
        rw [List.mapM_nil]
        refine Triple.pure fun s hs => ?_
        rw [hl, List.append_nil, List.append_nil]
        exact hs
    | cons i after ih =>
        intro before as hl
        rw [List.mapM_cons]
        refine Triple.bind (h before i after as hl) fun a => ?_
        refine Triple.bind (ih (before ++ [i]) (as ++ [a]) (by simp [hl])) fun bs =>
          Triple.pure fun s hs => ?_
        rwa [List.append_assoc] at hs
  exact hrest l [] [] rfl

end Triple

end UsrpWrapper.Lib.Command
