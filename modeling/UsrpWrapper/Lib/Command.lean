import Mathlib.Data.List.Basic

/-!
# Commands: computations with a state that survives an exception

A C++ member function changes its object and may stop with an exception; what
it changed before the exception stays changed.  `EStateM ε σ α` is that
computation: `.ok a s'` is a return and `.error e s'` an exception, and both
carry the state `s'` that is left behind.

This file holds the rules the verification of such functions uses, for any
error type and any state:

* inversion of a sequence (`bind_eq_ok_iff`, `bind_eq_error_iff`), so that a
  long body is taken apart once, without unfolding the functions it calls;
* the effect of the primitive commands (`get`, `set`, `modify`, `throw`);
* `reads`, a computation that only reads the state, `liftE`, one that does not
  involve it, and `onField`, a command on one field of a record;
* `forM_eq_ok`, a loop whose iterations all return;
* `Decides`, a command that returns or not independently of the state;
* `Preserves`, a property that a command keeps whichever way it ends, and
  `Respects`, a relation between states from which it has the same outcome;
* `Refines`, a command that does what another one does, on a state with more parts.
-/

namespace UsrpWrapper.Lib

namespace Command

variable {ε σ τ α β : Type}

/-! ## Primitive commands -/

@[simp] theorem pure_apply (a : α) (s : σ) :
    (pure a : EStateM ε σ α) s = .ok a s := rfl

@[simp] theorem throw_apply (e : ε) (s : σ) :
    (throw e : EStateM ε σ α) s = .error e s := rfl

@[simp] theorem get_apply (s : σ) : (get : EStateM ε σ σ) s = .ok s s := rfl

@[simp] theorem modify_apply (f : σ → σ) (s : σ) :
    (modify f : EStateM ε σ Unit) s = .ok () (f s) := rfl

/-! ## Sequences -/

/-- A sequence carries the state of its first part over, or stops with its error. -/
theorem bind_apply (x : EStateM ε σ α) (f : α → EStateM ε σ β) (s : σ) :
    (x >>= f) s = match x s with
      | .ok a s₁ => f a s₁
      | .error e s₁ => .error e s₁ := rfl

theorem bind_of_ok {x : EStateM ε σ α} {f : α → EStateM ε σ β} {s s₁ : σ} {a : α}
    (h : x s = .ok a s₁) : (x >>= f) s = f a s₁ := by
  rw [bind_apply, h]

theorem bind_of_error {x : EStateM ε σ α} {f : α → EStateM ε σ β} {s s₁ : σ} {e : ε}
    (h : x s = .error e s₁) : (x >>= f) s = .error e s₁ := by
  rw [bind_apply, h]

/-- A sequence returns exactly when both parts do. -/
theorem bind_eq_ok_iff {x : EStateM ε σ α} {f : α → EStateM ε σ β} {s s' : σ} {b : β} :
    (x >>= f) s = .ok b s' ↔ ∃ a s₁, x s = .ok a s₁ ∧ f a s₁ = .ok b s' := by
  rw [bind_apply]
  cases h : x s with
  | ok a s₁ =>
      constructor
      · intro hf
        exact ⟨a, s₁, rfl, hf⟩
      · rintro ⟨a', s', hok, hf⟩
        cases hok
        exact hf
  | error e s₁ => simp

/-- A sequence stops with an exception in its first part or in its second. -/
theorem bind_eq_error_iff {x : EStateM ε σ α} {f : α → EStateM ε σ β} {s s' : σ} {e : ε} :
    (x >>= f) s = .error e s' ↔
      x s = .error e s' ∨ ∃ a s₁, x s = .ok a s₁ ∧ f a s₁ = .error e s' := by
  rw [bind_apply]
  cases h : x s with
  | ok a s₁ =>
      constructor
      · intro hf
        exact Or.inr ⟨a, s₁, rfl, hf⟩
      · rintro (hbad | ⟨a', s', hok, hf⟩)
        · cases hbad
        · cases hok
          exact hf
  | error e₁ s₁ => simp

/-- The state a command leaves behind, whichever way it ends. -/
def finalState : EStateM.Result ε σ α → σ
  | .ok _ s => s
  | .error _ s => s

@[simp] theorem finalState_ok (a : α) (s : σ) :
    finalState (.ok a s : EStateM.Result ε σ α) = s := rfl

/-- A run of a command ended with a return. -/
def returned : EStateM.Result ε σ α → Bool
  | .ok _ _ => true
  | .error _ _ => false

/-- A computation that has returned, with its value. -/
theorem exists_of_returned {r : EStateM.Result ε σ α} (h : returned r = true) :
    ∃ a, r = .ok a (finalState r) := by
  cases r with
  | ok a s => exact ⟨a, rfl⟩
  | error e s => cases h

/-- It returned a value that satisfies `p`. -/
def returnedWith (p : α → Bool) : EStateM.Result ε σ α → Bool
  | .ok a _ => p a
  | .error _ _ => false

/-- The same, with a property of the value. -/
theorem exists_of_returnedWith {p : α → Bool} {r : EStateM.Result ε σ α}
    (h : returnedWith p r = true) : ∃ a, r = .ok a (finalState r) ∧ p a = true := by
  cases r with
  | ok a s => exact ⟨a, rfl, h⟩
  | error e s => cases h

/-- The error a run of a command ended with. -/
def thrown : EStateM.Result ε σ α → Option ε
  | .ok _ _ => none
  | .error e _ => some e

theorem eq_of_thrown {r : EStateM.Result ε σ α} {e : ε} (h : thrown r = some e) :
    r = .error e (finalState r) := by
  cases r with
  | ok a s => cases h
  | error e' s =>
      cases h
      rfl

/-- How a run of a command ended, without the state it left. -/
def outcome : EStateM.Result ε σ α → Except ε α
  | .ok a _ => .ok a
  | .error e _ => .error e

/-! ## Checks

A validator is a sequence of checks, each of which stops with its own error. -/

/-- A sequence without a state returns if both parts do. -/
theorem except_bind_eq_ok_iff {x : Except ε α} {f : α → Except ε β} {b : β} :
    (x >>= f) = .ok b ↔ ∃ a, x = .ok a ∧ f a = .ok b := by
  cases x with
  | ok a => simp [bind, Except.bind]
  | error e => simp [bind, Except.bind]

/-- Stop with the error `e` if the condition `bad` holds. -/
def check (bad : Prop) [Decidable bad] (e : ε) : Except ε Unit :=
  if bad then .error e else .ok ()

/-- A check passes unless the condition is met. -/
@[simp] theorem check_eq_ok_iff {bad : Prop} [Decidable bad] {e : ε} {u : Unit} :
    check bad e = .ok u ↔ ¬ bad := by
  unfold check
  split <;> simp_all

@[simp] theorem check_eq_error_iff {bad : Prop} [Decidable bad] {e e' : ε} :
    check bad e = .error e' ↔ bad ∧ e = e' := by
  unfold check
  split <;> simp_all

/-- A check in front of a computation. -/
theorem check_bind_eq_ok_iff {bad : Prop} [Decidable bad] {e : ε} {f : Unit → Except ε β}
    {b : β} : (check bad e >>= f) = .ok b ↔ ¬ bad ∧ f () = .ok b := by
  rw [except_bind_eq_ok_iff]
  constructor
  · rintro ⟨u, hu, hf⟩
    exact ⟨check_eq_ok_iff.mp hu, hf⟩
  · rintro ⟨hgood, hf⟩
    exact ⟨(), check_eq_ok_iff.mpr hgood, hf⟩

/-- A check of every element. -/
theorem forM_except_eq_ok {ι : Type} {body : ι → Except ε Unit} {l : List ι}
    (h : forM l body = .ok ()) : ∀ i ∈ l, body i = .ok () := by
  induction l with
  | nil => exact fun i hi => nomatch hi
  | cons j l ih =>
      rw [List.forM_cons] at h
      obtain ⟨_, hj, hl⟩ := except_bind_eq_ok_iff.mp h
      intro i hi
      rcases List.mem_cons.mp hi with rfl | hi
      · exact hj
      · exact ih hl i hi

theorem mapM_cons_eq_ok_iff {f : α → Except ε β} {a : α} {l : List α} {bs : List β} :
    (a :: l).mapM f = .ok bs ↔ ∃ b bs', f a = .ok b ∧ l.mapM f = .ok bs' ∧ bs = b :: bs' := by
  rw [List.mapM_cons, except_bind_eq_ok_iff]
  constructor
  · rintro ⟨b, hb, hrest⟩
    obtain ⟨bs', hbs, hpure⟩ := except_bind_eq_ok_iff.mp hrest
    cases hpure
    exact ⟨b, bs', hb, hbs, rfl⟩
  · rintro ⟨b, bs', hb, hbs, rfl⟩
    exact ⟨b, hb, except_bind_eq_ok_iff.mpr ⟨bs', hbs, rfl⟩⟩

/-- If all calls return, so does the `mapM`. -/
theorem exists_mapM_eq_ok {f : α → Except ε β} {R : α → β → Prop} {l : List α}
    (h : ∀ a ∈ l, ∃ b, f a = .ok b ∧ R a b) : ∃ bs, l.mapM f = .ok bs ∧ List.Forall₂ R l bs := by
  induction l with
  | nil => exact ⟨[], rfl, .nil⟩
  | cons a l ih =>
      obtain ⟨⟨b, hb, hR⟩, htail⟩ := List.forall_mem_cons.mp h
      obtain ⟨bs, hbs, hall⟩ := ih htail
      exact ⟨b :: bs, mapM_cons_eq_ok_iff.mpr ⟨b, bs, hb, hbs, rfl⟩, .cons hR hall⟩

/-- What comes of a list that is encoded and decoded, if it is known for each element. -/
theorem eq_map_of_mapM_mapM {ε' γ : Type} {f : α → Except ε β} {g : β → Except ε' γ} {k : α → γ}
    (h : ∀ a b c, f a = .ok b → g b = .ok c → c = k a) {l : List α} {bs : List β} {cs : List γ}
    (hf : l.mapM f = .ok bs) (hg : bs.mapM g = .ok cs) : cs = l.map k := by
  induction l generalizing bs cs with
  | nil =>
      cases hf
      cases hg
      rfl
  | cons a l ih =>
      obtain ⟨b, bs', hb, hbs, rfl⟩ := mapM_cons_eq_ok_iff.mp hf
      obtain ⟨c, cs', hc, hcs, rfl⟩ := mapM_cons_eq_ok_iff.mp hg
      rw [List.map_cons, h a b c hb hc, ih hbs hcs]

/-- **Round trips of lists** are those of their elements. -/
theorem exists_mapM_mapM_iff {f : α → Except ε β} {g : β → Except ε α} {l : List α} :
    (∃ bs, l.mapM f = .ok bs ∧ bs.mapM g = .ok l) ↔ ∀ a ∈ l, ∃ b, f a = .ok b ∧ g b = .ok a := by
  induction l with
  | nil => exact ⟨fun _ a ha => (nomatch ha), fun _ => ⟨[], rfl, rfl⟩⟩
  | cons a l ih =>
      rw [List.forall_mem_cons, ← ih]
      constructor
      · rintro ⟨bs, hf, hg⟩
        obtain ⟨b, bs', hb, hbs, rfl⟩ := mapM_cons_eq_ok_iff.mp hf
        obtain ⟨a', l', ha, hl, heq⟩ := mapM_cons_eq_ok_iff.mp hg
        obtain ⟨rfl, rfl⟩ := List.cons_eq_cons.mp heq
        exact ⟨⟨b, hb, ha⟩, bs', hbs, hl⟩
      · rintro ⟨⟨b, hb, ha⟩, bs, hbs, hl⟩
        exact ⟨b :: bs, mapM_cons_eq_ok_iff.mpr ⟨b, bs, hb, hbs, rfl⟩,
          mapM_cons_eq_ok_iff.mpr ⟨a, l, ha, hl, rfl⟩⟩

/-! ## Reading commands and commands on a field -/

/-- A computation that only reads the state. -/
def reads (f : σ → Except ε α) : EStateM ε σ α := fun s =>
  match f s with
  | .ok a => .ok a s
  | .error e => .error e s

@[simp] theorem reads_eq_ok_iff {f : σ → Except ε α} {s s' : σ} {a : α} :
    reads f s = .ok a s' ↔ f s = .ok a ∧ s' = s := by
  unfold reads
  cases h : f s with
  | ok b => simp [eq_comm]
  | error e => simp

@[simp] theorem reads_eq_error_iff {f : σ → Except ε α} {s s' : σ} {e : ε} :
    reads f s = .error e s' ↔ f s = .error e ∧ s' = s := by
  unfold reads
  cases h : f s with
  | ok b => simp
  | error e₁ => simp [eq_comm]

@[simp] theorem finalState_reads (f : σ → Except ε α) (s : σ) :
    finalState (reads f s) = s := by
  unfold reads
  cases f s <;> rfl

/-- A computation that does not involve the state. -/
def liftE (c : Except ε α) : EStateM ε σ α := reads fun _ => c

theorem liftE_ok (a : α) (s : σ) : (liftE (.ok a) : EStateM ε σ α) s = .ok a s := rfl

theorem liftE_error (e : ε) (s : σ) : (liftE (.error e) : EStateM ε σ α) s = .error e s := rfl

@[simp] theorem liftE_eq_ok_iff {c : Except ε α} {s s' : σ} {a : α} :
    liftE c s = .ok a s' ↔ c = .ok a ∧ s' = s := reads_eq_ok_iff

theorem liftE_bind (c : Except ε α) (f : α → Except ε β) :
    (liftE (c >>= f) : EStateM ε σ β) = liftE c >>= fun a => liftE (f a) := by
  funext s
  cases c with
  | ok a => rfl
  | error e => rfl

/-- Run a command of a member object: `get` reads the member, `put` stores what
the command leaves of it. -/
def onField (get : σ → τ) (put : τ → σ → σ) (x : EStateM ε τ α) : EStateM ε σ α :=
  fun s =>
    match x (get s) with
    | .ok a t => .ok a (put t s)
    | .error e t => .error e (put t s)

theorem onField_of_ok {get : σ → τ} {put : τ → σ → σ} {x : EStateM ε τ α} {s : σ} {t : τ}
    {a : α} (h : x (get s) = .ok a t) : onField get put x s = .ok a (put t s) := by
  rw [onField, h]

/-- The field is stored when it throws, too. -/
theorem onField_of_error {get : σ → τ} {put : τ → σ → σ} {x : EStateM ε τ α} {s : σ} {t : τ}
    {e : ε} (h : x (get s) = .error e t) : onField get put x s = .error e (put t s) := by
  rw [onField, h]

theorem finalState_onField (get : σ → τ) (put : τ → σ → σ) (x : EStateM ε τ α) (s : σ) :
    finalState (onField get put x s) = put (finalState (x (get s))) s := by
  rw [onField]
  cases x (get s) <;> rfl

theorem onField_eq_ok_iff {get : σ → τ} {put : τ → σ → σ} {x : EStateM ε τ α}
    {s s' : σ} {a : α} :
    onField get put x s = .ok a s' ↔ ∃ t, x (get s) = .ok a t ∧ s' = put t s := by
  unfold onField
  cases h : x (get s) with
  | ok b t =>
      simp only [EStateM.Result.ok.injEq]
      constructor
      · rintro ⟨rfl, rfl⟩
        exact ⟨t, ⟨rfl, rfl⟩, rfl⟩
      · rintro ⟨t', ⟨rfl, rfl⟩, rfl⟩
        exact ⟨rfl, rfl⟩
  | error e t => simp

theorem onField_eq_error_iff {get : σ → τ} {put : τ → σ → σ} {x : EStateM ε τ α}
    {s s' : σ} {e : ε} :
    onField get put x s = .error e s' ↔ ∃ t, x (get s) = .error e t ∧ s' = put t s := by
  unfold onField
  cases h : x (get s) with
  | ok b t => simp
  | error e' t =>
      simp only [EStateM.Result.error.injEq]
      constructor
      · rintro ⟨rfl, rfl⟩
        exact ⟨t, ⟨rfl, rfl⟩, rfl⟩
      · rintro ⟨t', ⟨rfl, rfl⟩, rfl⟩
        exact ⟨rfl, rfl⟩

/-! ## Loops -/

/-- A loop whose iterations all return, from every state that satisfies the
loop invariant `P`, returns; what it does to the state is the fold of what its
iterations do. -/
theorem forM_eq_ok {ι : Type} {P : σ → Prop} {body : ι → EStateM ε σ Unit}
    {effect : ι → σ → σ} :
    ∀ (l : List ι),
      (∀ i ∈ l, ∀ s, P s → body i s = .ok () (effect i s) ∧ P (effect i s)) →
      ∀ s, P s →
        forM l body s = .ok () (l.foldl (fun s i => effect i s) s) ∧
          P (l.foldl (fun s i => effect i s) s)
  | [], _, s, hP => ⟨rfl, hP⟩
  | i :: l, hbody, s, hP => by
      obtain ⟨hok, hP'⟩ := hbody i List.mem_cons_self s hP
      have htail := forM_eq_ok l (fun j hj => hbody j (List.mem_cons_of_mem i hj))
        (effect i s) hP'
      rw [List.forM_cons, bind_of_ok hok, List.foldl_cons]
      exact htail

/-- Nested loops are one loop over all the items of the inner ones. -/
theorem forM_flatMap {ι κ : Type} (f : ι → List κ) (body : κ → EStateM ε σ Unit) (l : List ι) :
    forM (l.flatMap f) body = forM l fun i => forM (f i) body := by
  induction l with
  | nil => rfl
  | cons i l ih => rw [List.flatMap_cons, List.forM_append, ih, List.forM_cons]

/-- A loop that only counts. -/
theorem forM_range_const {κ : Type} (n : ℕ) (k : κ) (body : κ → EStateM ε σ Unit) :
    forM (List.range n) (fun _ => body k) = forM (List.replicate n k) body := by
  have hmap : List.replicate n k = (List.range n).map fun _ => k := by simp
  rw [hmap, List.forM_map]

/-! ## Commands whose outcome does not depend on the state -/

/-- Under the invariant `I`, which the command keeps, it returns exactly when
`P` holds. -/
structure Decides (I : σ → Prop) (x : EStateM ε σ Unit) (P : Prop) : Prop where
  keeps : ∀ s, I s → I (finalState (x s))
  returns_iff : ∀ s, I s → ((∃ s', x s = .ok () s') ↔ P)

namespace Decides

variable {I : σ → Prop} {P Q : Prop}

/-- A computation that succeeds keeps the invariant. -/
theorem keeps_ok {x : EStateM ε σ Unit} {s s' : σ} {u : Unit} (h : Decides I x P) (hs : I s)
    (hx : x s = .ok u s') : I s' := by
  have hkeep := h.keeps s hs
  rw [hx] at hkeep
  exact hkeep

theorem congr {x : EStateM ε σ Unit} (h : Decides I x P) (hPQ : P ↔ Q) : Decides I x Q :=
  ⟨h.keeps, fun s hs => (h.returns_iff s hs).trans hPQ⟩

theorem seq {x y : EStateM ε σ Unit} (hx : Decides I x P) (hy : Decides I y Q) :
    Decides I (x >>= fun _ => y) (P ∧ Q) := by
  refine ⟨fun s hs => ?_, fun s hs => ?_⟩
  · have hkeep := hx.keeps s hs
    rw [bind_apply]
    cases h : x s with
    | ok a s₁ =>
        rw [h] at hkeep
        exact hy.keeps s₁ hkeep
    | error e s₁ =>
        rw [h] at hkeep
        exact hkeep
  · have hkeep := hx.keeps s hs
    constructor
    · rintro ⟨s', h⟩
      obtain ⟨_, s₁, h₁, h₂⟩ := bind_eq_ok_iff.mp h
      rw [h₁] at hkeep
      exact ⟨(hx.returns_iff s hs).mp ⟨s₁, h₁⟩, (hy.returns_iff s₁ hkeep).mp ⟨s', h₂⟩⟩
    · rintro ⟨hP, hQ⟩
      obtain ⟨s₁, h₁⟩ := (hx.returns_iff s hs).mpr hP
      rw [h₁] at hkeep
      obtain ⟨s', h₂⟩ := (hy.returns_iff s₁ hkeep).mpr hQ
      exact ⟨s', by rw [bind_of_ok h₁]; exact h₂⟩

theorem ofReads {f : σ → Except ε Unit} (h : ∀ s, I s → (f s = .ok () ↔ P)) :
    Decides I (reads f) P := by
  refine ⟨fun s hs => by rw [finalState_reads]; exact hs, fun s hs => ?_⟩
  rw [← h s hs]
  constructor
  · rintro ⟨s', hok⟩
    exact (reads_eq_ok_iff.mp hok).1
  · intro hf
    exact ⟨s, reads_eq_ok_iff.mpr ⟨hf, rfl⟩⟩

theorem ofLiftE {c : Except ε Unit} (h : c = .ok () ↔ P) :
    Decides (σ := σ) I (liftE c) P := ofReads fun _ _ => h

theorem ofModify {f : σ → σ} (h : ∀ s, I s → I (f s)) :
    Decides (ε := ε) I (modify f) True :=
  ⟨h, fun s _ => ⟨fun _ => trivial, fun _ => ⟨f s, rfl⟩⟩⟩

/-- A value that is read first; under `I` it does not depend on the state. -/
theorem bindReads {f : σ → Except ε α} {g : α → EStateM ε σ Unit} {c : Except ε α}
    {P : α → Prop} (hf : ∀ s, I s → f s = c) (hg : ∀ a, c = .ok a → Decides I (g a) (P a)) :
    Decides I (reads f >>= g) (∃ a, c = .ok a ∧ P a) := by
  cases c with
  | ok a =>
      have hread (s : σ) (hs : I s) : (reads f >>= g) s = g a s :=
        bind_of_ok (reads_eq_ok_iff.mpr ⟨hf s hs, rfl⟩)
      refine ⟨fun s hs => ?_, fun s hs => ?_⟩
      · rw [hread s hs]
        exact (hg a rfl).keeps s hs
      · rw [hread s hs, (hg a rfl).returns_iff s hs]
        simp
  | error e =>
      have hread (s : σ) (hs : I s) : (reads f >>= g) s = .error e s :=
        bind_of_error (reads_eq_error_iff.mpr ⟨hf s hs, rfl⟩)
      refine ⟨fun s hs => ?_, fun s hs => ?_⟩
      · rw [hread s hs]
        exact hs
      · rw [hread s hs]
        simp

/-- The state is read first; under `I` what follows does not depend on it. -/
theorem bindGet {g : σ → EStateM ε σ Unit} {y : EStateM ε σ Unit} (hg : ∀ s, I s → g s = y)
    (hy : Decides I y P) : Decides I (get >>= g) P := by
  have hrun (s : σ) (hs : I s) : (get >>= g) s = y s := by
    rw [bind_of_ok (get_apply s), hg s hs]
  refine ⟨fun s hs => ?_, fun s hs => ?_⟩
  · rw [hrun s hs]
    exact hy.keeps s hs
  · rw [hrun s hs]
    exact hy.returns_iff s hs

/-- A loop succeeds if all its iterations do. -/
theorem ofForM {ι : Type} {body : ι → EStateM ε σ Unit} {P : ι → Prop} {l : List ι}
    (h : ∀ i ∈ l, Decides I (body i) (P i)) : Decides I (forM l body) (∀ i ∈ l, P i) := by
  induction l with
  | nil =>
      refine ⟨fun s hs => hs, fun s _ => ⟨fun _ i hi => (nomatch hi), fun _ => ⟨s, rfl⟩⟩⟩
  | cons i l ih =>
      rw [List.forM_cons]
      refine ((h i List.mem_cons_self).seq
        (ih fun j hj => h j (List.mem_cons_of_mem i hj))).congr ?_
      rw [List.forall_mem_cons]

end Decides

/-! ## Properties a command keeps -/

/-- Whichever way it ends, the command keeps a property of the state. -/
def Preserves (I : σ → Prop) (x : EStateM ε σ α) : Prop := ∀ s, I s → I (finalState (x s))

namespace Preserves

variable {I : σ → Prop}

/-- The state after a computation that returns. -/
theorem of_ok {x : EStateM ε σ α} (h : Preserves I x) {s s' : σ} {a : α} (hs : I s)
    (hx : x s = .ok a s') : I s' := by
  have hkeep := h s hs
  rw [hx] at hkeep
  exact hkeep

theorem of_error {x : EStateM ε σ α} (h : Preserves I x) {s s' : σ} {e : ε} (hs : I s)
    (hx : x s = .error e s') : I s' := by
  have hkeep := h s hs
  rw [hx] at hkeep
  exact hkeep

theorem pure (a : α) : Preserves I (Pure.pure a : EStateM ε σ α) := fun _ hs => hs

theorem throw (e : ε) : Preserves I (MonadExcept.throw e : EStateM ε σ α) := fun _ hs => hs

/-- A sequence preserves what both parts do. -/
theorem bind {x : EStateM ε σ α} {f : α → EStateM ε σ β} (hx : Preserves I x)
    (hf : ∀ a, Preserves I (f a)) : Preserves I (x >>= f) := by
  intro s hs
  rw [bind_apply]
  cases h : x s with
  | ok a s₁ => exact hf a s₁ (hx.of_ok hs h)
  | error e s₁ => exact hx.of_error hs h

/-- A command that leaves the same states keeps the same properties. -/
theorem of_finalState_eq {x : EStateM ε σ α} {y : EStateM ε σ β} (hx : Preserves I x)
    (h : ∀ s, finalState (y s) = finalState (x s)) : Preserves I y := by
  intro s hs
  rw [h s]
  exact hx s hs

/-- A sequence whose first part establishes the property. -/
theorem finalState_bind {x : EStateM ε σ α} {f : α → EStateM ε σ β} {s : σ}
    (hx : I (finalState (x s))) (hf : ∀ a, Preserves I (f a)) : I (finalState ((x >>= f) s)) := by
  rw [bind_apply]
  cases h : x s with
  | ok a s₁ =>
      rw [h] at hx
      exact hf a s₁ hx
  | error e s₁ =>
      rw [h] at hx
      exact hx

theorem get : Preserves (ε := ε) I get := fun _ hs => hs

theorem modify {f : σ → σ} (h : ∀ s, I s → I (f s)) :
    Preserves (ε := ε) I (modify f) := h

theorem reads (f : σ → Except ε α) : Preserves I (reads f) := by
  intro s hs
  rw [finalState_reads]
  exact hs

theorem liftE (c : Except ε α) : Preserves (σ := σ) I (liftE c) := reads fun _ => c

/-- A loop preserves what its body does. -/
theorem forM {ι : Type} {body : ι → EStateM ε σ Unit} {l : List ι}
    (h : ∀ i ∈ l, Preserves I (body i)) : Preserves I (ForM.forM l body) := by
  induction l with
  | nil => exact fun _ hs => hs
  | cons i l ih =>
      rw [List.forM_cons]
      exact bind (h i List.mem_cons_self) fun _ => ih fun j hj => h j (List.mem_cons_of_mem i hj)

/-- A loop of which one round establishes the property, and the others keep it. -/
theorem forM_establishes {ι : Type} {body : ι → EStateM ε σ Unit} {l : List ι}
    (hkeep : ∀ i ∈ l, Preserves I (body i)) {j : ι} (hj : j ∈ l)
    (hset : ∀ s s', body j s = .ok () s' → I s') {s s' : σ}
    (h : ForM.forM l body s = .ok () s') : I s' := by
  induction l generalizing s with
  | nil => cases hj
  | cons i l ih =>
      rw [List.forM_cons] at h
      obtain ⟨_, s₁, hfirst, hrest⟩ := bind_eq_ok_iff.mp h
      have hkeep' : ∀ i ∈ l, Preserves I (body i) :=
        fun i hi => hkeep i (List.mem_cons_of_mem _ hi)
      rcases List.mem_cons.mp hj with rfl | hj'
      · exact (forM hkeep').of_ok (hset _ _ hfirst) hrest
      · exact ih hkeep' hj' hrest

/-- A loop that collects values preserves what its body does. -/
theorem mapM {ι : Type} {f : ι → EStateM ε σ α} {l : List ι}
    (h : ∀ i ∈ l, Preserves I (f i)) : Preserves I (l.mapM f) := by
  induction l with
  | nil => exact pure []
  | cons i l ih =>
      rw [List.mapM_cons]
      refine bind (h i List.mem_cons_self) fun a => ?_
      exact bind (ih fun j hj => h j (List.mem_cons_of_mem i hj)) fun as => pure (a :: as)

/-- A command on a field: `J s` is what the field keeps during a call from `s`. -/
theorem onField {get : σ → τ} {put : τ → σ → σ} {x : EStateM ε τ α} (J : σ → τ → Prop)
    (hget : ∀ s, I s → J s (get s)) (hx : ∀ s, I s → Preserves (J s) x)
    (hput : ∀ s t, I s → J s t → I (put t s)) : Preserves I (onField get put x) := by
  intro s hs
  unfold Command.onField
  cases h : x (get s) with
  | ok a t => exact hput s t hs ((hx s hs).of_ok (hget s hs) h)
  | error e t => exact hput s t hs ((hx s hs).of_error (hget s hs) h)

/-- A command on a field that the property does not depend on. -/
theorem onField_of_put {get : σ → τ} {put : τ → σ → σ} {x : EStateM ε τ α}
    (hput : ∀ s t, I s → I (put t s)) : Preserves I (Command.onField get put x) :=
  onField (fun _ _ => True) (fun _ _ => trivial) (fun _ _ _ _ => trivial)
    fun s t hs _ => hput s t hs

end Preserves

/-! ## Commands that do not depend on a part of the state

Two states that differ only in parts the command does not read lead to the same
outcome, and to two states that are related again. -/

/-- Two outcomes are the same, and they leave related states. -/
inductive SameOutcome (R : σ → σ → Prop) : EStateM.Result ε σ α → EStateM.Result ε σ α → Prop
  | ok (a : α) {s t : σ} (h : R s t) : SameOutcome R (.ok a s) (.ok a t)
  | error (e : ε) {s t : σ} (h : R s t) : SameOutcome R (.error e s) (.error e t)

/-- The states of related results are related. -/
theorem SameOutcome.finalState {R : σ → σ → Prop} {x y : EStateM.Result ε σ α}
    (h : SameOutcome R x y) : R (finalState x) (finalState y) := by
  cases h with
  | ok a h => exact h
  | error e h => exact h

/-- Related results return or throw the same. -/
theorem SameOutcome.outcome_eq {R : σ → σ → Prop} {x y : EStateM.Result ε σ α}
    (h : SameOutcome R x y) : outcome x = outcome y := by
  cases h with
  | ok a h => rfl
  | error e h => rfl

/-- From related states the command has the same outcome. -/
def Respects (R : σ → σ → Prop) (x : EStateM ε σ α) : Prop :=
  ∀ s t, R s t → SameOutcome R (x s) (x t)

namespace Respects

variable {R : σ → σ → Prop}

theorem pure (a : α) : Respects R (Pure.pure a : EStateM ε σ α) := fun _ _ h => .ok a h

theorem throw (e : ε) : Respects R (MonadExcept.throw e : EStateM ε σ α) :=
  fun _ _ h => .error e h

/-- Every command depends on nothing but its state. -/
theorem eq (x : EStateM ε σ α) : Respects Eq x := by
  rintro s t rfl
  cases x s with
  | ok a s' => exact .ok a rfl
  | error e s' => exact .error e rfl

/-- A sequence respects what both parts do. -/
theorem bind {x : EStateM ε σ α} {f : α → EStateM ε σ β} (hx : Respects R x)
    (hf : ∀ a, Respects R (f a)) : Respects R (x >>= f) := by
  intro s t h
  have hxst := hx s t h
  rw [bind_apply, bind_apply]
  generalize x s = r, x t = r' at hxst
  cases hxst with
  | ok a h' => exact hf a _ _ h'
  | error e h' => exact .error e h'

/-- The state is read first, and what follows only uses what is the same. -/
theorem bindGet {f : σ → EStateM ε σ β} (heq : ∀ s t, R s t → f s = f t)
    (hf : ∀ s, Respects R (f s)) : Respects R (get >>= f) := by
  intro s t h
  rw [bind_of_ok (get_apply s), bind_of_ok (get_apply t), heq s t h]
  exact hf t s t h

theorem modify {f : σ → σ} (h : ∀ s t, R s t → R (f s) (f t)) :
    Respects (ε := ε) R (modify f) := fun s t hst => .ok () (h s t hst)

/-- Reading what related states have in common. -/
theorem reads {f : σ → Except ε α} (heq : ∀ s t, R s t → f s = f t) : Respects R (reads f) := by
  intro s t h
  unfold Command.reads
  rw [heq s t h]
  cases f t with
  | ok a => exact .ok a h
  | error e => exact .error e h

theorem liftE (c : Except ε α) : Respects R (liftE c) := reads fun _ _ _ => rfl

/-- A loop respects what its body does. -/
theorem forM {ι : Type} {body : ι → EStateM ε σ Unit} {l : List ι}
    (h : ∀ i ∈ l, Respects R (body i)) : Respects R (ForM.forM l body) := by
  induction l with
  | nil => exact pure ()
  | cons i l ih =>
      rw [List.forM_cons]
      exact bind (h i List.mem_cons_self) fun _ => ih fun j hj => h j (List.mem_cons_of_mem i hj)

/-- A computation on a field, with a relation of the fields. -/
theorem onField {get : σ → τ} {put : τ → σ → σ} {x : EStateM ε τ α} {S : τ → τ → Prop}
    (hget : ∀ s t, R s t → S (get s) (get t)) (hx : Respects S x)
    (hput : ∀ s t a b, R s t → S a b → R (put a s) (put b t)) :
    Respects R (onField get put x) := by
  intro s t h
  have hxst := hx _ _ (hget s t h)
  unfold Command.onField
  generalize x (get s) = r, x (get t) = r' at hxst
  cases hxst with
  | ok a h' => exact .ok a (hput s t _ _ h h')
  | error e h' => exact .error e (hput s t _ _ h h')

end Respects

/-! ## Commands on a larger state

A command that does the same as another one, on a state that has more parts. -/

/-- An outcome, seen through a function of the state. -/
def mapState (f : σ → τ) : EStateM.Result ε σ α → EStateM.Result ε τ α
  | .ok a s => .ok a (f s)
  | .error e s => .error e (f s)

/-- Seen through `f`, the command `x` does what `y` does. -/
def Refines (f : σ → τ) (x : EStateM ε σ α) (y : EStateM ε τ α) : Prop :=
  ∀ s, mapState f (x s) = y (f s)

namespace Refines

variable {f : σ → τ}

/-- A step that returns is one of the abstract computation. -/
theorem of_ok {x : EStateM ε σ α} {y : EStateM ε τ α} (h : Refines f x y) {s s' : σ} {a : α}
    (hx : x s = .ok a s') : y (f s) = .ok a (f s') := by
  rw [← h s, hx]
  rfl

theorem of_error {x : EStateM ε σ α} {y : EStateM ε τ α} (h : Refines f x y) {s s' : σ} {e : ε}
    (hx : x s = .error e s') : y (f s) = .error e (f s') := by
  rw [← h s, hx]
  rfl

theorem pure (a : α) : Refines f (Pure.pure a : EStateM ε σ α) (Pure.pure a) := fun _ => rfl

theorem throw (e : ε) :
    Refines f (MonadExcept.throw e : EStateM ε σ α) (MonadExcept.throw e) := fun _ => rfl

/-- A sequence; the second part only has to refine where the first one leads. -/
theorem bind_of_ok {x : EStateM ε σ α} {y : EStateM ε τ α} {g : α → EStateM ε σ β}
    {h : α → EStateM ε τ β} {s : σ} (hx : Refines f x y)
    (hg : ∀ a s', x s = .ok a s' → mapState f (g a s') = h a (f s')) :
    mapState f ((x >>= g) s) = (y >>= h) (f s) := by
  cases hxs : x s with
  | ok a s' => rw [Command.bind_of_ok hxs, Command.bind_of_ok (hx.of_ok hxs), hg a s' hxs]
  | error e s' =>
      rw [bind_of_error hxs, bind_of_error (hx.of_error hxs)]
      rfl

theorem bind {x : EStateM ε σ α} {y : EStateM ε τ α} {g : α → EStateM ε σ β}
    {h : α → EStateM ε τ β} (hx : Refines f x y) (hg : ∀ a, Refines f (g a) (h a)) :
    Refines f (x >>= g) (y >>= h) :=
  fun _ => bind_of_ok hx fun a s' _ => hg a s'

/-- What follows may look at the state, if the abstract one does so. -/
theorem bindGet {g : σ → EStateM ε σ β} {h : τ → EStateM ε τ β}
    (hg : ∀ s, Refines f (g s) (h (f s))) : Refines f (get >>= g) (get >>= h) := by
  intro s
  rw [Command.bind_of_ok (get_apply s), Command.bind_of_ok (get_apply (f s))]
  exact hg s s

/-- A first part that changes nothing that `f` shows. -/
theorem skip {x : EStateM ε σ α} {g : α → EStateM ε σ β} {y : EStateM ε τ β} {a : α}
    (hx : Refines f x (Pure.pure a)) (hg : ∀ a, Refines f (g a) y) : Refines f (x >>= g) y :=
  bind (h := fun _ => y) hx hg

/-- The state is read first by one of the commands only. -/
theorem getSkip {g : σ → EStateM ε σ β} {y : EStateM ε τ β} (hg : ∀ s, Refines f (g s) y) :
    Refines f (MonadState.get >>= g) y := fun s => hg s s

/-- A last part that changes nothing that `f` shows. -/
theorem bindSkip {x : EStateM ε σ α} {y : EStateM ε τ α} {g : α → EStateM ε σ α}
    (hx : Refines f x y) (hg : ∀ a, Refines f (g a) (Pure.pure a)) : Refines f (x >>= g) y := by
  have hbind := bind hx hg
  rwa [bind_pure] at hbind

theorem reads {g : σ → Except ε α} {h : τ → Except ε α} (hgh : ∀ s, g s = h (f s)) :
    Refines f (reads g) (reads h) := by
  intro s
  unfold Command.reads
  rw [← hgh]
  cases g s with
  | ok a => rfl
  | error e => rfl

theorem liftE (c : Except ε α) : Refines f (liftE c) (liftE c) := by
  intro s
  cases c with
  | ok a => rfl
  | error e => rfl

/-- An update and the one it is an image of. -/
theorem modify {g : σ → σ} {h : τ → τ} (hgh : ∀ s, f (g s) = h (f s)) :
    Refines (ε := ε) f (modify g) (modify h) := by
  intro s
  rw [modify_apply, modify_apply, mapState, hgh]

/-- A command on the field that `f` shows. -/
theorem ofField {put : τ → σ → σ} (hput : ∀ t s, f (put t s) = t) (x : EStateM ε τ α) :
    Refines f (Command.onField f put x) x := by
  intro s
  unfold Command.onField
  cases x (f s) with
  | ok a t => exact congrArg _ (hput t s)
  | error e t => exact congrArg _ (hput t s)

/-- Commands on fields that correspond. -/
theorem onField {σ' τ' : Type} {p : σ → σ'} {put : σ' → σ → σ} {p' : τ → τ'} {put' : τ' → τ → τ}
    {x : EStateM ε σ' α} {y : EStateM ε τ' α} {q : σ' → τ'} (hget : ∀ s, q (p s) = p' (f s))
    (hput : ∀ t s, f (put t s) = put' (q t) (f s)) (hx : Refines q x y) :
    Refines f (onField p put x) (onField p' put' y) := by
  intro s
  have hxs := hx (p s)
  unfold Command.onField
  rw [← hget, ← hxs]
  cases x (p s) with
  | ok a t => exact congrArg _ (hput t s)
  | error e t => exact congrArg _ (hput t s)

/-- Loops refine iteration by iteration. -/
theorem forM {ι : Type} {body : ι → EStateM ε σ Unit} {body' : ι → EStateM ε τ Unit} {l : List ι}
    (h : ∀ i ∈ l, Refines f (body i) (body' i)) :
    Refines f (ForM.forM l body) (ForM.forM l body') := by
  induction l with
  | nil => exact pure ()
  | cons i l ih =>
      rw [List.forM_cons, List.forM_cons]
      exact bind (h i List.mem_cons_self) fun _ => ih fun j hj => h j (List.mem_cons_of_mem i hj)

theorem mapM {ι : Type} {x : ι → EStateM ε σ α} {y : ι → EStateM ε τ α} {l : List ι}
    (h : ∀ i ∈ l, Refines f (x i) (y i)) : Refines f (l.mapM x) (l.mapM y) := by
  induction l with
  | nil =>
      rw [List.mapM_nil, List.mapM_nil]
      exact pure []
  | cons i l ih =>
      rw [List.mapM_cons, List.mapM_cons]
      refine bind (h i List.mem_cons_self) fun a => ?_
      exact bind (ih fun j hj => h j (List.mem_cons_of_mem i hj)) fun as => pure (a :: as)

theorem finalState {x : EStateM ε σ α} {y : EStateM ε τ α} (h : Refines f x y) (s : σ) :
    finalState (y (f s)) = f (finalState (x s)) := by
  rw [← h s]
  cases x s with
  | ok a s' => rfl
  | error e s' => rfl

end Refines

end Command

end UsrpWrapper.Lib
