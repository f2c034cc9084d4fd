import UsrpWrapper.Lib.Machine

/-!
# Thread objects

An owner has thread objects, as those of type `std::thread`, one for each key `k : κ`.
Its calls are programs that join, spawn and destroy threads, and do work.  The owner
carries out one call at a time, while the threads run.

The process is terminated by an exception that leaves the function of a thread or a call
that must not throw, and by a thread object that is assigned or destroyed while it is
joinable.  A call whose program `JoinsFirst` never does the latter, and does no work that
`uses` a thread while that thread runs: `terminated_eq_false_iff` and `empty_of_work`,
for all interleavings of the owner with the threads.
-/

namespace UsrpWrapper.Lib.Threads

variable {C κ W : Type}

/-- A thread object: without a thread, or joinable. -/
inductive Status where
  | empty
  | running
  | ended
  deriving DecidableEq

/-- What the owner of the threads does: it joins, spawns and destroys them, and works in between.
-/
inductive Command (κ W : Type) where
  /-- `if (t.joinable()) t.join();` -/
  | join (k : κ)
  /-- `t = std::thread(f);` -/
  | spawn (k : κ)
  /-- The destructor of the thread object. -/
  | destroy (k : κ)
  | work (w : W)
  deriving DecidableEq

/-- A call of the owner, or what is left of one; an exception of a `noexcept` call terminates the
process. -/
structure Program (κ W : Type) where
  commands : List (Command κ W)
  isNoexcept : Bool
  deriving DecidableEq

/-- The calls of the owner, and which functions of threads catch their exceptions.  After
a last call there is no other one. -/
structure Setup (C κ W : Type) where
  program : C → Program κ W
  isLast : C → Bool
  catches : κ → Bool

/-- The thread objects, the current call of the owner, and whether its last call has begun or the
process was terminated. -/
structure State (κ W : Type) where
  threads : κ → Status
  /-- What is left of the current call. -/
  call : Program κ W
  closed : Bool
  terminated : Bool

/-- What may happen next, in any order. -/
inductive Event (C κ : Type) where
  | call (c : C)
  /-- The owner carries out its next command, if it does not have to wait. -/
  | owner
  /-- The next command of the owner throws. -/
  | ownerThrows
  | ends (k : κ)
  /-- The function of the thread throws. -/
  | throws (k : κ)

/-- Joins and destructors do not throw. -/
def Command.mayThrow : Command κ W → Bool
  | .work _ => true
  | .spawn _ => true
  | _ => false

/-- No call, or the end of one. -/
def idle : Program κ W := ⟨[], false⟩

/-- No thread was spawned. -/
def State.start : State κ W := ⟨fun _ => .empty, idle, false, false⟩

namespace State

variable [DecidableEq κ]

/-- Change one thread object. -/
def setThread (k : κ) (t : Status) (s : State κ W) : State κ W :=
  { s with threads := Function.update s.threads k t }

@[simp] theorem setThread_self (k : κ) (t : Status) (s : State κ W) :
    (s.setThread k t).threads k = t := by
  simp [setThread]

theorem setThread_of_ne {k k' : κ} (hne : k' ≠ k) (t : Status) (s : State κ W) :
    (s.setThread k t).threads k' = s.threads k' := by
  simp [setThread, hne]

/-- The command `c`, with `rest` to follow. -/
def perform (rest : List (Command κ W)) (s : State κ W) : Command κ W → State κ W
  | .join k =>
      if s.threads k = .running then s
      else { s.setThread k .empty with call := { s.call with commands := rest } }
  | .spawn k =>
      if s.threads k = .empty then
        { s.setThread k .running with call := { s.call with commands := rest } }
      else { s with terminated := true }
  | .destroy k =>
      if s.threads k = .empty then { s with call := { s.call with commands := rest } }
      else { s with terminated := true }
  | .work _ => { s with call := { s.call with commands := rest } }

section

variable {s : State κ W} {k : κ} {rest : List (Command κ W)}

/-- The owner waits for a thread that runs. -/
theorem perform_join_running (h : s.threads k = .running) : s.perform rest (.join k) = s :=
  if_pos h

/-- A join empties the thread object. -/
theorem perform_join (h : s.threads k ≠ .running) : s.perform rest (.join k) =
    { s.setThread k .empty with call := { s.call with commands := rest } } := if_neg h

/-- A thread is spawned into an empty object. -/
theorem perform_spawn (h : s.threads k = .empty) : s.perform rest (.spawn k) =
    { s.setThread k .running with call := { s.call with commands := rest } } := if_pos h

/-- An empty object is destroyed. -/
theorem perform_destroy (h : s.threads k = .empty) : s.perform rest (.destroy k) =
    { s with call := { s.call with commands := rest } } := if_pos h

end

/-- The next command of the owner. -/
def ownerStep (s : State κ W) : State κ W :=
  match s.call.commands with
  | [] => s
  | c :: rest => s.perform rest c

/-- An exception ends the call. -/
def ownerThrows (s : State κ W) : State κ W :=
  match s.call.commands with
  | [] => s
  | c :: _ =>
      if c.mayThrow then
        if s.call.isNoexcept then { s with terminated := true } else { s with call := idle }
      else s

/-- A call begins when the one before has ended and none of them was the last. -/
def startCall (S : Setup C κ W) (c : C) (s : State κ W) : State κ W :=
  if s.call.commands = [] ∧ s.closed = false then
    { s with call := S.program c, closed := S.isLast c }
  else s

/-- The function of a thread returns. -/
def threadEnds (k : κ) (s : State κ W) : State κ W :=
  if s.threads k = .running then s.setThread k .ended else s

/-- An exception leaves the function of a thread: it is caught there, or it terminates the
process. -/
def threadThrows (S : Setup C κ W) (k : κ) (s : State κ W) : State κ W :=
  if s.threads k = .running then
    if S.catches k then s.setThread k .ended else { s with terminated := true }
  else s

/-! Only the start of a call closes. -/

@[simp] theorem closed_setThread (k : κ) (t : Status) (s : State κ W) :
    (s.setThread k t).closed = s.closed := rfl

@[simp] theorem closed_perform (rest : List (Command κ W)) (c : Command κ W) (s : State κ W) :
    (s.perform rest c).closed = s.closed := by
  cases c <;> simp only [perform] <;> split <;> rfl

@[simp] theorem closed_ownerStep (s : State κ W) : s.ownerStep.closed = s.closed := by
  unfold ownerStep
  split
  · rfl
  · exact closed_perform _ _ s

omit [DecidableEq κ] in
@[simp] theorem closed_ownerThrows (s : State κ W) : s.ownerThrows.closed = s.closed := by
  unfold ownerThrows
  split
  · rfl
  · split
    · split <;> rfl
    · rfl

@[simp] theorem closed_threadEnds (k : κ) (s : State κ W) :
    (s.threadEnds k).closed = s.closed := by
  unfold threadEnds
  split <;> rfl

@[simp] theorem closed_threadThrows (S : Setup C κ W) (k : κ) (s : State κ W) :
    (s.threadThrows S k).closed = s.closed := by
  unfold threadThrows
  split
  · split <;> rfl
  · rfl

end State

variable [DecidableEq κ]

/-- Nothing happens in a process that was terminated. -/
def step (S : Setup C κ W) (s : State κ W) (e : Event C κ) : State κ W :=
  if s.terminated then s
  else match e with
    | .call c => s.startCall S c
    | .owner => s.ownerStep
    | .ownerThrows => s.ownerThrows
    | .ends k => s.threadEnds k
    | .throws k => s.threadThrows S k

/-- An exception leaves the function of a thread, or a call that must not throw. -/
def Uncaught (S : Setup C κ W) (s : State κ W) : Event C κ → Prop
  | .ownerThrows => s.call.isNoexcept = true ∧ ∃ c ∈ s.call.commands.head?, c.mayThrow = true
  | .throws k => s.threads k = .running ∧ S.catches k = false
  | _ => False

/-- With the threads `joined` not joinable, the program joins a thread before it spawns or
destroys it, and before it does work that uses it. -/
def JoinsFirst (uses : W → List κ) : List κ → List (Command κ W) → Prop
  | _, [] => True
  | joined, .join k :: rest => JoinsFirst uses (k :: joined) rest
  | joined, .spawn k :: rest => k ∈ joined ∧ JoinsFirst uses (joined.filter (· ≠ k)) rest
  | joined, .destroy k :: rest => k ∈ joined ∧ JoinsFirst uses joined rest
  | joined, .work w :: rest => (∀ k ∈ uses w, k ∈ joined) ∧ JoinsFirst uses joined rest

instance JoinsFirst.decidable (uses : W → List κ) :
    ∀ joined commands, Decidable (JoinsFirst uses joined commands)
  | _, [] => inferInstanceAs (Decidable True)
  | joined, .join k :: rest => JoinsFirst.decidable uses (k :: joined) rest
  | joined, .spawn k :: rest =>
      have := JoinsFirst.decidable uses (joined.filter (· ≠ k)) rest
      inferInstanceAs (Decidable (_ ∧ _))
  | joined, .destroy _ :: rest =>
      have := JoinsFirst.decidable uses joined rest
      inferInstanceAs (Decidable (_ ∧ _))
  | joined, .work _ :: rest =>
      have := JoinsFirst.decidable uses joined rest
      inferInstanceAs (Decidable (_ ∧ _))

/-! ## The invariant -/

section

variable {S : Setup C κ W} {uses : W → List κ} {s : State κ W}

/-- The rest of the current call joins first. -/
def Orderly (uses : W → List κ) (s : State κ W) : Prop :=
  ∃ joined, (∀ k ∈ joined, s.threads k = .empty) ∧ JoinsFirst uses joined s.call.commands

/-- Without threads nothing is out of order. -/
theorem orderly_start : Orderly uses (State.start : State κ W) :=
  ⟨[], fun _ hk => (nomatch hk), trivial⟩

/-- A thread that runs may end: it is not one of those that were joined. -/
theorem Orderly.setThread (h : Orderly uses s) {k : κ} (hk : s.threads k = .running)
    (t : Status) : Orderly uses (s.setThread k t) := by
  obtain ⟨joined, hempty, hfirst⟩ := h
  refine ⟨joined, fun k' hk' => ?_, hfirst⟩
  have hne : k' ≠ k := by
    rintro rfl
    rw [hempty k' hk'] at hk
    cases hk
  exact (s.setThread_of_ne hne t).trans (hempty k' hk')

/-- The next command neither terminates the process, nor breaks the order. -/
theorem Orderly.perform {joined : List κ} {c : Command κ W} {rest : List (Command κ W)}
    (hempty : ∀ k ∈ joined, s.threads k = .empty) (hfirst : JoinsFirst uses joined (c :: rest))
    (hcommands : s.call.commands = c :: rest) :
    Orderly uses (s.perform rest c) ∧ (s.perform rest c).terminated = s.terminated := by
  cases c with
  | join k =>
      by_cases hrunning : s.threads k = .running
      · rw [State.perform_join_running hrunning]
        exact ⟨⟨joined, hempty, by rwa [hcommands]⟩, rfl⟩
      · rw [State.perform_join hrunning]
        refine ⟨⟨k :: joined, fun k' hk' => ?_, hfirst⟩, rfl⟩
        show (s.setThread k .empty).threads k' = .empty
        by_cases hne : k' = k
        · rw [hne, State.setThread_self]
        · rw [State.setThread_of_ne hne]
          exact hempty k' ((List.mem_cons.mp hk').resolve_left hne)
  | spawn k =>
      rw [State.perform_spawn (hempty k hfirst.1)]
      refine ⟨⟨joined.filter (· ≠ k), fun k' hk' => ?_, hfirst.2⟩, rfl⟩
      obtain ⟨hmem, hne⟩ := List.mem_filter.mp hk'
      show (s.setThread k .running).threads k' = .empty
      rw [State.setThread_of_ne (of_decide_eq_true hne)]
      exact hempty k' hmem
  | destroy k =>
      rw [State.perform_destroy (hempty k hfirst.1)]
      exact ⟨⟨joined, hempty, hfirst.2⟩, rfl⟩
  | work w => exact ⟨⟨joined, hempty, hfirst.2⟩, rfl⟩

/-- What a step leads to: all is in order, and the process goes on unless an exception
was not caught. -/
structure Proceeds (uses : W → List κ) (S : Setup C κ W) (s : State κ W) (e : Event C κ)
    (s' : State κ W) : Prop where
  orderly : Orderly uses s'
  terminated : s'.terminated = false ↔ ¬ Uncaught S s e

section

variable {e : Event C κ} {s' : State κ W}

theorem Proceeds.of_caught (hs : s.terminated = false) (horderly : Orderly uses s')
    (hterminated : s'.terminated = s.terminated) (hcaught : ¬ Uncaught S s e) :
    Proceeds uses S s e s' :=
  ⟨horderly, iff_of_true (hterminated.trans hs) hcaught⟩

/-- An exception that nobody catches terminates the process. -/
theorem Proceeds.of_uncaught (h : Orderly uses s) (huncaught : Uncaught S s e) :
    Proceeds uses S s e { s with terminated := true } :=
  ⟨h, iff_of_false (fun hfalse => (nomatch hfalse)) fun hcaught => hcaught huncaught⟩

end

theorem proceeds_ownerThrows (h : Orderly uses s) (hs : s.terminated = false) :
    Proceeds uses S s .ownerThrows s.ownerThrows := by
  unfold State.ownerThrows
  split
  · rename_i hcommands
    refine Proceeds.of_caught hs h rfl ?_
    rintro ⟨-, c, hc, -⟩
    rw [hcommands] at hc
    cases hc
  rename_i c rest hcommands
  have hhead : c ∈ s.call.commands.head? := by
    rw [hcommands]
    rfl
  split
  · rename_i hthrows
    split
    · exact Proceeds.of_uncaught h ⟨‹_›, c, hhead, hthrows⟩
    · refine Proceeds.of_caught hs ⟨[], fun _ hk => (nomatch hk), trivial⟩ rfl ?_
      exact fun huncaught => absurd huncaught.1 ‹_›
  · rename_i hthrows
    refine Proceeds.of_caught hs h rfl ?_
    rintro ⟨-, c', hc', hthrows'⟩
    rw [hcommands] at hc'
    cases hc'
    exact hthrows hthrows'

theorem proceeds_threadThrows (h : Orderly uses s) (hs : s.terminated = false) (k : κ) :
    Proceeds uses S s (.throws k) (s.threadThrows S k) := by
  unfold State.threadThrows
  split
  · rename_i hrunning
    cases hcatches : S.catches k with
    | true =>
        refine Proceeds.of_caught hs (h.setThread hrunning .ended) rfl ?_
        rintro ⟨-, huncaught⟩
        rw [hcatches] at huncaught
        cases huncaught
    | false => exact Proceeds.of_uncaught h ⟨hrunning, hcatches⟩
  · exact Proceeds.of_caught hs h rfl fun huncaught => absurd huncaught.1 ‹_›

/-- One step of the owner or of a thread. -/
theorem proceeds_step (hS : ∀ c, JoinsFirst uses [] (S.program c).commands) (h : Orderly uses s)
    (hs : s.terminated = false) (e : Event C κ) : Proceeds uses S s e (step S s e) := by
  unfold step
  rw [if_neg (by rw [hs]; decide)]
  cases e with
  | call c =>
      show Proceeds uses S s (.call c) (s.startCall S c)
      unfold State.startCall
      split
      · exact Proceeds.of_caught hs ⟨[], fun _ hk => (nomatch hk), hS c⟩ rfl id
      · exact Proceeds.of_caught hs h rfl id
  | owner =>
      show Proceeds uses S s .owner s.ownerStep
      unfold State.ownerStep
      split
      · exact Proceeds.of_caught hs h rfl id
      · rename_i c rest hcommands
        obtain ⟨joined, hempty, hfirst⟩ := h
        rw [hcommands] at hfirst
        obtain ⟨horderly, hterminated⟩ := Orderly.perform hempty hfirst hcommands
        exact Proceeds.of_caught hs horderly hterminated id
  | ownerThrows => exact proceeds_ownerThrows h hs
  | ends k =>
      show Proceeds uses S s (.ends k) (s.threadEnds k)
      unfold State.threadEnds
      split
      · exact Proceeds.of_caught hs (h.setThread ‹_› .ended) rfl id
      · exact Proceeds.of_caught hs h rfl id
  | throws k => exact proceeds_threadThrows h hs k

/-- Nothing happens after the end of the process. -/
theorem step_of_terminated (hs : s.terminated = true) (e : Event C κ) : step S s e = s := if_pos hs

theorem run_of_terminated (hs : s.terminated = true) (events : List (Event C κ)) :
    Machine.run (step S) s events = s := by
  induction events with
  | nil => rfl
  | cons e events ih =>
      show Machine.run (step S) (step S s e) events = s
      rw [step_of_terminated hs]
      exact ih

/-- **Exceptions that nobody catches are the only end of the process.**  If all calls join
first, then whatever the interleaving, the process is terminated exactly if an exception
leaves the function of a thread or a call that must not throw. -/
theorem terminated_eq_false_iff (hS : ∀ c, JoinsFirst uses [] (S.program c).commands)
    (h : Orderly uses s) (hs : s.terminated = false) (events : List (Event C κ)) :
    (Machine.run (step S) s events).terminated = false ↔
      Machine.AllSteps (step S) (fun s e => ¬ Uncaught S s e) s events := by
  induction events generalizing s with
  | nil => exact iff_of_true hs trivial
  | cons e events ih =>
      have hnext := proceeds_step hS h hs e
      rw [Machine.allSteps_cons, ← hnext.terminated]
      show (Machine.run (step S) (step S s e) events).terminated = false ↔ _
      cases hend : (step S s e).terminated with
      | false => exact (ih hnext.orderly hend).trans (and_iff_right rfl).symm
      | true =>
          rw [run_of_terminated hend, hend]
          exact iff_of_false (by decide) fun hand => absurd hand.1 (by decide)

/-- Calls that join first keep every run in order. -/
theorem orderly_run (hS : ∀ c, JoinsFirst uses [] (S.program c).commands)
    (events : List (Event C κ)) : Orderly uses (Machine.run (step S) State.start events) := by
  refine Machine.run_invariant (Q := fun _ _ => True) (Orderly uses) (fun s e h _ => ?_)
    orderly_start (Machine.AllSteps.of_forall fun _ _ => trivial)
  cases hs : s.terminated with
  | false => exact (proceeds_step hS h hs e).orderly
  | true =>
      rw [step_of_terminated hs]
      exact h

/-- The owner does no work that uses a thread before it has joined that thread. -/
theorem Orderly.empty_of_work (h : Orderly uses s) {w : W} {rest : List (Command κ W)}
    (hcommands : s.call.commands = .work w :: rest) : ∀ k ∈ uses w, s.threads k = .empty := by
  obtain ⟨joined, hempty, hfirst⟩ := h
  rw [hcommands] at hfirst
  exact fun k hk => hempty k (hfirst.1 k hk)

/-- What is left of a call is the end of its program. -/
def Suffixed (S : Setup C κ W) (s : State κ W) : Prop :=
  s.call = idle ∨ ∃ c, s.call.isNoexcept = (S.program c).isNoexcept ∧
    s.call.commands <:+ (S.program c).commands

/-- What is left of a call is a last part of it. -/
theorem suffixed_step (h : Suffixed S s) (e : Event C κ) : Suffixed S (step S s e) := by
  unfold step
  split
  · exact h
  cases e with
  | call c =>
      show Suffixed S (s.startCall S c)
      unfold State.startCall
      split
      · exact Or.inr ⟨c, rfl, List.suffix_refl _⟩
      · exact h
  | owner =>
      show Suffixed S s.ownerStep
      unfold State.ownerStep
      split
      · exact h
      rename_i c rest hcommands
      have hrest : Suffixed S { s with call := { s.call with commands := rest } } := by
        rcases h with hidle | ⟨c', hnoexcept, hsuffix⟩
        · rw [hidle] at hcommands
          cases hcommands
        · rw [hcommands] at hsuffix
          exact Or.inr ⟨c', hnoexcept, (List.suffix_cons c rest).trans hsuffix⟩
      cases c with
      | join k =>
          by_cases hrunning : s.threads k = .running
          · rwa [State.perform_join_running hrunning]
          · rwa [State.perform_join hrunning]
      | spawn k =>
          show Suffixed S (if s.threads k = .empty then _ else _)
          split
          · exact hrest
          · exact h
      | destroy k =>
          show Suffixed S (if s.threads k = .empty then _ else _)
          split
          · exact hrest
          · exact h
      | work w => exact hrest
  | ownerThrows =>
      show Suffixed S s.ownerThrows
      unfold State.ownerThrows
      split
      · exact h
      split
      · split
        · exact h
        · exact Or.inl rfl
      · exact h
  | ends k =>
      show Suffixed S (s.threadEnds k)
      unfold State.threadEnds
      split <;> exact h
  | throws k =>
      show Suffixed S (s.threadThrows S k)
      unfold State.threadThrows
      split
      · split <;> exact h
      · exact h

/-! ## The last call -/

/-- A last call must not throw; it joins every thread, and spawns none. -/
structure JoinsAll (S : Setup C κ W) (c : C) : Prop where
  isNoexcept : (S.program c).isNoexcept = true
  joins : ∀ k, .join k ∈ (S.program c).commands
  spawnsNone : ∀ k, .spawn k ∉ (S.program c).commands

/-- During the last call, the threads that are left will be joined. -/
structure Closing (s : State κ W) : Prop where
  isNoexcept : s.call.commands = [] ∨ s.call.isNoexcept = true
  joined : ∀ k, s.threads k = .empty ∨ .join k ∈ s.call.commands
  spawnsNone : ∀ k, .spawn k ∉ s.call.commands

omit [DecidableEq κ] in
/-- A command of the last call that is no spawn, and after which its thread is gone. -/
theorem Closing.next {s' : State κ W} {c : Command κ W} {rest : List (Command κ W)}
    (h : Closing s) (hcommands : s.call.commands = c :: rest)
    (hcall : s'.call = { s.call with commands := rest })
    (hthreads : ∀ k, s'.threads k = s.threads k ∨ s'.threads k = .empty)
    (hjoin : ∀ k, c = .join k → s'.threads k = .empty) : Closing s' := by
  have hjoined := h.joined
  have hspawns := h.spawnsNone
  have hnoexcept := h.isNoexcept
  rw [hcommands] at hjoined hspawns hnoexcept
  refine ⟨Or.inr ?_, fun k => ?_, fun k hk => ?_⟩
  · rw [hcall]
    exact hnoexcept.resolve_left (List.cons_ne_nil c rest)
  · rw [hcall]
    rcases hthreads k with hsame | hempty
    · rcases hjoined k with hempty | hmem
      · exact Or.inl (hsame.trans hempty)
      · rcases List.mem_cons.mp hmem with hhead | hrest
        · exact Or.inl (hjoin k hhead.symm)
        · exact Or.inr hrest
    · exact Or.inl hempty
  · rw [hcall] at hk
    exact hspawns k (List.mem_cons_of_mem c hk)

theorem Closing.ownerStep (h : Closing s) : Closing s.ownerStep := by
  unfold State.ownerStep
  split
  · exact h
  rename_i c rest hcommands
  cases c with
  | join k =>
      by_cases hrunning : s.threads k = .running
      · rwa [State.perform_join_running hrunning]
      rw [State.perform_join hrunning]
      refine h.next hcommands rfl (fun k' => ?_) fun k' hk' => ?_
      · by_cases hne : k' = k
        · rw [hne]
          exact Or.inr (s.setThread_self k .empty)
        · exact Or.inl (s.setThread_of_ne hne .empty)
      · cases hk'
        exact s.setThread_self k .empty
  | spawn k =>
      have hspawns := h.spawnsNone k
      rw [hcommands] at hspawns
      exact absurd List.mem_cons_self hspawns
  | destroy k =>
      show Closing (if s.threads k = .empty then _ else _)
      split
      · exact h.next hcommands rfl (fun _ => Or.inl rfl) fun _ hk => nomatch hk
      · exact ⟨h.isNoexcept, h.joined, h.spawnsNone⟩
  | work w => exact h.next hcommands rfl (fun _ => Or.inl rfl) fun _ hk => nomatch hk

/-- A thread that runs is still to be joined, and so it is when it has ended. -/
theorem Closing.setThread (h : Closing s) {k : κ} (hk : s.threads k = .running) (t : Status) :
    Closing (s.setThread k t) := by
  refine ⟨h.isNoexcept, fun k' => ?_, h.spawnsNone⟩
  by_cases hk' : k' = k
  · subst hk'
    refine Or.inr ((h.joined k').resolve_left fun hempty => ?_)
    rw [hempty] at hk
    cases hk
  · rcases h.joined k' with hempty | hmem
    · exact Or.inl ((s.setThread_of_ne hk' t).trans hempty)
    · exact Or.inr hmem

/-- Once the last call has begun, its threads are joined and stay so. -/
theorem closing_step (hS : ∀ c, S.isLast c = true → JoinsAll S c)
    (h : s.closed = true → Closing s) (e : Event C κ) (hclosed : (step S s e).closed = true) :
    Closing (step S s e) := by
  unfold step at hclosed ⊢
  split
  · rw [if_pos ‹_›] at hclosed
    exact h hclosed
  rw [if_neg ‹_›] at hclosed
  cases e with
  | call c =>
      change (s.startCall S c).closed = true at hclosed
      show Closing (s.startCall S c)
      unfold State.startCall at hclosed ⊢
      split
      · rw [if_pos ‹_›] at hclosed
        have hall : JoinsAll S c := hS c hclosed
        exact ⟨Or.inr hall.isNoexcept, fun k => Or.inr (hall.joins k), hall.spawnsNone⟩
      · rw [if_neg ‹_›] at hclosed
        exact h hclosed
  | owner => exact Closing.ownerStep (h (s.closed_ownerStep.symm.trans hclosed))
  | ownerThrows =>
      have hclosing : Closing s := h (s.closed_ownerThrows.symm.trans hclosed)
      show Closing s.ownerThrows
      unfold State.ownerThrows
      split
      · exact hclosing
      rename_i c rest hcommands
      have hnoexcept : s.call.isNoexcept = true :=
        hclosing.isNoexcept.resolve_left (hcommands ▸ List.cons_ne_nil c rest)
      rw [if_pos hnoexcept]
      split
      · exact ⟨hclosing.isNoexcept, hclosing.joined, hclosing.spawnsNone⟩
      · exact hclosing
  | ends k =>
      have hclosing : Closing s := h ((s.closed_threadEnds k).symm.trans hclosed)
      show Closing (s.threadEnds k)
      unfold State.threadEnds
      split
      · exact hclosing.setThread ‹_› .ended
      · exact hclosing
  | throws k =>
      have hclosing : Closing s := h ((s.closed_threadThrows S k).symm.trans hclosed)
      show Closing (s.threadThrows S k)
      unfold State.threadThrows
      split
      · split
        · exact hclosing.setThread ‹_› .ended
        · exact ⟨hclosing.isNoexcept, hclosing.joined, hclosing.spawnsNone⟩
      · exact hclosing

/-- **After the last call no thread is left.** -/
theorem empty_of_closed (hS : ∀ c, S.isLast c = true → JoinsAll S c) {events : List (Event C κ)}
    {s : State κ W} (hs : Machine.run (step S) State.start events = s) (hclosed : s.closed = true)
    (hreturned : s.call.commands = []) (k : κ) : s.threads k = .empty := by
  have hstart : (State.start : State κ W).closed = true → Closing (State.start : State κ W) :=
    fun h => nomatch h
  have hclosing : s.closed = true → Closing s := by
    rw [← hs]
    exact Machine.run_invariant (Q := fun _ _ => True)
      (fun s : State κ W => s.closed = true → Closing s) (fun s e h _ => closing_step hS h e)
      hstart (Machine.AllSteps.of_forall fun _ _ => trivial)
  refine ((hclosing hclosed).joined k).resolve_right fun hmem => ?_
  rw [hreturned] at hmem
  cases hmem

end

end UsrpWrapper.Lib.Threads
