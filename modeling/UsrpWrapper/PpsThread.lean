import UsrpWrapper.Lib.Machine

/-!
# The PPS thread

`setTimeToZeroNextPps` spawns a thread that takes `fpgaAccessMutex_`, resets the
time at the next PPS edge and waits for that edge.  Three operations of the
server thread join it: `setTimeToZeroNextPps` and `execute` without the mutex,
and `getCurrentFpgaTime` while it holds the mutex.

The system is a state machine whose inputs are the calls of the server thread,
the steps of the threads and the PPS edges, in any order; a step that is not
possible changes nothing.  The time keeper counts seconds, so an edge that resets
the time can leave the last PPS time as it was; the thread then waits for one
more edge.

`pps_deadlock_free_iff` says in which runs no state is a deadlock and every call
can still return: exactly if `getCurrentFpgaTime` never takes the mutex from a
PPS thread that still waits for it.
-/

namespace UsrpWrapper

open Lib

namespace Pps

/-! ## The system -/

/-- The function that called `getCurrentFpgaTime`. -/
inductive Caller where
  | client
  | performStreaming
  deriving DecidableEq

/-- The next step of the server thread.  `readTime` says that `execute` was
given a negative base time. -/
inductive ServerPc where
  | idle
  | setJoin
  | setSpawn
  | fpgaLock (caller : Caller)
  | fpgaJoin (caller : Caller)
  | fpgaRead (caller : Caller)
  | execJoinPps (readTime : Bool)
  | execJoinTransmit (readTime : Bool)
  | execJoinReceive (readTime : Bool)
  | execUpload (readTime : Bool)
  | execSpawn
  deriving DecidableEq

/-- The PPS thread: not joinable, or at its next step. -/
inductive PpsThread where
  | none
  | lock
  | setTimeNextPps
  | getTimeLastPps
  | spin (lastPpsTime : ℕ)
  | finished
  deriving DecidableEq

/-- The transmit or the receive thread. -/
inductive WorkerThread where
  | none
  | running
  | finished
  deriving DecidableEq

/-- Who holds the mutex. -/
inductive Owner where
  | server
  | pps
  deriving DecidableEq

/-- The time keeper: the time of the last PPS edge, and whether the next edge
resets the time. -/
structure Timekeeper where
  timeLastPps : ℕ
  resetPending : Bool
  deriving DecidableEq

/-- A PPS edge: the time becomes 0 if a reset is pending, and the next second otherwise. -/
def Timekeeper.edge (k : Timekeeper) : Timekeeper :=
  if k.resetPending then ⟨0, false⟩ else ⟨k.timeLastPps + 1, false⟩

/-- The threads of a device, the mutex of the FPGA time and the time keeper. -/
structure System where
  pc : ServerPc
  owner : Option Owner
  pps : PpsThread
  keeper : Timekeeper
  transmitThread : WorkerThread
  receiveThread : WorkerThread
  deriving DecidableEq

/-- No thread was spawned, and the server waits for a call. -/
def System.start (keeper : Timekeeper) : System :=
  ⟨.idle, none, .none, keeper, .none, .none⟩

/-- The calls of the server thread. -/
inductive ServerCall where
  | setTimeToZeroNextPps
  | getCurrentFpgaTime
  | execute (negativeBaseTime : Bool)
  deriving DecidableEq

/-- A call, a step of one of the threads, an exception in the current call, or a PPS edge. -/
inductive Event where
  | call (c : ServerCall)
  | server
  | serverThrows
  | pps
  | edge
  | transmit
  | receive
  deriving DecidableEq

/-- `waitOnThreadToJoin` returns: the thread is not joinable, or it has ended. -/
def PpsThread.joins (t : PpsThread) : Bool := t == .none || t == .finished

/-- The same for the transmit and the receive thread. -/
def WorkerThread.joins (t : WorkerThread) : Bool := t == .none || t == .finished

/-- A call begins when the server is idle. -/
def startCall (c : ServerCall) (s : System) : System :=
  if s.pc = .idle then
    match c with
    | .setTimeToZeroNextPps => { s with pc := .setJoin }
    | .getCurrentFpgaTime => { s with pc := .fpgaLock .client }
    | .execute readTime => { s with pc := .execJoinPps readTime }
  else s

/-- A step of the server thread.  `getCurrentFpgaTime` unlocks the mutex when it
returns. -/
def serverStep (s : System) : System :=
  match s.pc with
  | .idle => s
  | .setJoin => if s.pps.joins then { s with pc := .setSpawn, pps := .none } else s
  | .setSpawn => { s with pc := .idle, pps := .lock }
  | .fpgaLock caller =>
      if s.owner = none then { s with pc := .fpgaJoin caller, owner := some .server } else s
  | .fpgaJoin caller =>
      if s.pps.joins then { s with pc := .fpgaRead caller, pps := .none } else s
  | .fpgaRead .client => { s with pc := .idle, owner := none }
  | .fpgaRead .performStreaming => { s with pc := .execSpawn, owner := none }
  | .execJoinPps readTime =>
      if s.pps.joins then { s with pc := .execJoinTransmit readTime, pps := .none } else s
  | .execJoinTransmit readTime =>
      if s.transmitThread.joins then
        { s with pc := .execJoinReceive readTime, transmitThread := .none }
      else s
  | .execJoinReceive readTime =>
      if s.receiveThread.joins then
        { s with pc := .execUpload readTime, receiveThread := .none }
      else s
  | .execUpload readTime =>
      { s with pc := if readTime then .fpgaLock .performStreaming else .execSpawn }
  | .execSpawn => { s with pc := .idle, transmitThread := .running, receiveThread := .running }

/-- UHD throws in the current call.  The lock of `getCurrentFpgaTime` is released,
and the call ends. -/
def serverThrows (s : System) : System :=
  match s.pc with
  | .fpgaRead _ => { s with pc := .idle, owner := none }
  | .execUpload _ => { s with pc := .idle }
  | _ => s

/-- A step of the PPS thread. -/
def ppsStep (s : System) : System :=
  match s.pps with
  | .none => s
  | .lock => if s.owner = none then { s with pps := .setTimeNextPps, owner := some .pps } else s
  | .setTimeNextPps =>
      { s with pps := .getTimeLastPps, keeper := { s.keeper with resetPending := true } }
  | .getTimeLastPps => { s with pps := .spin s.keeper.timeLastPps }
  | .spin lastPpsTime =>
      if lastPpsTime = s.keeper.timeLastPps then s
      else { s with pps := .finished, owner := none }
  | .finished => s

/-- A worker ends at some time. -/
def WorkerThread.step : WorkerThread → WorkerThread
  | .running => .finished
  | t => t

/-- The system takes a step; a thread that waits stays where it is. -/
def step (s : System) : Event → System
  | .call c => startCall c s
  | .server => serverStep s
  | .serverThrows => serverThrows s
  | .pps => ppsStep s
  | .edge => { s with keeper := s.keeper.edge }
  | .transmit => { s with transmitThread := s.transmitThread.step }
  | .receive => { s with receiveThread := s.receiveThread.step }

/-! ## Deadlocks and progress -/

/-- The server holds the mutex and joins a PPS thread that waits for the
mutex. -/
def Deadlocked (s : System) : Prop :=
  s.owner = some .server ∧ (∃ caller, s.pc = .fpgaJoin caller) ∧ s.pps = .lock

/-- Without further calls some sequence of steps and PPS edges ends the current
call. -/
def CanReturn (s : System) : Prop :=
  ∃ events : List Event, (∀ c, .call c ∉ events) ∧ (Machine.run step s events).pc = .idle

/-- A step leads to a state that is no deadlock and whose call can return. -/
structure StepLive (s : System) (e : Event) : Prop where
  noDeadlock : ¬ Deadlocked (step s e)
  canReturn : CanReturn (step s e)

/-- If the step takes the mutex for `getCurrentFpgaTime`, then no PPS thread
waits for it. -/
def MutexInOrder (s : System) (e : Event) : Prop :=
  e = .server → (∃ caller, s.pc = .fpgaLock caller) → s.owner = none → s.pps ≠ .lock

/-! ## The invariant -/

/-- The PPS thread is between its lock and its unlock. -/
def PpsThread.holds : PpsThread → Bool
  | .setTimeNextPps => true
  | .getTimeLastPps => true
  | .spin _ => true
  | _ => false

/-- The server is between the lock and the unlock of `getCurrentFpgaTime`. -/
def ServerPc.holds : ServerPc → Bool
  | .fpgaJoin _ => true
  | .fpgaRead _ => true
  | _ => false

/-- The server has just joined the PPS thread. -/
def ServerPc.joined : ServerPc → Bool
  | .setSpawn => true
  | .fpgaRead _ => true
  | _ => false

/-- The owner of the mutex is where it holds the mutex, and no PPS thread is left
after the server joined it. -/
structure Ordered (s : System) : Prop where
  pps : s.owner = some .pps ↔ s.pps.holds = true
  server : s.owner = some .server ↔ s.pc.holds = true
  joined : s.pc.joined = true → s.pps = .none

theorem ordered_start (keeper : Timekeeper) : Ordered (System.start keeper) :=
  ⟨by simp [System.start, PpsThread.holds], by simp [System.start, ServerPc.holds],
    fun h => nomatch h⟩

theorem PpsThread.not_holds_of_joins {t : PpsThread} (h : t.joins = true) : t.holds = false := by
  cases t <;> first | rfl | cases h

/-- The order depends on the next steps of the server and of the PPS thread and
on the owner of the mutex only. -/
theorem Ordered.congr {s s' : System} (h : Ordered s) (hpc : s'.pc.holds = s.pc.holds)
    (howner : s'.owner = s.owner) (hpps : s'.pps = s.pps)
    (hjoined : s'.pc.joined = true → s.pc.joined = true) : Ordered s' := by
  refine ⟨?_, ?_, fun hs => ?_⟩
  · rw [howner, hpps]
    exact h.pps
  · rw [howner, hpc]
    exact h.server
  · rw [hpps]
    exact h.joined (hjoined hs)

/-- The server joins the PPS thread. -/
theorem Ordered.join {s : System} (h : Ordered s) {pc : ServerPc} (hpc : pc.holds = s.pc.holds)
    (hjoins : s.pps.joins = true) : Ordered { s with pc := pc, pps := .none } := by
  refine ⟨?_, ?_, fun _ => rfl⟩
  · show s.owner = some .pps ↔ false = true
    rw [h.pps, PpsThread.not_holds_of_joins hjoins]
  · show s.owner = some .server ↔ pc.holds = true
    rw [hpc]
    exact h.server

/-- The server unlocks the mutex. -/
theorem Ordered.unlock {s : System} (h : Ordered s) {pc : ServerPc} (hheld : s.pc.holds = true)
    (hpc : pc.holds = false) (hjoined : pc.joined = false) :
    Ordered { s with pc := pc, owner := none } := by
  have hpps := h.pps
  rw [h.server.mpr hheld] at hpps
  refine ⟨?_, ?_, fun hs => absurd (hjoined.symm.trans hs) (by simp)⟩
  · show none = some Owner.pps ↔ s.pps.holds = true
    rw [← hpps]
    simp
  · show none = some Owner.server ↔ pc.holds = true
    rw [hpc]
    simp

/-- The server takes the mutex when it is free, and releases the one it has. -/
theorem ordered_serverStep {s : System} (h : Ordered s) : Ordered (serverStep s) := by
  unfold serverStep
  split
  · exact h
  · rename_i hpc
    split
    · exact h.join (by rw [hpc]; rfl) ‹_›
    · exact h
  · rename_i hpc
    -- the thread that `setJoin` joined is gone, so the mutex is not the PPS thread's
    refine ⟨?_, ?_, fun hs => nomatch hs⟩
    · have hpps := h.pps
      rw [h.joined (by rw [hpc]; rfl)] at hpps
      exact hpps
    · have hserver := h.server
      rw [hpc] at hserver
      exact hserver
  · rename_i caller hpc
    split
    · rename_i hfree
      have hpps := h.pps
      rw [hfree] at hpps
      exact ⟨by simpa using hpps, by simp [ServerPc.holds], fun hs => nomatch hs⟩
    · exact h
  · rename_i caller hpc
    split
    · exact h.join (by rw [hpc]; rfl) ‹_›
    · exact h
  · rename_i hpc
    exact h.unlock (by rw [hpc]; rfl) rfl rfl
  · rename_i hpc
    exact h.unlock (by rw [hpc]; rfl) rfl rfl
  · rename_i readTime hpc
    split
    · exact h.join (by rw [hpc]; rfl) ‹_›
    · exact h
  · rename_i readTime hpc
    split
    · exact h.congr (by rw [hpc]; rfl) rfl rfl (fun hs => nomatch hs)
    · exact h
  · rename_i readTime hpc
    split
    · exact h.congr (by rw [hpc]; rfl) rfl rfl (fun hs => nomatch hs)
    · exact h
  · rename_i readTime hpc
    cases readTime with
    | false => exact h.congr (by rw [hpc]; rfl) rfl rfl (fun hs => nomatch hs)
    | true => exact h.congr (by rw [hpc]; rfl) rfl rfl (fun hs => nomatch hs)
  · rename_i hpc
    exact h.congr (by rw [hpc]; rfl) rfl rfl (fun hs => nomatch hs)

theorem ordered_serverThrows {s : System} (h : Ordered s) : Ordered (serverThrows s) := by
  unfold serverThrows
  split
  · rename_i caller hpc
    exact h.unlock (by rw [hpc]; rfl) rfl rfl
  · rename_i readTime hpc
    exact h.congr (by rw [hpc]; rfl) rfl rfl (fun hs => nomatch hs)
  · exact h

/-- The PPS thread goes on between its lock and its unlock. -/
theorem Ordered.stay {s : System} (h : Ordered s) {t : PpsThread} {keeper : Timekeeper}
    (hheld : s.pps.holds = true) (ht : t.holds = true) :
    Ordered { s with pps := t, keeper := keeper } := by
  refine ⟨?_, h.server, fun hpc => ?_⟩
  · show s.owner = some .pps ↔ t.holds = true
    rw [h.pps, hheld, ht]
  · rw [h.joined hpc] at hheld
    cases hheld

theorem ordered_ppsStep {s : System} (h : Ordered s) : Ordered (ppsStep s) := by
  unfold ppsStep
  split
  · exact h
  · rename_i hpps
    split
    · rename_i hfree
      have hserver := h.server
      rw [hfree] at hserver
      refine ⟨by simp [PpsThread.holds], by simpa using hserver, fun hpc => ?_⟩
      rw [h.joined hpc] at hpps
      cases hpps
    · exact h
  · rename_i hpps
    exact h.stay (by rw [hpps]; rfl) rfl
  · rename_i hpps
    exact h.stay (by rw [hpps]; rfl) rfl
  · rename_i lastPpsTime hpps
    split
    · exact h
    · have howner := h.pps.mpr (by rw [hpps]; rfl)
      have hserver := h.server
      rw [howner] at hserver
      refine ⟨by simp [PpsThread.holds], by simpa using hserver, fun hpc => ?_⟩
      rw [h.joined hpc] at hpps
      cases hpps
  · exact h

theorem ordered_startCall {s : System} (h : Ordered s) (c : ServerCall) :
    Ordered (startCall c s) := by
  unfold startCall
  split
  · rename_i hpc
    cases c with
    | setTimeToZeroNextPps => exact h.congr (by rw [hpc]; rfl) rfl rfl (fun hs => nomatch hs)
    | getCurrentFpgaTime => exact h.congr (by rw [hpc]; rfl) rfl rfl (fun hs => nomatch hs)
    | execute readTime => exact h.congr (by rw [hpc]; rfl) rfl rfl (fun hs => nomatch hs)
  · exact h

/-- Every step keeps the order of the mutex. -/
theorem ordered_step {s : System} (h : Ordered s) (e : Event) : Ordered (step s e) := by
  cases e with
  | call c => exact ordered_startCall h c
  | server => exact ordered_serverStep h
  | serverThrows => exact ordered_serverThrows h
  | pps => exact ordered_ppsStep h
  | edge => exact h.congr rfl rfl rfl id
  | transmit => exact h.congr rfl rfl rfl id
  | receive => exact h.congr rfl rfl rfl id

/-! ## Progress -/

theorem canReturn_of_idle {s : System} (h : s.pc = .idle) : CanReturn s :=
  ⟨[], by simp, h⟩

/-- One more step that is no call. -/
theorem CanReturn.ofStep {s : System} (e : Event) (hcall : ∀ c, e ≠ .call c)
    (h : CanReturn (step s e)) : CanReturn s := by
  obtain ⟨events, hcalls, hidle⟩ := h
  refine ⟨e :: events, fun c hmem => ?_, hidle⟩
  rcases List.mem_cons.mp hmem with heq | htail
  · exact hcall c heq.symm
  · exact hcalls c htail

/-- The number of steps until the call returns, if nothing blocks. -/
def ServerPc.remaining : ServerPc → ℕ
  | .idle => 0
  | .setSpawn => 1
  | .setJoin => 2
  | .execSpawn => 1
  | .fpgaRead _ => 2
  | .fpgaJoin _ => 3
  | .fpgaLock _ => 4
  | .execUpload _ => 5
  | .execJoinReceive _ => 6
  | .execJoinTransmit _ => 7
  | .execJoinPps _ => 8

/-- No join of the server blocks. -/
structure Ready (s : System) : Prop where
  pps : s.pps.joins = true
  transmit : s.transmitThread.joins = true
  receive : s.receiveThread.joins = true

theorem Ordered.owner_eq_none {s : System} (h : Ordered s) (hpc : s.pc.holds = false)
    (hpps : s.pps.holds = false) : s.owner = none := by
  rcases howner : s.owner with _ | (_ | _)
  · rfl
  · exact absurd (h.server.mp howner) (by simp [hpc])
  · exact absurd (h.pps.mp howner) (by simp [hpps])

/-- Without a thread to wait for, the server comes closer to its return. -/
theorem serverStep_progress {s : System} (h : Ordered s) (hready : Ready s)
    (hbusy : s.pc ≠ .idle) : (serverStep s).pc.remaining < s.pc.remaining ∧
      ((serverStep s).pc = .idle ∨ Ready (serverStep s)) := by
  obtain ⟨hpps, htransmit, hreceive⟩ := hready
  cases hpc : s.pc with
  | idle => exact absurd hpc hbusy
  | setJoin => simpa [serverStep, hpc, hpps, ServerPc.remaining] using ⟨rfl, htransmit, hreceive⟩
  | setSpawn => simp [serverStep, hpc, ServerPc.remaining]
  | fpgaLock caller =>
      have hfree := h.owner_eq_none (by rw [hpc]; rfl) (PpsThread.not_holds_of_joins hpps)
      simpa [serverStep, hpc, hfree, ServerPc.remaining] using ⟨hpps, htransmit, hreceive⟩
  | fpgaJoin caller =>
      simpa [serverStep, hpc, hpps, ServerPc.remaining] using ⟨rfl, htransmit, hreceive⟩
  | fpgaRead caller =>
      cases caller with
      | client => simp [serverStep, hpc, ServerPc.remaining]
      | performStreaming =>
          simpa [serverStep, hpc, ServerPc.remaining] using ⟨hpps, htransmit, hreceive⟩
  | execJoinPps readTime =>
      simpa [serverStep, hpc, hpps, ServerPc.remaining] using ⟨rfl, htransmit, hreceive⟩
  | execJoinTransmit readTime =>
      simpa [serverStep, hpc, htransmit, ServerPc.remaining] using ⟨hpps, rfl, hreceive⟩
  | execJoinReceive readTime =>
      simpa [serverStep, hpc, hreceive, ServerPc.remaining] using ⟨hpps, htransmit, rfl⟩
  | execUpload readTime =>
      cases readTime with
      | false => simpa [serverStep, hpc, ServerPc.remaining] using ⟨hpps, htransmit, hreceive⟩
      | true => simpa [serverStep, hpc, ServerPc.remaining] using ⟨hpps, htransmit, hreceive⟩
  | execSpawn => simp [serverStep, hpc, ServerPc.remaining]

/-- When the PPS thread is out of the way, the call returns. -/
theorem canReturn_of_ready {s : System} (h : Ordered s) (hready : Ready s) : CanReturn s := by
  induction hn : s.pc.remaining using Nat.strongRecOn generalizing s with
  | ind n ih =>
      by_cases hidle : s.pc = .idle
      · exact canReturn_of_idle hidle
      · obtain ⟨hless, hnext⟩ := serverStep_progress h hready hidle
        refine CanReturn.ofStep .server (fun c heq => nomatch heq) ?_
        rcases hnext with hdone | hready'
        · exact canReturn_of_idle hdone
        · exact ih _ (hn ▸ hless) (ordered_serverStep h) hready' rfl

theorem WorkerThread.joins_step (t : WorkerThread) : t.step.joins = true := by
  cases t <;> rfl

/-- The transmit and the receive thread end, and then the call returns. -/
theorem canReturn_of_joins {s : System} (h : Ordered s) (hpps : s.pps.joins = true) :
    CanReturn s := by
  refine CanReturn.ofStep .transmit (fun c heq => nomatch heq) ?_
  refine CanReturn.ofStep .receive (fun c heq => nomatch heq) ?_
  refine canReturn_of_ready (ordered_step (ordered_step h _) _) ⟨hpps, ?_, ?_⟩
  · exact WorkerThread.joins_step s.transmitThread
  · exact WorkerThread.joins_step s.receiveThread

/-- An edge that does not reset the time is seen by the waiting PPS thread. -/
theorem canReturn_of_edgeSeen {s : System} (h : Ordered s) {lastPpsTime : ℕ}
    (hpps : s.pps = .spin lastPpsTime) (hne : lastPpsTime ≠ s.keeper.timeLastPps) :
    CanReturn s := by
  refine CanReturn.ofStep .pps (fun c heq => nomatch heq) (canReturn_of_joins (ordered_step h _) ?_)
  simp [step, ppsStep, hpps, hne, PpsThread.joins]

/-- A PPS edge gets the thread out of the way. -/
theorem canReturn_of_spin {s : System} (h : Ordered s) {lastPpsTime : ℕ}
    (hpps : s.pps = .spin lastPpsTime) : CanReturn s := by
  refine CanReturn.ofStep .edge (fun c heq => nomatch heq) ?_
  by_cases hseen : lastPpsTime = s.keeper.edge.timeLastPps
  · -- the edge reset the time to the value that was read, so the next one counts up
    refine CanReturn.ofStep .edge (fun c heq => nomatch heq) ?_
    refine canReturn_of_edgeSeen (ordered_step (ordered_step h _) _) hpps ?_
    have hpending : s.keeper.edge.resetPending = false := by
      unfold Timekeeper.edge
      split <;> rfl
    show lastPpsTime ≠ s.keeper.edge.edge.timeLastPps
    rw [Timekeeper.edge, hpending, hseen]
    simp
  · exact canReturn_of_edgeSeen (ordered_step h _) hpps hseen

/-- The PPS thread that holds the mutex ends. -/
theorem canReturn_of_holds {s : System} (h : Ordered s) (hheld : s.pps.holds = true) :
    CanReturn s := by
  cases hpps : s.pps with
  | none => rw [hpps] at hheld; cases hheld
  | lock => rw [hpps] at hheld; cases hheld
  | finished => rw [hpps] at hheld; cases hheld
  | spin lastPpsTime => exact canReturn_of_spin h hpps
  | getTimeLastPps =>
      refine CanReturn.ofStep .pps (fun c heq => nomatch heq) ?_
      have hspin : (step s .pps).pps = .spin s.keeper.timeLastPps := by simp [step, ppsStep, hpps]
      exact canReturn_of_spin (ordered_step h _) hspin
  | setTimeNextPps =>
      refine CanReturn.ofStep .pps (fun c heq => nomatch heq) ?_
      refine CanReturn.ofStep .pps (fun c heq => nomatch heq) ?_
      have hspin : (step (step s .pps) .pps).pps = .spin s.keeper.timeLastPps := by
        simp [step, ppsStep, hpps]
      exact canReturn_of_spin (ordered_step (ordered_step h _) _) hspin

/-- **Outside a deadlock every call can return.** -/
theorem canReturn_of_notDeadlocked {s : System} (h : Ordered s) (hlive : ¬ Deadlocked s) :
    CanReturn s := by
  by_cases hjoins : s.pps.joins = true
  · exact canReturn_of_joins h hjoins
  by_cases hheld : s.pps.holds = true
  · exact canReturn_of_holds h hheld
  have hlock : s.pps = .lock := by
    cases hpps : s.pps <;> simp_all [PpsThread.joins, PpsThread.holds]
  have hpc : s.pc.holds = false := by
    cases hpc : s.pc with
    | fpgaJoin caller =>
        exact absurd ⟨h.server.mpr (by rw [hpc]; rfl), ⟨caller, hpc⟩, hlock⟩ hlive
    | fpgaRead caller =>
        rw [h.joined (by rw [hpc]; rfl)] at hlock
        cases hlock
    | _ => rfl
  have hfree := h.owner_eq_none hpc (by rw [hlock]; rfl)
  refine CanReturn.ofStep .pps (fun c heq => nomatch heq) (canReturn_of_holds (ordered_step h _) ?_)
  simp [step, ppsStep, hlock, hfree, PpsThread.holds]

/-! ## The order of the mutex -/

/-- The server comes to the join in `getCurrentFpgaTime` by taking the mutex. -/
theorem serverStep_eq_fpgaJoin {s : System} {caller : Caller}
    (h : (serverStep s).pc = .fpgaJoin caller) :
    (s.pc = .fpgaLock caller ∧ s.owner = none ∧ (serverStep s).pps = s.pps) ∨
      serverStep s = s := by
  unfold serverStep at h ⊢
  split at h
  case h_4 caller' hpc =>
    by_cases hfree : s.owner = none
    · rw [if_pos hfree] at h ⊢
      cases h
      exact .inl ⟨hpc, hfree, rfl⟩
    · rw [if_neg hfree]
      exact .inr rfl
  case h_11 readTime hpc =>
    cases readTime with
    | false => cases h
    | true => cases h
  all_goals first
    | exact .inr rfl
    | cases h
    | (split at h
       · cases h
       · exact .inr (if_neg ‹_›))

/-- The server runs into the deadlock in one way: it locks before a PPS thread that has not locked
yet. -/
theorem deadlocked_serverStep {s : System} (h : ¬ Deadlocked s)
    (hdead : Deadlocked (serverStep s)) : ¬ MutexInOrder s .server := by
  intro horder
  obtain ⟨caller, hjoin⟩ := hdead.2.1
  rcases serverStep_eq_fpgaJoin hjoin with ⟨hpc, hfree, hpps⟩ | hsame
  · refine horder rfl ⟨caller, hpc⟩ hfree ?_
    rw [← hpps]
    exact hdead.2.2
  · rw [hsame] at hdead
    exact h hdead

theorem deadlocked_serverThrows {s : System} (hdead : Deadlocked (serverThrows s)) :
    Deadlocked s := by
  obtain ⟨howner, ⟨caller, hjoin⟩, hlock⟩ := hdead
  unfold serverThrows at howner hjoin hlock
  split at hjoin
  · cases hjoin
  · cases hjoin
  · exact ⟨by simpa using howner, ⟨caller, hjoin⟩, by simpa using hlock⟩

theorem deadlocked_startCall {s : System} {c : ServerCall} (hdead : Deadlocked (startCall c s)) :
    Deadlocked s := by
  by_cases hidle : s.pc = .idle
  · obtain ⟨-, ⟨caller, hjoin⟩, -⟩ := hdead
    cases c <;> simp [startCall, hidle] at hjoin
  · unfold startCall at hdead
    rw [if_neg hidle] at hdead
    exact hdead

theorem deadlocked_ppsStep {s : System} (hdead : Deadlocked (ppsStep s)) : Deadlocked s := by
  obtain ⟨howner, hjoin, hlock⟩ := hdead
  cases hpps : s.pps with
  | lock =>
      by_cases hfree : s.owner = none
      · simp [ppsStep, hpps, hfree] at hlock
      · simp only [ppsStep, hpps, hfree, if_false] at howner hjoin
        exact ⟨howner, hjoin, hpps⟩
  | spin lastPpsTime =>
      by_cases hseen : lastPpsTime = s.keeper.timeLastPps
      · simp [ppsStep, hpps, hseen] at hlock
      · simp [ppsStep, hpps, hseen] at hlock
  | _ => simp [ppsStep, hpps] at hlock

/-- Outside a deadlock only the lock of `getCurrentFpgaTime` leads into one. -/
theorem notDeadlocked_step {s : System} (h : ¬ Deadlocked s) {e : Event}
    (horder : MutexInOrder s e) : ¬ Deadlocked (step s e) := by
  intro hdead
  cases e with
  | call c => exact h (deadlocked_startCall hdead)
  | server => exact deadlocked_serverStep h hdead horder
  | serverThrows => exact h (deadlocked_serverThrows hdead)
  | pps => exact h (deadlocked_ppsStep hdead)
  | edge => exact h hdead
  | transmit => exact h hdead
  | receive => exact h hdead

/-- Taking the mutex from a waiting PPS thread is a deadlock. -/
theorem deadlocked_of_outOfOrder {s : System} {e : Event} (h : ¬ MutexInOrder s e) :
    Deadlocked (step s e) := by
  rw [MutexInOrder] at h
  push Not at h
  obtain ⟨rfl, ⟨caller, hpc⟩, hfree, hlock⟩ := h
  simp [Deadlocked, step, serverStep, hpc, hfree, hlock]

/-- A step is safe if it takes the mutex in order. -/
theorem stepLive_iff {s : System} (h : Ordered s) (hlive : ¬ Deadlocked s) (e : Event) :
    StepLive s e ↔ MutexInOrder s e := by
  constructor
  · intro hstep
    by_contra horder
    exact hstep.noDeadlock (deadlocked_of_outOfOrder horder)
  · intro horder
    have hnext := notDeadlocked_step hlive horder
    exact ⟨hnext, canReturn_of_notDeadlocked (ordered_step h e) hnext⟩

/-- **The PPS thread and the server never deadlock exactly if the mutex is taken
in order.**  Whatever calls are made and however the threads and the PPS edges
interleave, all states of a run are free of deadlock and let the current call
return if and only if `getCurrentFpgaTime` never takes the mutex while a PPS
thread still waits for it. -/
theorem pps_deadlock_free_iff (keeper : Timekeeper) (events : List Event) :
    Machine.AllSteps step StepLive (System.start keeper) events ↔
      Machine.AllSteps step MutexInOrder (System.start keeper) events := by
  refine Machine.AllSteps.iff_of_invariant (fun s => Ordered s ∧ ¬ Deadlocked s) ?_ ?_ ?_
  · rintro s e ⟨hordered, hlive⟩
    exact stepLive_iff hordered hlive e
  · rintro s e ⟨hordered, hlive⟩ horder
    exact ⟨ordered_step hordered e, notDeadlocked_step hlive horder⟩
  · refine ⟨ordered_start keeper, ?_⟩
    rintro ⟨howner, -⟩
    cases howner

/-- `getCurrentFpgaTime` takes the mutex before the PPS thread that
`setTimeToZeroNextPps` has just spawned. -/
theorem pps_deadlock :
    ¬ ∀ events, Machine.AllSteps step StepLive (System.start ⟨0, false⟩) events := by
  intro h
  have hrun := h [.call .setTimeToZeroNextPps, .server, .server, .call .getCurrentFpgaTime, .server]
  exact hrun.2.2.2.2.1.noDeadlock ⟨rfl, ⟨.client, rfl⟩, rfl⟩

end Pps

end UsrpWrapper
