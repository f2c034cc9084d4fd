import UsrpWrapper.Lib.Threads
import Mathlib.Data.List.Infix

/-!
# The threads of the device

`Usrp` (`usrp.cpp`) has three thread objects: `execute` spawns the transmit and the receive
thread, `setTimeToZeroNextPps` the thread that waits for the PPS edge.  The calls are
programs here, of which only the commands on threads and the work in between matter.

The functions of the transmit and the receive thread catch all exceptions of the standard
library; that of the PPS thread catches none.  The destructor calls UHD before it joins.

The mutex of the FPGA, which only rules out interleavings, is left to `PpsThread.lean`.
-/

namespace UsrpWrapper

open Lib Lib.Threads

/-- The thread objects. -/
inductive UsrpThread where
  | transmitThread
  | receiveThread
  | setTimeToZeroNextPpsThread
  deriving DecidableEq

/-- What the calls do between the commands on threads. -/
inductive UsrpWork where
  /-- `replayConfig_->reset()`. -/
  | reset
  | performUpload
  /-- `performStreaming`, up to the base time. -/
  | connectForStreaming
  /-- `get_time_now` of the time keeper. -/
  | getTimeNow
  | rethrowTransmitException
  | rethrowReceiveException
  | performDownload
  | resetStreamingConfigs
  /-- `set_sync_source("internal", "internal")` of the destructor. -/
  | setInternalSyncSource
  /-- A call without commands on threads. -/
  | other
  deriving DecidableEq

namespace UsrpThread

/-- `waitOnThreadToJoin`. -/
def waitOnThreadToJoin (t : UsrpThread) : Command UsrpThread UsrpWork := .join t

/-- `setTimeToZeroNextPps`: the thread is joined before the object is assigned again. -/
def setTimeToZeroNextPps : List (Command UsrpThread UsrpWork) :=
  [waitOnThreadToJoin .setTimeToZeroNextPpsThread, .spawn .setTimeToZeroNextPpsThread]

/-- `getCurrentFpgaTime`: the time is not read while it is being reset. -/
def getCurrentFpgaTime : List (Command UsrpThread UsrpWork) :=
  [waitOnThreadToJoin .setTimeToZeroNextPpsThread, .work .getTimeNow]

/-- `performStreaming`, which asks for the time when the base time is negative. -/
def performStreaming (negativeBaseTime : Bool) : List (Command UsrpThread UsrpWork) :=
  [.work .connectForStreaming] ++ (if negativeBaseTime then getCurrentFpgaTime else []) ++
    [.spawn .transmitThread, .spawn .receiveThread]

/-- `execute`: all three threads are joined first. -/
def execute (negativeBaseTime : Bool) : List (Command UsrpThread UsrpWork) :=
  [waitOnThreadToJoin .setTimeToZeroNextPpsThread, waitOnThreadToJoin .transmitThread,
    waitOnThreadToJoin .receiveThread, .work .reset, .work .performUpload] ++
    performStreaming negativeBaseTime

/-- `collect`: the stream threads are joined before their exceptions are read. -/
def collect : List (Command UsrpThread UsrpWork) :=
  [waitOnThreadToJoin .transmitThread, waitOnThreadToJoin .receiveThread,
    .work .rethrowTransmitException, .work .rethrowReceiveException, .work .performDownload,
    .work .resetStreamingConfigs]

/-- `~Usrp`, with the destructors of the members, the last one first. -/
def destructor : List (Command UsrpThread UsrpWork) :=
  [.work .setInternalSyncSource, .join .transmitThread, .join .receiveThread,
    .join .setTimeToZeroNextPpsThread, .destroy .setTimeToZeroNextPpsThread,
    .destroy .receiveThread, .destroy .transmitThread]

/-- The calls of the server. -/
inductive Call where
  | setTimeToZeroNextPps
  | getCurrentFpgaTime
  | execute (negativeBaseTime : Bool)
  | collect
  | other
  | destructor

/-- The calls of `Usrp`.  The functions of the stream threads catch all exceptions, that of the
PPS thread catches none. -/
def setup : Setup Call UsrpThread UsrpWork where
  program
    | .setTimeToZeroNextPps => ⟨UsrpThread.setTimeToZeroNextPps, false⟩
    | .getCurrentFpgaTime => ⟨UsrpThread.getCurrentFpgaTime, false⟩
    | .execute negativeBaseTime => ⟨UsrpThread.execute negativeBaseTime, false⟩
    | .collect => ⟨UsrpThread.collect, false⟩
    | .other => ⟨[.work .other], false⟩
    | .destructor => ⟨UsrpThread.destructor, true⟩
  isLast
    | .destructor => true
    | _ => false
  catches
    | .transmitThread => true
    | .receiveThread => true
    | .setTimeToZeroNextPpsThread => false

/-- The threads whose work the owner must not meet: the stream threads use the replay
block and the graph, the PPS thread sets the time. -/
def uses : UsrpWork → List UsrpThread
  | .reset => [.transmitThread, .receiveThread]
  | .performUpload => [.transmitThread, .receiveThread]
  | .connectForStreaming => [.transmitThread, .receiveThread]
  | .getTimeNow => [.setTimeToZeroNextPpsThread]
  | .rethrowTransmitException => [.transmitThread]
  | .rethrowReceiveException => [.receiveThread]
  | .performDownload => [.transmitThread, .receiveThread]
  | .resetStreamingConfigs => [.transmitThread, .receiveThread]
  | .setInternalSyncSource => []
  | .other => []

/-- Every call joins a thread before it spawns or destroys it or does work that uses it. -/
theorem joinsFirst_program (c : Call) : JoinsFirst uses [] (setup.program c).commands := by
  cases c with
  | execute negativeBaseTime => cases negativeBaseTime <;> decide
  | _ => decide

/-- The two exceptions that nobody catches. -/
inductive Fatal (s : State UsrpThread UsrpWork) : Event Call UsrpThread → Prop
  | pps (hrunning : s.threads .setTimeToZeroNextPpsThread = .running) :
      Fatal s (.throws .setTimeToZeroNextPpsThread)
  | destructor (hcall : s.call = ⟨UsrpThread.destructor, true⟩) : Fatal s .ownerThrows

/-- In the destructor only the first command may throw. -/
theorem eq_destructor_of_throws {commands : List (Command UsrpThread UsrpWork)}
    (hsuffix : commands <:+ UsrpThread.destructor)
    (hthrows : ∃ c ∈ commands.head?, c.mayThrow = true) : commands = UsrpThread.destructor := by
  have hall : ∀ suffix ∈ UsrpThread.destructor.tails,
      (∃ c ∈ suffix.head?, c.mayThrow = true) → suffix = UsrpThread.destructor := by
    decide
  exact hall commands ((List.mem_tails _ _).mpr hsuffix) hthrows

theorem uncaught_iff_fatal {s : State UsrpThread UsrpWork} (h : Suffixed setup s)
    (e : Event Call UsrpThread) : Uncaught setup s e ↔ Fatal s e := by
  constructor
  · intro huncaught
    cases e with
    | ownerThrows =>
        obtain ⟨hnoexcept, hthrows⟩ := huncaught
        rcases h with hidle | ⟨c, hsame, hsuffix⟩
        · rw [hidle] at hnoexcept
          cases hnoexcept
        · rw [hnoexcept] at hsame
          cases c with
          | destructor =>
              refine .destructor ?_
              have hcommands := eq_destructor_of_throws hsuffix hthrows
              show s.call = _
              rw [← hcommands, ← hnoexcept]
          | _ => cases hsame
    | throws k =>
        obtain ⟨hrunning, hcatches⟩ := huncaught
        cases k with
        | setTimeToZeroNextPpsThread => exact .pps hrunning
        | _ => cases hcatches
    | _ => exact absurd huncaught id
  · rintro (hrunning | hcall)
    · exact ⟨hrunning, rfl⟩
    · unfold Uncaught
      rw [hcall]
      exact ⟨rfl, _, rfl, rfl⟩

/-- The state after these events, from the constructor on. -/
def after (events : List (Event Call UsrpThread)) : State UsrpThread UsrpWork :=
  Machine.run (step setup) State.start events

/-- **The process outlives its threads.**  Whatever calls are made and however they and the
threads interleave and throw, the process is terminated exactly if the PPS thread throws,
or UHD does in the destructor; in particular no thread object is assigned or destroyed
while it is joinable. -/
theorem survives_iff (events : List (Event Call UsrpThread)) :
    (after events).terminated = false ↔
      ∀ before e later, events = before ++ e :: later → ¬ Fatal (after before) e := by
  rw [after, Threads.terminated_eq_false_iff joinsFirst_program orderly_start rfl]
  have hfatal (s : State UsrpThread UsrpWork) (e : Event Call UsrpThread)
      (h : Suffixed setup s) : ¬ Uncaught setup s e ↔ ¬ Fatal s e :=
    not_congr (uncaught_iff_fatal h e)
  rw [Machine.AllSteps.iff_of_invariant (Suffixed setup) hfatal
    (fun s e h _ => suffixed_step h e) (Or.inl rfl)]
  exact Machine.allSteps_iff_forall

/-- **The server keeps away from the threads.**  At any moment, when the server is about to
work on the replay block or the graph for an execution or a collection, no stream thread
is left; when it is about to read the FPGA time, no thread is left that is to reset it;
and when the destructor has returned, no thread is left at all. -/
theorem keeps_away (events : List (Event Call UsrpThread)) :
    (∀ work rest, (after events).call.commands = .work work :: rest →
        ∀ t ∈ uses work, (after events).threads t = .empty) ∧
      ((after events).closed = true → (after events).call.commands = [] →
        ∀ t, (after events).threads t = .empty) := by
  have horderly : Orderly uses (after events) := orderly_run joinsFirst_program events
  have hlast (c : Call) (hc : setup.isLast c = true) : JoinsAll setup c := by
    cases c with
    | destructor => exact ⟨rfl, fun t => by cases t <;> decide, fun t => by cases t <;> decide⟩
    | _ => cases hc
  exact ⟨fun work rest => horderly.empty_of_work, empty_of_closed hlast rfl⟩

/-- Two executions, of which the second one waits for the receive thread of the first. -/
def exampleEvents : List (Event Call UsrpThread) :=
  .call (.execute false) :: List.replicate 8 .owner ++
    [.call (.execute false), .ends .transmitThread, .owner, .owner, .owner,
      .throws .receiveThread, .owner]

/-- The second execution is about to reset the replay block; then the device is destroyed. -/
theorem keeps_away_example :
    (∀ t ∈ uses .reset, (after exampleEvents).threads t = .empty) ∧
      ∀ t, (after (exampleEvents ++ List.replicate 5 .owner ++ [.call .destructor, .owner,
        .ends .transmitThread, .ends .receiveThread] ++ List.replicate 6 .owner)).threads t =
          .empty :=
  ⟨(keeps_away exampleEvents).1 .reset
    (.work .performUpload :: performStreaming false) rfl, (keeps_away _).2 rfl rfl⟩

end UsrpThread

end UsrpWrapper
