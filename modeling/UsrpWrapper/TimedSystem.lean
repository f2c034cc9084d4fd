import UsrpWrapper.Synchronisation
import UsrpWrapper.TimedFlag

/-!
# The system and its clock

In `System` the timer of the synchronisation flag may expire at any moment.  Here the flag
is the `TimedFlag` itself: a step is a call of the user, or time that passes, and every
event has the time at which it was recorded.

A call uses the flag at most once to read it, and then at most once to change it.  It is
put at the moment at which it uses the flag for the last time; the time that it takes,
sleeps included, passes before and after that moment, which makes no difference to a flag
that is not raised.

`step_after` makes the events of a call tangible: what a call does depends on the past
only through the network.
-/

namespace UsrpWrapper

open Lib Lib.Command Lib.Trace

/-! ## The events of one call -/

/-- The network, for a history that starts after `past`. -/
def Network.after (net : Network) (past : History) : Network := fun h => net (h ++ past)

namespace System

/-- The system, with a past before its history. -/
def after (past : History) (s : System) : System := { s with history := s.history ++ past }

/-- The system without its past. -/
def forget (s : System) : System := { s with history := [] }

section

variable {α : Type} (net : Network) (past : History)

/-- A request behind the history is one on the network that remembers it. -/
theorem refines_request (device : Address) (r : Request) :
    Refines (· ++ past) (request (net.after past) device r) (request net device r) := by
  intro h
  unfold request Network.after
  cases net (h ++ past) device r with
  | returns value => rfl
  | fails failure applied => rfl

theorem refines_onHistory {x y : RpcM α} (h : Refines (· ++ past) x y) :
    Refines (after past) (onHistory x) (onHistory y) :=
  Refines.onField (fun _ => rfl) (fun _ _ => rfl) h

theorem refines_onRequest (device : Address) (r : Request) :
    Refines (after past) (onHistory (request (net.after past) device r))
      (onHistory (request net device r)) :=
  refines_onHistory past (refines_request net past device r)

/-- Naming the device in an error does not look at the history. -/
theorem refines_labelRemoteError {x y : SystemM α} (usrpName : String)
    (h : Refines (after past) x y) :
    Refines (after past) (labelRemoteError usrpName x) (labelRemoteError usrpName y) := by
  intro s
  unfold labelRemoteError
  rw [← h s]
  cases x s with
  | ok a s' => rfl
  | error e s' => cases e <;> rfl

theorem refines_catchRemoteError {x y : SystemM α} (h : Refines (after past) x y) :
    Refines (after past) (catchRemoteError x) (catchRemoteError y) := by
  intro s
  unfold catchRemoteError
  rw [← h s]
  cases x s with
  | ok a s' => rfl
  | error e s' => cases e <;> rfl

/-- Asking all devices one after the other does not look behind the history. -/
theorem refines_catchRemoteUsrpErrors {f g : String → SystemM α}
    (h : ∀ usrpName, Refines (after past) (f usrpName) (g usrpName)) :
    Refines (after past) (catchRemoteUsrpErrors f) (catchRemoteUsrpErrors g) := by
  refine Refines.bindGet fun s => Refines.bind (Refines.mapM fun usrpName _ => ?_) fun rs => ?_
  · exact (refines_catchRemoteError past (h usrpName)).bind fun _ => Refines.pure _
  · split
    · exact Refines.pure _
    · exact Refines.throw _

theorem refines_labeledUsrp (usrpName : String) :
    Refines (after past) (labeledUsrp usrpName) (labeledUsrp usrpName) :=
  Refines.reads fun _ => rfl

theorem refines_setTimeToZeroNextPps :
    Refines (after past) (setTimeToZeroNextPps (net.after past)) (setTimeToZeroNextPps net) :=
  Refines.bindGet fun _ => Refines.forM fun _ _ => refines_onRequest net past _ _

theorem refines_getCurrentFpgaTimes :
    Refines (after past) (getCurrentFpgaTimes (net.after past)) (getCurrentFpgaTimes net) :=
  Refines.bindGet fun _ => Refines.mapM fun _ _ => refines_onRequest net past _ _

/-- `synchronisationValid` does not look behind its own events. -/
theorem refines_synchronisationValid :
    Refines (after past) (synchronisationValid (net.after past)) (synchronisationValid net) := by
  refine (refines_getCurrentFpgaTimes net past).bind fun times => ?_
  refine (Refines.liftE _).bind fun valid => Refines.bindGet fun s => ?_
  exact Refines.bind (refines_onHistory past (Refines.modify fun _ => rfl)) fun _ => Refines.pure _

theorem refines_attemptSync (n : ℕ) :
    Refines (after past) (attemptSync (net.after past) n) (attemptSync net n) := by
  induction n with
  | zero => exact Refines.throw _
  | succ n ih =>
      refine (refines_setTimeToZeroNextPps net past).bind fun _ => ?_
      refine (refines_synchronisationValid net past).bind fun valid => ?_
      split
      · exact Refines.modify fun _ => rfl
      · exact ih

/-- `synchronizeUsrps` does not look behind its own events. -/
theorem refines_synchronizeUsrps :
    Refines (after past) (synchronizeUsrps (net.after past)) (synchronizeUsrps net) := by
  refine Refines.bind (Refines.bindGet fun s => ?_) fun _ => Refines.bindGet fun s => ?_
  · show Refines _ (if s.syncSourceSet then _ else _) (if s.syncSourceSet then _ else _)
    split
    · exact Refines.pure ()
    · refine Refines.bind (Refines.reads fun _ => rfl) fun source => ?_
      refine (Refines.forM fun _ _ => refines_onRequest net past _ _).bind fun _ => ?_
      exact (refines_setTimeToZeroNextPps net past).bind fun _ => Refines.modify fun _ => rfl
  · show Refines _ (if s.usrpsSynced then _ else _) (if s.usrpsSynced then _ else _)
    split
    · exact Refines.pure ()
    · refine (refines_synchronisationValid net past).bind fun valid => ?_
      split
      · exact Refines.modify fun _ => rfl
      · exact refines_attemptSync net past syncAttempts

theorem refines_addUsrp (usrpName : String) (client : UsrpClient) :
    Refines (after past) (addUsrp (net.after past) usrpName client)
      (addUsrp net usrpName client) := by
  refine refines_labelRemoteError past usrpName ?_
  refine Refines.bind (Refines.modify fun _ => rfl) fun _ =>
    Refines.bind (Refines.reads fun _ => rfl) fun _ => ?_
  refine (refines_onRequest net past _ _).bind fun _ => ?_
  refine (refines_onRequest net past _ _).bind fun _ => ?_
  exact Refines.bind (Refines.modify fun _ => rfl) fun _ => Refines.pure _

theorem refines_newUsrp (ip usrpName : String) (port : ℕ) :
    Refines (after past) (newUsrp (net.after past) ip usrpName port)
      (newUsrp net ip usrpName port) := by
  refine Refines.bind (refines_labelRemoteError past usrpName (refines_onHistory past ?_))
    fun client => refines_addUsrp net past usrpName client
  refine (refines_request net past _ _).bind fun _ => ?_
  exact (refines_request net past _ _).bind fun _ => Refines.pure _

theorem refines_configureTx (usrpName : String) (conf : PyTxStreamingConfig) :
    Refines (after past) (configureTx (net.after past) usrpName conf)
      (configureTx net usrpName conf) := by
  refine (Refines.liftE _).bind fun _ => (refines_labeledUsrp past usrpName).bind fun usrp => ?_
  refine refines_onHistory past ?_
  unfold UsrpClient.configureTx
  split
  · exact Refines.throw _
  · exact refines_request net past _ _

theorem refines_configureRfConfig (usrpName : String) (conf : PyRfConfig) :
    Refines (after past) (configureRfConfig (net.after past) usrpName conf)
      (configureRfConfig net usrpName conf) := by
  refine (refines_labeledUsrp past usrpName).bind fun usrp => ?_
  refine Refines.onField (q := fun p => (p.1, p.2 ++ past)) (fun _ => rfl) (fun _ _ => rfl) ?_
  unfold UsrpClient.configureRfConfig
  refine Refines.bind (Refines.modify fun _ => rfl) fun _ => Refines.bindGet fun s => ?_
  exact Refines.onField (fun _ => rfl) (fun _ _ => rfl) (refines_request net past _ _)

theorem refines_execute : Refines (after past) (execute (net.after past)) (execute net) := by
  refine Refines.bind ((refines_synchronizeUsrps net past).bind fun _ =>
    (refines_getCurrentFpgaTimes net past).bind fun times =>
      (Refines.liftE _).bind fun maxTime => Refines.pure _) fun baseTimeSec => ?_
  refine Refines.bind (refines_onHistory past (Refines.modify fun _ => rfl)) fun _ => ?_
  refine (refines_catchRemoteUsrpErrors past fun usrpName => ?_).bind fun _ => Refines.pure _
  refine (refines_labeledUsrp past usrpName).bind fun usrp => refines_onHistory past ?_
  unfold UsrpClient.execute
  refine Refines.bind (Refines.modify fun _ => rfl) fun _ => ?_
  split
  · exact refines_request net past _ _
  · exact Refines.throw _

theorem refines_collect : Refines (after past) (collect (net.after past)) (collect net) := by
  refine (refines_catchRemoteUsrpErrors past fun usrpName => ?_).bind fun samples =>
    (Refines.liftE _).bind fun _ => Refines.pure _
  refine (refines_labeledUsrp past usrpName).bind fun usrp => refines_onHistory past ?_
  refine (refines_request net past _ _).bind fun serialized => ?_
  split
  · exact Refines.throw _
  · exact Refines.pure _

/-- **A call sees the past only through the network.** -/
theorem step_after (s : System) (op : Op) :
    step net (s.after past) op = (step (net.after past) s op).after past := by
  cases op with
  | newUsrp ip usrpName port => exact (refines_newUsrp net past ip usrpName port).finalState s
  | addUsrp usrpName client => exact (refines_addUsrp net past usrpName client).finalState s
  | resetFpgaTimes => exact (refines_setTimeToZeroNextPps net past).finalState s
  | getCurrentFpgaTimes => exact (refines_getCurrentFpgaTimes net past).finalState s
  | synchronisationValid => exact (refines_synchronisationValid net past).finalState s
  | synchronizeUsrps => exact (refines_synchronizeUsrps net past).finalState s
  | configureTx usrpName conf => exact (refines_configureTx net past usrpName conf).finalState s
  | configureRx usrpName conf =>
      have hrefines : Refines (after past) (configureRx (net.after past) usrpName conf)
          (configureRx net usrpName conf) :=
        (refines_labeledUsrp past usrpName).bind fun _ => refines_onRequest net past _ _
      exact hrefines.finalState s
  | configureRfConfig usrpName conf =>
      exact (refines_configureRfConfig net past usrpName conf).finalState s
  | execute => exact (refines_execute net past).finalState s
  | collect => exact (refines_collect net past).finalState s
  | timerExpires => rfl

end

/-! ## Time -/

/-- `System.syncTimeOut`. -/
def syncTimeOut : ℚ := 20 * 60

/-- The operation is a call of the user. -/
def Op.isCall : Op → Bool
  | .timerExpires => false
  | _ => true

/-- The events that a call records. -/
def recorded (net : Network) (s : System) (op : Op) : History :=
  (step net s op).history.take ((step net s op).history.length - s.history.length)

/-- A call of the system does not look at the history it starts with. -/
theorem step_eq (net : Network) (s : System) (op : Op) :
    step net s op = (step (net.after s.history) s.forget op).after s.history :=
  step_after net s.history s.forget op

theorem recorded_eq (net : Network) (s : System) (op : Op) :
    recorded net s op = (step (net.after s.history) s.forget op).history := by
  unfold recorded
  rw [step_eq]
  show List.take ((_ ++ s.history).length - s.history.length) (_ ++ s.history) = _
  rw [List.length_append, Nat.add_sub_cancel, List.take_left]

/-- A call puts what it records before the history. -/
theorem history_step (net : Network) (s : System) (op : Op) :
    (step net s op).history = recorded net s op ++ s.history := by
  rw [recorded_eq, step_eq]
  rfl

end System

namespace TimedFlag

variable {f : TimedFlag} {due : ℚ}

/-- A timer that is not due yet goes on. -/
theorem Pending.settle (h : Pending due f) (hlt : f.process.now < due) :
    Pending due f.settle := by
  obtain ⟨t, ht, hfunction, hdue⟩ := h
  refine ⟨t, ?_, hfunction, hdue⟩
  have hkept : t.expire f.process.now = t := by
    refine Timer.expire_of_not_isDue ?_
    rw [Timer.isDue_iff_le hdue]
    exact not_le_of_gt hlt
  show f.process.expire.timers[f.resetSyncFlagTimer]? = some t
  rw [Timers.getElem?_expire, ht, Option.map_some, hkept]

/-- A flag that is set is due after its time. -/
theorem pending_set (f : TimedFlag) : Pending (f.process.now + f.resetTimeSec) f.set := by
  rw [set_eq]
  exact ⟨_, Timers.getElem?_replace_new _ _ _ _, rfl, rfl⟩

/-- Once it is set, the flag stays raised for `resetTimeSec`. -/
theorem raised_set (h : Single f) (hpos : 0 < f.resetTimeSec) :
    (f.step .set).isSet = true ∧ Pending (f.process.now + f.resetTimeSec) (f.step .set) := by
  have hnow : f.set.process.now < f.process.now + f.resetTimeSec := by
    rw [set_eq]
    show f.process.now < _
    exact lt_add_of_pos_right _ hpos
  refine ⟨(value_settle (h.act .set) (pending_set f)).mpr ⟨?_, hnow⟩, (pending_set f).settle hnow⟩
  show f.set.value = true
  rw [set_eq]

/-- `reset` takes effect at once. -/
@[simp] theorem isSet_reset (f : TimedFlag) : (f.step .reset).isSet = false := by
  refine Bool.eq_false_of_not_eq_true fun h => ?_
  have hvalue : f.reset.value = true := value_of_settle h
  exact absurd hvalue Bool.false_ne_true

/-- Time that passes without the flag being lowered. -/
theorem raised_pass (h : Single f) (hpending : Pending due f) {δ : ℚ≥0} :
    (f.step (.pass δ)).isSet = true ↔ f.isSet = true ∧ f.process.now + δ < due :=
  value_settle (h.act (.pass δ)) hpending

@[simp] theorem resetTimeSec_step (f : TimedFlag) (a : FlagAction) :
    (f.step a).resetTimeSec = f.resetTimeSec := by
  cases a <;> rfl

/-- Only `pass` moves the clock. -/
@[simp] theorem now_step (f : TimedFlag) (a : FlagAction) :
    (f.step a).process.now = f.process.now + a.duration := by
  cases a with
  | pass δ => rfl
  | set =>
      show f.set.process.now = _
      rw [set_eq]
      exact (add_zero _).symm
  | reset => exact (add_zero _).symm

end TimedFlag

/-- A call of the user, or time that passes. -/
inductive TimedOp where
  | call (op : System.Op) (hop : op.isCall = true)
  | pass (δ : ℚ≥0)

/-- Events with the times at which they were recorded, the newest one first. -/
abbrev Chronicle := List (ℚ × ClientEvent)

/-- The events without their times. -/
def Chronicle.events (c : Chronicle) : History := c.map Prod.snd

/-- The system with a clock, with its flag as the object it really is, and with the times of its
events. -/
structure TimedSystem where
  system : System
  /-- `_usrpsSynced`, of which the system has the value. -/
  flag : TimedFlag
  chronicle : Chronicle

namespace TimedSystem

open UsrpWrapper.System TimedFlag

/-- `System.__init__`, at a given time. -/
def create (now : ℚ) (syncSource : String) : TimedSystem :=
  ⟨System.create syncSource, TimedFlag.create now syncTimeOut, []⟩

/-- The time of the process. -/
def now (t : TimedSystem) : ℚ := t.flag.process.now

/-- What a call does with the flag, if these are the values before and after it. -/
def follow (before after : Bool) (f : TimedFlag) : TimedFlag :=
  match before, after with
  | false, true => f.step .set
  | true, false => f.step .reset
  | _, _ => f

/-- Record events at a time. -/
def stamp (now : ℚ) (h : History) (c : Chronicle) : Chronicle := h.map (now, ·) ++ c

/-- A call of the system and what it does with the flag, or time that may let the flag expire. -/
def step (net : Network) (t : TimedSystem) : TimedOp → TimedSystem
  | .call op _ =>
      let s := System.step net t.system op
      { system := s
        flag := follow t.system.usrpsSynced s.usrpsSynced t.flag
        chronicle := stamp t.now (recorded net t.system op) t.chronicle }
  | .pass δ =>
      let flag := t.flag.step (.pass δ)
      { t with system := { t.system with usrpsSynced := flag.isSet }, flag }

/-- The calls of a timed run. -/
def calls (ops : List TimedOp) : List Op :=
  ops.filterMap fun
    | .call op _ => some op
    | .pass _ => none

/-- The time that passes in a timed run. -/
def duration (ops : List TimedOp) : ℚ :=
  (ops.map fun
    | .call _ _ => (0 : ℚ)
    | .pass δ => (δ : ℚ)).sum

/-! ## The flag and the system -/

section

variable {net : Network} {t : TimedSystem}

/-- The parts of the state fit together. -/
structure Coupled (t : TimedSystem) : Prop where
  flag_eq : t.system.usrpsSynced = t.flag.isSet
  events_eq : t.chronicle.events = t.system.history
  single : Single t.flag
  timeOut : t.flag.resetTimeSec = syncTimeOut

theorem coupled_create (now : ℚ) (syncSource : String) : Coupled (create now syncSource) :=
  ⟨rfl, rfl, single_create now syncTimeOut, rfl⟩

/-- The flag is left alone, or told to change at once. -/
theorem follow_keeps {P : TimedFlag → Prop} {f : TimedFlag} (before after : Bool) (hf : P f)
    (hstep : ∀ a : FlagAction, a.duration = 0 → P (f.step a)) : P (follow before after f) := by
  cases before <;> cases after
  · exact hf
  · exact hstep .set rfl
  · exact hstep .reset rfl
  · exact hf

/-- The flag follows the value that the call leaves. -/
theorem Coupled.isSet_follow (h : Coupled t) (after : Bool) :
    (follow t.system.usrpsSynced after t.flag).isSet = after := by
  have hpos : 0 < t.flag.resetTimeSec := by
    rw [h.timeOut]
    norm_num [syncTimeOut]
  cases hbefore : t.system.usrpsSynced <;> cases after
  · exact h.flag_eq.symm.trans hbefore
  · exact (raised_set h.single hpos).1
  · exact isSet_reset t.flag
  · exact h.flag_eq.symm.trans hbefore

/-- A step keeps the flag of the system equal to the object. -/
theorem Coupled.step (h : Coupled t) (op : TimedOp) : Coupled (t.step net op) := by
  cases op with
  | call op hop =>
      refine ⟨(h.isSet_follow _).symm, ?_, ?_, ?_⟩
      · show (stamp _ _ _).events = (System.step net t.system op).history
        rw [history_step, ← h.events_eq]
        simp [stamp, Chronicle.events, Function.comp_def]
      · exact follow_keeps _ _ h.single fun a _ => single_step h.single a
      · exact follow_keeps (P := fun f => f.resetTimeSec = syncTimeOut) _ _ h.timeOut
          fun a _ => (resetTimeSec_step _ a).trans h.timeOut
  | pass δ =>
      exact ⟨rfl, h.events_eq, single_step h.single _, (resetTimeSec_step _ _).trans h.timeOut⟩

/-- For the system without a clock, time that passes is nothing, or an expiry. -/
theorem Coupled.exists_ops (net : Network) (h : Coupled t) (op : TimedOp) :
    ∃ ops, (t.step net op).system = Machine.run (System.step net) t.system ops ∧
      ops.filter Op.isCall = calls [op] := by
  cases op with
  | call op hop => exact ⟨[op], rfl, List.filter_cons_of_pos hop⟩
  | pass δ =>
      rcases pass_eq_timerExpires net h.flag_eq δ with hsame | hexpires
      · exact ⟨[], hsame, rfl⟩
      · exact ⟨[.timerExpires], hexpires, rfl⟩

end

/-- **The clock only restricts the runs.**  What a system with its clock does, it does as
a system whose timer may expire at any moment, with the same calls: the timer expires in
some places between them. -/
theorem exists_run (net : Network) (now : ℚ) (syncSource : String) (ops : List TimedOp) :
    ∃ untimed, Machine.run (System.step net) (System.create syncSource) untimed =
        (Machine.run (step net) (create now syncSource) ops).system ∧
      untimed.filter Op.isCall = calls ops ∧
      (Machine.run (step net) (create now syncSource) ops).chronicle.events =
        (Machine.run (System.step net) (System.create syncSource) untimed).history := by
  have hrun : ∃ untimed, Machine.run (System.step net) (System.create syncSource) untimed =
      (Machine.run (step net) (create now syncSource) ops).system ∧
      untimed.filter Op.isCall = calls ops ∧
      Coupled (Machine.run (step net) (create now syncSource) ops) := by
    induction ops using List.reverseRecOn with
    | nil => exact ⟨[], rfl, rfl, coupled_create now syncSource⟩
    | append_singleton ops op ih =>
        obtain ⟨untimed, hsystem, hcalls, hcoupled⟩ := ih
        obtain ⟨more, hmore, hmoreCalls⟩ := hcoupled.exists_ops net op
        refine ⟨untimed ++ more, ?_, ?_, ?_⟩
        · rw [Machine.run_append, Machine.run_append, hsystem]
          exact hmore.symm
        · rw [List.filter_append, hcalls, hmoreCalls]
          exact List.filterMap_append.symm
        · rw [Machine.run_append]
          exact hcoupled.step op
  obtain ⟨untimed, hsystem, hcalls, hcoupled⟩ := hrun
  exact ⟨untimed, hsystem, hcalls, hcoupled.events_eq.trans (congrArg System.history hsystem).symm⟩

/-! ## The age of the check -/

/-- A check of exactly the registered devices succeeded at a time with `p`, and nothing
`bad` happened since. -/
def CheckedSince (bad : ClientEvent → Prop) (p : ℚ → Prop) (c : Chronicle) : Prop :=
  Since (fun e => Checks (registeredDevices c.events) e.2 ∧ p e.1) (fun e => bad e.2) c

/-- An execution starts less than `syncTimeOut` after such a check. -/
def DispatchChecked (bad : ClientEvent → Prop) (e : ℚ × ClientEvent) (c : Chronicle) : Prop :=
  match e.2 with
  | .dispatch _ => CheckedSince bad (fun checked => e.1 < checked + syncTimeOut) c
  | _ => True

/-- Additions of devices, and changes of the sync source. -/
def Reconnects : ClientEvent → Prop
  | .registered _ _ => True
  | .request _ (.setSyncSource _) _ => True
  | _ => False

section

variable {bad : ClientEvent → Prop} {p : ℚ → Prop} {c : Chronicle} {now due : ℚ}
  {e : ClientEvent}

/-- A weaker bound on the age of the check. -/
theorem CheckedSince.mono {q : ℚ → Prop} (hpq : ∀ d, p d → q d) (h : CheckedSince bad p c) :
    CheckedSince bad q c :=
  Since.mono (fun _ he => ⟨he.1, hpq _ he.2⟩) (fun _ he => he) h

/-- An event that is not bad, and registers nothing. -/
theorem CheckedSince.cons (h : CheckedSince bad p c) (he : ¬ bad e)
    (hregister : ∀ n d, e ≠ .registered n d) : CheckedSince bad p ((now, e) :: c) := by
  refine Or.inr ⟨he, ?_⟩
  show Since (fun x => Checks (registeredDevices (e :: c.events)) x.2 ∧ p x.1) _ c
  rw [registeredDevices_cons _ hregister]
  exact h

theorem dispatchChecked_of_ne (he : ∀ baseTime, e ≠ .dispatch baseTime) :
    DispatchChecked bad (now, e) c := by
  cases e with
  | dispatch t => exact absurd rfl (he t)
  | _ => exact trivial

theorem ne_dispatch_of_neutral (he : e.Neutral) (baseTime : ℚ) : e ≠ .dispatch baseTime := by
  rintro rfl
  exact he

/-- During a call at the time `now`: while the flag is raised, there was a check from
which the flag stays raised until `due` at least. -/
structure CallInvariant (bad : ClientEvent → Prop) (now due : ℚ) (c : Chronicle) (s : System) :
    Prop where
  registered : registeredDevices (stamp now s.history c).events = s.devices
  sourceSet : s.usrpsSynced = true → s.syncSourceSet = true
  checked : s.usrpsSynced = true →
    CheckedSince bad (fun d => due ≤ d + syncTimeOut) (stamp now s.history c)
  dispatches : Always (DispatchChecked bad) (stamp now s.history c)

variable {mayReset : Bool → Prop} {s s' : System}

/-- Every move of a call keeps the dates of the checks. -/
theorem CallInvariant.move (hbad : ∀ e, bad e → Unsynchronises e)
    (hreset : ∀ d a, bad (.request d .setTimeToZeroNextPps a) → ∀ v, mayReset v → v = false)
    (hnow : now < due) (hdue : due ≤ now + syncTimeOut) (hmove : Move mayReset s s')
    (hs : CallInvariant bad now due c s) : CallInvariant bad now due c s' := by
  cases hmove with
  | neutral e he =>
      refine ⟨?_, hs.sourceSet, fun hflag => ?_, ?_, hs.dispatches⟩
      · exact (registeredDevices_cons _ he.ne_registered).trans hs.registered
      · exact (hs.checked hflag).cons (fun h => he.not_unsynchronises (hbad e h)) he.ne_registered
      · exact dispatchChecked_of_ne (ne_dispatch_of_neutral he)
  | desync => exact ⟨hs.registered, fun hflag => (nomatch hflag), fun hflag => (nomatch hflag),
      hs.dispatches⟩
  | register usrpName client hnew hflag =>
      have hunset {p : Prop} (hset : s.usrpsSynced = true) : p := by
        rw [hflag] at hset
        cases hset
      refine ⟨?_, hunset, hunset, dispatchChecked_of_ne (fun _ h => nomatch h), hs.dispatches⟩
      rw [devices_register hnew, ← hs.registered]
      exact registeredDevices_registered usrpName client.address _
  | setSyncSource d source applied hset hsource =>
      -- the flag is not raised before the sync source is set
      have hunset {p : Prop} (hflag : s.usrpsSynced = true) : p := by
        rw [hs.sourceSet hflag] at hset
        cases hset
      exact ⟨hs.registered, hunset, hunset, dispatchChecked_of_ne (fun _ h => nomatch h),
        hs.dispatches⟩
  | resetTime d applied hallowed =>
      refine ⟨hs.registered, hs.sourceSet, fun hflag => ?_,
        dispatchChecked_of_ne (fun _ h => nomatch h), hs.dispatches⟩
      -- the flag is raised, hence the reset is not bad
      refine (hs.checked hflag).cons (fun hbadReset => ?_) fun _ _ h => nomatch h
      rcases hallowed with hset | hmay
      · rw [hs.sourceSet hflag] at hset
        cases hset
      · have hlowered := hreset d applied hbadReset _ hmay
        have hraised : s.usrpsSynced = true := hflag
        rw [hraised] at hlowered
        cases hlowered
  | sourcesSet source hsource haccepted =>
      exact ⟨hs.registered, fun _ => rfl, hs.checked, hs.dispatches⟩
  | synced h hset hchecked =>
      refine ⟨hs.registered, fun _ => hset, fun _ => ?_, hs.dispatches⟩
      -- the check of the registered devices is the last event, hence of this call
      have hregistered := hs.registered
      show CheckedSince bad _ (stamp now s.history c)
      rw [hchecked] at hregistered ⊢
      exact Or.inl ⟨⟨hregistered.symm, rfl⟩, hdue⟩
  | dispatch t hset hflag =>
      have hchecked := hs.checked hflag
      have hdispatch : ¬ bad (.dispatch t) := fun h => hbad _ h
      refine ⟨hs.registered, hs.sourceSet, fun _ => ?_, ?_, hs.dispatches⟩
      · exact hchecked.cons hdispatch fun _ _ h => nomatch h
      · exact hchecked.mono fun d hd => hnow.trans_le hd
  | configure usrpClients hdevices =>
      exact ⟨hs.registered.trans hdevices.symm, hs.sourceSet, hs.checked, hs.dispatches⟩

end

section

variable {net : Network} {bad : ClientEvent → Prop} {t : TimedSystem}

/-- While the flag is raised, it will be lowered less than `syncTimeOut` after a check. -/
structure Dated (bad : ClientEvent → Prop) (t : TimedSystem) : Prop where
  coupled : Coupled t
  registered : registeredDevices t.chronicle.events = t.system.devices
  sourceSet : t.system.usrpsSynced = true → t.system.syncSourceSet = true
  checked : t.flag.isSet = true → ∃ due, Pending due t.flag ∧ t.now < due ∧
    due ≤ t.now + syncTimeOut ∧ CheckedSince bad (fun d => due ≤ d + syncTimeOut) t.chronicle
  dispatches : Always (DispatchChecked bad) t.chronicle

theorem dated_create (now : ℚ) (syncSource : String) : Dated bad (create now syncSource) where
  coupled := coupled_create now syncSource
  registered := rfl
  sourceSet h := nomatch h
  checked h := nomatch h
  dispatches := trivial

/-- The moves of a call. -/
theorem Dated.call (net : Network) (mayReset : Bool → Prop) (hbad : ∀ e, bad e → Unsynchronises e)
    (hreset : ∀ d a, bad (.request d .setTimeToZeroNextPps a) → ∀ v, mayReset v → v = false)
    (hfalse : mayReset false) (h : Dated bad t) {due : ℚ} {op : Op} (hnow : t.now < due)
    (hdue : due ≤ t.now + syncTimeOut)
    (hchecked : t.flag.isSet = true →
      CheckedSince bad (fun d => due ≤ d + syncTimeOut) t.chronicle)
    (hop : op = .resetFpgaTimes → mayReset t.system.usrpsSynced) :
    CallInvariant bad t.now due t.chronicle
      (System.step (net.after t.system.history) t.system.forget op) := by
  refine step_invariant (fun _ _ hmove => CallInvariant.move hbad hreset hnow hdue hmove) hfalse
    hop ?_
  refine ⟨h.registered, h.sourceSet, fun hflag => hchecked ?_, h.dispatches⟩
  exact h.coupled.flag_eq.symm.trans hflag

/-- Every step keeps the dates: within a call by its moves, and when time passes because the flag
expires before the check is too old. -/
theorem Dated.step (mayReset : Bool → Prop) (hbad : ∀ e, bad e → Unsynchronises e)
    (hreset : ∀ d a, bad (.request d .setTimeToZeroNextPps a) → ∀ v, mayReset v → v = false)
    (hfalse : mayReset false) (h : Dated bad t) (op : TimedOp)
    (hop : ∀ hcall, op = .call .resetFpgaTimes hcall → mayReset t.system.usrpsSynced) :
    Dated bad (t.step net op) := by
  have hpos : (0 : ℚ) < syncTimeOut := by norm_num [syncTimeOut]
  have hcoupled : Coupled (t.step net op) := h.coupled.step op
  cases op with
  | call op hcall =>
      have hsystem : (t.step net (.call op hcall)).system =
          (System.step (net.after t.system.history) t.system.forget op).after t.system.history :=
        step_eq net t.system op
      have hchronicle : (t.step net (.call op hcall)).chronicle =
          stamp t.now (System.step (net.after t.system.history) t.system.forget op).history
            t.chronicle := by
        show stamp _ (recorded net t.system op) _ = _
        rw [recorded_eq]
      have hnow : (t.step net (.call op hcall)).now = t.now :=
        follow_keeps (P := fun f => f.process.now = t.flag.process.now) _ _ rfl fun a ha => by
          rw [now_step, ha, add_zero]
      -- the flag is lowered at `due`, whether it was raised before the call or is now
      have hend : ∃ due, t.now < due ∧ due ≤ t.now + syncTimeOut ∧
          ((t.step net (.call op hcall)).flag.isSet = true →
            Pending due (t.step net (.call op hcall)).flag) ∧
          (t.flag.isSet = true →
            CheckedSince bad (fun d => due ≤ d + syncTimeOut) t.chronicle) := by
        cases hbefore : t.flag.isSet with
        | true =>
            obtain ⟨due, hpending, hlt, hle, hchecked⟩ := h.checked hbefore
            refine ⟨due, hlt, hle, fun hafter => ?_, fun _ => hchecked⟩
            rw [← hcoupled.flag_eq] at hafter
            have hsystem : (System.step net t.system op).usrpsSynced = true := hafter
            show Pending due (follow _ _ _)
            rw [h.coupled.flag_eq.trans hbefore, hsystem]
            exact hpending
        | false =>
            refine ⟨t.now + syncTimeOut, by linarith, le_rfl, fun hafter => ?_,
              fun htrue => nomatch htrue⟩
            rw [← hcoupled.flag_eq] at hafter
            have hsystem : (System.step net t.system op).usrpsSynced = true := hafter
            show Pending _ (follow _ _ _)
            rw [h.coupled.flag_eq.trans hbefore, hsystem, ← h.coupled.timeOut]
            exact (raised_set h.coupled.single (h.coupled.timeOut.symm ▸ hpos)).2
      obtain ⟨due, hlt, hle, hpending, hchecked⟩ := hend
      have hcallInvariant := h.call net mayReset hbad hreset hfalse hlt hle hchecked
        fun hresets => hop (hresets ▸ hcall) (by subst hresets; rfl)
      refine ⟨hcoupled, ?_, ?_, fun hafter => ⟨due, hpending hafter, ?_, ?_, ?_⟩, ?_⟩
      · rw [hchronicle, hsystem]
        exact hcallInvariant.registered
      · rw [hsystem]
        exact hcallInvariant.sourceSet
      · rwa [hnow]
      · rwa [hnow]
      · rw [← hcoupled.flag_eq, hsystem] at hafter
        rw [hchronicle]
        exact hcallInvariant.checked hafter
      · rw [hchronicle]
        exact hcallInvariant.dispatches
  | pass δ =>
      have hraised (hafter : (t.flag.step (.pass δ)).isSet = true) : t.flag.isSet = true :=
        value_of_settle (f := t.flag.act (.pass δ)) hafter
      refine ⟨hcoupled, h.registered, fun hafter => ?_, fun hafter => ?_, h.dispatches⟩
      · exact h.sourceSet (h.coupled.flag_eq.trans (hraised hafter))
      · obtain ⟨due, hpending, -, hle, hchecked⟩ := h.checked (hraised hafter)
        have hlt : t.now + δ < due := ((raised_pass h.coupled.single hpending).mp hafter).2
        have hnow : (t.step net (.pass δ)).now = t.now + δ := now_step t.flag (.pass δ)
        refine ⟨due, Pending.settle (f := t.flag.act (.pass δ)) hpending hlt, ?_, ?_, hchecked⟩
        · rwa [hnow]
        · rw [hnow]
          have hδ : (0 : ℚ) ≤ δ := δ.2
          linarith

end

/-- `resetFpgaTimes` is called only while the flag is not raised. -/
def ResetsUnsynced (t : TimedSystem) (op : TimedOp) : Prop :=
  ∀ hcall, op = .call .resetFpgaTimes hcall → t.system.usrpsSynced = false

/-- **A dispatch relies on a recent check.**  In every timed run, whichever requests fail,
an execution starts less than twenty minutes after a successful check of exactly the
registered devices, with no device added and no sync source changed since; and if
`resetFpgaTimes` is called only while the flag is not raised, no FPGA time was reset since
either. -/
theorem dispatch_checked (net : Network) (now : ℚ) (syncSource : String) (ops : List TimedOp) :
    Always (DispatchChecked Reconnects)
        (Machine.run (step net) (create now syncSource) ops).chronicle ∧
      (Machine.AllSteps (step net) ResetsUnsynced (create now syncSource) ops →
        Always (DispatchChecked Unsynchronises)
          (Machine.run (step net) (create now syncSource) ops).chronicle) := by
  constructor
  · have hbad (e : ClientEvent) (he : Reconnects e) : Unsynchronises e := by
      cases e with
      | request d r a => cases r <;> first | exact trivial | exact absurd he id
      | registered n d => exact trivial
      | _ => exact absurd he id
    have hdated : Dated Reconnects (Machine.run (step net) (create now syncSource) ops) :=
      Machine.run_invariant (Q := fun _ _ => True) _
        (fun t op ht _ => ht.step (fun _ => True) hbad (fun _ _ h => absurd h id)
          trivial op fun _ _ => trivial)
        (dated_create now syncSource) (Machine.AllSteps.of_forall fun _ _ => trivial)
    exact hdated.dispatches
  · intro hops
    have hdated : Dated Unsynchronises (Machine.run (step net) (create now syncSource) ops) :=
      Machine.run_invariant (Q := ResetsUnsynced) _
        (fun t op ht hop => ht.step (fun v => v = false) (fun _ he => he)
          (fun _ _ _ v hv => hv) rfl op hop)
        (dated_create now syncSource) hops
    exact hdated.dispatches

/-- A device that is registered and configured. -/
def exampleRegistration : List TimedOp :=
  [.call (.newUsrp "192.168.189.131" "usrp1" 5555) rfl, .call (.configureRfConfig "usrp1" {}) rfl]

/-- After twenty minutes the FPGA times are checked again. -/
theorem dispatch_checked_example :
    Always (DispatchChecked Unsynchronises) (Machine.run (step .reliable) (create 0 "auto")
      (exampleRegistration ++ [.call .resetFpgaTimes rfl, .call .execute rfl, .pass 1199,
        .call .execute rfl, .pass 1, .call .execute rfl])).chronicle := by
  refine (dispatch_checked .reliable 0 "auto" _).2 ?_
  have hother {t : TimedSystem} {op : Op} {hcall : op.isCall = true}
      (hop : op ≠ .resetFpgaTimes) : ResetsUnsynced t (.call op hcall) := by
    intro _ heq
    cases heq
    exact absurd rfl hop
  have hpass {t : TimedSystem} {δ : ℚ≥0} : ResetsUnsynced t (.pass δ) := fun _ h => nomatch h
  refine ⟨hother nofun, hother nofun, fun _ _ => ?_, hother nofun, hpass, hother nofun, hpass,
    hother nofun, trivial⟩
  decide +kernel

end TimedSystem

/-! ## While the flag is raised -/

namespace System

/-- The call registers a device, if it returns. -/
def Op.registers : Op → Bool
  | .newUsrp _ _ _ => true
  | .addUsrp _ _ => true
  | _ => false

/-- The events of a synchronisation: checks, and what they are needed for. -/
def Resynchronises : ClientEvent → Prop
  | .checked _ _ => True
  | e => Unsynchronises e

/-- The sync sources are set, and the flag is raised. -/
def Synced (s : System) : Prop := s.syncSourceSet = true ∧ s.usrpsSynced = true

instance (s : System) : Decidable (Synced s) :=
  inferInstanceAs (Decidable (s.syncSourceSet = true ∧ s.usrpsSynced = true))

section

variable {net : Network} {s : System}

/-- With the sources set nothing is requested. -/
theorem updateSyncSources_of_synced (hs : Synced s) : updateSyncSources net s = .ok () s := by
  refine (bind_of_ok (get_apply s)).trans ?_
  rw [if_pos hs.1]
  rfl

theorem synchronizeUsrps_of_synced (hs : Synced s) : synchronizeUsrps net s = .ok () s := by
  refine (bind_of_ok (updateSyncSources_of_synced hs)).trans ?_
  refine (bind_of_ok (get_apply s)).trans ?_
  rw [if_pos hs.2]
  rfl

/-- Only registrations lower the flag. -/
theorem synced_step {op : Op} (hcall : op.isCall = true) (hop : op.registers = false)
    (hs : Synced s) : Synced (step net s op) := by
  have hkeeps {β : Type} {x : SystemM β} (hx : Preserves Synced x) : Synced (finalState (x s)) :=
    hx s hs
  have hevent (e : ClientEvent) : KeepsEvent Synced e := fun _ ht => ht
  cases op with
  | newUsrp ip usrpName port => cases hop
  | addUsrp usrpName client => cases hop
  | resetFpgaTimes => exact hkeeps (preserves_setTimeToZeroNextPps fun _ _ => hevent _)
  | getCurrentFpgaTimes => exact hkeeps (preserves_getCurrentFpgaTimes fun _ _ => hevent _)
  | synchronisationValid =>
      exact hkeeps (preserves_synchronisationValid (fun _ _ => hevent _) fun _ _ => hevent _)
  | synchronizeUsrps =>
      show Synced (finalState (synchronizeUsrps net s))
      rw [synchronizeUsrps_of_synced hs]
      exact hs
  | configureTx usrpName conf => exact hkeeps (preserves_configureTx fun _ _ _ => hevent _)
  | configureRx usrpName conf => exact hkeeps (preserves_configureRx fun _ _ => hevent _)
  | configureRfConfig usrpName conf =>
      refine hkeeps ((Preserves.reads _).bind fun usrp => ?_)
      exact Preserves.onField_of_put fun _ _ ht => ht
  | execute =>
      refine hkeeps (Preserves.bind (preserves_prepareExecute (fun _ _ _ => hevent _)
        (fun _ _ => hevent _) (fun _ ht => ⟨ht.1, rfl⟩) fun _ ht => ⟨rfl, ht.2⟩) fun t => ?_)
      refine (preserves_record (hevent _)).bind fun _ => Preserves.bind ?_ fun _ => Preserves.pure _
      exact preserves_catchRemoteUsrpErrors fun n =>
        preserves_callExecuteAtUsrp (fun _ => hevent _) fun _ _ => hevent _
  | collect => exact hkeeps (preserves_collect fun _ _ => hevent _)
  | timerExpires => cases hcall

/-- An execution with the flag raised only reads the FPGA times and calls the devices. -/
theorem extends_execute (hs : Synced s) :
    Extends (fun e => ¬ Resynchronises e) s.history (step net s .execute).history := by
  let I : System → Prop := fun t => Extends (fun e => ¬ Resynchronises e) s.history t.history
  have hevent {e : ClientEvent} (he : ¬ Resynchronises e) : KeepsEvent I e :=
    fun t ht => ht.cons he
  have hcalls (baseTimeSec : ℚ) : Preserves I (dispatch net baseTimeSec) := by
    refine (preserves_record (hevent id)).bind fun _ => Preserves.bind ?_ fun _ => Preserves.pure _
    exact preserves_catchRemoteUsrpErrors fun n =>
      preserves_callExecuteAtUsrp (fun _ => hevent id) fun _ _ => hevent id
  have hrest : Preserves I (calculateBaseTimeSec net >>= dispatch net) :=
    (preserves_calculateBaseTimeSec fun _ _ => hevent id).bind hcalls
  have hrun : execute net s = (calculateBaseTimeSec net >>= dispatch net) s := by
    have hprepare : prepareExecute net s = calculateBaseTimeSec net s :=
      bind_of_ok (synchronizeUsrps_of_synced hs)
    show (prepareExecute net >>= dispatch net) s = _
    rw [bind_apply, bind_apply, hprepare]
  show I (finalState (execute net s))
  rw [hrun]
  exact hrest s (Extends.refl _)

/-- What all events added by a call have in common. -/
theorem forall_recorded {K : ClientEvent → Prop} {op : Op}
    (h : Extends K s.history (step net s op).history) : ∀ e ∈ recorded net s op, K e := by
  obtain ⟨new, hnew, heq⟩ := h
  rw [history_step] at heq
  rwa [List.append_cancel_right heq]

end

end System

namespace TimedSystem

open UsrpWrapper.System TimedFlag

section

variable {t : TimedSystem} {due : ℚ}

/-- The flag is raised until `due`, and the system with it. -/
structure RaisedUntil (due : ℚ) (t : TimedSystem) : Prop where
  coupled : Coupled t
  synced : Synced t.system
  pending : Pending due t.flag

@[simp] theorem duration_call (op : Op) (hcall : op.isCall = true) :
    duration [.call op hcall] = 0 := by
  simp [duration]

@[simp] theorem duration_pass (δ : ℚ≥0) : duration [.pass δ] = δ := add_zero (δ : ℚ)

/-- Without a registration the flag stays raised until its timer is due. -/
theorem RaisedUntil.step (net : Network) (h : RaisedUntil due t) {op : TimedOp}
    (hop : ∀ op' ∈ calls [op], op'.registers = false) (hdue : t.now + duration [op] < due) :
    RaisedUntil due (t.step net op) ∧ (t.step net op).now = t.now + duration [op] := by
  cases op with
  | call op hcall =>
      have hsynced : Synced (System.step net t.system op) :=
        synced_step hcall (hop op List.mem_cons_self) h.synced
      have hflag : (t.step net (.call op hcall)).flag = t.flag := by
        show follow _ _ _ = _
        rw [h.synced.2, hsynced.2]
        rfl
      refine ⟨⟨h.coupled.step _, hsynced, hflag ▸ h.pending⟩, ?_⟩
      show (t.step net (.call op hcall)).flag.process.now = _
      rw [hflag, duration_call, add_zero]
      rfl
  | pass δ =>
      rw [duration_pass] at hdue ⊢
      have hlt : t.now + δ < due := hdue
      have hraised : (t.flag.step (.pass δ)).isSet = true :=
        (raised_pass h.coupled.single h.pending).mpr
          ⟨h.coupled.flag_eq.symm.trans h.synced.2, hlt⟩
      refine ⟨⟨h.coupled.step _, ⟨h.synced.1, hraised⟩,
        Pending.settle (f := t.flag.act (.pass δ)) h.pending hlt⟩, ?_⟩
      exact now_step t.flag (.pass δ)

theorem duration_cons (op : TimedOp) (ops : List TimedOp) :
    duration (op :: ops) = duration [op] + duration ops := by
  simp [duration]

theorem duration_nonneg (ops : List TimedOp) : 0 ≤ duration ops := by
  refine List.sum_nonneg fun d hd => ?_
  obtain ⟨op, -, rfl⟩ := List.mem_map.mp hd
  cases op with
  | call op hcall => exact le_rfl
  | pass δ => exact δ.2

theorem calls_cons (op : TimedOp) (ops : List TimedOp) :
    calls (op :: ops) = calls [op] ++ calls ops := by
  cases op <;> rfl

/-- A flag stays up until its time, if no device is registered before. -/
theorem RaisedUntil.run {net : Network} {t : TimedSystem} {due : ℚ} (h : RaisedUntil due t)
    {ops : List TimedOp}
    (hops : ∀ op ∈ calls ops, op.registers = false) (hdue : t.now + duration ops < due) :
    RaisedUntil due (Machine.run (TimedSystem.step net) t ops) := by
  induction ops generalizing t with
  | nil => exact h
  | cons op ops ih =>
      rw [calls_cons] at hops
      rw [duration_cons] at hdue
      have hrest : 0 ≤ duration ops := duration_nonneg ops
      obtain ⟨hstep, hnow⟩ := h.step net
        (fun op' hop' => hops op' (List.mem_append_left _ hop')) (by linarith)
      refine ih hstep (fun op' hop' => hops op' (List.mem_append_right _ hop')) ?_
      rw [hnow]
      linarith

end

/-- **Twenty minutes of peace.**  When a call has raised the flag, then until twenty
minutes have passed or a registration is tried, `synchronizeUsrps` does nothing, and an
execution neither checks the FPGA times nor resets them nor sets a sync source. -/
theorem recorded_quiet (net : Network) (now : ℚ) (syncSource : String) (before : List TimedOp)
    {t u : TimedSystem} (ht : Machine.run (step net) (create now syncSource) before = t)
    (op : Op) (hop : op.isCall = true) (hlowered : t.system.usrpsSynced = false)
    (hraised : (t.step net (.call op hop)).system.usrpsSynced = true) (after : List TimedOp)
    (hafter : ∀ op' ∈ calls after, op'.registers = false) (hduration : duration after < syncTimeOut)
    (hu : Machine.run (step net) (t.step net (.call op hop)) after = u) :
    recorded net u.system .synchronizeUsrps = [] ∧
      ∀ e ∈ recorded net u.system .execute, ¬ Resynchronises e := by
  have hstep {t : TimedSystem} (op : TimedOp) (ht : Dated (fun _ => False) t) :
      Dated (fun _ => False) (t.step net op) :=
    ht.step (fun _ => True) (fun _ he => absurd he id) (fun _ _ h => absurd h id)
      trivial op fun _ _ => trivial
  have hdated : Dated (fun _ => False) t := by
    rw [← ht]
    exact Machine.run_invariant (Q := fun _ _ => True) _ (fun t op ht _ => hstep op ht)
      (dated_create now syncSource) (Machine.AllSteps.of_forall fun _ _ => trivial)
  have hpos : 0 < t.flag.resetTimeSec := by
    rw [hdated.coupled.timeOut]
    norm_num [syncTimeOut]
  -- the call has started the timer
  have hflag : (t.step net (.call op hop)).flag = t.flag.step .set := by
    have hsynced : (System.step net t.system op).usrpsSynced = true := hraised
    show follow _ _ _ = _
    rw [hlowered, hsynced]
    rfl
  have hnow : (t.step net (.call op hop)).now = t.now := by
    show (t.step net (.call op hop)).flag.process.now = _
    rw [hflag, now_step]
    exact add_zero t.now
  have huntil : RaisedUntil (t.now + syncTimeOut) (t.step net (.call op hop)) := by
    refine ⟨hdated.coupled.step _, ⟨(hstep _ hdated).sourceSet hraised, hraised⟩, ?_⟩
    rw [hflag, ← hdated.coupled.timeOut]
    exact (raised_set hdated.coupled.single hpos).2
  have hend : RaisedUntil (t.now + syncTimeOut) u := by
    rw [← hu]
    exact huntil.run hafter (by rw [hnow]; linarith)
  have hsame : Extends (fun _ => False) u.system.history
      (System.step net u.system .synchronizeUsrps).history := by
    show Extends _ _ (finalState (synchronizeUsrps net u.system)).history
    rw [synchronizeUsrps_of_synced hend.synced]
    exact Extends.refl _
  exact ⟨List.eq_nil_iff_forall_not_mem.mpr (forall_recorded hsame),
    forall_recorded (extends_execute hend.synced)⟩

/-- Almost twenty minutes after the first execution. -/
theorem recorded_quiet_example :
    ∃ u : TimedSystem, u.now = 1199 ∧ recorded .reliable u.system .synchronizeUsrps = [] ∧
      ∀ e ∈ recorded .reliable u.system .execute, ¬ Resynchronises e := by
  refine ⟨_, ?_, recorded_quiet .reliable 0 "auto" exampleRegistration rfl
    .execute rfl (by decide +kernel) (by decide +kernel)
    [.pass 600, .call .collect rfl, .pass 599] (by decide) (by decide +kernel) rfl⟩
  decide +kernel

end TimedSystem

end UsrpWrapper
