import UsrpWrapper.System
import UsrpWrapper.Lib.Timer
import Mathlib.Algebra.Order.BigOperators.Group.List
import Mathlib.Data.NNRat.Defs
import Mathlib.Tactic.Linarith

/-!
# The timed flag

`TimedFlag` (`system.py`) is a flag that a timer resets some time after it has been
set.  `reset` lowers the flag and leaves the timer alone; `set` cancels the last timer
and starts another one.

A step of a run is a call, or time that passes.  The timers fire exactly when they are
due, hence before anything else that happens at the same moment; a call takes no time.

The flag says what its history says: it is raised exactly if it was set less than
`resetTimeSec` ago and has not been reset since.  The invariant behind it is that no
timer but the last one runs, and that while the flag is raised the last one is due
`resetTimeSec` after the last `set`.
-/

namespace UsrpWrapper

open Lib Lib.Machine

/-- The functions of the timers. -/
inductive TimerFunction where
  /-- `lambda: None`. -/
  | nothing
  | setFlagToFalse
  deriving DecidableEq

/-- What a function makes of the value of the flag. -/
def TimerFunction.run (value : Bool) : TimerFunction → Bool
  | .nothing => value
  | .setFlagToFalse => false

/-- `TimedFlag`: the value, and the timer that is to reset it, one of those of the process. -/
structure TimedFlag where
  resetTimeSec : ℚ
  value : Bool
  /-- The number of the timer in the process. -/
  resetSyncFlagTimer : ℕ
  process : Timers ℚ TimerFunction

/-- A call, or time that passes. -/
inductive FlagAction where
  | set
  | reset
  | pass (δ : ℚ≥0)
  deriving DecidableEq

namespace TimedFlag

/-! ## The class -/

/-- `TimedFlag.__init__`, at a given time.  The first timer is never started. -/
def create (now resetTimeSec : ℚ) : TimedFlag :=
  { resetTimeSec, value := false, resetSyncFlagTimer := 0,
    process := Timers.create 10 .nothing ⟨now, []⟩ }

/-- `_startTimer`: the old timer is cancelled before a new one is created and started. -/
def startTimer (f : TimedFlag) : TimedFlag :=
  let process := f.process.cancel f.resetSyncFlagTimer
  let timer := process.timers.length
  let process := process.create f.resetTimeSec .setFlagToFalse
  { f with resetSyncFlagTimer := timer, process := process.start timer }

/-- `set`: the flag holds for `resetTimeSec` from now on. -/
def set (f : TimedFlag) : TimedFlag := startTimer { f with value := true }

/-- `reset`, which does not cancel the timer. -/
def reset (f : TimedFlag) : TimedFlag := { f with value := false }

/-- `isSet`. -/
def isSet (f : TimedFlag) : Bool := f.value

/-- The timers that are due run their functions. -/
def settle (f : TimedFlag) : TimedFlag :=
  { f with
    value := f.process.expiring.foldl TimerFunction.run f.value
    process := f.process.expire }

/-- A call, or the clock. -/
def act (f : TimedFlag) : FlagAction → TimedFlag
  | .set => f.set
  | .reset => f.reset
  | .pass δ => { f with process := f.process.pass δ }

/-- An action, and the functions of the timers that are due then. -/
def step (f : TimedFlag) (a : FlagAction) : TimedFlag := (f.act a).settle

end TimedFlag

/-! ## What the history says -/

namespace FlagAction

/-- The time an action takes; calls take none. -/
def duration : FlagAction → ℚ
  | .pass δ => δ
  | _ => 0

theorem duration_nonneg (a : FlagAction) : 0 ≤ a.duration := by
  cases a with
  | pass δ => exact δ.2
  | _ => exact le_rfl

end FlagAction

/-- The time that passes in a trace. -/
def elapsed (trace : List FlagAction) : ℚ := (trace.map FlagAction.duration).sum

/-- Some `set` happened less than `d` ago, and no `reset` after it. -/
def RaisedWithin (d : ℚ) (trace : List FlagAction) : Prop :=
  ∃ before after, trace = before ++ .set :: after ∧ .reset ∉ after ∧ elapsed after < d

theorem elapsed_nonneg (trace : List FlagAction) : 0 ≤ elapsed trace := by
  refine List.sum_nonneg fun d hd => ?_
  obtain ⟨a, -, rfl⟩ := List.mem_map.mp hd
  exact a.duration_nonneg

theorem elapsed_concat (trace : List FlagAction) (a : FlagAction) :
    elapsed (trace ++ [a]) = elapsed trace + a.duration := by
  simp [elapsed]

section

variable {d : ℚ} {trace : List FlagAction}

theorem RaisedWithin.mono {d' : ℚ} (hle : d ≤ d') (h : RaisedWithin d trace) :
    RaisedWithin d' trace := by
  obtain ⟨before, after, htrace, hreset, hlt⟩ := h
  exact ⟨before, after, htrace, hreset, hlt.trans_le hle⟩

theorem not_raisedWithin_nil : ¬ RaisedWithin d [] := by
  rintro ⟨before, after, htrace, -⟩
  cases before <;> cases htrace

/-- The last action either sets the flag, or moves the `set` into the past. -/
theorem raisedWithin_concat {a : FlagAction} : RaisedWithin d (trace ++ [a]) ↔
    a = .set ∧ 0 < d ∨ a ≠ .reset ∧ RaisedWithin (d - a.duration) trace := by
  constructor
  · rintro ⟨before, after, htrace, hreset, hlt⟩
    cases after using List.reverseRecOn with
    | nil =>
        obtain ⟨-, ha⟩ := List.append_inj' htrace rfl
        cases ha
        exact Or.inl ⟨rfl, hlt⟩
    | append_singleton after b =>
        rw [← List.cons_append, ← List.append_assoc] at htrace
        obtain ⟨rfl, hb⟩ := List.append_inj' htrace rfl
        cases hb
        rw [List.mem_append, not_or, List.mem_singleton] at hreset
        rw [elapsed_concat] at hlt
        exact Or.inr ⟨fun ha => hreset.2 ha.symm, before, after, rfl, hreset.1, by linarith⟩
  · rintro (⟨rfl, hd⟩ | ⟨ha, before, after, rfl, hreset, hlt⟩)
    · exact ⟨trace, [], rfl, List.not_mem_nil, hd⟩
    · refine ⟨before, after ++ [a], by simp, ?_, by rw [elapsed_concat]; linarith⟩
      rw [List.mem_append, not_or, List.mem_singleton]
      exact ⟨hreset, fun h => ha h.symm⟩

@[simp] theorem raisedWithin_concat_set : RaisedWithin d (trace ++ [.set]) ↔ 0 < d := by
  rw [raisedWithin_concat]
  constructor
  · rintro (⟨-, hd⟩ | ⟨-, before, after, -, -, hlt⟩)
    · exact hd
    · exact (elapsed_nonneg after).trans_lt (by simpa [FlagAction.duration] using hlt)
  · exact fun hd => Or.inl ⟨rfl, hd⟩

@[simp] theorem not_raisedWithin_concat_reset : ¬ RaisedWithin d (trace ++ [.reset]) := by
  rw [raisedWithin_concat]
  rintro (⟨h, -⟩ | ⟨h, -⟩)
  · cases h
  · exact h rfl

@[simp] theorem raisedWithin_concat_pass {δ : ℚ≥0} :
    RaisedWithin d (trace ++ [.pass δ]) ↔ RaisedWithin (d - δ) trace := by
  rw [raisedWithin_concat]
  constructor
  · rintro (⟨h, -⟩ | ⟨-, h⟩)
    · cases h
    · exact h
  · exact fun h => Or.inr ⟨by simp, h⟩

end

namespace TimedFlag

/-! ## One timer at a time -/

variable {f : TimedFlag}

/-- No timer but that of the flag runs. -/
structure Single (f : TimedFlag) : Prop where
  exists_timer : f.resetSyncFlagTimer < f.process.timers.length
  onlyRuns : f.process.OnlyRuns f.resetSyncFlagTimer

/-- A `set` replaces the timer. -/
theorem set_eq (f : TimedFlag) :
    f.set = { f with
      value := true
      resetSyncFlagTimer := f.process.timers.length
      process := f.process.replace f.resetSyncFlagTimer f.resetTimeSec .setFlagToFalse } := by
  simp [set, startTimer, Timers.replace, Timers.cancel]

theorem single_create (now resetTimeSec : ℚ) : Single (create now resetTimeSec) := by
  refine ⟨by simp [create, Timers.create], fun i t ht hi => ?_⟩
  have hnone : (create now resetTimeSec).process.timers[i]? = none := by
    simpa [create, Timers.create] using hi
  rw [hnone] at ht
  cases ht

/-- Every action leaves one running timer at most. -/
theorem Single.act (h : Single f) (a : FlagAction) : Single (f.act a) := by
  cases a with
  | set =>
      show Single f.set
      rw [set_eq]
      exact ⟨by simp, h.onlyRuns.replace _ _⟩
  | reset => exact ⟨h.exists_timer, h.onlyRuns⟩
  | pass δ => exact ⟨h.exists_timer, h.onlyRuns⟩

theorem Single.settle (h : Single f) : Single f.settle :=
  ⟨by simpa [TimedFlag.settle] using h.exists_timer, h.onlyRuns.expire⟩

/-- Every step leaves one running timer at most. -/
theorem single_step (h : Single f) (a : FlagAction) : Single (f.step a) := (h.act a).settle

/-- The timers before the one of the flag do not change any more. -/
theorem Single.timer_step (h : Single f) (a : FlagAction) {k : ℕ}
    (hk : k < f.resetSyncFlagTimer) :
    k < (f.step a).resetSyncFlagTimer ∧
      (f.step a).process.timers[k]? = f.process.timers[k]? := by
  have hact : k < (f.act a).resetSyncFlagTimer ∧
      (f.act a).process.timers[k]? = f.process.timers[k]? := by
    cases a with
    | set =>
        have hlt : k < f.process.timers.length := hk.trans h.exists_timer
        show k < f.set.resetSyncFlagTimer ∧ f.set.process.timers[k]? = _
        rw [set_eq]
        refine ⟨hlt, ?_⟩
        rw [Timers.getElem?_replace_of_lt _ _ hlt, if_neg (Nat.ne_of_gt hk)]
    | reset => exact ⟨hk, rfl⟩
    | pass δ => exact ⟨hk, rfl⟩
  exact ⟨hact.1, ((h.act a).onlyRuns.getElem?_expire (Nat.ne_of_lt hact.1)).trans hact.2⟩

theorem Single.timer_run (h : Single f) (trace : List FlagAction) {k : ℕ}
    (hk : k < f.resetSyncFlagTimer) :
    (run step f trace).process.timers[k]? = f.process.timers[k]? := by
  induction trace generalizing f with
  | nil => rfl
  | cons a trace ih =>
      obtain ⟨hlt, hsame⟩ := h.timer_step a hk
      exact (ih (single_step h a) hlt).trans hsame

/-- Once the flag is set, the timers that were there before do not fire. -/
theorem Single.fired_of_fired_run (h : Single f) (after : List FlagAction) {k : ℕ}
    (hk : k < f.process.timers.length)
    (hfired : (run step f (.set :: after)).process.Fired k) : f.process.Fired k := by
  have hset : (f.step .set).resetSyncFlagTimer = f.process.timers.length := by
    show f.set.resetSyncFlagTimer = _
    rw [set_eq]
  obtain ⟨t, ht, hstatus⟩ := hfired
  have hafter : (f.step .set).process.timers[k]? = some t :=
    ((single_step h .set).timer_run after (by rwa [hset])).symm.trans ht
  have hreplaced : f.set.process.timers[k]? = some t := by
    refine ((h.act .set).onlyRuns.getElem?_expire ?_).symm.trans hafter
    exact Nat.ne_of_lt (hset ▸ hk)
  rw [set_eq] at hreplaced
  exact Timers.fired_of_fired_replace _ _ hk ⟨t, hreplaced, hstatus⟩

/-! ## The flag follows its history -/

/-- The timer of the flag runs and will reset it. -/
def Pending (due : ℚ) (f : TimedFlag) : Prop :=
  ∃ t, f.process.timers[f.resetSyncFlagTimer]? = some t ∧ t.function = .setFlagToFalse ∧
    t.due? = some due

/-- What a trace says of the flag: the timer of a flag that is raised is due
`resetTimeSec` after the last `set`. -/
structure Follows (resetTimeSec : ℚ) (trace : List FlagAction) (f : TimedFlag) : Prop where
  single : Single f
  resetTimeSec_eq : f.resetTimeSec = resetTimeSec
  raised : f.value = true → ∃ due, Pending due f ∧
    ∀ d, RaisedWithin d trace ↔ f.process.now + resetTimeSec < due + d
  lowered : f.value = false → ¬ RaisedWithin resetTimeSec trace

variable {resetTimeSec : ℚ} {trace : List FlagAction}

theorem follows_create (now resetTimeSec : ℚ) :
    Follows resetTimeSec [] (create now resetTimeSec) where
  single := single_create now resetTimeSec
  resetTimeSec_eq := rfl
  raised h := nomatch h
  lowered _ := not_raisedWithin_nil

/-- An action changes the flag as the trace says. -/
theorem Follows.act (h : Follows resetTimeSec trace f) (a : FlagAction) :
    Follows resetTimeSec (trace ++ [a]) (f.act a) := by
  have hsingle : Single (f.act a) := h.single.act a
  cases a with
  | set =>
      change Single f.set at hsingle
      show Follows _ _ f.set
      rw [set_eq] at hsingle ⊢
      refine ⟨hsingle, h.resetTimeSec_eq, fun _ => ?_, fun hfalse => nomatch hfalse⟩
      -- the new timer is due `resetTimeSec` from now
      refine ⟨f.process.now + f.resetTimeSec,
        ⟨_, Timers.getElem?_replace_new _ _ _ _, rfl, rfl⟩, fun d => ?_⟩
      rw [raisedWithin_concat_set, Timers.now_replace, h.resetTimeSec_eq, lt_add_iff_pos_right]
  | reset =>
      exact ⟨hsingle, h.resetTimeSec_eq, fun htrue => (nomatch htrue),
        fun _ => not_raisedWithin_concat_reset⟩
  | pass δ =>
      refine ⟨hsingle, h.resetTimeSec_eq, fun htrue => ?_, fun hfalse hraised => ?_⟩
      · obtain ⟨due, hpending, hiff⟩ := h.raised htrue
        refine ⟨due, hpending, fun d => ?_⟩
        rw [raisedWithin_concat_pass, hiff]
        show _ ↔ f.process.now + δ + resetTimeSec < due + d
        constructor <;> intro hlt <;> linarith
      · rw [raisedWithin_concat_pass] at hraised
        exact h.lowered hfalse (hraised.mono (sub_le_self _ δ.2))

@[simp] theorem foldl_run (functions : List TimerFunction) (value : Bool) :
    functions.foldl TimerFunction.run value = true ↔
      value = true ∧ .setFlagToFalse ∉ functions := by
  induction functions generalizing value with
  | nil => simp
  | cons g functions ih =>
      rw [List.foldl_cons, ih]
      cases g <;> simp [TimerFunction.run]

theorem value_of_settle (h : f.settle.value = true) : f.value = true := ((foldl_run _ _).mp h).1

/-- The flag stays raised exactly if its timer is not due. -/
theorem value_settle (h : Single f) {due : ℚ} (hpending : Pending due f) :
    f.settle.value = true ↔ f.value = true ∧ f.process.now < due := by
  obtain ⟨t, ht, hfunction, hdue⟩ := hpending
  have hexpires : .setFlagToFalse ∈ f.process.expiring ↔ due ≤ f.process.now := by
    rw [Timers.mem_expiring, ← Timer.isDue_iff_le hdue]
    constructor
    · rintro ⟨u, hu, hexpires, -⟩
      -- the timer that fires is that of the flag
      have hsame := h.onlyRuns.expiring hu hexpires
      rw [ht] at hsame
      cases hsame
      exact hexpires
    · exact fun hexpires => ⟨t, List.mem_of_getElem? ht, hexpires, hfunction⟩
  show List.foldl _ _ _ = true ↔ _
  rw [foldl_run, hexpires, not_le]

/-- Once the timers have fired, the flag is raised exactly if the trace says so. -/
theorem Follows.value_settle (h : Follows resetTimeSec trace f) :
    f.settle.value = true ↔ RaisedWithin resetTimeSec trace := by
  cases hvalue : f.value with
  | true =>
      obtain ⟨due, hpending, hiff⟩ := h.raised hvalue
      rw [TimedFlag.value_settle h.single hpending, hiff, add_lt_add_iff_right,
        and_iff_right hvalue]
  | false =>
      refine iff_of_false (fun hsettled => ?_) (h.lowered hvalue)
      rw [value_of_settle hsettled] at hvalue
      cases hvalue

/-- Timers that fire take the flag down when its time is over, and not before. -/
theorem Follows.settle (h : Follows resetTimeSec trace f) :
    Follows resetTimeSec trace f.settle := by
  refine ⟨h.single.settle, h.resetTimeSec_eq, fun htrue => ?_, fun hfalse hraised => ?_⟩
  · obtain ⟨due, hpending, hiff⟩ := h.raised (value_of_settle htrue)
    have hlt : f.process.now < due := ((TimedFlag.value_settle h.single hpending).mp htrue).2
    obtain ⟨t, ht, hfunction, hdue⟩ := hpending
    refine ⟨due, ⟨t, ?_, hfunction, hdue⟩, hiff⟩
    have hkept : t.expire f.process.now = t := by
      refine Timer.expire_of_not_isDue ?_
      rw [Timer.isDue_iff_le hdue]
      exact not_le_of_gt hlt
    show f.process.expire.timers[f.resetSyncFlagTimer]? = some t
    rw [Timers.getElem?_expire, ht, Option.map_some, hkept]
  · rw [h.value_settle.mpr hraised] at hfalse
    cases hfalse

/-- After every trace the flag is what the trace says. -/
theorem follows_run (now resetTimeSec : ℚ) (trace : List FlagAction) :
    Follows resetTimeSec trace (run step (create now resetTimeSec) trace) := by
  induction trace using List.reverseRecOn with
  | nil => exact follows_create now resetTimeSec
  | append_singleton trace a ih =>
      rw [run_append]
      exact (ih.act a).settle

/-- The flag is up exactly when it was set less than its time ago, and not reset since. -/
theorem isSet_run (now resetTimeSec : ℚ) (trace : List FlagAction) :
    (run step (create now resetTimeSec) trace).isSet = true ↔
      RaisedWithin resetTimeSec trace := by
  cases trace using List.reverseRecOn with
  | nil => exact iff_of_false (fun h => nomatch h) not_raisedWithin_nil
  | append_singleton trace a =>
      rw [run_append]
      exact ((follows_run now resetTimeSec trace).act a).value_settle

/-- **The timed flag.**  After every trace of calls and of time that passes, the flag is
set exactly if some `set` happened less than `resetTimeSec` ago with no `reset` after
it; and the timers that were there before a `set` do not run their functions after it. -/
theorem timedFlag_correct (now resetTimeSec : ℚ) (trace : List FlagAction) :
    ((run step (create now resetTimeSec) trace).isSet = true ↔
        RaisedWithin resetTimeSec trace) ∧
      ∀ before after, trace = before ++ .set :: after →
        ∀ k < (run step (create now resetTimeSec) before).process.timers.length,
          (run step (create now resetTimeSec) trace).process.Fired k →
            (run step (create now resetTimeSec) before).process.Fired k := by
  refine ⟨isSet_run now resetTimeSec trace, ?_⟩
  rintro before after rfl k hk hfired
  rw [run_append] at hfired
  exact (follows_run now resetTimeSec before).single.fired_of_fired_run after hk hfired

/-- A second `set` puts the end off, and the first timer does not fire. -/
example : (run step (create 0 3) [.set, .pass 2, .set, .pass 2]).isSet = true ∧
    (run step (create 0 3) [.set, .pass 2, .set, .pass 3]).isSet = false := by
  decide +kernel

/-! ## The flag of the system -/

/-- For the system, time that passes is nothing, or the expiry of the timer. -/
theorem pass_eq_timerExpires (net : Network) {s : System} (hflag : s.usrpsSynced = f.isSet)
    (δ : ℚ≥0) :
    { s with usrpsSynced := (f.step (.pass δ)).isSet } = s ∨
      { s with usrpsSynced := (f.step (.pass δ)).isSet } = System.step net s .timerExpires := by
  cases hafter : (f.step (.pass δ)).isSet with
  | false => exact Or.inr rfl
  | true =>
      have hbefore : (f.act (.pass δ)).value = true := value_of_settle hafter
      rw [show f.isSet = true from hbefore] at hflag
      rw [← hflag]
      exact Or.inl rfl

end TimedFlag

end UsrpWrapper
