import Mathlib.Data.List.Sort

/-!
# One-shot timers

A timer is created with an interval and a function.  Once started it is due an
interval later; it then runs its function, once.  A timer that is cancelled before
does nothing any more.

`Timers` are the timers of a process, in the order of their creation, and its clock.
`expire` is what happens when the clock has moved on: the timers that are due fire,
and `expiring` lists their functions, the first one due first.

A timer that is replaced whenever a new one is needed (`replace`) is the only one that
runs (`OnlyRuns`), and the timers before it do not change any more.
-/

namespace UsrpWrapper.Lib

/-- Where a timer is in its life. -/
inductive TimerStatus (T : Type) where
  | created
  | running (due : T)
  | fired
  | cancelled
  deriving DecidableEq

/-- A one-shot timer: its interval, and the function it runs when it fires. -/
structure Timer (T α : Type) where
  interval : T
  function : α
  status : TimerStatus T

namespace Timer

variable {T α : Type}

/-- A timer is started once. -/
def start [Add T] (now : T) (t : Timer T α) : Timer T α :=
  match t.status with
  | .created => { t with status := .running (now + t.interval) }
  | _ => t

/-- A timer that has fired cannot be cancelled any more. -/
def cancel (t : Timer T α) : Timer T α :=
  match t.status with
  | .fired => t
  | _ => { t with status := .cancelled }

/-- When a timer that runs will fire. -/
def due? (t : Timer T α) : Option T :=
  match t.status with
  | .running due => some due
  | _ => none

@[simp] theorem due?_cancel (t : Timer T α) : t.cancel.due? = none := by
  cases h : t.status <;> simp [cancel, due?, h]

variable [LinearOrder T]

/-- The time has come, or has passed, for a timer that runs. -/
def isDue (now : T) (t : Timer T α) : Bool :=
  match t.status with
  | .running due => decide (due ≤ now)
  | _ => false

/-- A timer that is due fires. -/
def expire (now : T) (t : Timer T α) : Timer T α :=
  if t.isDue now then { t with status := .fired } else t

section

variable {now due : T} {t : Timer T α}

/-- Due timers run, and their time has come. -/
theorem isDue_iff : t.isDue now = true ↔ ∃ due, t.due? = some due ∧ due ≤ now := by
  cases h : t.status <;> simp [isDue, due?, h]

/-- A timer that runs is due from its time on. -/
theorem isDue_iff_le (h : t.due? = some due) : t.isDue now = true ↔ due ≤ now := by
  simp [isDue_iff, h]

theorem expire_of_not_isDue (h : ¬ t.isDue now = true) : t.expire now = t := if_neg h

theorem expire_of_not_running (h : t.due? = none) : t.expire now = t := by
  refine expire_of_not_isDue fun hdue => ?_
  obtain ⟨due, hsome, -⟩ := isDue_iff.mp hdue
  rw [h] at hsome
  cases hsome

end

end Timer

/-- The timers of a process, in the order of their creation, and its clock. -/
structure Timers (T α : Type) where
  now : T
  timers : List (Timer T α)

namespace Timers

variable {T α : Type}

/-- A new timer, not started yet. -/
def create (interval : T) (function : α) (p : Timers T α) : Timers T α :=
  { p with timers := p.timers ++ [⟨interval, function, .created⟩] }

/-- Cancel timer `k`. -/
def cancel (k : ℕ) (p : Timers T α) : Timers T α :=
  { p with timers := p.timers.modify k Timer.cancel }

/-- Timer `k` is the only one that may run. -/
def OnlyRuns (k : ℕ) (p : Timers T α) : Prop :=
  ∀ (i : ℕ) (t : Timer T α), p.timers[i]? = some t → i ≠ k → t.due? = none

/-- Timer `k` has run its function. -/
def Fired (k : ℕ) (p : Timers T α) : Prop :=
  ∃ t, p.timers[k]? = some t ∧ t.status = .fired

section

variable [Add T]

/-- Start timer `k` now. -/
def start (k : ℕ) (p : Timers T α) : Timers T α :=
  { p with timers := p.timers.modify k (Timer.start p.now) }

/-- Time passes. -/
def pass (δ : T) (p : Timers T α) : Timers T α := { p with now := p.now + δ }

/-- Cancel timer `k`, and start a new one. -/
def replace (k : ℕ) (interval : T) (function : α) (p : Timers T α) : Timers T α :=
  let p := p.cancel k
  let new := p.timers.length
  (p.create interval function).start new

variable (k : ℕ) (interval : T) (function : α) (p : Timers T α)

@[simp] theorem length_replace :
    (p.replace k interval function).timers.length = p.timers.length + 1 := by
  simp [replace, create, cancel, start]

@[simp] theorem now_replace : (p.replace k interval function).now = p.now := rfl

/-- The new timer runs. -/
theorem getElem?_replace_new : (p.replace k interval function).timers[p.timers.length]? =
    some ⟨interval, function, .running (p.now + interval)⟩ := by
  simp [replace, create, cancel, start, Timer.start]

variable {k p}

/-- Replacing a timer cancels the old one and leaves the others alone. -/
theorem getElem?_replace_of_lt {i : ℕ} (hi : i < p.timers.length) :
    (p.replace k interval function).timers[i]? =
      if k = i then p.timers[i]?.map Timer.cancel else p.timers[i]? := by
  have hne : p.timers.length ≠ i := by omega
  simp only [replace, create, cancel, start, List.length_modify, List.getElem?_modify]
  rw [List.getElem?_append_left (by rwa [List.length_modify]), List.getElem?_modify]
  cases hget : p.timers[i]? with
  | none => simp
  | some t => by_cases hki : k = i <;> simp [hki, hne]

/-- If no timer but the replaced one was running, only the new one is. -/
theorem OnlyRuns.replace (h : p.OnlyRuns k) :
    (p.replace k interval function).OnlyRuns p.timers.length := by
  intro i t ht hi
  have hlt : i < p.timers.length := by
    obtain ⟨hlen, -⟩ := List.getElem?_eq_some_iff.mp ht
    rw [length_replace] at hlen
    omega
  rw [getElem?_replace_of_lt interval function hlt] at ht
  by_cases hki : k = i
  · rw [if_pos hki] at ht
    obtain ⟨u, -, rfl⟩ := Option.map_eq_some_iff.mp ht
    exact Timer.due?_cancel u
  · rw [if_neg hki] at ht
    exact h i t ht fun hik => hki hik.symm

/-- Replacing a timer lets no timer fire. -/
theorem fired_of_fired_replace {i : ℕ} (hi : i < p.timers.length)
    (h : (p.replace k interval function).Fired i) : p.Fired i := by
  obtain ⟨t, ht, hfired⟩ := h
  rw [getElem?_replace_of_lt interval function hi] at ht
  by_cases hki : k = i
  · rw [if_pos hki] at ht
    obtain ⟨u, hu, rfl⟩ := Option.map_eq_some_iff.mp ht
    refine ⟨u, hu, ?_⟩
    cases hstatus : u.status <;> simp [Timer.cancel, hstatus] at hfired ⊢
  · rw [if_neg hki] at ht
    exact ⟨t, ht, hfired⟩

end

section

variable [LinearOrder T]

/-- The due timers fire. -/
def expire (p : Timers T α) : Timers T α := { p with timers := p.timers.map (Timer.expire p.now) }

/-- The functions of the timers that are due, in the order in which they run. -/
def expiring (p : Timers T α) : List α :=
  let due := p.timers.filterMap fun t => if t.isDue p.now then t.due?.map (·, t.function) else none
  (due.insertionSort fun a b => a.1 ≤ b.1).map Prod.snd

variable {k : ℕ} {p : Timers T α}

@[simp] theorem length_expire : p.expire.timers.length = p.timers.length := List.length_map _

@[simp] theorem getElem?_expire (i : ℕ) :
    p.expire.timers[i]? = p.timers[i]?.map (Timer.expire p.now) := List.getElem?_map

/-- The functions that run are those of the timers that are due. -/
theorem mem_expiring {function : α} :
    function ∈ p.expiring ↔ ∃ t ∈ p.timers, t.isDue p.now = true ∧ t.function = function := by
  simp only [expiring, List.mem_map, List.mem_insertionSort, List.mem_filterMap]
  constructor
  · rintro ⟨⟨due, function⟩, ⟨t, ht, hsome⟩, rfl⟩
    split at hsome
    case isTrue hdue =>
      obtain ⟨_, -, heq⟩ := Option.map_eq_some_iff.mp hsome
      exact ⟨t, ht, hdue, congrArg Prod.snd heq⟩
    case isFalse => cases hsome
  · rintro ⟨t, ht, hdue, rfl⟩
    obtain ⟨due, hsome, -⟩ := Timer.isDue_iff.mp hdue
    exact ⟨(due, t.function), ⟨t, ht, by rw [if_pos hdue, hsome]; rfl⟩, rfl⟩

/-- Firing starts no timer. -/
theorem OnlyRuns.expire (h : p.OnlyRuns k) : p.expire.OnlyRuns k := by
  intro i t ht hi
  rw [getElem?_expire] at ht
  obtain ⟨u, hu, rfl⟩ := Option.map_eq_some_iff.mp ht
  have hnone := h i u hu hi
  rwa [Timer.expire_of_not_running hnone]

/-- A timer that does not run is not changed. -/
theorem OnlyRuns.getElem?_expire (h : p.OnlyRuns k) {i : ℕ} (hi : i ≠ k) :
    p.expire.timers[i]? = p.timers[i]? := by
  rw [Timers.getElem?_expire]
  cases hget : p.timers[i]? with
  | none => rfl
  | some t => rw [Option.map_some, Timer.expire_of_not_running (h i t hget hi)]

/-- Only timer `k` can fire. -/
theorem OnlyRuns.expiring (h : p.OnlyRuns k) {t : Timer T α} (ht : t ∈ p.timers)
    (hdue : t.isDue p.now = true) : p.timers[k]? = some t := by
  obtain ⟨i, hi⟩ := List.mem_iff_getElem?.mp ht
  by_cases hik : i = k
  · rwa [← hik]
  · obtain ⟨due, hsome, -⟩ := Timer.isDue_iff.mp hdue
    rw [h i t hi hik] at hsome
    cases hsome

end

end Timers

end UsrpWrapper.Lib
