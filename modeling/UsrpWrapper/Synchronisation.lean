import UsrpWrapper.System
import Mathlib.Logic.Relation

/-!
# Synchronisation of the system

`Move` is the system as far as synchronisation is concerned: single events and single
assignments, each with what the code has made sure of when it comes to it.  Every call of
the user is a sequence of moves (`moves_step`), whichever requests fail.

Two invariants are then shown move by move:

* `SourceInvariant`: once the sync source is marked as set, all registered devices have
  accepted the same one, the one the system is to use;
* `ClockInvariant`: while the synchronisation flag is set, the FPGA times of exactly the
  registered devices have been checked, and nothing has touched them since.

The second one needs that `resetFpgaTimes` is not called while the flag is set: that
call does not reset it.
-/

namespace UsrpWrapper

open Lib Lib.Command Lib.Trace

/-! ## What the history says -/

/-- The devices of the registrations, the first one first. -/
def registeredDevices (h : History) : List Address :=
  (h.filterMap fun
    | .registered _ device => some device
    | _ => none).reverse

/-- The last sync source that the device accepted. -/
def acceptedSyncSource (device : Address) (h : History) : Option String :=
  h.findSome? fun
    | .request d (.setSyncSource source) true => if d = device then some source else none
    | _ => none

/-- Additions of devices, changes of the sync source, and resets of FPGA times. -/
def Unsynchronises : ClientEvent → Prop
  | .registered _ _ => True
  | .request _ (.setSyncSource _) _ => True
  | .request _ .setTimeToZeroNextPps _ => True
  | _ => False

/-- A check of exactly these devices succeeded. -/
def Checks (devices : List Address) : ClientEvent → Prop
  | .checked checkedDevices valid => checkedDevices = devices ∧ valid = true
  | _ => False

/-- A check of exactly the registered devices succeeded, and nothing happened since that
calls for another one. -/
def Synchronised (h : History) : Prop := Since (Checks (registeredDevices h)) Unsynchronises h

/-- An execution starts in a synchronised system. -/
def DispatchSynchronised (e : ClientEvent) (h : History) : Prop :=
  match e with
  | .dispatch _ => Synchronised h
  | _ => True

/-- What the sync source of `n` devices has to be. -/
structure IsSyncSource (request : String) (n : ℕ) (source : String) : Prop where
  requested : request ≠ "auto" → source = request
  single : request = "auto" → n = 1 → source = "internal"
  several : request = "auto" → 1 < n → source = "external"
  internal : source = "internal" → n ≤ 1

/-- A sync source is set as it has to be, and an execution starts when all registered
devices have accepted the same one. -/
def SourceUniform (request : String) (e : ClientEvent) (h : History) : Prop :=
  match e with
  | .request _ (.setSyncSource source) _ =>
      IsSyncSource request (registeredDevices h).length source
  | .dispatch _ => ∃ source, IsSyncSource request (registeredDevices h).length source ∧
      ∀ device ∈ registeredDevices h, acceptedSyncSource device h = some source
  | _ => True

/-- Events that concern neither registrations, nor sync sources, nor FPGA times, nor
the start of an execution. -/
def ClientEvent.Neutral : ClientEvent → Prop
  | .registered _ _ => False
  | .request _ (.setSyncSource _) _ => False
  | .request _ .setTimeToZeroNextPps _ => False
  | .dispatch _ => False
  | _ => True

instance (devices : List Address) : DecidablePred (Checks devices) := fun e => by
  unfold Checks
  split <;> infer_instance

instance : DecidablePred Unsynchronises := fun e => by
  unfold Unsynchronises
  split <;> infer_instance

instance (h : History) : Decidable (Synchronised h) :=
  inferInstanceAs (Decidable (Since (Checks (registeredDevices h)) Unsynchronises h))

instance (e : ClientEvent) (h : History) : Decidable (DispatchSynchronised e h) := by
  unfold DispatchSynchronised
  split <;> infer_instance

@[simp] theorem registeredDevices_registered (usrpName : String) (device : Address) (h : History) :
    registeredDevices (.registered usrpName device :: h) = registeredDevices h ++ [device] := by
  simp [registeredDevices]

/-- Only a registration changes the registered devices. -/
theorem registeredDevices_cons {e : ClientEvent} (h : History) (he : ∀ n d, e ≠ .registered n d) :
    registeredDevices (e :: h) = registeredDevices h := by
  cases e with
  | registered n d => exact absurd rfl (he n d)
  | _ => rfl

/-- Only a request for a source changes the source of a device. -/
theorem acceptedSyncSource_cons {e : ClientEvent} {device : Address} (h : History)
    (he : ∀ d source a, e ≠ .request d (.setSyncSource source) a) :
    acceptedSyncSource device (e :: h) = acceptedSyncSource device h := by
  cases e with
  | request d r a =>
      cases r with
      | setSyncSource source => exact absurd rfl (he d source a)
      | _ => rfl
  | _ => rfl

@[simp] theorem acceptedSyncSource_accept (device : Address) (source : String) (h : History) :
    acceptedSyncSource device (.request device (.setSyncSource source) true :: h) =
      some source := by
  simp [acceptedSyncSource]

/-- A device that accepted the source before has it after another attempt to set it. -/
theorem acceptedSyncSource_same {device d : Address} {source : String} {applied : Bool}
    {h : History} (haccepted : acceptedSyncSource device h = some source) :
    acceptedSyncSource device (.request d (.setSyncSource source) applied :: h) = some source := by
  cases applied with
  | false => exact haccepted
  | true =>
      by_cases hd : d = device
      · rw [hd, acceptedSyncSource_accept]
      · simpa [acceptedSyncSource, hd] using haccepted

theorem ClientEvent.Neutral.ne_registered {e : ClientEvent} (he : e.Neutral) (n : String)
    (d : Address) : e ≠ .registered n d := by
  rintro rfl
  exact he

theorem ClientEvent.Neutral.ne_setSyncSource {e : ClientEvent} (he : e.Neutral) (d : Address)
    (source : String) (a : Bool) : e ≠ .request d (.setSyncSource source) a := by
  rintro rfl
  exact he

theorem ClientEvent.Neutral.not_unsynchronises {e : ClientEvent} (he : e.Neutral) :
    ¬ Unsynchronises e := by
  intro hbad
  cases e with
  | request d r a => cases r <;> first | exact he | exact hbad
  | registered n d => exact he
  | _ => exact hbad

namespace System

/-! ## Moves -/

/-- One event or one assignment.  `mayReset` says for which values of the flag the FPGA
times may be reset once the sync sources are set. -/
inductive Move (mayReset : Bool → Prop) : System → System → Prop
  | neutral (s : System) (e : ClientEvent) (he : e.Neutral) :
      Move mayReset s { s with history := e :: s.history }
  | desync (s : System) : Move mayReset s { s with usrpsSynced := false }
  | register (s : System) (usrpName : String) (client : UsrpClient)
      (hnew : usrpName ∉ s.usrpClients) (hflag : s.usrpsSynced = false) :
      Move mayReset s (register usrpName client s)
  | setSyncSource (s : System) (device : Address) (source : String) (applied : Bool)
      (hset : s.syncSourceSet = false) (hsource : calculateSyncSource s = .ok source) :
      Move mayReset s
        { s with history := .request device (.setSyncSource source) applied :: s.history }
  | resetTime (s : System) (device : Address) (applied : Bool)
      (hreset : s.syncSourceSet = false ∨ mayReset s.usrpsSynced) :
      Move mayReset s
        { s with history := .request device .setTimeToZeroNextPps applied :: s.history }
  | sourcesSet (s : System) (source : String) (hsource : calculateSyncSource s = .ok source)
      (haccepted : ∀ d ∈ s.devices, acceptedSyncSource d s.history = some source) :
      Move mayReset s { s with syncSourceSet := true }
  | synced (s : System) (h : History) (hset : s.syncSourceSet = true)
      (hchecked : s.history = .checked s.devices true :: h) :
      Move mayReset s { s with usrpsSynced := true }
  | dispatch (s : System) (baseTimeSec : ℚ) (hset : s.syncSourceSet = true)
      (hsynced : s.usrpsSynced = true) :
      Move mayReset s { s with history := .dispatch baseTimeSec :: s.history }
  | configure (s : System) (usrpClients : Dict String LabeledUsrp)
      (hdevices : usrpClients.values.map LabeledUsrp.address = s.devices) :
      Move mayReset s { s with usrpClients := usrpClients }

/-- Any number of moves. -/
def Moves (mayReset : Bool → Prop) : System → System → Prop :=
  Relation.ReflTransGen (Move mayReset)

section

variable {net : Network} {mayReset : Bool → Prop} {s₀ : System} {F : System → Prop}

/-- Reached by moves, in a state with `F`, which concerns the history no more than the
code that relies on it. -/
def Reached (mayReset : Bool → Prop) (s₀ : System) (F : System → Prop) (s : System) : Prop :=
  F s ∧ Moves mayReset s₀ s

theorem Reached.move {s s' : System} {G : System → Prop} (h : Reached mayReset s₀ F s)
    (hmove : Move mayReset s s') (hG : G s') : Reached mayReset s₀ G s' :=
  ⟨hG, h.2.tail hmove⟩

/-- A weaker property of the state that is reached. -/
theorem Reached.imp {s : System} {G : System → Prop} (h : Reached mayReset s₀ F s)
    (hG : F s → G s) : Reached mayReset s₀ G s :=
  ⟨hG h.1, h.2⟩

/-- A command that keeps `F` and makes moves only. -/
theorem Reached.triple {α : Type} {x : SystemM α} (h : Preserves (Reached mayReset s₀ F) x) :
    Triple (Reached mayReset s₀ F) x (fun _ => Reached mayReset s₀ F)
      (fun _ => Moves mayReset s₀) :=
  (Triple.of_preserves h).mono_error fun _ _ hs => hs.2

theorem keepsEvent_neutral {e : ClientEvent} (he : e.Neutral) (hF : KeepsEvent F e) :
    KeepsEvent (Reached mayReset s₀ F) e :=
  fun s hs => hs.move (.neutral s e he) (hF s hs.1)

/-- What `F` says of the devices and the flags is not changed by events. -/
def Timeless (F : System → Prop) : Prop := ∀ s h, F s → F { s with history := h }

/-- What does not look at the history survives every event. -/
theorem Timeless.keepsEvent (hF : Timeless F) (e : ClientEvent) : KeepsEvent F e :=
  fun s hs => hF s _ hs

/-! ## Every call is a sequence of moves -/

/-- Resetting a time is a move, where the rules for the flag allow it. -/
theorem keepsEvent_resetTime
    (hreset : ∀ s, F s → s.syncSourceSet = false ∨ mayReset s.usrpsSynced)
    (hF : ∀ device applied, KeepsEvent F (.request device .setTimeToZeroNextPps applied))
    (device : Address) (applied : Bool) :
    KeepsEvent (Reached mayReset s₀ F) (.request device .setTimeToZeroNextPps applied) :=
  fun s hs => hs.move (.resetTime s device applied (hreset s hs.1)) (hF device applied s hs.1)

/-- Requesting the calculated source is a move while the sources are not set. -/
theorem keepsEvent_setSyncSource {source : String}
    (hsource : ∀ s, F s → s.syncSourceSet = false ∧ calculateSyncSource s = .ok source)
    (hF : ∀ device applied, KeepsEvent F (.request device (.setSyncSource source) applied))
    (device : Address) (applied : Bool) :
    KeepsEvent (Reached mayReset s₀ F) (.request device (.setSyncSource source) applied) := by
  intro s hs
  obtain ⟨hset, hcalculate⟩ := hsource s hs.1
  exact hs.move (.setSyncSource s device source applied hset hcalculate) (hF device applied s hs.1)

/-- `addUsrp` makes moves only: it forgets the sources and the flag before it registers. -/
theorem moves_addUsrp (usrpName : String) (client : UsrpClient) :
    Preserves (Moves mayReset s₀) (addUsrp net usrpName client) := by
  refine preserves_labelRemoteError fun s hs => ?_
  let G : System → Prop := fun s =>
    assertUniqueUsrp client.ip client.port usrpName s = .ok () ∧ s.usrpsSynced = false
  have hrequest (r : Request) (hr : ∀ a, (ClientEvent.request client.address r a).Neutral) :
      Preserves (Reached mayReset s₀ G) (onHistory (request net client.address r)) :=
    preserves_onRequest fun a => keepsEvent_neutral (hr a) fun _ h => h
  refine Triple.finalState (P := Moves mayReset s₀) (S := Moves mayReset s₀) ?_ hs
  refine Triple.bind (Q := fun _ => Reached mayReset s₀ fun s => s.usrpsSynced = false)
    (Triple.modify fun s hs => ⟨rfl, hs.tail (.desync s)⟩) fun _ => ?_
  refine Triple.bind (Triple.reads fun s e hs => hs.2) fun _ => ?_
  -- the name is new and the flag reset; the two requests keep it so
  refine Triple.mono_pre (P := Reached mayReset s₀ G) ?_ fun s hs => ⟨⟨hs.1, hs.2.1⟩, hs.2.2⟩
  refine (Reached.triple (hrequest .getVersion fun _ => trivial)).bind fun _ => ?_
  refine (Reached.triple (hrequest .resetStreamingConfigs fun _ => trivial)).bind fun _ => ?_
  refine Triple.bind (Q := fun _ => Moves mayReset s₀) (Triple.modify fun s hs => ?_)
    fun _ => Triple.pure fun _ hs => hs
  have hnew : usrpName ∉ s.usrpClients := (check_bind_eq_ok_iff.mp hs.1.1).1
  exact hs.2.tail (.register s usrpName client hnew hs.1.2)

theorem moves_newUsrp (ip usrpName : String) (port : ℕ) :
    Preserves (Moves mayReset s₀) (newUsrp net ip usrpName port) := by
  have hneutral {e : ClientEvent} (he : e.Neutral) : KeepsEvent (Moves mayReset s₀) e :=
    fun s hs => hs.tail (.neutral s e he)
  refine (preserves_labelRemoteError ?_).bind fun client => moves_addUsrp usrpName client
  exact preserves_create (fun _ => hneutral trivial) fun _ => hneutral trivial

/-- The loop that sets the sync sources: every device for which it comes to an end has
accepted the source. -/
theorem setSyncSources_triple {source : String} {F : System → Prop}
    (hsource : ∀ s, F s → s.syncSourceSet = false ∧ calculateSyncSource s = .ok source)
    (hF : ∀ d a, KeepsEvent F (.request d (.setSyncSource source) a)) (usrps : List LabeledUsrp) :
    Triple (Reached mayReset s₀ F)
      (forM usrps fun usrp => onHistory (usrp.client.setSyncSource net source))
      (fun _ => Reached mayReset s₀ fun s => F s ∧
        ∀ u ∈ usrps, acceptedSyncSource u.address s.history = some source)
      (fun _ => Moves mayReset s₀) := by
  induction usrps generalizing F with
  | nil => exact Triple.pure fun s hs => hs.imp fun h => ⟨h, fun _ hu => (nomatch hu)⟩
  | cons u usrps ih =>
      -- the rest of the loop is run with `F` and what the first device has accepted
      let G : System → Prop := fun s => F s ∧ acceptedSyncSource u.address s.history = some source
      have hG (d : Address) (a : Bool) : KeepsEvent G (.request d (.setSyncSource source) a) :=
        fun s hs => ⟨hF d a s hs.1, acceptedSyncSource_same hs.2⟩
      rw [List.forM_cons]
      have hkeeps (a : Bool) :
          KeepsEvent (Reached mayReset s₀ F) (.request u.address (.setSyncSource source) a) :=
        keepsEvent_setSyncSource hsource hF u.address a
      refine Triple.bind (Q := fun _ => Reached mayReset s₀ G)
        ((onRequest_triple hkeeps).conseq (fun _ hs => hs) ?_ fun _ _ hs => hs.2) fun _ => ?_
      · rintro _ _ ⟨s, -, hs, rfl⟩
        exact hs.imp fun h => ⟨h, acceptedSyncSource_accept u.address source s.history⟩
      · refine (ih (fun s hs => hsource s hs.1) hG).mono_post fun _ s hs => ?_
        exact hs.imp fun h => ⟨h.1.1, List.forall_mem_cons.mpr ⟨h.1.2, h.2⟩⟩

/-- When `updateSyncSources` returns, the sources are set. -/
theorem updateSyncSources_triple :
    Triple (Moves mayReset s₀) (updateSyncSources net)
      (fun _ => Reached mayReset s₀ fun s => s.syncSourceSet = true)
      (fun _ => Moves mayReset s₀) := by
  refine Triple.bind Triple.get fun s₁ => Triple.ite (fun hset => Triple.pure ?_) fun hset => ?_
  · rintro s ⟨rfl, hs⟩
    exact ⟨hset, hs⟩
  refine Triple.bind (Triple.reads fun s e hs => hs.2) fun source => ?_
  let F : System → Prop := fun s => s.syncSourceSet = false ∧
    calculateSyncSource s = .ok source ∧ s.usrpClients = s₁.usrpClients
  let G : System → Prop := fun s => F s ∧
    ∀ u ∈ s₁.usrpClients.values, acceptedSyncSource u.address s.history = some source
  have hG (d : Address) (a : Bool) : KeepsEvent G (.request d .setTimeToZeroNextPps a) :=
    fun s hs => ⟨hs.1, fun u hu => hs.2 u hu⟩
  refine Triple.mono_pre (P := Reached mayReset s₀ F) ?_ ?_
  swap
  · rintro s ⟨hsource, rfl, hs⟩
    exact ⟨⟨Bool.eq_false_of_not_eq_true hset, hsource, rfl⟩, hs⟩
  -- every device has accepted the source, then the times are reset, then the flag is set
  refine Triple.bind (Q := fun _ => Reached mayReset s₀ G) (setSyncSources_triple
    (fun s hs => ⟨hs.1, hs.2.1⟩) (fun _ _ _ hs => hs) s₁.usrpClients.values) fun _ => ?_
  have hreset : Preserves (Reached mayReset s₀ G) (resetFpgaTimes net) :=
    preserves_setTimeToZeroNextPps (keepsEvent_resetTime (fun s hs => Or.inl hs.1.1) hG)
  refine (Reached.triple hreset).bind fun _ => ?_
  refine Triple.modify fun s hs => hs.move (.sourcesSet s source hs.1.1.2.1 ?_) rfl
  rintro d hd
  obtain ⟨u, hu, rfl⟩ := List.mem_map.mp hd
  rw [hs.1.1.2.2] at hu
  exact hs.1.2 u hu

/-- `synchronisationValid` ends with a check, which is the newest event. -/
theorem synchronisationValid_triple {F : System → Prop} (hF : Timeless F) :
    Triple (Reached mayReset s₀ F) (synchronisationValid net)
      (fun valid => Reached mayReset s₀ fun s =>
        F s ∧ ∃ h, s.history = .checked s.devices valid :: h)
      (fun _ => Reached mayReset s₀ F) := by
  have htimes : Preserves (Reached mayReset s₀ F) (getCurrentFpgaTimes net) :=
    preserves_getCurrentFpgaTimes fun d a => keepsEvent_neutral trivial (hF.keepsEvent _)
  refine Triple.bind (Triple.of_preserves htimes) fun times => ?_
  refine Triple.bind (Triple.of_preserves (Preserves.liftE _)) fun valid => ?_
  refine Triple.bind Triple.get fun s₁ => ?_
  refine Triple.bind (Q := fun _ => Reached mayReset s₀ fun s =>
    F s ∧ ∃ h, s.history = .checked s.devices valid :: h) ?_ fun _ => Triple.pure fun _ hs => hs
  rintro s ⟨rfl, hs⟩
  exact hs.move (.neutral s₁ (.checked s₁.devices valid) trivial) ⟨hF _ _ hs.1, s₁.history, rfl⟩

/-- A check that succeeds sets the flag. -/
theorem setSynced_triple {P : System → Prop}
    (hP : ∀ s, P s → Reached mayReset s₀ (fun s =>
      (s.syncSourceSet = true ∧ s.usrpsSynced = false) ∧
        ∃ h, s.history = .checked s.devices true :: h) s) :
    Triple P (modify fun s => { s with usrpsSynced := true } : SystemM Unit)
      (fun _ => Reached mayReset s₀ fun s => s.syncSourceSet = true ∧ s.usrpsSynced = true)
      (fun _ => Moves mayReset s₀) := by
  refine Triple.modify fun s hs => ?_
  obtain ⟨⟨hset, -⟩, h, hchecked⟩ := (hP s hs).1
  exact (hP s hs).move (.synced s h hset hchecked) ⟨hset, rfl⟩

/-- A check that sets the flag if it succeeds, and goes on otherwise. -/
theorem checkOrElse_triple {x : SystemM Unit}
    (hx : Triple (Reached mayReset s₀ fun s => s.syncSourceSet = true ∧ s.usrpsSynced = false) x
      (fun _ => Reached mayReset s₀ fun s => s.syncSourceSet = true ∧ s.usrpsSynced = true)
      (fun _ => Moves mayReset s₀)) :
    Triple (Reached mayReset s₀ fun s => s.syncSourceSet = true ∧ s.usrpsSynced = false)
      (do if ← synchronisationValid net then modify fun s => { s with usrpsSynced := true }
          else x)
      (fun _ => Reached mayReset s₀ fun s => s.syncSourceSet = true ∧ s.usrpsSynced = true)
      (fun _ => Moves mayReset s₀) := by
  have hF : Timeless fun s => s.syncSourceSet = true ∧ s.usrpsSynced = false := fun _ _ hs => hs
  refine ((synchronisationValid_triple hF).mono_error fun _ _ hs => hs.2).bind fun valid => ?_
  refine Triple.ite (fun hvalid => ?_) fun _ => ?_
  · subst hvalid
    exact setSynced_triple fun _ hs => hs
  · exact hx.mono_pre fun _ hs => hs.imp And.left

/-- The attempts end with a successful check, or raise. -/
theorem attemptSync_triple (hreset : mayReset false) (n : ℕ) :
    Triple (Reached mayReset s₀ fun s => s.syncSourceSet = true ∧ s.usrpsSynced = false)
      (attemptSync net n)
      (fun _ => Reached mayReset s₀ fun s => s.syncSourceSet = true ∧ s.usrpsSynced = true)
      (fun _ => Moves mayReset s₀) := by
  let F : System → Prop := fun s => s.syncSourceSet = true ∧ s.usrpsSynced = false
  have hF : Timeless F := fun _ _ hs => hs
  induction n with
  | zero => exact Triple.throw fun _ hs => hs.2
  | succ n ih =>
      have hzero : Preserves (Reached mayReset s₀ F) (setTimeToZeroNextPps net) :=
        preserves_setTimeToZeroNextPps (keepsEvent_resetTime
          (fun s hs => Or.inr (by rw [hs.2]; exact hreset)) fun _ _ => hF.keepsEvent _)
      exact (Reached.triple hzero).bind fun _ => checkOrElse_triple ih

/-- When `synchronizeClocks` returns, the clocks are synchronised. -/
theorem synchronizeClocks_triple (hreset : mayReset false) :
    Triple (Reached mayReset s₀ fun s => s.syncSourceSet = true) (synchronizeClocks net)
      (fun _ => Reached mayReset s₀ fun s => s.syncSourceSet = true ∧ s.usrpsSynced = true)
      (fun _ => Moves mayReset s₀) := by
  refine Triple.bind Triple.get fun s₁ => Triple.ite (fun hsynced => Triple.pure ?_)
    fun hsynced => ?_
  · rintro s ⟨rfl, hs⟩
    exact hs.imp fun hset => ⟨hset, hsynced⟩
  refine (checkOrElse_triple (attemptSync_triple hreset _)).mono_pre ?_
  rintro s ⟨rfl, hs⟩
  exact hs.imp fun hset => ⟨hset, Bool.eq_false_of_not_eq_true hsynced⟩

theorem synchronizeUsrps_triple (hreset : mayReset false) :
    Triple (Moves mayReset s₀) (synchronizeUsrps net)
      (fun _ => Reached mayReset s₀ fun s => s.syncSourceSet = true ∧ s.usrpsSynced = true)
      (fun _ => Moves mayReset s₀) :=
  updateSyncSources_triple.bind fun _ => synchronizeClocks_triple hreset

/-- When `execute` comes to the calls of the devices, both flags are set. -/
theorem prepareExecute_triple (hreset : mayReset false) :
    Triple (Moves mayReset s₀) (prepareExecute net)
      (fun _ => Reached mayReset s₀ fun s => s.syncSourceSet = true ∧ s.usrpsSynced = true)
      (fun _ => Moves mayReset s₀) := by
  let F : System → Prop := fun s => s.syncSourceSet = true ∧ s.usrpsSynced = true
  have hF : Timeless F := fun _ _ hs => hs
  have hbase : Preserves (Reached mayReset s₀ F) (calculateBaseTimeSec net) :=
    preserves_calculateBaseTimeSec fun d a => keepsEvent_neutral trivial (hF.keepsEvent _)
  exact (synchronizeUsrps_triple hreset).bind fun _ => Reached.triple hbase

/-- The dispatch is a move, and what comes behind it changes no flag. -/
theorem moves_dispatch (baseTimeSec : ℚ) :
    Triple (Reached mayReset s₀ fun s => s.syncSourceSet = true ∧ s.usrpsSynced = true)
      (dispatch net baseTimeSec) (fun _ => Moves mayReset s₀) (fun _ => Moves mayReset s₀) := by
  have hneutral {e : ClientEvent} (he : e.Neutral) : KeepsEvent (Moves mayReset s₀) e :=
    fun s hs => hs.tail (.neutral s e he)
  have hcalls : Preserves (Moves mayReset s₀)
      (catchRemoteUsrpErrors (callExecuteAtUsrp net baseTimeSec)) :=
    preserves_catchRemoteUsrpErrors fun n => preserves_callExecuteAtUsrp
      (fun _ => hneutral trivial) fun _ _ => hneutral trivial
  refine Triple.bind (Q := fun _ => Moves mayReset s₀) (fun s hs => ?_) fun _ => ?_
  · exact hs.2.tail (.dispatch s baseTimeSec hs.1.1 hs.1.2)
  · exact (Triple.of_preserves hcalls).bind fun _ => Triple.pure fun _ hs => hs

/-- A registered client is configured in its place. -/
theorem moves_configureRfConfig (usrpName : String) (conf : PyRfConfig) :
    Preserves (Moves mayReset s₀) (configureRfConfig net usrpName conf) := by
  intro s hs
  refine Triple.finalState (P := Moves mayReset s₀) (S := Moves mayReset s₀) ?_ hs
  refine Triple.bind (Triple.reads fun s e hs => hs) fun u => Triple.of_finalState ?_
  rintro s ⟨hlookup, hs⟩
  have hfound : s.usrpClients.lookup usrpName = some u := by
    cases hlabeled : s.usrpClients.lookup usrpName with
    | none =>
        rw [hlabeled] at hlookup
        cases hlookup
    | some u' =>
        rw [hlabeled] at hlookup
        cases hlookup
        rfl
  obtain ⟨applied, hfinal⟩ := finalState_configureRfConfig net conf u.client s.history
  let e : ClientEvent := .request u.client.address (.configureRfConfig conf) applied
  let s' : System := { s with history := e :: s.history }
  let clients : Dict String LabeledUsrp :=
    Dict.set usrpName ⟨u.name, { u.client with rfConfiguredOnce := true }⟩ s.usrpClients
  have hdevices : clients.values.map LabeledUsrp.address = s'.devices :=
    Dict.map_values_set hfound rfl
  rw [finalState_onField, hfinal]
  exact (hs.tail (.neutral s e trivial)).tail (.configure s' clients hdevices)

/-- **Every call is a sequence of moves.**  While the flag is not set, FPGA times may be
reset; `resetFpgaTimes` does so whether it is set or not. -/
theorem moves_step (hreset : mayReset false) (s : System) (op : Op)
    (hop : op = .resetFpgaTimes → mayReset s.usrpsSynced) : Moves mayReset s (step net s op) := by
  have hrefl : Moves mayReset s s := Relation.ReflTransGen.refl
  have hneutral {e : ClientEvent} (he : e.Neutral) : KeepsEvent (Moves mayReset s) e :=
    fun t ht => ht.tail (.neutral t e he)
  cases op with
  | newUsrp ip usrpName port => exact moves_newUsrp ip usrpName port s hrefl
  | addUsrp usrpName client => exact moves_addUsrp usrpName client s hrefl
  | resetFpgaTimes =>
      have hkeeps : Preserves (Reached mayReset s fun t => t.usrpsSynced = s.usrpsSynced)
          (resetFpgaTimes net) := preserves_setTimeToZeroNextPps
        (keepsEvent_resetTime (fun t ht => Or.inr (by rw [ht]; exact hop rfl)) fun _ _ _ ht => ht)
      exact (hkeeps s ⟨rfl, hrefl⟩).2
  | getCurrentFpgaTimes => exact preserves_getCurrentFpgaTimes (fun _ _ => hneutral trivial) s hrefl
  | synchronisationValid =>
      have htriple : Triple (Reached mayReset s fun _ => True) (synchronisationValid net)
          (fun _ => Moves mayReset s) (fun _ => Moves mayReset s) :=
        (synchronisationValid_triple fun _ _ _ => trivial).conseq (fun _ hs => hs)
          (fun _ _ hs => hs.2) fun _ _ hs => hs.2
      exact htriple.finalState ⟨trivial, hrefl⟩
  | synchronizeUsrps =>
      exact ((synchronizeUsrps_triple hreset).mono_post fun _ _ hs => hs.2).finalState hrefl
  | configureTx usrpName conf =>
      exact preserves_configureTx (fun _ _ _ => hneutral trivial) s hrefl
  | configureRx usrpName conf => exact preserves_configureRx (fun _ _ => hneutral trivial) s hrefl
  | configureRfConfig usrpName conf => exact moves_configureRfConfig usrpName conf s hrefl
  | execute =>
      exact ((prepareExecute_triple hreset).bind fun t => moves_dispatch t).finalState hrefl
  | collect => exact preserves_collect (fun _ _ => hneutral trivial) s hrefl
  | timerExpires => exact hrefl.tail (.desync s)

/-- What all moves keep is kept by a call. -/
theorem step_invariant {I : System → Prop} (hI : ∀ s s', Move mayReset s s' → I s → I s')
    (hreset : mayReset false) {s : System} {op : Op}
    (hop : op = .resetFpgaTimes → mayReset s.usrpsSynced) (hs : I s) : I (step net s op) := by
  have hmoves : Moves mayReset s (step net s op) := moves_step hreset s op hop
  generalize step net s op = s' at hmoves
  clear hop
  induction hmoves with
  | refl => exact hs
  | tail _ hmove ih => exact hI _ _ hmove ih

/-! ## The sync source -/

theorem length_devices (s : System) : s.devices.length = s.usrpClients.entries.length := by
  simp [devices, Dict.values]

/-- `calculateSyncSource` returns a source that suits the number of devices. -/
theorem calculateSyncSource_eq_ok {s : System} {source : String}
    (hsource : calculateSyncSource s = .ok source) :
    IsSyncSource s.syncSourceRequest s.devices.length source := by
  unfold calculateSyncSource at hsource
  rw [length_devices]
  split at hsource
  · cases hsource
    refine ⟨fun hne => absurd ‹_› hne, fun _ hone => if_pos (by omega), fun _ hmany => ?_, ?_⟩
    · exact if_neg (by omega)
    · intro hinternal
      by_contra hmany
      rw [if_neg hmany] at hinternal
      exact absurd hinternal (by decide)
  · split at hsource
    · cases hsource
    · cases hsource
      refine ⟨fun _ => rfl, fun heq => absurd heq ‹_›, fun heq => absurd heq ‹_›, ?_⟩
      intro hinternal
      by_contra hmany
      exact absurd ⟨by omega, hinternal⟩ ‹¬ (1 < _ ∧ _)›

/-- Once the sync source is marked as set, all registered devices have accepted it. -/
structure SourceInvariant (request : String) (s : System) : Prop where
  request_eq : s.syncSourceRequest = request
  registered : registeredDevices s.history = s.devices
  accepted : s.syncSourceSet = true → ∃ source, calculateSyncSource s = .ok source ∧
    ∀ d ∈ s.devices, acceptedSyncSource d s.history = some source
  uniform : Always (SourceUniform request) s.history

theorem devices_register {s : System} {usrpName : String} {client : UsrpClient}
    (hnew : usrpName ∉ s.usrpClients) :
    (register usrpName client s).devices = s.devices ++ [client.address] := by
  show (Dict.set usrpName _ s.usrpClients).values.map LabeledUsrp.address = _
  rw [Dict.values_set_of_notMem hnew, List.map_append]
  rfl

/-- The sync source only depends on the number of devices. -/
theorem calculateSyncSource_configure {s : System} {usrpClients : Dict String LabeledUsrp}
    (hdevices : usrpClients.values.map LabeledUsrp.address = s.devices) :
    calculateSyncSource { s with usrpClients := usrpClients } = calculateSyncSource s := by
  have hlength : usrpClients.entries.length = s.usrpClients.entries.length := by
    calc usrpClients.entries.length = (usrpClients.values.map LabeledUsrp.address).length := by
          simp [Dict.values]
      _ = s.devices.length := by rw [hdevices]
      _ = s.usrpClients.entries.length := length_devices s
  unfold calculateSyncSource
  rw [hlength]

theorem sourceUniform_neutral {request : String} {e : ClientEvent} (he : e.Neutral) (h : History) :
    SourceUniform request e h := by
  cases e with
  | request d r a => cases r <;> first | exact trivial | exact absurd he id
  | dispatch t => exact absurd he id
  | _ => exact trivial

/-- Every move keeps the invariant of the sources: a registration unsets them, and they are set
anew for all devices. -/
theorem SourceInvariant.move {request : String} {s s' : System} (hmove : Move mayReset s s')
    (hs : SourceInvariant request s) : SourceInvariant request s' := by
  cases hmove with
  | neutral e he =>
      refine ⟨hs.request_eq, ?_, fun hset => ?_, sourceUniform_neutral he _, hs.uniform⟩
      · rw [registeredDevices_cons _ he.ne_registered]
        exact hs.registered
      · obtain ⟨source, hsource, haccepted⟩ := hs.accepted hset
        refine ⟨source, hsource, fun d hd => ?_⟩
        rw [acceptedSyncSource_cons _ he.ne_setSyncSource]
        exact haccepted d hd
  | desync => exact ⟨hs.request_eq, hs.registered, hs.accepted, hs.uniform⟩
  | register usrpName client hnew hflag =>
      refine ⟨hs.request_eq, ?_, fun hset => (nomatch hset), trivial, hs.uniform⟩
      rw [devices_register hnew, ← hs.registered]
      exact registeredDevices_registered usrpName client.address s.history
  | setSyncSource d source applied hset hsource =>
      -- not marked as set, so nothing is claimed of the devices yet
      refine ⟨hs.request_eq, hs.registered, fun hset' => ?_, ?_, hs.uniform⟩
      · rw [show s.syncSourceSet = true from hset'] at hset
        cases hset
      · show IsSyncSource _ (registeredDevices s.history).length source
        rw [hs.registered, ← hs.request_eq]
        exact calculateSyncSource_eq_ok hsource
  | resetTime d applied hreset =>
      exact ⟨hs.request_eq, hs.registered, hs.accepted, trivial, hs.uniform⟩
  | sourcesSet source hsource haccepted =>
      exact ⟨hs.request_eq, hs.registered, fun _ => ⟨source, hsource, haccepted⟩, hs.uniform⟩
  | synced h hset hchecked => exact ⟨hs.request_eq, hs.registered, hs.accepted, hs.uniform⟩
  | dispatch t hset hsynced =>
      refine ⟨hs.request_eq, hs.registered, hs.accepted, ?_, hs.uniform⟩
      obtain ⟨source, hsource, haccepted⟩ := hs.accepted hset
      refine ⟨source, ?_, by rw [hs.registered]; exact haccepted⟩
      rw [hs.registered, ← hs.request_eq]
      exact calculateSyncSource_eq_ok hsource
  | configure usrpClients hdevices =>
      -- the devices are the same, and with them the source that is due
      have hsame : devices { s with usrpClients := usrpClients } = s.devices := hdevices
      refine ⟨hs.request_eq, hs.registered.trans hsame.symm, fun hset => ?_, hs.uniform⟩
      rw [calculateSyncSource_configure hdevices, hsame]
      exact hs.accepted hset

/-- It holds at the start, where there is no device. -/
theorem sourceInvariant_create (request : String) : SourceInvariant request (create request) :=
  ⟨rfl, rfl, fun hset => (nomatch hset), trivial⟩

end

/-- **Uniform sync source.**  In every run of a system, whichever requests fail, an
execution starts only when all registered devices have accepted the same sync source: the
requested one, or in automatic mode `internal` for a single device and `external` for
several; and `internal` is never set with several devices. -/
theorem source_uniform (net : Network) (request : String) (ops : List Op) :
    Always (SourceUniform request) (Machine.run (step net) (create request) ops).history := by
  have hinvariant : SourceInvariant request (Machine.run (step net) (create request) ops) :=
    Machine.run_invariant (Q := fun _ _ => True) _
      (fun s op hs _ => step_invariant
        (fun _ _ (hmove : Move (fun _ => True) _ _) => SourceInvariant.move hmove) trivial
        (fun _ => trivial) hs)
      (sourceInvariant_create request) (Machine.AllSteps.of_forall fun _ _ => trivial)
  exact hinvariant.uniform

/-! ## The FPGA times -/

section

variable {net : Network} {mayReset : Bool → Prop}

/-- The last check stays valid while nothing is reset. -/
theorem synchronised_neutral {e : ClientEvent} {h : History} (he : e.Neutral)
    (hh : Synchronised h) : Synchronised (e :: h) := by
  unfold Synchronised
  rw [registeredDevices_cons _ he.ne_registered]
  exact Or.inr ⟨he.not_unsynchronises, hh⟩

theorem dispatchSynchronised_neutral {e : ClientEvent} (he : e.Neutral) (h : History) :
    DispatchSynchronised e h := by
  cases e with
  | dispatch t => exact absurd he id
  | _ => exact trivial

/-- While the flag is set, the system is synchronised. -/
structure ClockInvariant (s : System) : Prop where
  registered : registeredDevices s.history = s.devices
  sourceSet : s.usrpsSynced = true → s.syncSourceSet = true
  synchronised : s.usrpsSynced = true → Synchronised s.history
  dispatches : Always DispatchSynchronised s.history

/-- Every move keeps the invariant of the clocks, as long as no time is reset while the flag is
set. -/
theorem ClockInvariant.move {s s' : System} (hmove : Move (fun flag => flag = false) s s')
    (hs : ClockInvariant s) : ClockInvariant s' := by
  cases hmove with
  | neutral e he =>
      refine ⟨?_, hs.sourceSet, fun hflag => synchronised_neutral he (hs.synchronised hflag),
        dispatchSynchronised_neutral he _, hs.dispatches⟩
      rw [registeredDevices_cons _ he.ne_registered]
      exact hs.registered
  | desync => exact ⟨hs.registered, fun hflag => (nomatch hflag), fun hflag => (nomatch hflag),
      hs.dispatches⟩
  | register usrpName client hnew hflag =>
      have hunset {p : Prop} (hset : s.usrpsSynced = true) : p := by
        rw [hflag] at hset
        cases hset
      refine ⟨?_, hunset, hunset, trivial, hs.dispatches⟩
      rw [devices_register hnew, ← hs.registered]
      exact registeredDevices_registered usrpName client.address s.history
  | setSyncSource d source applied hset hsource =>
      -- the flag is not set either, since it is set only after the sync sources
      have hunset {p : Prop} (hflag : s.usrpsSynced = true) : p := by
        rw [hs.sourceSet hflag] at hset
        cases hset
      exact ⟨hs.registered, hunset, hunset, trivial, hs.dispatches⟩
  | resetTime d applied hreset =>
      -- with the flag set neither reason for a reset is left
      have hunset {p : Prop} (hflag : s.usrpsSynced = true) : p := by
        rw [hs.sourceSet hflag, hflag] at hreset
        exact absurd hreset (by decide)
      exact ⟨hs.registered, hunset, hunset, trivial, hs.dispatches⟩
  | sourcesSet source hsource haccepted =>
      exact ⟨hs.registered, fun _ => rfl, hs.synchronised, hs.dispatches⟩
  | synced h hset hchecked =>
      -- the check of the registered devices is the last event
      refine ⟨hs.registered, fun _ => hset, fun _ => ?_, hs.dispatches⟩
      show Synchronised s.history
      unfold Synchronised
      rw [hs.registered, hchecked]
      exact Or.inl ⟨rfl, rfl⟩
  | dispatch t hset hflag =>
      refine ⟨hs.registered, hs.sourceSet, fun hflag => ?_, hs.synchronised hflag, hs.dispatches⟩
      exact Or.inr ⟨id, hs.synchronised hflag⟩
  | configure usrpClients hdevices =>
      exact ⟨hs.registered.trans hdevices.symm, hs.sourceSet, hs.synchronised, hs.dispatches⟩

/-- It holds at the start, with the flag down. -/
theorem clockInvariant_create (request : String) : ClockInvariant (create request) :=
  ⟨rfl, fun hflag => (nomatch hflag), fun hflag => (nomatch hflag), trivial⟩

end

/-- `resetFpgaTimes` is called only while the flag is not set. -/
def ResetsUnsynced (s : System) (op : Op) : Prop := op = .resetFpgaTimes → s.usrpsSynced = false

/-- It holds after every run in which `resetFpgaTimes` is called with the flag down only. -/
theorem clockInvariant_run (net : Network) (request : String) {ops : List Op}
    (hops : Machine.AllSteps (step net) ResetsUnsynced (create request) ops) :
    ClockInvariant (Machine.run (step net) (create request) ops) :=
  Machine.run_invariant (Q := ResetsUnsynced) _
    (fun _ _ hs hop => step_invariant (fun _ _ hmove => ClockInvariant.move hmove) rfl hop hs)
    (clockInvariant_create request) hops

/-- **No unsynchronised dispatch.**  In every run of a system in which `resetFpgaTimes` is
called only while the flag is not set, whichever requests fail, an execution starts only
after a successful check of exactly the registered devices, with no device added, no
sync source changed and no FPGA time reset since. -/
theorem dispatch_synchronised (net : Network) (request : String) {ops : List Op}
    (hops : Machine.AllSteps (step net) ResetsUnsynced (create request) ops) :
    Always DispatchSynchronised (Machine.run (step net) (create request) ops).history :=
  (clockInvariant_run net request hops).dispatches

/-- Two executions, and a reset of the FPGA times between them. -/
def exampleReset : List Op :=
  [.newUsrp "192.168.189.131" "usrp1" 5555, .configureRfConfig "usrp1" {}, .execute,
    .resetFpgaTimes, .execute]

/-- The second execution starts although no check followed the reset. -/
theorem dispatch_synchronised_fails :
    ¬ Always DispatchSynchronised
      (Machine.run (step .reliable) (create "auto") exampleReset).history := by
  decide +kernel

/-- With the timer between the two executions, the second one starts after a check. -/
theorem dispatch_synchronised_example :
    Always DispatchSynchronised (Machine.run (step .reliable) (create "auto")
      [.newUsrp "192.168.189.131" "usrp1" 5555, .configureRfConfig "usrp1" {}, .execute,
        .timerExpires, .resetFpgaTimes, .execute]).history :=
  dispatch_synchronised .reliable "auto"
    ⟨fun h => (nomatch h), fun h => (nomatch h), fun h => (nomatch h), fun h => (nomatch h),
      fun _ => rfl, fun h => (nomatch h), trivial⟩

end System

end UsrpWrapper
