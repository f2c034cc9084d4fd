import UsrpWrapper.ServerNetwork
import UsrpWrapper.Synchronisation

/-!
# The sync source in force

A device remembers the sync source it has set last, and does nothing when it is asked for
this one.  If UHD throws after it has changed the source, the device remembers another one
than is in force, and a request for the one it remembers succeeds without effect.

A system does not run into this with a device that has just been started: it may go from
`internal` to `external`, but not back (`dueSource_mono`), so a source that is out of date
is never asked for again.  `source_in_force` puts this together with what the system knows
of its devices: when an execution starts, the due source is in force at all of them.
-/

namespace UsrpWrapper

open Lib Lib.Command Lib.Trace

/-! ## The source that is due -/

/-- The sync source for `n` devices. -/
def dueSource (request : String) (n : ℕ) : String :=
  if request = "auto" then if n ≤ 1 then "internal" else "external" else request

/-- More devices do not lead back to `internal`. -/
theorem dueSource_mono {request : String} {m n : ℕ} (hmn : m ≤ n)
    (hm : dueSource request m = "external") : dueSource request n = "external" := by
  unfold dueSource at hm ⊢
  by_cases hauto : request = "auto"
  · rw [if_pos hauto] at hm ⊢
    by_cases hone : m ≤ 1
    · rw [if_pos hone] at hm
      exact absurd hm (by decide)
    · exact if_neg (by omega)
  · rwa [if_neg hauto] at hm ⊢

/-- A sync source is set only if it is due, and an execution starts when all registered
devices have accepted the one that is due. -/
def SourceDue (request : String) (e : ClientEvent) (h : History) : Prop :=
  match e with
  | .request _ (.setSyncSource source) _ => source = dueSource request (registeredDevices h).length
  | .dispatch _ =>
      IsSyncSource request (registeredDevices h).length
        (dueSource request (registeredDevices h).length) ∧
      ∀ device ∈ registeredDevices h,
        acceptedSyncSource device h = some (dueSource request (registeredDevices h).length)
  | _ => True

namespace System

/-- The source that is calculated is the one that is due. -/
theorem eq_dueSource {s : System} {source : String} (hsource : calculateSyncSource s = .ok source) :
    source = dueSource s.syncSourceRequest s.devices.length := by
  unfold calculateSyncSource at hsource
  unfold dueSource
  rw [length_devices]
  split at hsource
  · rw [if_pos ‹_›]
    exact (Except.ok.inj hsource).symm
  · rw [if_neg ‹_›]
    split at hsource
    · cases hsource
    · exact (Except.ok.inj hsource).symm

/-- Only a request for a source can be wrong. -/
theorem sourceDue_neutral {request : String} {e : ClientEvent} (he : e.Neutral) (h : History) :
    SourceDue request e h := by
  cases e with
  | request d r a => cases r <;> first | exact trivial | exact absurd he id
  | dispatch t => exact absurd he id
  | _ => exact trivial

/-- The invariant of the sync source, and what the history says of it. -/
structure DueInvariant (request : String) (s : System) : Prop where
  source : SourceInvariant request s
  due : Always (SourceDue request) s.history

/-- Every move requests no other source than the one that is due. -/
theorem DueInvariant.move {mayReset : Bool → Prop} {request : String} {s s' : System}
    (hmove : Move mayReset s s') (hs : DueInvariant request s) : DueInvariant request s' := by
  refine ⟨hs.source.move hmove, ?_⟩
  cases hmove with
  | neutral e he => exact ⟨sourceDue_neutral he _, hs.due⟩
  | setSyncSource device source applied hset hsource =>
      refine ⟨?_, hs.due⟩
      have hdue := eq_dueSource hsource
      rwa [hs.source.request_eq, ← hs.source.registered] at hdue
  | dispatch t hset hsynced =>
      refine ⟨?_, hs.due⟩
      obtain ⟨source, hsource, haccepted⟩ := hs.source.accepted hset
      have hdue := eq_dueSource hsource
      have his := calculateSyncSource_eq_ok hsource
      rw [hs.source.request_eq, ← hs.source.registered] at hdue his
      rw [← hs.source.registered] at haccepted
      subst hdue
      exact ⟨his, haccepted⟩
  | register usrpName client hnew hflag => exact ⟨trivial, hs.due⟩
  | resetTime device applied hreset => exact ⟨trivial, hs.due⟩
  | desync => exact hs.due
  | sourcesSet source hsource haccepted => exact hs.due
  | synced h hset hchecked => exact hs.due
  | configure usrpClients hdevices => exact hs.due

/-- In every run only the source that is due is requested. -/
theorem sourceDue_run (net : Network) (request : String) (ops : List Op) :
    Always (SourceDue request) (Machine.run (step net) (create request) ops).history := by
  have hinvariant : DueInvariant request (Machine.run (step net) (create request) ops) :=
    Machine.run_invariant (Q := fun _ _ => True) _
      (fun s op hs _ => step_invariant
        (fun _ _ (hmove : Move (fun _ => True) _ _) => DueInvariant.move hmove) trivial
        (fun _ => trivial) hs)
      ⟨sourceInvariant_create request, trivial⟩ (Machine.AllSteps.of_forall fun _ _ => trivial)
  exact hinvariant.due

end System

/-! ## The server -/

namespace UsrpServer

variable {α : Type} {s s' : UsrpServer α}

/-- The sync source is the same, and so is the one the device remembers. -/
structure SameSource (s s' : UsrpServer α) : Prop where
  remembered : s'.currentSyncSource = s.currentSyncSource
  inForce : s'.syncSource = s.syncSource

theorem sameSource_onUsrp {β : Type} (x : Usrp.UsrpM α β) :
    Preserves (SameSource s) (onUsrp x) := by
  intro t ht
  unfold onUsrp
  cases x t.usrp with
  | ok b u => exact ⟨ht.remembered, ht.inForce⟩
  | error e u => exact ⟨ht.remembered, ht.inForce⟩

/-- Only the requests that set it concern the sync source. -/
theorem sameSource_serve {E : Environment α} {B : Binding α} {version : String}
    (a : ServerAnswers α) {r : Request} (hr : ∀ source, r ≠ .setSyncSource source) :
    Preserves (SameSource s) (serve E B version a r) := by
  cases r with
  | setSyncSource source => exact absurd rfl (hr source)
  | configureTx t samples n =>
      exact (Preserves.liftE _).bind fun _ => (Preserves.liftE _).bind fun _ =>
        (Preserves.liftE _).bind fun _ => sameSource_onUsrp _
  | configureRx rxConfig => exact (Preserves.liftE _).bind fun _ => sameSource_onUsrp _
  | configureRfConfig rfConfig => exact (Preserves.liftE _).bind fun _ => sameSource_onUsrp _
  | collect => exact (sameSource_onUsrp _).bind fun _ => Preserves.liftE _
  | resetStreamingConfigs => exact sameSource_onUsrp (modify Usrp.resetStreamingConfigs)
  | execute t => exact sameSource_onUsrp _
  | connect => exact Preserves.pure _
  | getVersion => exact Preserves.pure _
  | setTimeToZeroNextPps => exact Preserves.pure _
  | getCurrentFpgaTime => exact Preserves.pure _

/-- How a request for a sync source ends. -/
inductive SetSource (source : String) (a : ServerAnswers α) (s : UsrpServer α) :
    EStateM.Result ServerError (UsrpServer α) Unit → Prop
  | refused (e : ServerError) : SetSource source a s (.error e s)
  | remembered (hsame : s.currentSyncSource = source) : SetSource source a s (.ok () s)
  | set (hvalid : source = "internal" ∨ source = "external") :
      SetSource source a s (.ok () { s with syncSource := source, currentSyncSource := source })
  | outOfDate (hvalid : source = "internal" ∨ source = "external")
      (hother : s.currentSyncSource ≠ source) (hthrows : a.syncSource = .throws true) :
      SetSource source a s (.error (.device .uhd) { s with syncSource := source })

/-- `setSyncSource` on the server: nothing is done for a known source that it remembers; otherwise
UHD may fail before or after the change. -/
theorem setSource (source : String) (a : ServerAnswers α) (s : UsrpServer α) :
    SetSource source a s (setSyncSource source a s) := by
  unfold setSyncSource
  by_cases hinvalid : source ≠ "internal" ∧ source ≠ "external"
  · rw [check, if_pos hinvalid, bind_of_error (liftE_error _ s)]
    exact .refused _
  rw [check, if_neg hinvalid, bind_of_ok (liftE_ok () s), bind_of_ok (get_apply s)]
  have hvalid : source = "internal" ∨ source = "external" := by
    by_contra hneither
    exact hinvalid (not_or.mp hneither)
  by_cases hsame : s.currentSyncSource = source
  · rw [if_pos hsame]
    exact .remembered hsame
  · rw [if_neg hsame]
    cases hanswer : a.syncSource with
    | returns => exact .set hvalid
    | throws changed =>
        cases changed with
        | false => exact .refused _
        | true => exact .outOfDate hvalid hsame hanswer

end UsrpServer

/-! ## Both ends -/

namespace Deployment

open UsrpServer

variable {α : Type} {D : Deployment α} {device : Address} {request : String} {n : ℕ}
  {s s' : UsrpServer α}

/-- UHD does not fail after it has changed the sync source of the device. -/
def SetsOrKeeps (D : Deployment α) (device : Address) : Prop :=
  ∀ h, (D.answers h device).syncSource ≠ .throws true

/-- The sync source that is in force is the one the device remembers and the client knows
of; or `external` was set without the device or the client knowing, and is due. -/
inductive Known (request : String) (n : ℕ) (accepted : Option String) (s : UsrpServer α) : Prop
  | remembered (hsame : s.syncSource = s.currentSyncSource)
      (haccepted : ∀ source ∈ accepted, s.syncSource = source)
  | unnoticed (hremembered : s.currentSyncSource = "internal") (hforce : s.syncSource = "external")
      (hdue : dueSource request n = "external")
      (haccepted : ∀ source ∈ accepted, source = "internal")

/-- The device has been started for `internal`, and goes to `external` at most; or its
sync source never changes unnoticed. -/
inductive Advances (D : Deployment α) (device : Address) (request : String) (n : ℕ)
    (s : UsrpServer α) : Prop
  | internal (hremembered : s.currentSyncSource = "internal")
  | external (hremembered : s.currentSyncSource = "external")
      (hdue : dueSource request n = "external")
  | reliable (hsets : D.SetsOrKeeps device)

/-- What is known of the sync source of a server, given what the client knows. -/
structure Tracked (D : Deployment α) (device : Address) (request : String) (n : ℕ)
    (accepted : Option String) (s : UsrpServer α) : Prop where
  known : Known request n accepted s
  advances : Advances D device request n s

/-- What keeps the sources keeps the server tracked. -/
theorem Tracked.same {accepted : Option String} (hs : Tracked D device request n accepted s)
    (hsame : SameSource s s') : Tracked D device request n accepted s' := by
  obtain ⟨hremembered, hforce⟩ := hsame
  constructor
  · cases hs.known with
    | remembered hsame haccepted =>
        refine .remembered (by rw [hforce, hremembered, hsame]) fun source hsource => ?_
        rw [hforce]
        exact haccepted source hsource
    | unnoticed hinternal hexternal hdue haccepted =>
        exact .unnoticed (hremembered.trans hinternal) (hforce.trans hexternal) hdue haccepted
  · cases hs.advances with
    | internal hinternal => exact .internal (hremembered.trans hinternal)
    | external hexternal hdue => exact .external (hremembered.trans hexternal) hdue
    | reliable hsets => exact .reliable hsets

/-- More devices are registered. -/
theorem Tracked.mono {accepted : Option String} {m : ℕ} (hmn : n ≤ m)
    (hs : Tracked D device request n accepted s) : Tracked D device request m accepted s := by
  constructor
  · cases hs.known with
    | remembered hsame haccepted => exact .remembered hsame haccepted
    | unnoticed hinternal hexternal hdue haccepted =>
        exact .unnoticed hinternal hexternal (dueSource_mono hmn hdue) haccepted
  · cases hs.advances with
    | internal hinternal => exact .internal hinternal
    | external hexternal hdue => exact .external hexternal (dueSource_mono hmn hdue)
    | reliable hsets => exact .reliable hsets

/-- The threads have no part in the source. -/
theorem sameSource_advance {E : Environment α} (a : ServerAnswers α) (s : UsrpServer α) :
    SameSource s (UsrpServer.advance E a s) :=
  ⟨rfl, rfl⟩

/-- Requests that do not set the sync source leave it as it is. -/
theorem sameSource_handle {h : History} {r : Request} (hr : ∀ source, r ≠ .setSyncSource source) :
    SameSource s (D.handle h device r s).2 := by
  have hadvanced : SameSource s (UsrpServer.advance (D.E device) (D.answers h device) s) :=
    sameSource_advance _ s
  have hanswer := @sameSource_serve α s (D.E device) D.B D.version (D.answers h device) r hr _
    hadvanced
  rw [← answer_snd] at hanswer
  have hcases := handled D h device r s
  generalize D.handle h device r s = p at hcases ⊢
  cases hcases with
  | dropped => exact hadvanced
  | answered ended => exact hanswer
  | unheard ended => exact hanswer

/-- **One request for the due source.**  If it is carried out, the source is in force. -/
theorem tracked_setSyncSource {accepted : Option String} {source : String} (a : ServerAnswers α)
    (ha : D.SetsOrKeeps device → a.syncSource ≠ .throws true) (hdue : source = dueSource request n)
    (hs : Tracked D device request n accepted s) :
    Tracked D device request n
      (if (D.answer device a (.setSyncSource source) s).1.applied = true then some source
        else accepted)
      (D.answer device a (.setSyncSource source) s).2 := by
  rw [answer_of_serve device a (by rintro ⟨⟩)]
  have hserve : UsrpServer.serve (D.E device) D.B D.version a (.setSyncSource source) s =
      UsrpServer.setSyncSource source a s := rfl
  have hcases := setSource source a s
  rw [← hserve] at hcases
  generalize UsrpServer.serve (D.E device) D.B D.version a (.setSyncSource source) s = result
    at hcases ⊢
  cases hcases with
  | refused e => exact hs
  | remembered hsame =>
      refine ⟨?_, hs.advances⟩
      cases hs.known with
      | remembered hforce haccepted =>
          exact .remembered hforce fun _ hsource => by
            rw [← Option.mem_some_iff.mp hsource, hforce, hsame]
      | unnoticed hinternal hexternal hexternalDue haccepted =>
          -- the source that is out of date is not due
          rw [hinternal, hdue, hexternalDue] at hsame
          exact absurd hsame (by decide)
  | set hvalid =>
      refine ⟨.remembered rfl fun _ hsource => Option.mem_some_iff.mp hsource, ?_⟩
      rcases hvalid with rfl | rfl
      · exact .internal rfl
      · exact .external rfl hdue.symm
  | outOfDate hvalid hother hthrows =>
      have hnot : ¬ D.SetsOrKeeps device := fun hsets => ha hsets hthrows
      -- only `external` can be set without the device noticing
      have hinternal : s.currentSyncSource = "internal" := by
        cases hs.advances with
        | internal hinternal => exact hinternal
        | external hexternal hexternalDue =>
            exact absurd (hexternal.trans (hdue.trans hexternalDue).symm) hother
        | reliable hsets => exact absurd hsets hnot
      have hexternal : source = "external" := by
        rcases hvalid with rfl | rfl
        · exact absurd hinternal hother
        · rfl
      refine ⟨.unnoticed hinternal hexternal (hdue.symm.trans hexternal) ?_, .internal hinternal⟩
      cases hs.known with
      | remembered hforce haccepted =>
          intro known hknown
          rw [← haccepted known hknown, hforce, hinternal]
      | unnoticed _ _ _ haccepted => exact haccepted

/-- A request for the source that is due leaves the server tracked, even when UHD fails in it. -/
theorem tracked_handle {accepted : Option String} {h : History} {source : String}
    (hdue : source = dueSource request n) (hs : Tracked D device request n accepted s) :
    Tracked D device request n
      (if (D.handle h device (.setSyncSource source) s).1.applied = true then some source
        else accepted)
      (D.handle h device (.setSyncSource source) s).2 := by
  have hadvanced := hs.same (sameSource_advance (E := D.E device) (D.answers h device) s)
  have hanswer := tracked_setSyncSource (D.answers h device) (fun hsets => hsets h) hdue hadvanced
  have hcases := handled D h device (.setSyncSource source) s
  generalize D.handle h device (.setSyncSource source) s = p at hcases ⊢
  cases hcases with
  | dropped => exact hadvanced
  | answered ended => exact hanswer
  | unheard ended => exact hanswer

/-! ### Histories -/

theorem acceptedSyncSource_other {d : Address} {r : Request} {applied : Bool} (hd : d ≠ device)
    (h : History) :
    acceptedSyncSource device (.request d r applied :: h) = acceptedSyncSource device h := by
  cases applied with
  | false => cases r <;> rfl
  | true => cases r <;> simp [acceptedSyncSource, hd]

theorem acceptedSyncSource_set (device : Address) (source : String) (applied : Bool) (h : History) :
    acceptedSyncSource device (.request device (.setSyncSource source) applied :: h) =
      if applied = true then some source else acceptedSyncSource device h := by
  cases applied with
  | false => rfl
  | true => exact acceptedSyncSource_accept device source h

theorem registeredDevices_length_mono (e : ClientEvent) (h : History) :
    (registeredDevices h).length ≤ (registeredDevices (e :: h)).length := by
  cases e with
  | registered n d => simp
  | _ => exact le_rfl

/-- What is known of the device after the history. -/
def TrackedAt (D : Deployment α) (request : String) (h : History) (device : Address) : Prop :=
  match D.serverAt h device with
  | none => acceptedSyncSource device h = none
  | some s => Tracked D device request (registeredDevices h).length (acceptedSyncSource device h) s

/-- An execution starts when the sync source that is due is in force at all registered
devices. -/
def DispatchInForce (D : Deployment α) (request : String) (e : ClientEvent) (h : History) : Prop :=
  match e with
  | .dispatch _ => ∃ source, IsSyncSource request (registeredDevices h).length source ∧
      ∀ device ∈ registeredDevices h, ∃ s, D.serverAt h device = some s ∧ s.syncSource = source
  | _ => True

/-- The invariant of the sources in force. -/
structure InForceInvariant (D : Deployment α) (request : String) (h : History) : Prop where
  dispatches : Always (DispatchInForce D request) h
  tracked : ∀ device, TrackedAt D request h device

/-- An event that is none of the device's requests. -/
theorem trackedAt_cons {e : ClientEvent} {h : History}
    (hserver : D.serverAt (e :: h) device = D.serverAt h device)
    (haccepted : acceptedSyncSource device (e :: h) = acceptedSyncSource device h)
    (hh : TrackedAt D request h device) : TrackedAt D request (e :: h) device := by
  unfold TrackedAt at hh ⊢
  rw [hserver, haccepted]
  cases hs : D.serverAt h device with
  | none =>
      rw [hs] at hh
      exact hh
  | some s =>
      rw [hs] at hh
      exact hh.mono (registeredDevices_length_mono e h)

/-- **A request.** -/
theorem trackedAt_request {h : History} {d : Address} {r : Request}
    (hdue : SourceDue request (.request d r (D.network h d r).applied) h)
    (hh : TrackedAt D request h device) :
    TrackedAt D request (.request d r (D.network h d r).applied :: h) device := by
  by_cases hd : d = device
  · subst hd
    unfold TrackedAt at hh ⊢
    rw [serverAt_same]
    cases hserver : D.serverAt h d with
    | none =>
        -- without a server nothing is accepted
        rw [hserver] at hh
        have hnetwork : (D.network h d r).applied = false := by
          rw [network, hserver]
          rfl
        rw [hnetwork]
        cases r <;> exact hh
    | some s =>
        rw [hserver] at hh
        rw [network_of_server r hserver] at hdue ⊢
        show Tracked D d request (registeredDevices h).length _ (D.handle h d r s).2
        by_cases hset : ∃ source, r = .setSyncSource source
        · obtain ⟨source, rfl⟩ := hset
          rw [acceptedSyncSource_set]
          exact tracked_handle hdue hh
        · have hother : ∀ source, r ≠ .setSyncSource source := fun source heq => hset ⟨source, heq⟩
          rw [acceptedSyncSource_cons]
          · exact hh.same (sameSource_handle hother)
          · rintro _ source _ ⟨⟩
            exact hset ⟨source, rfl⟩
  · refine trackedAt_cons (serverAt_other h ?_) (acceptedSyncSource_other hd h) hh
    rintro r' applied ⟨⟩
    exact hd rfl

/-- The start of an execution. -/
theorem inForce_of_due {h : History} {t : ℚ} (hdue : SourceDue request (.dispatch t) h)
    (hh : ∀ device, TrackedAt D request h device) : DispatchInForce D request (.dispatch t) h := by
  obtain ⟨his, haccepted⟩ := hdue
  refine ⟨_, his, fun device hdevice => ?_⟩
  have hknown := hh device
  unfold TrackedAt at hknown
  rw [haccepted device hdevice] at hknown
  cases hserver : D.serverAt h device with
  | none =>
      rw [hserver] at hknown
      cases hknown
  | some s =>
      rw [hserver] at hknown
      refine ⟨s, rfl, ?_⟩
      cases Tracked.known hknown with
      | remembered hsame haccepted => exact haccepted _ rfl
      | unnoticed hinternal hexternal hexternalDue haccepted =>
          have hbad := haccepted _ rfl
          rw [hexternalDue] at hbad
          exact absurd hbad (by decide)

/-- Every request of the network keeps the servers tracked. -/
theorem chronicled_inForce (D : Deployment α) (request : String) :
    Chronicled D.network (fun _ => True) fun h =>
      Always (SourceDue request) h → InForceInvariant D request h := by
  refine .of_events ?_ ?_
  · rintro h d r - hbefore ⟨hdue, hdues⟩
    obtain ⟨hdispatches, htracked⟩ := hbefore hdues
    exact ⟨⟨trivial, hdispatches⟩, fun device => trackedAt_request hdue (htracked device)⟩
  · rintro h e he hbefore ⟨hdue, hdues⟩
    obtain ⟨hdispatches, htracked⟩ := hbefore hdues
    refine ⟨⟨?_, hdispatches⟩, fun device => ?_⟩
    · cases e with
      | dispatch t => exact inForce_of_due hdue htracked
      | _ => exact trivial
    · exact trackedAt_cons (serverAt_other h fun r applied => he device r applied)
        (acceptedSyncSource_cons h fun d source a => he d _ a) (htracked device)

/-- The server starts with the sync source in force that its device remembers: `internal`,
unless UHD never fails after it has changed the source. -/
def StartsKnown (D : Deployment α) (device : Address) (s : UsrpServer α) : Prop :=
  s.syncSource = s.currentSyncSource ∧
    (s.currentSyncSource = "internal" ∨ D.SetsOrKeeps device)

/-- What is known after every part of a run. -/
theorem inForceInvariant_run (D : Deployment α) (request : String)
    (hstart : ∀ device, ∀ s ∈ D.servers device, StartsKnown D device s) (ops : List System.Op)
    {h : History}
    (hsuffix : h <:+ (Machine.run (System.step D.network) (System.create request) ops).history) :
    InForceInvariant D request h := by
  have hinitial : InForceInvariant D request [] := by
    refine ⟨trivial, fun device => ?_⟩
    unfold TrackedAt
    cases hserver : D.serverAt [] device with
    | none => rfl
    | some s =>
        obtain ⟨hsame, hadvances⟩ := hstart device s hserver
        refine ⟨.remembered hsame (fun _ hsource => nomatch hsource), ?_⟩
        rcases hadvances with hinternal | hsets
        · exact .internal hinternal
        · exact .reliable hsets
  have hrun := (chronicled_inForce D request).suffixes.run (s := System.create request)
    (fun h₀ hnil _ => by rwa [List.suffix_nil.mp hnil]) ops
  refine hrun h hsuffix (always_iff.mpr fun e h₀ hcons => ?_)
  exact always_iff.mp (System.sourceDue_run D.network request ops) e h₀ (hcons.trans hsuffix)

/-- **The sync source that is due is in force.**  In every run of a system on a deployment
whose devices have just been started, or never change their sync source unnoticed, an
execution starts only when the same source is in force at all registered devices: the
requested one, or in automatic mode `internal` for a single device and `external` for
several.  This holds whatever is lost on the way, and also if UHD fails in the middle of a
change. -/
theorem source_in_force (D : Deployment α) (request : String)
    (hstart : ∀ device, ∀ s ∈ D.servers device, StartsKnown D device s) (ops : List System.Op) :
    Always (DispatchInForce D request)
      (Machine.run (System.step D.network) (System.create request) ops).history :=
  (inForceInvariant_run D request hstart ops (List.suffix_refl _)).dispatches

/-- Some servers; UHD sometimes fails after it has changed the source. -/
def exampleInterrupted (server : UsrpServer Wire) : Deployment Wire :=
  { exampleDeployment with
    servers := fun device => if device.2 = 5555 then some server else none
    answers := fun h _ => { exampleServerAnswers with
      syncSource := if h.length % 3 = 2 then .throws true else .returns }
    link := fun _ _ _ => .delivers }

theorem startsKnown_example {D : Deployment Wire} {device : Address} {s : UsrpServer Wire}
    (hs : (if device.2 = 5555 then some exampleServer else none) = some s) :
    StartsKnown D device s := by
  split at hs
  · obtain rfl := Option.some.inj hs
    exact ⟨rfl, Or.inl rfl⟩
  · cases hs

/-- The first execution fails while it sets the sync source of the second device. -/
def exampleTwoDevices : List System.Op :=
  [.newUsrp "192.168.189.131" "usrp1" 5555, .newUsrp "192.168.189.132" "usrp2" 5555,
    .execute, .execute]

theorem source_in_force_example :
    Always (DispatchInForce (exampleInterrupted exampleServer) "auto")
      (Machine.run (System.step (exampleInterrupted exampleServer).network) (System.create "auto")
        exampleTwoDevices).history :=
  source_in_force (exampleInterrupted exampleServer) "auto"
    (fun _ _ hs => startsKnown_example hs) exampleTwoDevices

/-- A device that was left at `external`: its source is changed unnoticed while it is alone,
and the request for `external` after the second one has been added has no effect. -/
example : let D := exampleInterrupted ⟨Usrp.exampleUsrp, "external", "external"⟩
    let s := Machine.run (System.step D.network) (System.create "auto")
      [.newUsrp "192.168.189.131" "usrp1" 5555, .execute,
        .newUsrp "192.168.189.132" "usrp2" 5555, .execute]
    acceptedSyncSource ("192.168.189.131", 5555) s.history = some "external" ∧
      (D.serverAt s.history ("192.168.189.131", 5555)).map UsrpServer.syncSource =
        some "internal" := by
  decide +kernel

end Deployment

end UsrpWrapper
