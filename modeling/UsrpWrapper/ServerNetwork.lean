import UsrpWrapper.UsrpServer
import UsrpWrapper.Registration
import UsrpWrapper.Cycles

/-!
# The network of the servers

A `Deployment` has a server at some addresses, and a connection that may lose a request,
or the reply to it.  The state of a server is a function of the history (`serverAt`), and
so is what it answers: a deployment is one of the networks a `System` runs on.

`registered_holds` compares the two ends: after any calls of the user, and whatever is
lost in between, a registered device holds exactly the streaming configs whose requests
were carried out since it was last cleared, in this order.
-/

namespace UsrpWrapper

open Lib Lib.Command Lib.Trace

/-! ## Histories of a network -/

/-- The request concerns neither the configs nor the streams of the device. -/
def Request.idle : Request → Bool
  | .connect => true
  | .getVersion => true
  | .setSyncSource _ => true
  | .setTimeToZeroNextPps => true
  | .getCurrentFpgaTime => true
  | _ => false

theorem returns_of_request {net : Network} {device : Address} {r : Request} {value : r.Result}
    {h h' : History} (hok : UsrpWrapper.request net device r h = .ok value h') :
    net h device r = .returns value := by
  unfold UsrpWrapper.request at hok
  cases hreply : net h device r with
  | returns v =>
      rw [hreply] at hok
      cases hok
      rfl
  | fails failure applied =>
      rw [hreply] at hok
      cases hok

/-- The devices are asked for their FPGA times one after another, and all of them answer. -/
inductive Readings (net : Network) : History → List Address → List ℚ → History → Prop
  | nil (h : History) : Readings net h [] [] h
  | cons {h h' : History} {device : Address} {devices : List Address} {t : ℚ} {times : List ℚ}
      (hreply : net h device .getCurrentFpgaTime = .returns t)
      (hrest : Readings net (.request device .getCurrentFpgaTime true :: h) devices times h') :
      Readings net h (device :: devices) (t :: times) h'

/-- The history ends with readings of the devices, which the check found to agree or not. -/
def CheckedBy (net : Network) (devices : List Address) (valid : Bool) (h : History) : Prop :=
  ∃ h₀ times, Readings net h₀ devices times h ∧ System.timesValid times = .ok valid

/-- Requests of the kind `K` keep the property, with the reply of the network; so do checks
of what the network replied, and all other events. -/
structure Chronicled (net : Network) (K : Request → Prop) (J : History → Prop) : Prop where
  request : ∀ h device r, K r → J h → J (.request device r (net h device r).applied :: h)
  checked : ∀ h devices valid, CheckedBy net devices valid h → J h →
    J (.checked devices valid :: h)
  other : ∀ h e, (∀ device r applied, e ≠ .request device r applied) →
    (∀ devices valid, e ≠ .checked devices valid) → J h → J (e :: h)

namespace System

/-- Reading the times of all devices, one request after the other. -/
theorem readings_of_mapM {net : Network} {usrps : List LabeledUsrp} {times : List ℚ}
    {s s' : System}
    (hok : (usrps.mapM fun item => onHistory (item.client.getCurrentFpgaTime net)) s =
      .ok times s') :
    Readings net s.history (usrps.map LabeledUsrp.address) times s'.history ∧
      s'.usrpClients = s.usrpClients := by
  induction usrps generalizing s times with
  | nil =>
      cases hok
      exact ⟨.nil _, rfl⟩
  | cons u usrps ih =>
      rw [List.mapM_cons] at hok
      obtain ⟨t, s₁, hread, hok⟩ := bind_eq_ok_iff.mp hok
      obtain ⟨ts, s₂, hrest, hpure⟩ := bind_eq_ok_iff.mp hok
      cases hpure
      obtain ⟨h₁, hrequest, rfl⟩ := onField_eq_ok_iff.mp hread
      obtain ⟨hreadings, hclients⟩ := ih hrest
      obtain rfl := request_eq_ok hrequest
      exact ⟨.cons (returns_of_request hrequest) hreadings, hclients⟩

/-- The readings of all registered devices. -/
theorem readings_of_getCurrentFpgaTimes {net : Network} {times : List ℚ} {s s' : System}
    (hok : getCurrentFpgaTimes net s = .ok times s') :
    Readings net s.history s'.devices times s'.history := by
  obtain ⟨s₁, s₂, hget, hok⟩ := bind_eq_ok_iff.mp hok
  cases hget
  obtain ⟨hreadings, hclients⟩ := readings_of_mapM hok
  have hdevices : s'.devices = s.devices := by rw [devices, hclients, devices]
  rw [hdevices]
  exact hreadings

end System

namespace Chronicled

open UsrpWrapper.System

/-- What a check has found does not matter. -/
theorem of_events {net : Network} {K : Request → Prop} {J : History → Prop}
    (hrequest : ∀ h device r, K r → J h → J (.request device r (net h device r).applied :: h))
    (hother : ∀ h e, (∀ device r applied, e ≠ .request device r applied) → J h → J (e :: h)) :
    Chronicled net K J := by
  refine ⟨hrequest, fun h devices valid _ hh => hother h _ ?_ hh, fun h e he _ => hother h e he⟩
  rintro device r applied ⟨⟩

/-- A property of all histories that led to this one. -/
theorem suffixes {net : Network} {K : Request → Prop} {J : History → Prop}
    (hJ : Chronicled net K J) : Chronicled net K fun h => ∀ h₀, h₀ <:+ h → J h₀ := by
  have hcons {h : History} {e : ClientEvent} (hh : ∀ h₀, h₀ <:+ h → J h₀)
      (he : J h → J (e :: h)) : ∀ h₀, h₀ <:+ e :: h → J h₀ := by
    intro h₀ hsuffix
    rcases List.suffix_cons_iff.mp hsuffix with rfl | hsuffix
    · exact he (hh h (List.suffix_refl h))
    · exact hh h₀ hsuffix
  constructor
  · exact fun h device r hr hh => hcons hh (hJ.request h device r hr)
  · exact fun h devices valid hchecked hh => hcons hh (hJ.checked h devices valid hchecked)
  · exact fun h e he hchecked hh => hcons hh (hJ.other h e he hchecked)

/-- Two properties. -/
theorem and {net : Network} {K : Request → Prop} {J J' : History → Prop}
    (hJ : Chronicled net K J) (hJ' : Chronicled net K J') :
    Chronicled net K fun h => J h ∧ J' h := by
  constructor
  · exact fun h device r hr hh => ⟨hJ.request h device r hr hh.1, hJ'.request h device r hr hh.2⟩
  · exact fun h devices valid hchecked hh =>
      ⟨hJ.checked h devices valid hchecked hh.1, hJ'.checked h devices valid hchecked hh.2⟩
  · exact fun h e he hchecked hh =>
      ⟨hJ.other h e he hchecked hh.1, hJ'.other h e he hchecked hh.2⟩

section

variable {net : Network} {K : Request → Prop} {J : History → Prop} (hJ : Chronicled net K J)

include hJ

/-- Sending an admissible request keeps the property. -/
theorem sends (device : Address) {r : Request} (hr : K r) :
    Preserves J (UsrpWrapper.request net device r) := by
  intro h hh
  rw [finalState_request]
  exact hJ.request h device r hr hh

/-- Recording an event of the client keeps it. -/
theorem records {e : ClientEvent} (he : ∀ device r applied, e ≠ .request device r applied)
    (hchecked : ∀ devices valid, e ≠ .checked devices valid) :
    Preserves J (record e : RpcM Unit) :=
  Preserves.modify fun h => hJ.other h e he hchecked

omit hJ in
/-- A computation on the history, in terms of the system. -/
theorem onHistory {β : Type} {x : RpcM β} (hx : Preserves J x) :
    Preserves (fun s : System => J s.history) (System.onHistory x) :=
  preserves_onHistory fun _ => hx

theorem onRequest (device : Address) {r : Request} (hr : K r) :
    Preserves (fun s : System => J s.history)
      (System.onHistory (UsrpWrapper.request net device r)) :=
  onHistory (hJ.sends device hr)

/-- The dispatch keeps the property, if `execute` requests do. -/
theorem dispatch {baseTimeSec : ℚ} (hexecute : K (.execute baseTimeSec)) :
    Preserves (fun s : System => J s.history) (System.dispatch net baseTimeSec) := by
  refine (onHistory (hJ.records (by rintro _ _ _ ⟨⟩) (by rintro _ _ ⟨⟩))).bind fun _ =>
    (preserves_catchRemoteUsrpErrors fun n => (Preserves.reads _).bind fun usrp => ?_).bind
      fun _ => Preserves.pure _
  refine onHistory (Preserves.bind (hJ.records (by rintro _ _ _ ⟨⟩) (by rintro _ _ ⟨⟩)) fun _ => ?_)
  split
  · exact hJ.sends _ hexecute
  · exact Preserves.throw _

/-! Calls that only send idle requests. -/

variable (hidle : ∀ r, r.idle = true → K r)
include hidle

theorem setTimeToZeroNextPps :
    Preserves (fun s : System => J s.history) (System.setTimeToZeroNextPps net) :=
  Preserves.get.bind fun _ => Preserves.forM fun _ _ => hJ.onRequest _ (hidle _ rfl)

theorem getCurrentFpgaTimes :
    Preserves (fun s : System => J s.history) (System.getCurrentFpgaTimes net) :=
  Preserves.get.bind fun _ => Preserves.mapM fun _ _ => hJ.onRequest _ (hidle _ rfl)

/-- A check of the synchronisation keeps the property. -/
theorem synchronisationValid :
    Preserves (fun s : System => J s.history) (System.synchronisationValid net) := by
  intro s hs
  have hread := hJ.getCurrentFpgaTimes hidle s hs
  cases hcall : System.getCurrentFpgaTimes net s with
  | error e s' =>
      rw [hcall] at hread
      rwa [System.synchronisationValid, bind_of_error hcall]
  | ok times s' =>
      rw [hcall] at hread
      rw [System.synchronisationValid, bind_of_ok hcall]
      cases hvalid : timesValid times with
      | error e => exact hread
      | ok valid =>
          exact hJ.checked _ _ valid ⟨_, times, readings_of_getCurrentFpgaTimes hcall, hvalid⟩ hread

theorem attemptSync (n : ℕ) :
    Preserves (fun s : System => J s.history) (System.attemptSync net n) := by
  induction n with
  | zero => exact Preserves.throw _
  | succ n ih =>
      refine (hJ.setTimeToZeroNextPps hidle).bind fun _ =>
        (hJ.synchronisationValid hidle).bind fun valid => ?_
      split
      · exact Preserves.modify fun _ hs => hs
      · exact ih

/-- The synchronisation as a whole keeps the property. -/
theorem synchronizeUsrps :
    Preserves (fun s : System => J s.history) (System.synchronizeUsrps net) := by
  refine Preserves.bind (Preserves.get.bind fun s => ?_) fun _ => Preserves.get.bind fun s => ?_
  · split
    · exact Preserves.pure ()
    · refine (Preserves.reads _).bind fun source => ?_
      refine (Preserves.forM fun u _ => hJ.onRequest _ (hidle _ rfl)).bind fun _ => ?_
      exact (hJ.setTimeToZeroNextPps hidle).bind fun _ => Preserves.modify fun _ hs => hs
  · split
    · exact Preserves.pure ()
    · refine (hJ.synchronisationValid hidle).bind fun valid => ?_
      split
      · exact Preserves.modify fun _ hs => hs
      · exact hJ.attemptSync hidle syncAttempts

/-- So does `execute` up to the dispatch. -/
theorem prepareExecute :
    Preserves (fun s : System => J s.history) (System.prepareExecute net) := by
  refine (hJ.synchronizeUsrps hidle).bind fun _ => (hJ.getCurrentFpgaTimes hidle).bind
    fun times => ?_
  exact (Preserves.liftE _).bind fun _ => Preserves.pure _

end

/-! Calls that send other requests. -/

section

variable {net : Network} {J : History → Prop} (hJ : Chronicled net (fun _ => True) J)

include hJ

/-- Registering a device keeps the property. -/
theorem addUsrp (usrpName : String) (client : UsrpClient) :
    Preserves (fun s : System => J s.history) (System.addUsrp net usrpName client) := by
  refine preserves_labelRemoteError (Preserves.bind (Preserves.modify fun _ hs => hs) fun _ => ?_)
  refine (Preserves.reads _).bind fun _ => (hJ.onRequest _ trivial).bind fun _ => ?_
  refine (hJ.onRequest _ trivial).bind fun _ => Preserves.bind (Preserves.modify fun s hs => ?_)
    fun _ => Preserves.pure _
  exact hJ.other _ _ (fun _ _ _ heq => nomatch heq) (fun _ _ heq => nomatch heq) hs

theorem newUsrp (ip usrpName : String) (port : ℕ) :
    Preserves (fun s : System => J s.history) (System.newUsrp net ip usrpName port) := by
  refine (preserves_labelRemoteError (onHistory ?_)).bind fun client => hJ.addUsrp usrpName client
  exact (hJ.sends _ trivial).bind fun _ => (hJ.sends _ trivial).bind fun _ => Preserves.pure _

/-- Configs keep the property, if the requests do. -/
theorem configureTx (usrpName : String) (conf : PyTxStreamingConfig) :
    Preserves (fun s : System => J s.history) (System.configureTx net usrpName conf) := by
  refine (Preserves.liftE _).bind fun _ => (Preserves.reads _).bind fun usrp => onHistory ?_
  unfold UsrpClient.configureTx
  split
  · exact Preserves.throw _
  · exact hJ.sends _ trivial

theorem configureRx (usrpName : String) (conf : PyRxStreamingConfig) :
    Preserves (fun s : System => J s.history) (System.configureRx net usrpName conf) :=
  (Preserves.reads _).bind fun _ => hJ.onRequest _ trivial

theorem configureRfConfig (usrpName : String) (conf : PyRfConfig) :
    Preserves (fun s : System => J s.history) (System.configureRfConfig net usrpName conf) := by
  refine (Preserves.reads _).bind fun usrp => Preserves.onField (fun _ p => J p.2)
    (fun _ hs => hs) (fun _ _ => ?_) fun _ _ _ hp => hp
  refine Preserves.bind (Preserves.modify fun _ hp => hp) fun _ => Preserves.get.bind fun p => ?_
  exact Preserves.onField (fun _ h => J h) (fun _ hp => hp) (fun _ _ => hJ.sends _ trivial)
    fun _ _ _ hh => hh

theorem collect : Preserves (fun s : System => J s.history) (System.collect net) := by
  refine (preserves_catchRemoteUsrpErrors fun n => (Preserves.reads _).bind fun usrp =>
    onHistory ?_).bind fun samples => (Preserves.liftE _).bind fun _ => Preserves.pure _
  refine (hJ.sends _ trivial).bind fun serialized => ?_
  split
  · exact Preserves.throw _
  · exact Preserves.pure _

/-- **Every call keeps the property**, whichever requests fail. -/
theorem step (s : System) (op : Op) (hs : J s.history) : J (System.step net s op).history := by
  have hidle : ∀ r : Request, r.idle = true → True := fun _ _ => trivial
  cases op with
  | newUsrp ip usrpName port => exact hJ.newUsrp ip usrpName port s hs
  | addUsrp usrpName client => exact hJ.addUsrp usrpName client s hs
  | resetFpgaTimes => exact hJ.setTimeToZeroNextPps hidle s hs
  | getCurrentFpgaTimes => exact hJ.getCurrentFpgaTimes hidle s hs
  | synchronisationValid => exact hJ.synchronisationValid hidle s hs
  | synchronizeUsrps => exact hJ.synchronizeUsrps hidle s hs
  | configureTx usrpName conf => exact hJ.configureTx usrpName conf s hs
  | configureRx usrpName conf => exact hJ.configureRx usrpName conf s hs
  | configureRfConfig usrpName conf => exact hJ.configureRfConfig usrpName conf s hs
  | execute =>
      have hexecute : Preserves (fun s : System => J s.history) (System.execute net) :=
        (hJ.prepareExecute hidle).bind fun t => hJ.dispatch trivial
      exact hexecute s hs
  | collect => exact hJ.collect s hs
  | timerExpires => exact hs

/-- A property that all requests keep holds after every run. -/
theorem run {s : System} (hs : J s.history) (ops : List Op) :
    J (Machine.run (System.step net) s ops).history :=
  Machine.run_invariant (Q := fun _ _ => True) (fun s => J s.history)
    (fun s op hs _ => hJ.step s op hs) hs (Machine.AllSteps.of_forall fun _ _ => trivial)

end

end Chronicled

/-! ## Registered devices -/

namespace System

/-- The same devices are registered, and the history has grown. -/
structure Grown (s t : System) : Prop where
  devices : t.devices = s.devices
  history : s.history <:+ t.history

/-- Registered devices have different addresses, and were reset. -/
structure RegisteredOk (s : System) : Prop where
  nodup : s.devices.Nodup
  reset : ∀ d ∈ s.devices, .request d .resetStreamingConfigs true ∈ s.history

section

variable {net : Network} {s t : System}

theorem grown_refl (s : System) : Grown s s := ⟨rfl, List.suffix_refl _⟩

theorem grown_keepsEvent (e : ClientEvent) : KeepsEvent (Grown s) e :=
  fun _ ht => ⟨ht.devices, ht.history.trans (List.suffix_cons _ _)⟩

/-- While nobody is registered, the registered devices stay in order. -/
theorem Grown.registeredOk (h : Grown s t) (hs : RegisteredOk s) : RegisteredOk t := by
  refine ⟨?_, fun d hd => h.history.subset (hs.reset d ?_)⟩
  · rw [h.devices]
    exact hs.nodup
  · rwa [h.devices] at hd

/-- A client that is known is replaced in its place. -/
theorem configureRfConfig_cases (net : Network) (usrpName : String) (conf : PyRfConfig)
    (s : System) :
    finalState (configureRfConfig net usrpName conf s) = s ∨
      ∃ u applied, s.usrpClients.lookup usrpName = some u ∧
        finalState (configureRfConfig net usrpName conf s) =
          { s with
            usrpClients := Dict.set usrpName
              ⟨u.name, { u.client with rfConfiguredOnce := true }⟩ s.usrpClients
            history := .request u.address (.configureRfConfig conf) applied :: s.history } := by
  unfold configureRfConfig
  cases hfound : s.usrpClients.lookup usrpName with
  | none =>
      have hnone : labeledUsrp usrpName s = .error (.keyError usrpName) s :=
        reads_eq_error_iff.mpr ⟨by rw [hfound], rfl⟩
      rw [bind_of_error hnone]
      exact Or.inl rfl
  | some u =>
      have hsome : labeledUsrp usrpName s = .ok u s := reads_eq_ok_iff.mpr ⟨by rw [hfound], rfl⟩
      obtain ⟨applied, hfinal⟩ := finalState_configureRfConfig net conf u.client s.history
      rw [bind_of_ok hsome, finalState_onField, hfinal]
      exact Or.inr ⟨u, applied, rfl, rfl⟩

theorem grown_configureRfConfig (usrpName : String) (conf : PyRfConfig) :
    Preserves (Grown s) (configureRfConfig net usrpName conf) := by
  intro t ht
  rcases configureRfConfig_cases net usrpName conf t with hsame | ⟨u, applied, hfound, hfinal⟩
  · rwa [hsame]
  · rw [hfinal]
    have hdevices : (Dict.set usrpName ⟨u.name, { u.client with rfConfiguredOnce := true }⟩
        t.usrpClients).values.map LabeledUsrp.address = t.devices := Dict.map_values_set hfound rfl
    exact ⟨hdevices.trans ht.devices, ht.history.trans (List.suffix_cons _ _)⟩

/-- A registration: the address is new, and the request to reset was carried out. -/
theorem registeredOk_addUsrp (usrpName : String) (client : UsrpClient) :
    Preserves RegisteredOk (addUsrp net usrpName client) := by
  refine preserves_labelRemoteError fun s hs => ?_
  have hkeeps (e : ClientEvent) : KeepsEvent RegisteredOk e := fun t ht =>
    ⟨ht.nodup, fun d hd => List.mem_cons_of_mem _ (ht.reset d hd)⟩
  let F : System → Prop := fun s =>
    assertUniqueUsrp client.ip client.port usrpName s = .ok () ∧ RegisteredOk s
  have hF (e : ClientEvent) : KeepsEvent F e := fun t ht => ⟨ht.1, hkeeps e t ht.2⟩
  refine Triple.finalState (P := RegisteredOk) (S := RegisteredOk) ?_ hs
  refine Triple.bind (Q := fun _ => RegisteredOk) (Triple.modify fun t ht => ⟨ht.nodup, ht.reset⟩)
    fun _ => Triple.bind (Triple.reads fun t e ht => ht) fun _ => ?_
  refine Triple.mono_pre (P := F) ?_ fun t ht => ht
  refine Triple.bind (Q := fun _ => F) ((Triple.of_preserves (preserves_onRequest
    fun a => hF _)).mono_error fun _ _ ht => ht.2) fun _ => ?_
  refine Triple.bind (Q := fun _ t => F t ∧
    .request client.address .resetStreamingConfigs true ∈ t.history)
    ((onRequest_triple fun a => hF _).conseq (fun _ ht => ht) ?_ fun _ _ ht => ht.2) fun _ => ?_
  · rintro _ _ ⟨t, -, ht, rfl⟩
    exact ⟨ht, List.mem_cons_self⟩
  refine Triple.bind (Q := fun _ => RegisteredOk) (Triple.modify ?_) fun _ =>
    Triple.pure fun _ ht => ht
  rintro t ⟨⟨hunique, ht⟩, hreset⟩
  obtain ⟨hname, haddress⟩ := check_bind_eq_ok_iff.mp hunique
  have hfree := check_eq_ok_iff.mp haddress
  have hdevices := @devices_register t usrpName client hname
  refine ⟨?_, fun d hd => List.mem_cons_of_mem _ ?_⟩
  · rw [hdevices]
    refine List.nodup_append.mpr ⟨ht.nodup, List.nodup_singleton _, ?_⟩
    rintro d hd d' hd' rfl
    obtain ⟨u, hu, hsame⟩ := List.mem_map.mp hd
    rw [List.mem_singleton.mp hd'] at hsame
    exact hfree ⟨u, hu, congrArg Prod.fst hsame, congrArg Prod.snd hsame⟩
  · rw [hdevices] at hd
    rcases List.mem_append.mp hd with hold | hnew
    · exact ht.reset d hold
    · rw [List.mem_singleton.mp hnew]
      exact hreset

/-- **Every call keeps the registered devices in order.** -/
theorem registeredOk_step (hs : RegisteredOk s) (op : Op) : RegisteredOk (step net s op) := by
  have hgrown {β : Type} {x : SystemM β} (hx : Preserves (Grown s) x) :
      RegisteredOk (finalState (x s)) := (hx s (grown_refl s)).registeredOk hs
  cases op with
  | newUsrp ip usrpName port =>
      have hcreate : Preserves RegisteredOk (newUsrp net ip usrpName port) := by
        refine (preserves_labelRemoteError (preserves_create ?_ ?_)).bind fun client =>
          registeredOk_addUsrp usrpName client
        all_goals
          exact fun applied t ht => ⟨ht.nodup, fun d hd => List.mem_cons_of_mem _ (ht.reset d hd)⟩
      exact hcreate s hs
  | addUsrp usrpName client => exact registeredOk_addUsrp usrpName client s hs
  | resetFpgaTimes => exact hgrown (preserves_setTimeToZeroNextPps fun _ _ => grown_keepsEvent _)
  | getCurrentFpgaTimes =>
      exact hgrown (preserves_getCurrentFpgaTimes fun _ _ => grown_keepsEvent _)
  | synchronisationValid =>
      exact hgrown (preserves_synchronisationValid (fun _ _ => grown_keepsEvent _)
        fun _ _ => grown_keepsEvent _)
  | synchronizeUsrps =>
      refine hgrown ((preserves_updateSyncSources (fun _ _ _ => grown_keepsEvent _) ?_).bind
        fun _ => preserves_synchronizeClocks (fun _ _ => grown_keepsEvent _)
          (fun _ _ => grown_keepsEvent _) (fun _ _ => grown_keepsEvent _) ?_)
      all_goals exact fun t ht => ⟨ht.devices, ht.history⟩
  | configureTx usrpName conf =>
      exact hgrown (preserves_configureTx fun _ _ _ => grown_keepsEvent _)
  | configureRx usrpName conf => exact hgrown (preserves_configureRx fun _ _ => grown_keepsEvent _)
  | configureRfConfig usrpName conf => exact hgrown (grown_configureRfConfig usrpName conf)
  | execute =>
      refine hgrown ((preserves_prepareExecute (fun _ _ _ => grown_keepsEvent _)
        (fun _ _ => grown_keepsEvent _) (fun t ht => ⟨ht.devices, ht.history⟩)
        fun t ht => ⟨ht.devices, ht.history⟩).bind fun baseTime => ?_)
      refine (preserves_record (grown_keepsEvent _)).bind fun _ => Preserves.bind
        (preserves_catchRemoteUsrpErrors fun n => ?_) fun _ => Preserves.pure _
      exact preserves_callExecuteAtUsrp (fun _ => grown_keepsEvent _) fun _ _ => grown_keepsEvent _
  | collect => exact hgrown (preserves_collect fun _ _ => grown_keepsEvent _)
  | timerExpires => exact ⟨hs.nodup, hs.reset⟩

/-- In every run the registered devices have different addresses, and were reset. -/
theorem registeredOk_run (net : Network) (syncSource : String) (ops : List Op) :
    RegisteredOk (Machine.run (step net) (create syncSource) ops) :=
  Machine.run_invariant (Q := fun _ _ => True) RegisteredOk
    (fun _ op hs _ => registeredOk_step hs op)
    ⟨List.nodup_nil, fun _ hd => nomatch hd⟩ (Machine.AllSteps.of_forall fun _ _ => trivial)

end

end System

/-! ## Deployments -/

/-- What the connection does with a request. -/
inductive Link where
  | delivers
  | losesRequest
  | losesReply
  deriving DecidableEq

/-- The servers behind the network of a `System`: which exist and how they were started, what UHD
answers there, and which messages are lost. -/
structure Deployment (α : Type) where
  version : String
  text : ServerError → String
  E : Address → Environment α
  B : Binding α
  servers : Address → Option (UsrpServer α)
  answers : History → Address → ServerAnswers α
  link : History → Address → Request → Link

/-- The thread has ended, or was never started. -/
def StreamThread.ended : StreamThread → Bool
  | .none => true
  | .finished => true
  | _ => false

/-- The request waits for the threads of the device. -/
def Request.waits : Request → Bool
  | .execute _ => true
  | .collect => true
  | _ => false

namespace Deployment

variable {α : Type} (D : Deployment α)

/-- The server carries the request out, even if it cannot convert the result. -/
def performed (device : Address) (a : ServerAnswers α) (s : UsrpServer α) : Request → Bool
  | .collect => returned (Usrp.collect (D.E device) a.recv s.usrp)
  | r => returned (UsrpServer.serve (D.E device) D.B D.version a r s)

/-- What a server makes of a request that reaches it. -/
def answer (device : Address) (a : ServerAnswers α) (r : Request) (s : UsrpServer α) :
    Reply r × UsrpServer α :=
  match UsrpServer.serve (D.E device) D.B D.version a r s with
  | .ok value s' => (.returns value, s')
  | .error e s' => (.fails (.remoteError (e.msg D.text)) (D.performed device a s r), s')

/-- The client does not hear of the reply. -/
def lost {r : Request} (reply : Reply r) : Reply r := .fails .connection reply.applied

/-- A request, before which the threads of the device have made their steps.  While they
run, `execute` and `collect` block; one that goes on after the client has given up is one
whose reply is lost. -/
def handle (h : History) (device : Address) (r : Request) (s : UsrpServer α) :
    Reply r × UsrpServer α :=
  let a := D.answers h device
  let s := UsrpServer.advance (D.E device) a s
  let blocked := r.waits && !(s.usrp.transmitThread.ended && s.usrp.receiveThread.ended)
  match D.link h device r with
  | .losesRequest => (.fails .connection false, s)
  | .delivers => if blocked then (.fails .connection false, s) else D.answer device a r s
  | .losesReply =>
      if blocked then (.fails .connection false, s)
      else ((lost (D.answer device a r s).1), (D.answer device a r s).2)

/-- The server after a history. -/
def serverAt : History → Address → Option (UsrpServer α)
  | [], device => D.servers device
  | .request d r _ :: h, device =>
      if d = device then (serverAt h device).map fun s => (D.handle h device r s).2
      else serverAt h device
  | _ :: h, device => serverAt h device

/-- The network of the deployment. -/
def network : Network := fun h device r =>
  match D.serverAt h device with
  | none => .fails .connection false
  | some s => (D.handle h device r s).1

/-! ## What a device holds -/

/-- The TX config that the server stores for a request. -/
def storedTx (E : Environment α) : Request → Option (TxStreamingConfig α)
  | .configureTx sendTimeOffset samples numRepetitions => do
      let mimoSignal ← (PyMimoSignal.deserialize samples).toOption
      let signal ← (D.B.fromNumpyMimoSignal mimoSignal.signals).toOption
      let repetitions ← (castInt numRepetitions).toOption
      let conf : TxStreamingConfig α := ⟨signal, sendTimeOffset, repetitions⟩
      (conf.alignToWordSize E.format.zero).toOption
  | _ => none

/-- The RX config that the server stores for a request. -/
def storedRx : Request → Option RxStreamingConfig
  | .configureRx rxConfig => rxConfig.toBinding.toOption
  | _ => none

/-- The device has one config for each of the requests, in their order. -/
structure Holds (E : Environment α) (pending : List Request) (u : Usrp α) : Prop where
  tx : u.txStreamingConfigs = pending.filterMap (D.storedTx E)
  rx : u.rxStreamingConfigs = pending.filterMap storedRx
  all : ∀ r ∈ pending, (D.storedTx E r).isSome = true ∨ (storedRx r).isSome = true

variable {D} {E : Environment α} {pending : List Request} {s s' : UsrpServer α} {u u' : Usrp α}

/-- What the device holds is in its configs. -/
theorem Holds.same (h : D.Holds E pending u) (hsame : Usrp.SameConfigs u u') :
    D.Holds E pending u' :=
  ⟨hsame.1.trans h.tx, hsame.2.trans h.rx, h.all⟩

/-- A device without configs holds nothing. -/
theorem holds_nil (htx : u.txStreamingConfigs = []) (hrx : u.rxStreamingConfigs = []) :
    D.Holds E [] u :=
  ⟨htx, hrx, fun _ hr => nomatch hr⟩

/-- The steps of the threads keep the configs. -/
theorem sameConfigs_advance (a : ServerAnswers α) (s : UsrpServer α) :
    Usrp.SameConfigs s.usrp (UsrpServer.advance E a s).usrp := by
  refine Machine.run_invariant (Usrp.SameConfigs s.usrp) (fun u e hu he => ?_) ⟨rfl, rfl⟩
    (Machine.AllSteps.of_forall a.streaming)
  have hcontinues := Usrp.continues_step (E := E) he u
  exact ⟨hcontinues.txConfigs.trans hu.1, hcontinues.rxConfigs.trans hu.2⟩

theorem toOption_eq_some_iff {ε β : Type} {x : Except ε β} {b : β} :
    x.toOption = some b ↔ x = .ok b := by
  cases x with
  | ok a => exact ⟨fun h => congrArg Except.ok (Option.some.inj h), fun h => by cases h; rfl⟩
  | error e => exact ⟨fun h => (nomatch h), fun h => (nomatch h)⟩

/-- A call of the device keeps what it keeps. -/
theorem preserves_onUsrp {β : Type} {I : Usrp α → Prop} {x : Usrp.UsrpM α β}
    (hx : Preserves I x) : Preserves (fun s => I s.usrp) (UsrpServer.onUsrp x) := by
  intro s hs
  have hend := hx s.usrp hs
  unfold UsrpServer.onUsrp
  cases hcall : x s.usrp with
  | ok b u =>
      rw [hcall] at hend
      exact hend
  | error e u =>
      rw [hcall] at hend
      exact hend

/-- A call of the device returns when the device does. -/
theorem onUsrp_eq_ok_iff {β : Type} {x : Usrp.UsrpM α β} {b : β} :
    UsrpServer.onUsrp x s = .ok b s' ↔ ∃ u, x s.usrp = .ok b u ∧ s' = { s with usrp := u } := by
  unfold UsrpServer.onUsrp
  cases x s.usrp with
  | ok c u =>
      constructor
      · rintro ⟨⟩
        exact ⟨u, rfl, rfl⟩
      · rintro ⟨_, ⟨⟩, rfl⟩
        rfl
  | error e u => exact ⟨fun h => (nomatch h), fun ⟨_, h, _⟩ => (nomatch h)⟩

/-- What the call of the device does, it does to the device of the server. -/
theorem onUsrp_triple {β : Type} {P : UsrpServer α → Prop} {Q : β → UsrpServer α → Prop}
    {F : ServerError → UsrpServer α → Prop} {x : Usrp.UsrpM α β}
    (h : ∀ s, P s → Triple (fun u => u = s.usrp) x (fun b u => Q b { s with usrp := u })
      fun e u => F (.device e) { s with usrp := u }) : Triple P (UsrpServer.onUsrp x) Q F := by
  intro s hs
  unfold UsrpServer.onUsrp
  cases hx : x s.usrp with
  | ok b u => exact (h s hs).of_ok rfl hx
  | error e u => exact (h s hs).of_error rfl hx

/-- A device call that keeps the configs, whichever way it ends. -/
theorem holds_onUsrp {β : Type} {x : Usrp.UsrpM α β}
    (hx : ∀ u, Preserves (Usrp.SameConfigs u) x) :
    Preserves (fun s => D.Holds E pending s.usrp) (UsrpServer.onUsrp x) :=
  preserves_onUsrp fun u hu => hu.same (hx u u ⟨rfl, rfl⟩)

/-! ## What a request does to the configs -/

/-- A TX config is held when it is accepted, and only then. -/
theorem setTxConfig_triple {t : ℚ} {samples : List SerializedComplexArray} {n : ℤ}
    {conf : TxStreamingConfig α}
    (hconf : D.storedTx E (.configureTx t samples n) =
      (conf.alignToWordSize E.format.zero).toOption) (hu : D.Holds E pending u) :
    Triple (fun v => v = u) (Usrp.setTxConfig E conf)
      (fun _ v => D.Holds E (pending ++ [.configureTx t samples n]) v)
      (fun _ v => D.Holds E pending v) := by
  rintro u' rfl
  cases hcall : Usrp.setTxConfig E conf u' with
  | error e v =>
      obtain rfl := Usrp.setTxConfig_of_error hcall
      exact hu
  | ok _ v =>
      obtain ⟨c, -, -, haligned, rfl⟩ := Usrp.setTxConfig_eq_ok hcall
      have hstored : D.storedTx E (.configureTx t samples n) = some c := by
        rw [hconf, haligned]
        rfl
      refine ⟨?_, ?_, fun r hr => ?_⟩
      · rw [List.filterMap_append, ← hu.tx, List.filterMap_cons_some hstored]
        rfl
      · rw [List.filterMap_append, ← hu.rx]
        exact (List.append_nil _).symm
      · rcases List.mem_append.mp hr with hold | hnew
        · exact hu.all r hold
        · rw [List.mem_singleton.mp hnew, hstored]
          exact Or.inl rfl

theorem setRxConfig_triple {rxConfig : PyRxStreamingConfig} {conf : RxStreamingConfig}
    (hconf : rxConfig.toBinding = .ok conf) (hu : D.Holds E pending u) :
    Triple (fun v => v = u) (Usrp.setRxConfig conf)
      (fun _ v => D.Holds E (pending ++ [.configureRx rxConfig]) v)
      (fun _ v => D.Holds E pending v) := by
  rintro u' rfl
  have hcases := Usrp.rxRequest_cases u' conf
  unfold Usrp.rxRequest at hcases
  have hstored : storedRx (.configureRx rxConfig) = some conf := toOption_eq_some_iff.mpr hconf
  cases hcall : Usrp.setRxConfig conf u' with
  | error e v =>
      rw [hcall] at hcases
      rcases hcases with hkept | hok
      · obtain rfl : v = u' := hkept
        exact hu
      · cases hok
  | ok _ v =>
      obtain ⟨-, rfl⟩ := Usrp.setRxConfig_eq_ok_iff.mp hcall
      refine ⟨?_, ?_, fun r hr => ?_⟩
      · rw [List.filterMap_append, ← hu.tx]
        exact (List.append_nil _).symm
      · rw [List.filterMap_append, ← hu.rx, List.filterMap_cons_some hstored]
        rfl
      · rcases List.mem_append.mp hr with hold | hnew
        · exact hu.all r hold
        · rw [List.mem_singleton.mp hnew, hstored]
          exact Or.inr rfl

/-- A TX config is held as well when it comes through the method of the server, whose conversions
may fail first. -/
theorem configureTx_triple (t : ℚ) (samples : List SerializedComplexArray) (n : ℤ) :
    Triple (fun s => D.Holds E pending s.usrp) (UsrpServer.configureTx E D.B t samples n)
      (fun _ s => D.Holds E (pending ++ [.configureTx t samples n]) s.usrp)
      (fun _ s => D.Holds E pending s.usrp) := by
  refine Triple.bind (Triple.reads fun _ _ hs => hs) fun mimoSignal => ?_
  refine Triple.bind (Triple.reads fun _ _ hs => hs.2) fun signal => ?_
  refine Triple.bind (Triple.reads fun _ _ hs => hs.2.2) fun repetitions => ?_
  refine onUsrp_triple fun s hs => setTxConfig_triple ?_ hs.2.2.2
  obtain ⟨hrepetitions, hsignal, hmimo, -⟩ := hs
  have hdeserialized : PyMimoSignal.deserialize samples = .ok mimoSignal := by
    cases hd : PyMimoSignal.deserialize samples with
    | ok m =>
        rw [hd] at hmimo
        cases hmimo
        rfl
    | error e =>
        rw [hd] at hmimo
        cases hmimo
  rw [storedTx, hdeserialized]
  show (D.B.fromNumpyMimoSignal mimoSignal.signals).toOption.bind _ = _
  rw [hsignal]
  show (castInt n).toOption.bind _ = _
  rw [hrepetitions]
  rfl

/-- So is an RX config. -/
theorem configureRx_triple (rxConfig : PyRxStreamingConfig) :
    Triple (fun s => D.Holds E pending s.usrp) (UsrpServer.configureRx rxConfig)
      (fun _ s => D.Holds E (pending ++ [.configureRx rxConfig]) s.usrp)
      (fun _ s => D.Holds E pending s.usrp) := by
  refine Triple.bind (Triple.reads fun _ _ hs => hs) fun conf => ?_
  exact onUsrp_triple fun s hs => setRxConfig_triple hs.1 hs.2

/-- `setSyncSource` touches the two sources only. -/
theorem preserves_setSyncSource {I : UsrpServer α → Prop} (source : String) (a : ServerAnswers α)
    (hI : ∀ s syncSource currentSyncSource, I s → I { s with syncSource, currentSyncSource }) :
    Preserves I (UsrpServer.setSyncSource source a) := by
  refine (Preserves.liftE _).bind fun _ => Preserves.get.bind fun s => ?_
  split
  · exact Preserves.pure ()
  · split
    · exact Preserves.modify fun s hs => hI s _ _ hs
    · exact Preserves.bind (Preserves.modify fun s hs => hI s _ _ hs) fun _ => Preserves.throw _

/-- A request other than `collect`. -/
theorem serve_triple (a : ServerAnswers α) {r : Request} (hr : r ≠ .collect) :
    Triple (fun s => D.Holds E pending s.usrp) (UsrpServer.serve E D.B D.version a r)
      (fun _ s => D.Holds E (r.updatePending pending) s.usrp)
      (fun _ s => D.Holds E pending s.usrp) := by
  cases r with
  | configureTx t samples n => exact configureTx_triple t samples n
  | configureRx rxConfig => exact configureRx_triple rxConfig
  | collect => exact absurd rfl hr
  | resetStreamingConfigs => exact fun s _ => holds_nil rfl rfl
  | configureRfConfig rfConfig =>
      exact Triple.of_preserves ((Preserves.liftE _).bind fun conf =>
        holds_onUsrp fun u => Usrp.sameConfigs_onComponents _)
  | execute t =>
      exact Triple.of_preserves (holds_onUsrp fun u => Usrp.sameConfigs_execute _ _)
  | setSyncSource source =>
      exact Triple.of_preserves (preserves_setSyncSource source a fun _ _ _ hs => hs)
  | connect => exact Triple.pure fun _ hs => hs
  | getVersion => exact Triple.pure fun _ hs => hs
  | setTimeToZeroNextPps => exact Triple.pure fun _ hs => hs
  | getCurrentFpgaTime => exact Triple.pure fun _ hs => hs

/-- A `collect` of the device that throws keeps the configs. -/
theorem sameConfigs_of_collect_error {a : ℕ → List RecvAnswer} {e : Fault}
    (h : Usrp.collect E a u = .error e u') : Usrp.SameConfigs u u' := by
  have hdownload := Usrp.sameConfigs_performDownload (E := E) (u := u) a
  unfold Usrp.collect at h
  rw [bind_of_ok (modify_apply _ _)] at h
  rcases bind_eq_error_iff.mp h with h | ⟨_, u₁, hok, h⟩
  · obtain ⟨-, rfl⟩ := reads_eq_error_iff.mp h
    exact ⟨rfl, rfl⟩
  obtain ⟨-, rfl⟩ := reads_eq_ok_iff.mp hok
  rcases bind_eq_error_iff.mp h with h | ⟨_, u₁, hok, h⟩
  · obtain ⟨-, rfl⟩ := reads_eq_error_iff.mp h
    exact ⟨rfl, rfl⟩
  obtain ⟨-, rfl⟩ := reads_eq_ok_iff.mp hok
  rcases bind_eq_error_iff.mp h with h | ⟨_, u₁, -, h⟩
  · exact hdownload.of_error (s := u.joinThreads) ⟨rfl, rfl⟩ h
  · rw [bind_of_ok (modify_apply _ _)] at h
    cases (reads_eq_error_iff.mp h).1

/-- Whatever the server answers, it is left as the request leaves it. -/
theorem answer_snd (device : Address) (a : ServerAnswers α) (r : Request) (s : UsrpServer α) :
    (D.answer device a r s).2 =
      finalState (UsrpServer.serve (D.E device) D.B D.version a r s) := by
  unfold answer
  cases UsrpServer.serve (D.E device) D.B D.version a r s <;> rfl

/-- The answer to a request other than `collect`: it is carried out if it returns. -/
theorem answer_of_serve (device : Address) (a : ServerAnswers α) {r : Request} (hr : r ≠ .collect)
    (s : UsrpServer α) :
    D.answer device a r s = match UsrpServer.serve (D.E device) D.B D.version a r s with
      | .ok value s' => (.returns value, s')
      | .error e s' => (.fails (.remoteError (e.msg D.text)) false, s') := by
  have hperformed : D.performed device a s r =
      returned (UsrpServer.serve (D.E device) D.B D.version a r s) := by
    cases r with
    | collect => exact absurd rfl hr
    | _ => rfl
  unfold answer
  rw [hperformed]
  cases UsrpServer.serve (D.E device) D.B D.version a r s with
  | ok value s' => rfl
  | error e s' => rfl

/-- **What a request does to the configs of the device**: exactly what the history takes
it to do, whether the client hears of it or not. -/
theorem holds_answer (device : Address) (a : ServerAnswers α) (r : Request)
    (h : D.Holds (D.E device) pending s.usrp) :
    D.Holds (D.E device)
      (if (D.answer device a r s).1.applied = true then r.updatePending pending else pending)
      (D.answer device a r s).2.usrp := by
  by_cases hr : r = .collect
  · subst hr
    unfold answer performed
    have hserve : UsrpServer.serve (D.E device) D.B D.version a .collect s =
        UsrpServer.collect (D.E device) D.B a s := rfl
    rw [hserve]
    cases hcall : Usrp.collect (D.E device) a.recv s.usrp with
    | ok collected u =>
        -- the configs are cleared, whatever becomes of the samples
        obtain ⟨htx, hrx⟩ := Usrp.cleared_of_collect hcall
        have hcollected : UsrpServer.collect (D.E device) D.B a s = _ :=
          bind_of_ok (onUsrp_eq_ok_iff.mpr ⟨u, hcall, rfl⟩)
        rw [hcollected]
        unfold UsrpServer.liftPython liftE reads
        split
        · rename_i hsplit
          split at hsplit <;> cases hsplit
          exact holds_nil htx hrx
        · rename_i hsplit
          split at hsplit <;> cases hsplit
          exact holds_nil htx hrx
    | error e u =>
        have hthrown : UsrpServer.onUsrp (Usrp.collect (D.E device) a.recv) s =
            .error (.device e) { s with usrp := u } := by
          rw [UsrpServer.onUsrp, hcall]
        rw [show UsrpServer.collect (D.E device) D.B a s = _ from bind_of_error hthrown]
        exact h.same (sameConfigs_of_collect_error hcall)
  · have htriple := @serve_triple α D (D.E device) pending a r hr
    rw [answer_of_serve device a hr]
    cases hserve : UsrpServer.serve (D.E device) D.B D.version a r s with
    | ok value s' => exact htriple.of_ok h hserve
    | error e s' => exact htriple.of_error h hserve

/-- Both threads of the device have ended. -/
def ThreadsEnded (u : Usrp α) : Prop := u.transmitThread.ended = true ∧ u.receiveThread.ended = true

/-- What can become of a request: it is not carried out, or the server answers it. -/
inductive Handled (D : Deployment α) (device : Address) (a : ServerAnswers α) (r : Request)
    (s : UsrpServer α) : Reply r × UsrpServer α → Prop
  | dropped : Handled D device a r s (.fails .connection false, s)
  | answered (ended : r.waits = true → ThreadsEnded s.usrp) :
      Handled D device a r s (D.answer device a r s)
  | unheard (ended : r.waits = true → ThreadsEnded s.usrp) :
      Handled D device a r s (lost (D.answer device a r s).1, (D.answer device a r s).2)

/-- A request is lost on its way, or answered by the server as the threads have left it. -/
theorem handled (D : Deployment α) (h : History) (device : Address) (r : Request)
    (s : UsrpServer α) :
    Handled D device (D.answers h device) r
      (UsrpServer.advance (D.E device) (D.answers h device) s) (D.handle h device r s) := by
  have hended {s : UsrpServer α}
      (hblocked : ¬ (r.waits && !(s.usrp.transmitThread.ended && s.usrp.receiveThread.ended)) =
        true) : r.waits = true → ThreadsEnded s.usrp := by
    intro hwaits
    rw [hwaits, Bool.true_and, Bool.not_eq_true', Bool.not_eq_false] at hblocked
    exact Bool.and_eq_true_iff.mp hblocked
  unfold handle
  cases D.link h device r with
  | losesRequest => exact .dropped
  | delivers =>
      dsimp only
      split
      · exact .dropped
      · exact .answered (hended ‹_›)
  | losesReply =>
      dsimp only
      split
      · exact .dropped
      · exact .unheard (hended ‹_›)

/-- A request leaves the device with the configs that the history says are waiting. -/
theorem holds_handle {h : History} {device : Address} {r : Request}
    (hs : D.Holds (D.E device) pending s.usrp) :
    D.Holds (D.E device)
      (if (D.handle h device r s).1.applied = true then r.updatePending pending else pending)
      (D.handle h device r s).2.usrp := by
  have hadvanced := hs.same (sameConfigs_advance (E := D.E device) (D.answers h device) s)
  have hanswer := holds_answer device (D.answers h device) r hadvanced
  have hcases := handled D h device r s
  generalize D.handle h device r s = p at hcases ⊢
  cases hcases with
  | dropped => exact hadvanced
  | answered ended => exact hanswer
  | unheard ended => exact hanswer

/-- A reset leaves nothing, whatever the device held before. -/
theorem holds_reset {h : History} {device : Address}
    (happlied : (D.handle h device .resetStreamingConfigs s).1.applied = true) :
    D.Holds (D.E device) [] (D.handle h device .resetStreamingConfigs s).2.usrp := by
  have hcases := handled D h device .resetStreamingConfigs s
  generalize D.handle h device .resetStreamingConfigs s = p at hcases happlied ⊢
  cases hcases with
  | dropped => cases happlied
  | answered ended => exact holds_nil rfl rfl
  | unheard ended => exact holds_nil rfl rfl

/-! ## Both ends -/

/-- The server was reset for the client, and holds since then what the history says. -/
def InStep (D : Deployment α) (h : History) : Prop :=
  ∀ device, .request device .resetStreamingConfigs true ∈ h → ∃ s, D.serverAt h device = some s ∧
    D.Holds (D.E device) (pendingConfigs device h) s.usrp

/-- A request of the device, carried out or not, in the history. -/
theorem serverAt_same {device : Address} {r : Request} {applied : Bool} (h : History) :
    D.serverAt (.request device r applied :: h) device =
      (D.serverAt h device).map fun s => (D.handle h device r s).2 := by
  rw [serverAt, if_pos rfl]

theorem serverAt_other {device : Address} {e : ClientEvent} (h : History)
    (he : ∀ r applied, e ≠ .request device r applied) :
    D.serverAt (e :: h) device = D.serverAt h device := by
  cases e with
  | request d r applied =>
      have hd : d ≠ device := by
        rintro rfl
        exact he r applied rfl
      rw [serverAt, if_neg hd]
  | _ => rfl

/-- The network answers what the server does with the request. -/
theorem network_of_server {device : Address} {h : History} (r : Request)
    (hs : D.serverAt h device = some s) : D.network h device r = (D.handle h device r s).1 := by
  rw [network, hs]

/-- What waits after a request of the device. -/
theorem pendingConfigs_request (device : Address) (r : Request) (applied : Bool) (h : History) :
    pendingConfigs device (.request device r applied :: h) =
      if applied = true then r.updatePending (pendingConfigs device h)
      else pendingConfigs device h := by
  cases applied with
  | true => exact pendingConfigs_carriedOut device r h
  | false => rfl

/-- Every server holds what the history says is waiting there, at every moment. -/
theorem chronicled_inStep (D : Deployment α) :
    Chronicled D.network (fun _ => True) (InStep D) := by
  refine .of_events ?_ ?_
  · intro h d r _ hstep device hreset
    by_cases hd : d = device
    · subst hd
      cases hserver : D.serverAt h d with
      | none =>
          -- without a server nothing is carried out
          have hnetwork : (D.network h d r).applied = false := by
            rw [network, hserver]
            rfl
          rw [hnetwork] at hreset
          obtain ⟨s, hs, -⟩ := hstep d (by simpa using hreset)
          rw [hserver] at hs
          cases hs
      | some s =>
          rw [network_of_server r hserver] at hreset ⊢
          refine ⟨(D.handle h d r s).2, by rw [serverAt_same, hserver]; rfl, ?_⟩
          rw [pendingConfigs_request]
          rcases List.mem_cons.mp hreset with hnow | hbefore
          · obtain ⟨-, hr, happlied⟩ := ClientEvent.request.inj hnow
            subst hr
            rw [← happlied, if_pos rfl]
            exact holds_reset happlied.symm
          · obtain ⟨s', hs', hholds⟩ := hstep d hbefore
            rw [hserver] at hs'
            cases hs'
            exact holds_handle hholds
    · have hother : ∀ r' applied', ClientEvent.request d r (D.network h d r).applied ≠
          .request device r' applied' := by
        rintro r' applied' ⟨⟩
        exact hd rfl
      have hbefore : .request device .resetStreamingConfigs true ∈ h := by
        rcases List.mem_cons.mp hreset with hnow | hbefore
        · exact absurd hnow.symm (hother _ _)
        · exact hbefore
      rw [serverAt_other h hother, pendingConfigs_cons]
      · exact hstep device hbefore
      · rintro ⟨r', heq⟩
        exact hother r' true heq
  · intro h e he hstep device hreset
    rw [serverAt_other h (fun r applied => he device r applied), pendingConfigs_cons]
    · refine hstep device ?_
      rcases List.mem_cons.mp hreset with hnow | hbefore
      · exact absurd hnow.symm (he _ _ _)
      · exact hbefore
    · rintro ⟨r', heq⟩
      exact he device r' true heq

/-- **No streaming config is lost, and none is there twice.**  After any calls of the
user, whichever of their requests and replies are lost and whatever the servers held
before, every registered device has a server, and this one holds the TX and the RX
configs whose requests it has carried out since it was last reset or collected from, each
once and in this order. -/
theorem registered_holds (D : Deployment α) (syncSource : String) (ops : List System.Op)
    (device : Address)
    (hregistered : device ∈ (Machine.run (System.step D.network) (System.create syncSource)
      ops).devices) :
    ∃ s, D.serverAt (Machine.run (System.step D.network) (System.create syncSource) ops).history
        device = some s ∧
      D.Holds (D.E device) (pendingConfigs device
        (Machine.run (System.step D.network) (System.create syncSource) ops).history) s.usrp := by
  have hstart : InStep D (System.create syncSource).history := fun _ hreset => nomatch hreset
  have hstep : InStep D (Machine.run (System.step D.network) (System.create syncSource)
      ops).history := (chronicled_inStep D).run hstart ops
  exact hstep device ((System.registeredOk_run D.network syncSource ops).reset device hregistered)

/-! ### A deployment -/

/-- The host takes the sign bits of a sample. -/
def exampleBinding : Binding Wire where
  toSample z := fun i => if i = 0 then (if z.re = .finite 0 then 0 else 1) else 0
  ofSample w := ⟨.finite ((w 0).toNat / 256), .finite 0⟩

/-- A server that has just been started. -/
def exampleServer : UsrpServer Wire := ⟨Usrp.exampleUsrp, "internal", "internal"⟩

/-- UHD takes every call. -/
def exampleServerAnswers : ServerAnswers Wire where
  events := []
  streaming := fun _ he => nomatch he
  rf := Components.obedient (Components.exampleConfig 122880000 122880000)
  execute := Usrp.exampleExecuteAnswers
  recv := Usrp.exampleGoodAnswers
  syncSource := .returns
  fpgaTime := 0

/-- One server, whose reply to every seventh request is lost. -/
def exampleDeployment : Deployment Wire where
  version := "1.7.0"
  text := fun _ => "Remote error"
  E := fun _ => Usrp.exampleEnvironment
  B := exampleBinding
  servers := fun device => if device = ("192.168.189.131", 5555) then some exampleServer else none
  answers := fun _ _ => exampleServerAnswers
  link := fun h _ _ => if h.length % 7 = 6 then .losesReply else .delivers

/-- The reply to the second config is lost, and the device holds it nevertheless. -/
theorem registered_holds_example :
    ∃ s, exampleDeployment.serverAt (Machine.run (System.step exampleDeployment.network)
        (System.create "auto") [.newUsrp "192.168.189.131" "usrp1" 5555,
          .configureRx "usrp1" { numSamples := 8 },
          .configureRx "usrp1" { receiveTimeOffset := 1, numSamples := 8 }]).history
        ("192.168.189.131", 5555) = some s ∧ s.usrp.rxStreamingConfigs.length = 2 := by
  obtain ⟨s, hserver, hholds⟩ := registered_holds exampleDeployment "auto"
    [.newUsrp "192.168.189.131" "usrp1" 5555, .configureRx "usrp1" { numSamples := 8 },
      .configureRx "usrp1" { receiveTimeOffset := 1, numSamples := 8 }] ("192.168.189.131", 5555)
    (by decide +kernel)
  refine ⟨s, hserver, ?_⟩
  rw [hholds.rx]
  decide +kernel

end Deployment

end UsrpWrapper
