import UsrpWrapper.Synchronisation
import UsrpWrapper.StreamingSchedule

/-!
# Registration of devices

A registration talks to the server before it is certain to succeed: the constructor of
the client connects and resets the streaming configs of the server, and only then the
system compares the name and the address with the registered ones.

`pendingConfigs` reads from the history which streaming configs wait on a server;
`ServerRun.pendingConfigs_length` compares it with the device the server drives.
-/

namespace UsrpWrapper

open Lib Lib.Command Lib.Trace

/-! ## Pending streaming configs -/

/-- What a request that is carried out does to the streaming configs that wait. -/
def Request.updatePending (r : Request) (pending : List Request) : List Request :=
  match r with
  | .configureTx _ _ _ => pending ++ [r]
  | .configureRx _ => pending ++ [r]
  | .resetStreamingConfigs => []
  | .collect => []
  | _ => pending

/-- The requests of the streaming configs that wait on the server of the device, the
first one first. -/
def pendingConfigs (device : Address) : History → List Request
  | [] => []
  | .request d r true :: h =>
      if d = device then r.updatePending (pendingConfigs device h) else pendingConfigs device h
  | _ :: h => pendingConfigs device h

/-- The event is a request that the server of the device carries out. -/
def ClientEvent.CarriedOut (device : Address) (e : ClientEvent) : Prop :=
  ∃ r, e = .request device r true

@[simp] theorem pendingConfigs_carriedOut (device : Address) (r : Request) (h : History) :
    pendingConfigs device (.request device r true :: h) =
      r.updatePending (pendingConfigs device h) := by
  rw [pendingConfigs, if_pos rfl]

/-- Only a request that is carried out there changes what waits on a server. -/
theorem pendingConfigs_cons {device : Address} {e : ClientEvent} (h : History)
    (he : ¬ e.CarriedOut device) : pendingConfigs device (e :: h) = pendingConfigs device h := by
  cases e with
  | request d r applied =>
      cases applied with
      | false => rfl
      | true =>
          have hd : d ≠ device := by
            rintro rfl
            exact he ⟨r, rfl⟩
          rw [pendingConfigs, if_neg hd]
  | _ => rfl

/-- Only a request that is carried out there changes the source of a server. -/
theorem acceptedSyncSource_cons_of_elsewhere {device : Address} {e : ClientEvent} (h : History)
    (he : ¬ e.CarriedOut device) :
    acceptedSyncSource device (e :: h) = acceptedSyncSource device h := by
  cases e with
  | request d r applied =>
      cases r with
      | setSyncSource source =>
          cases applied with
          | false => rfl
          | true =>
              have hd : d ≠ device := by
                rintro rfl
                exact he ⟨_, rfl⟩
              simp [acceptedSyncSource, hd]
      | _ => rfl
  | _ => rfl

/-! ## The server -/

section

variable {α : Type} {E : Environment α} {device : Address}

/-- The device of a server before and after it has carried out a request. -/
inductive Serves (E : Environment α) : Request → Usrp α → Usrp α → Prop
  | configureTx {sendTimeOffset samples numRepetitions} {u u' : Usrp α}
      (conf : TxStreamingConfig α) (hok : Usrp.setTxConfig E conf u = .ok () u') :
      Serves E (.configureTx sendTimeOffset samples numRepetitions) u u'
  | configureRx {rxConfig} {u u' : Usrp α} (conf : RxStreamingConfig)
      (hok : Usrp.setRxConfig conf u = .ok () u') : Serves E (.configureRx rxConfig) u u'
  | resetStreamingConfigs (u : Usrp α) :
      Serves E .resetStreamingConfigs u (Usrp.resetStreamingConfigs u)
  | collect {u u' : Usrp α} (a : ℕ → List RecvAnswer) (signals : List (MimoSignal α))
      (hok : Usrp.collect E a u = .ok signals u') : Serves E .collect u u'
  | execute {baseTime} {u u' : Usrp α} (a : Usrp.ExecuteAnswers)
      (hok : Usrp.execute E a baseTime u = .ok () u') : Serves E (.execute baseTime) u u'
  | configureRfConfig {rfConfig} {u u' : Usrp α} (conf : RfConfig) (a : RfAnswers)
      (hok : Usrp.setRfConfig E conf a u = .ok () u') : Serves E (.configureRfConfig rfConfig) u u'
  | clock {r} {u u' : Usrp α} (hr : r = .setTimeToZeroNextPps ∨ r = .getCurrentFpgaTime ∨
      ∃ source, r = .setSyncSource source) (hsame : Usrp.SameConfigs u u') : Serves E r u u'
  | greeting {r} {u : Usrp α} (hr : r = .connect ∨ r = .getVersion) : Serves E r u u

/-- The device of a server that started without streaming configs; between the requests
its threads run, and requests that fail leave the configs as they are. -/
inductive ServerRun (E : Environment α) (device : Address) : History → Usrp α → Prop
  | start {u : Usrp α} (htx : u.txStreamingConfigs = []) (hrx : u.rxStreamingConfigs = []) :
      ServerRun E device [] u
  | served {h : History} {r : Request} {u u' : Usrp α} (hrun : ServerRun E device h u)
      (hserves : Serves E r u u') : ServerRun E device (.request device r true :: h) u'
  | other {h : History} {e : ClientEvent} {u u' : Usrp α} (hrun : ServerRun E device h u)
      (he : ¬ e.CarriedOut device) (hsame : Usrp.SameConfigs u u') : ServerRun E device (e :: h) u'

/-- The number of streaming configs that wait. -/
def Usrp.numConfigs (u : Usrp α) : ℕ := u.txStreamingConfigs.length + u.rxStreamingConfigs.length

/-- The number of waiting configs is one of the configs. -/
theorem Usrp.SameConfigs.numConfigs_eq {u u' : Usrp α} (h : Usrp.SameConfigs u u') :
    u'.numConfigs = u.numConfigs := by
  rw [Usrp.numConfigs, h.1, h.2, Usrp.numConfigs]

theorem Usrp.numConfigs_setTxConfig {conf : TxStreamingConfig α} {u u' : Usrp α}
    (hok : Usrp.setTxConfig E conf u = .ok () u') : u'.numConfigs = u.numConfigs + 1 := by
  obtain ⟨aligned, -, -, -, rfl⟩ := Usrp.setTxConfig_eq_ok hok
  show (u.txStreamingConfigs ++ [aligned]).length + u.rxStreamingConfigs.length = _
  rw [List.length_append, List.length_singleton, Usrp.numConfigs]
  omega

theorem Usrp.numConfigs_setRxConfig {conf : RxStreamingConfig} {u u' : Usrp α}
    (hok : Usrp.setRxConfig conf u = .ok () u') : u'.numConfigs = u.numConfigs + 1 := by
  rw [(Usrp.setRxConfig_eq_ok_iff.mp hok).2]
  show _ + (u.rxStreamingConfigs ++ [conf]).length = _
  rw [List.length_append, List.length_singleton, Usrp.numConfigs, Nat.add_assoc]

theorem Usrp.numConfigs_collect {a : ℕ → List RecvAnswer} {signals : List (MimoSignal α)}
    {u u' : Usrp α} (hok : Usrp.collect E a u = .ok signals u') : u'.numConfigs = 0 := by
  obtain ⟨_, u₁, -, hrest⟩ := bind_eq_ok_iff.mp hok
  obtain ⟨_, u₂, -, hrest⟩ := bind_eq_ok_iff.mp hrest
  obtain ⟨_, u₃, -, hrest⟩ := bind_eq_ok_iff.mp hrest
  obtain ⟨_, u₄, -, hrest⟩ := bind_eq_ok_iff.mp hrest
  rw [bind_of_ok (modify_apply _ _)] at hrest
  obtain ⟨-, rfl⟩ := reads_eq_ok_iff.mp hrest
  rfl

/-- A request that is carried out has its effect on the configs of the device. -/
theorem Serves.numConfigs_eq {r : Request} {u u' : Usrp α} {pending : List Request}
    (h : Serves E r u u') (hpending : pending.length = u.numConfigs) :
    (r.updatePending pending).length = u'.numConfigs := by
  cases h with
  | configureTx conf hok =>
      rw [Usrp.numConfigs_setTxConfig hok, ← hpending]
      exact List.length_append
  | configureRx conf hok =>
      rw [Usrp.numConfigs_setRxConfig hok, ← hpending]
      exact List.length_append
  | resetStreamingConfigs => rfl
  | collect a signals hok => exact (Usrp.numConfigs_collect hok).symm
  | @execute t _ _ a hok =>
      have hsame := (Usrp.sameConfigs_execute (u := u) a t).of_ok ⟨rfl, rfl⟩ hok
      rw [hsame.numConfigs_eq]
      exact hpending
  | configureRfConfig conf a hok =>
      have hsame := (Usrp.sameConfigs_onComponents (u := u) _).of_ok ⟨rfl, rfl⟩ hok
      rw [hsame.numConfigs_eq]
      exact hpending
  | clock hr hsame =>
      rw [hsame.numConfigs_eq]
      rcases hr with rfl | rfl | ⟨source, rfl⟩ <;> exact hpending
  | greeting hr => rcases hr with rfl | rfl <;> exact hpending

/-- **The history tells which streaming configs wait**: as many as the device of the
server holds. -/
theorem ServerRun.pendingConfigs_length {h : History} {u : Usrp α} (hrun : ServerRun E device h u) :
    (pendingConfigs device h).length = u.numConfigs := by
  induction hrun with
  | @start u htx hrx =>
      rw [Usrp.numConfigs, htx, hrx]
      rfl
  | served hrun hserves ih =>
      rw [pendingConfigs_carriedOut]
      exact hserves.numConfigs_eq ih
  | other hrun he hsame ih =>
      rw [pendingConfigs_cons _ he, ih, hsame.numConfigs_eq]

end

namespace System

/-! ## Calls that raise -/

/-- A call of `newUsrp` or `addUsrp`. -/
inductive Registration where
  | newUsrp (ip usrpName : String) (port : ℕ)
  | addUsrp (usrpName : String) (client : UsrpClient)

/-- Carry out a registration. -/
def Registration.call (net : Network) : Registration → SystemM UsrpClient
  | .newUsrp ip usrpName port => System.newUsrp net ip usrpName port
  | .addUsrp usrpName client => System.addUsrp net usrpName client

/-- The registered devices, the sync source and the streaming configs that wait on the
servers of registered devices are as before; the flag may have been reset. -/
structure Unaffected (s s' : System) : Prop where
  usrpClients : s'.usrpClients = s.usrpClients
  syncSourceSet : s'.syncSourceSet = s.syncSourceSet
  syncSourceRequest : s'.syncSourceRequest = s.syncSourceRequest
  accepted : ∀ d ∈ s.devices, acceptedSyncSource d s'.history = acceptedSyncSource d s.history
  usrpsSynced : s'.usrpsSynced = true → s.usrpsSynced = true
  pending : ∀ d ∈ s.devices, (pendingConfigs d s.history).Sublist (pendingConfigs d s'.history)

/-- The constructor of a new client reaches the server, which resets its configs. -/
def CreateResets (net : Network) (device : Address) (h : History) : Prop :=
  net h device .connect = .returns () ∧
    (net (.request device .connect true :: h) device .resetStreamingConfigs).applied = true

/-- `newUsrp` is called with the address of a registered device for which streaming
configs wait, and the constructor of the client gets to reset them. -/
def ClearsPending (net : Network) (s : System) : Registration → Prop
  | .newUsrp ip _ port => (ip, port) ∈ s.devices ∧ pendingConfigs (ip, port) s.history ≠ [] ∧
      CreateResets net (ip, port) s.history
  | .addUsrp _ _ => False

/-- A request to a device that is not registered, other than for its sync source. -/
def Elsewhere (devices : List Address) (e : ClientEvent) : Prop :=
  ∃ d r applied, e = .request d r applied ∧ d ∉ devices

section

variable {net : Network} {s s' : System} {e : ClientError}

theorem labelRemoteError_eq_error {α : Type} {usrpName : String} {x : SystemM α}
    (h : labelRemoteError usrpName x s = .error e s') : ∃ e', x s = .error e' s' := by
  unfold labelRemoteError at h
  cases hx : x s with
  | ok a t =>
      rw [hx] at h
      cases h
  | error e' t =>
      rw [hx] at h
      cases e' <;> cases h <;> exact ⟨_, rfl⟩

theorem labelRemoteError_eq_ok {α : Type} {usrpName : String} {x : SystemM α} {a : α}
    (h : labelRemoteError usrpName x s = .ok a s') : x s = .ok a s' := by
  unfold labelRemoteError at h
  cases hx : x s with
  | ok b t =>
      rw [hx] at h
      exact h
  | error e' t =>
      rw [hx] at h
      cases e' <;> cases h

/-- What a call that raises may have done: reset the flag, and send requests to devices
that are not registered, after those of `h₀`. -/
structure RaisedFrom (s : System) (h₀ : History) (s' : System) : Prop where
  usrpClients : s'.usrpClients = s.usrpClients
  syncSourceSet : s'.syncSourceSet = s.syncSourceSet
  syncSourceRequest : s'.syncSourceRequest = s.syncSourceRequest
  usrpsSynced : s'.usrpsSynced = true → s.usrpsSynced = true
  requests : Extends (Elsewhere s.devices) h₀ s'.history

/-- When `addUsrp` raises, it has sent nothing. -/
theorem addUsrp_eq_error {usrpName : String} {client : UsrpClient}
    (h : addUsrp net usrpName client s = .error e s') : RaisedFrom s s.history s' := by
  obtain ⟨e', hbody⟩ := labelRemoteError_eq_error h
  let I : System → Prop := RaisedFrom s s.history
  have hkeeps (r : Request) (hnew : client.address ∉ s.devices) (applied : Bool) :
      KeepsEvent I (.request client.address r applied) := fun t ht =>
    ⟨ht.usrpClients, ht.syncSourceSet, ht.syncSourceRequest, ht.usrpsSynced,
      ht.requests.cons ⟨_, r, applied, rfl, hnew⟩⟩
  have hunique {t : System} (ht : I t)
      (hcheck : assertUniqueUsrp client.ip client.port usrpName t = .ok ()) :
      client.address ∉ s.devices := by
    intro hmem
    obtain ⟨u, hu, haddress⟩ := List.mem_map.mp hmem
    have hnone := check_eq_ok_iff.mp (check_bind_eq_ok_iff.mp hcheck).2
    rw [ht.usrpClients] at hnone
    exact hnone ⟨u, hu, congrArg Prod.fst haddress, congrArg Prod.snd haddress⟩
  -- whatever raises, the requests before it went to an address that is not registered
  refine Triple.of_error (P := fun t => t = s) (Q := fun _ _ => True) (E := fun _ => I) ?_ rfl hbody
  refine Triple.bind (Q := fun _ => I) (Triple.modify ?_) fun _ => ?_
  · rintro t rfl
    exact ⟨rfl, rfl, rfl, fun hflag => (nomatch hflag), .refl _⟩
  refine Triple.bind (Triple.reads fun _ _ ht => ht) fun _ => ?_
  refine Triple.mono_pre (P := fun t => client.address ∉ s.devices ∧ I t)
    (Triple.of_fact fun hnew => ?_) fun t ht => ⟨hunique ht.2 ht.1, ht.2⟩
  refine Triple.bind (Triple.of_preserves (preserves_onRequest (hkeeps _ hnew))) fun _ => ?_
  refine Triple.bind (Triple.of_preserves (preserves_onRequest (hkeeps _ hnew))) fun _ => ?_
  exact Triple.bind (Q := fun _ _ => True) (Triple.modify fun _ _ => trivial) fun _ =>
    Triple.pure fun _ _ => trivial

/-- The history after the constructor of a new client. -/
def historyAfterCreate (net : Network) (device : Address) (h : History) : History :=
  finalState (UsrpClient.create net device.1 device.2 h)

/-- A connection that is established is followed by a `resetStreamingConfigs`. -/
theorem historyAfterCreate_of_connect {device : Address} {h : History}
    (hconnect : net h device .connect = .returns ()) : historyAfterCreate net device h =
      .request device .resetStreamingConfigs
        (net (.request device .connect true :: h) device .resetStreamingConfigs).applied ::
      .request device .connect true :: h := by
  have hrun : UsrpClient.create net device.1 device.2 h =
      (request net device .resetStreamingConfigs >>= fun _ => pure ⟨device.1, device.2, false⟩)
        (.request device .connect true :: h) := bind_of_ok (request_of_returns hconnect)
  rw [historyAfterCreate, hrun, bind_apply]
  unfold request
  cases net (.request device .connect true :: h) device .resetStreamingConfigs <;> rfl

/-- A connection that fails is followed by nothing. -/
theorem historyAfterCreate_of_fails {device : Address} {h : History} {failure : RpcFailure}
    {applied : Bool} (hconnect : net h device .connect = .fails failure applied) :
    historyAfterCreate net device h = .request device .connect applied :: h := by
  have hrun : UsrpClient.create net device.1 device.2 h =
      .error failure.toClientError (.request device .connect applied :: h) :=
    bind_of_error (request_of_fails hconnect)
  rw [historyAfterCreate, hrun]
  rfl

theorem pendingConfigs_connect (device d : Address) (applied : Bool) (h : History) :
    pendingConfigs d (.request device .connect applied :: h) = pendingConfigs d h := by
  cases applied with
  | false => rfl
  | true =>
      rw [pendingConfigs]
      exact ite_self _

/-- The constructor empties the list of a server exactly if it gets to reset it. -/
theorem pendingConfigs_create (net : Network) (device d : Address) (h : History) :
    (d = device ∧ CreateResets net device h ∧
        pendingConfigs d (historyAfterCreate net device h) = []) ∨
      (¬ (d = device ∧ CreateResets net device h) ∧
        pendingConfigs d (historyAfterCreate net device h) = pendingConfigs d h) := by
  cases hconnect : net h device .connect with
  | fails failure applied =>
      have hnot : ¬ (d = device ∧ CreateResets net device h) := by
        rintro ⟨-, hreturns, -⟩
        rw [hconnect] at hreturns
        cases hreturns
      rw [historyAfterCreate_of_fails hconnect]
      exact Or.inr ⟨hnot, pendingConfigs_connect device d applied h⟩
  | returns value =>
      rw [historyAfterCreate_of_connect hconnect]
      by_cases hcleared : d = device ∧ CreateResets net device h
      · obtain ⟨rfl, hresets⟩ := hcleared
        rw [hresets.2, pendingConfigs_carriedOut]
        exact Or.inl ⟨rfl, hresets, rfl⟩
      · refine Or.inr ⟨hcleared, ?_⟩
        rw [pendingConfigs_cons, pendingConfigs_connect]
        rintro ⟨r, hr⟩
        obtain ⟨hdevice, -, happlied⟩ := ClientEvent.request.inj hr
        exact hcleared ⟨hdevice.symm, hconnect, happlied⟩

/-- The requests of a new client do not touch the sync source. -/
theorem acceptedSyncSource_create (net : Network) (device d : Address) (h : History) :
    acceptedSyncSource d (historyAfterCreate net device h) = acceptedSyncSource d h := by
  cases hconnect : net h device .connect with
  | fails failure applied =>
      rw [historyAfterCreate_of_fails hconnect]
      rfl
  | returns value =>
      rw [historyAfterCreate_of_connect hconnect]
      rfl

/-- When `newUsrp` raises, only its own requests have been added to the history. -/
theorem newUsrp_eq_error {ip usrpName : String} {port : ℕ}
    (h : newUsrp net ip usrpName port s = .error e s') :
    RaisedFrom s (historyAfterCreate net (ip, port) s.history) s' := by
  have hfinal : finalState (onHistory (UsrpClient.create net ip port) s) =
      { s with history := historyAfterCreate net (ip, port) s.history } :=
    finalState_onField _ _ _ _
  rcases bind_eq_error_iff.mp h with hcreate | ⟨client, s₁, hcreate, hadd⟩
  -- the constructor raises, or `addUsrp` does
  · obtain ⟨e', hcreate⟩ := labelRemoteError_eq_error hcreate
    rw [hcreate] at hfinal
    obtain rfl : s' = _ := hfinal
    exact ⟨rfl, rfl, rfl, id, .refl _⟩
  · rw [labelRemoteError_eq_ok hcreate] at hfinal
    obtain rfl : s₁ = _ := hfinal
    obtain ⟨hclients, hset, hrequest, hsynced, hrequests⟩ := addUsrp_eq_error hadd
    exact ⟨hclients, hset, hrequest, hsynced, hrequests⟩

/-- What a call that raises has left of the registered devices is decided by the
constructor of the client. -/
theorem RaisedFrom.unaffected_iff {h₀ : History} (h : RaisedFrom s h₀ s')
    (haccepted : ∀ d, acceptedSyncSource d h₀ = acceptedSyncSource d s.history) :
    Unaffected s s' ↔
      ∀ d ∈ s.devices, (pendingConfigs d s.history).Sublist (pendingConfigs d h₀) := by
  have helsewhere {d : Address} (hd : d ∈ s.devices) {e : ClientEvent}
      (he : Elsewhere s.devices e) :
      ¬ e.CarriedOut d := by
    rintro ⟨r, rfl⟩
    obtain ⟨d', r', applied, heq, hnot⟩ := he
    cases heq
    exact hnot hd
  have hpending (d : Address) (hd : d ∈ s.devices) :
      pendingConfigs d s'.history = pendingConfigs d h₀ :=
    h.requests.view_eq fun e h he => pendingConfigs_cons h (helsewhere hd he)
  constructor
  · intro hun d hd
    rw [← hpending d hd]
    exact hun.pending d hd
  · intro hsub
    refine ⟨h.usrpClients, h.syncSourceSet, h.syncSourceRequest, fun d hd => ?_, h.usrpsSynced,
      fun d hd => ?_⟩
    · rw [← haccepted d]
      exact h.requests.view_eq fun e h he =>
        acceptedSyncSource_cons_of_elsewhere h (helsewhere hd he)
    · rw [hpending d hd]
      exact hsub d hd

/-- **Rejected registration.**  A call that raises leaves the registered devices, the sync
source and the streaming configs that wait for registered devices as they are, unless it
is a `newUsrp` at the address of a registered device whose configs the constructor of the
new client resets. -/
theorem registration_unaffected_iff {r : Registration} (h : r.call net s = .error e s') :
    Unaffected s s' ↔ ¬ ClearsPending net s r := by
  cases r with
  | addUsrp usrpName client =>
      rw [(addUsrp_eq_error h).unaffected_iff fun _ => rfl]
      exact iff_of_true (fun d _ => List.Sublist.refl _) id
  | newUsrp ip usrpName port =>
      rw [(newUsrp_eq_error h).unaffected_iff
        fun d => acceptedSyncSource_create net (ip, port) d s.history]
      -- of all devices only the one at the address of the new client can lose its configs
      constructor
      · rintro hsub ⟨hmem, hpending, hresets⟩
        rcases pendingConfigs_create net (ip, port) (ip, port) s.history with
          ⟨-, -, hempty⟩ | ⟨hnot, -⟩
        · have hnone := hsub (ip, port) hmem
          rw [hempty] at hnone
          exact hpending (List.sublist_nil.mp hnone)
        · exact hnot ⟨rfl, hresets⟩
      · intro hkept d hd
        rcases pendingConfigs_create net (ip, port) d s.history with
          ⟨rfl, hresets, hempty⟩ | ⟨-, hsame⟩
        · have hnone : pendingConfigs (ip, port) s.history = [] := by
            by_contra hpending
            exact hkept ⟨hd, hpending, hresets⟩
          rw [hnone]
          exact List.nil_sublist _
        · rw [hsame]

end

/-- A registered device with one RX config that waits. -/
def exampleWaiting : System :=
  Machine.run (step .reliable) (create "auto")
    [.newUsrp "192.168.189.131" "usrp1" 5555, .configureRx "usrp1" { numSamples := 60000 }]

/-- The same address under another name: the call raises, and the config is lost. -/
theorem registration_unaffected_fails :
    returned ((Registration.newUsrp "192.168.189.131" "usrp2" 5555).call .reliable
        exampleWaiting) = false ∧
      ¬ Unaffected exampleWaiting (finalState
        ((Registration.newUsrp "192.168.189.131" "usrp2" 5555).call .reliable exampleWaiting)) := by
  refine ⟨by decide +kernel, fun h => ?_⟩
  have hregistered : ("192.168.189.131", 5555) ∈ exampleWaiting.devices := by decide +kernel
  have hlost := (h.pending _ hregistered).length_le
  revert hlost
  decide +kernel

/-- The same name at another address: the config waits as before. -/
theorem registration_unaffected_example :
    ∃ e s', (Registration.newUsrp "192.168.189.132" "usrp1" 5555).call .reliable exampleWaiting =
        .error e s' ∧ Unaffected exampleWaiting s' := by
  have hraises : thrown ((Registration.newUsrp "192.168.189.132" "usrp1" 5555).call .reliable
      exampleWaiting) = some connectionExists := by decide +kernel
  refine ⟨_, _, eq_of_thrown hraises, (registration_unaffected_iff (eq_of_thrown hraises)).mpr ?_⟩
  rintro ⟨hregistered, -⟩
  revert hregistered
  decide +kernel

end System

end UsrpWrapper
