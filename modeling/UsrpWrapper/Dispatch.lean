import UsrpWrapper.System

/-!
# Execution on all devices

`System.execute` calls `execute` on the registered clients one after the other and
gathers the errors of the servers (`__catchRemoteUsrpErrors`).  A client that was never
configured raises an error of its own, which is not gathered: it ends the loop
(`catchCall_triple`).
-/

namespace UsrpWrapper

open Lib Lib.Command Lib.Trace

/-- The calls of `UsrpClient.execute`, the first one first. -/
def executeCalls (h : History) : List (Address × ℚ) :=
  (h.filterMap fun
    | .executeCall device baseTime => some (device, baseTime)
    | _ => none).reverse

@[simp] theorem executeCalls_executeCall (device : Address) (baseTime : ℚ) (h : History) :
    executeCalls (.executeCall device baseTime :: h) =
      executeCalls h ++ [(device, baseTime)] := by
  simp [executeCalls]

/-- The device answers the request to execute with a return or with a `RemoteError`. -/
def Network.Answers (net : Network) (baseTime : ℚ) (outcome : Address → Except String Unit)
    (device : Address) : Prop :=
  ∀ h, match outcome device with
    | .ok () => net h device (.execute baseTime) = .returns ()
    | .error msg => ∃ applied, net h device (.execute baseTime) = .fails (.remoteError msg) applied

/-- The names of the devices that an exception names. -/
def ClientError.usrpNames : ClientError → List String
  | .remoteUsrp error => [error.usrpName]
  | .multipleRemoteUsrp errors => errors.map RemoteUsrpError.usrpName
  | _ => []

namespace System

/-- The call of the device fails: in the client, or on the server. -/
def callFails (outcome : Address → Except String Unit) (u : LabeledUsrp) : Bool :=
  !u.client.rfConfiguredOnce || match outcome u.address with
    | .ok () => false
    | .error _ => true

/-- The names of the devices whose calls fail, in the order of their registration. -/
def failingUsrps (outcome : Address → Except String Unit) (s : System) : List String :=
  (s.usrpClients.entries.filter fun e => callFails outcome e.2).map Sigma.fst

/-- Every registered device is called once, in order, with the base time; if calls
fail, the exception names exactly the devices of these calls. -/
structure DispatchesAll (outcome : Address → Except String Unit) (baseTime : ℚ) (s : System)
    (r : EStateM.Result ClientError System Unit) : Prop where
  calls : executeCalls (finalState r).history =
    executeCalls s.history ++ s.devices.map fun device => (device, baseTime)
  returns : failingUsrps outcome s = [] → thrown r = none
  raises : failingUsrps outcome s ≠ [] →
    ∃ e, thrown r = some e ∧ e.usrpNames = failingUsrps outcome s

/-- Every registered client was configured. -/
def AllConfigured (clients : Dict String LabeledUsrp) : Prop :=
  ∀ u ∈ clients.values, u.client.rfConfiguredOnce = true

instance (clients : Dict String LabeledUsrp) : Decidable (AllConfigured clients) :=
  inferInstanceAs (Decidable (∀ u ∈ clients.values, u.client.rfConfiguredOnce = true))

section

variable {net : Network} {baseTime : ℚ} {outcome : Address → Except String Unit}
  {clients : Dict String LabeledUsrp} {calls : List (Address × ℚ)}

/-- The registered devices, and the calls that were made so far. -/
def Called (clients : Dict String LabeledUsrp) (calls : List (Address × ℚ)) (s : System) : Prop :=
  s.usrpClients = clients ∧ executeCalls s.history = calls

/-- The calls of all devices, in order. -/
def allCalls (clients : Dict String LabeledUsrp) (baseTime : ℚ) : List (Address × ℚ) :=
  clients.entries.map fun e => (e.2.address, baseTime)

/-- What the calls of all devices end with, if all clients are configured. -/
def allOutcomes (outcome : Address → Except String Unit) (clients : Dict String LabeledUsrp) :
    List (String × Except String Unit) :=
  clients.entries.map fun e => (e.1, outcome e.2.address)

/-- What holds of all devices, said of the entries. -/
theorem forall_values_iff {p : LabeledUsrp → Prop} :
    (∀ u ∈ clients.values, p u) ↔ ∀ e ∈ clients.entries, p e.2 := by
  rw [Dict.values, List.forall_mem_map]

theorem labeledUsrp_eq_ok {s : System} {usrpName : String} {u : LabeledUsrp}
    (hmem : ⟨usrpName, u⟩ ∈ s.usrpClients.entries) : labeledUsrp usrpName s = .ok u s := by
  refine reads_eq_ok_iff.mpr ⟨?_, rfl⟩
  rw [Dict.lookup_of_mem hmem]

/-- One call of the loop. -/
theorem catchCall_triple {usrpName : String} {u : LabeledUsrp}
    (hmem : ⟨usrpName, u⟩ ∈ clients.entries) (hanswers : net.Answers baseTime outcome u.address) :
    Triple (Called clients calls) (catchRemoteError (callExecuteAtUsrp net baseTime usrpName))
      (fun r s => r = outcome u.address ∧ u.client.rfConfiguredOnce = true ∧
        Called clients (calls ++ [(u.address, baseTime)]) s)
      (fun e _ => e = UsrpClient.notConfigured ∧ u.client.rfConfiguredOnce = false) := by
  rintro s ⟨rfl, rfl⟩
  have hlookup : callExecuteAtUsrp net baseTime usrpName s =
      onHistory (u.client.execute net baseTime) s := bind_of_ok (labeledUsrp_eq_ok hmem)
  unfold catchRemoteError
  rw [hlookup]
  cases hconfigured : u.client.rfConfiguredOnce with
  | false =>
      -- a `RuntimeError` of the client: not caught
      rw [show onHistory (u.client.execute net baseTime) s = .error UsrpClient.notConfigured _ from
        onField_of_error (execute_of_not_configured net s.history baseTime hconfigured)]
      exact ⟨rfl, rfl⟩
  | true =>
      have hrun := execute_of_configured net s.history baseTime hconfigured
      have hreply := hanswers (.executeCall u.address baseTime :: s.history)
      have hcalls := executeCalls_executeCall u.address baseTime s.history
      cases houtcome : outcome u.address with
      | ok value =>
          rw [houtcome] at hreply
          rw [show onHistory (u.client.execute net baseTime) s = .ok () _ from
            onField_of_ok (hrun.trans (request_of_returns hreply))]
          exact ⟨rfl, rfl, rfl, hcalls⟩
      | error msg =>
          -- a `RemoteError`: caught, and the loop goes on
          rw [houtcome] at hreply
          obtain ⟨applied, hreply⟩ := hreply
          rw [show onHistory (u.client.execute net baseTime) s = .error (.remote msg) _ from
            onField_of_error (hrun.trans (request_of_fails hreply))]
          exact ⟨rfl, rfl, rfl, hcalls⟩

/-- The loop over the devices. -/
theorem catchCalls_triple
    (hanswers : ∀ u ∈ clients.values, net.Answers baseTime outcome u.address) :
    Triple (Called clients calls)
      (clients.keys.mapM fun usrpName => do
        let r ← catchRemoteError (callExecuteAtUsrp net baseTime usrpName)
        return (usrpName, r))
      (fun rs s => rs = allOutcomes outcome clients ∧ AllConfigured clients ∧
        Called clients (calls ++ allCalls clients baseTime) s)
      (fun e _ => e = UsrpClient.notConfigured ∧ ¬ AllConfigured clients) := by
  have hkeys : clients.keys = clients.entries.map Sigma.fst := rfl
  rw [hkeys, List.mapM_map]
  unfold AllConfigured
  rw [forall_values_iff]
  -- the clients before this one were configured and called
  let I : List (Sigma fun _ : String => LabeledUsrp) → System → Prop := fun before s =>
    (∀ e ∈ before, e.2.client.rfConfiguredOnce = true) ∧
      Called clients (calls ++ before.map fun e => (e.2.address, baseTime)) s
  refine (Triple.mapM (I := I) [] fun e he before => Triple.of_fact fun hbefore => ?_).mono_pre
    fun s hs => ?_
  · have hanswer := forall_values_iff.mp hanswers e he
    refine Triple.bind ((catchCall_triple he hanswer).mono_error fun _ _ hs =>
      ⟨hs.1, fun hall => ?_⟩) fun r => Triple.pure ?_
    · rw [hall e he] at hs
      exact nomatch hs.2
    · rintro s ⟨rfl, hconfigured, hcalled⟩
      refine ⟨rfl, fun e' he' => ?_, ?_⟩
      · rcases List.mem_append.mp he' with hold | hnew
        · exact hbefore e' hold
        · rw [List.mem_singleton.mp hnew]
          exact hconfigured
      · rw [List.map_append, ← List.append_assoc]
        exact hcalled
  · refine ⟨fun _ he => (nomatch he), ?_⟩
    rw [List.map_nil, List.append_nil]
    exact hs

/-- The calls of the devices end with a return, with the errors that were gathered, or
with the error of a client that was never configured. -/
theorem dispatch_triple (calls : List (Address × ℚ))
    (hanswers : ∀ u ∈ clients.values, net.Answers baseTime outcome u.address) :
    Triple (Called clients calls) (dispatch net baseTime)
      (fun _ s => remoteUsrpErrors (allOutcomes outcome clients) = [] ∧ AllConfigured clients ∧
        Called clients (calls ++ allCalls clients baseTime) s)
      (fun e s => (remoteUsrpErrors (allOutcomes outcome clients) ≠ [] ∧
          e = .multipleRemoteUsrp (remoteUsrpErrors (allOutcomes outcome clients)) ∧
          AllConfigured clients ∧ Called clients (calls ++ allCalls clients baseTime) s) ∨
        e = UsrpClient.notConfigured ∧ ¬ AllConfigured clients) := by
  refine Triple.bind (Q := fun _ => Called clients calls) (fun s hs => hs) fun _ => ?_
  refine Triple.bind (Triple.bind Triple.get fun s₁ => ?_) fun _ => Triple.pure fun _ hs => hs
  rintro s ⟨rfl, rfl, hcalls⟩
  refine ((catchCalls_triple hanswers).mono_error fun _ _ hs => Or.inr hs).bind (fun rs => ?_)
    s₁ ⟨rfl, hcalls⟩
  refine Triple.of_fact fun hrs => ?_
  subst hrs
  exact Triple.ite (fun hnone => Triple.pure fun _ hs => ⟨hnone, hs⟩)
    fun hsome => Triple.throw fun _ hs => Or.inl ⟨hsome, rfl, hs⟩

/-- The names in the errors that are gathered are those of the calls that fail. -/
theorem map_usrpName_remoteUsrpErrors {entries : List (Sigma fun _ : String => LabeledUsrp)}
    (hconfigured : ∀ e ∈ entries, e.2.client.rfConfiguredOnce = true) :
    (remoteUsrpErrors (entries.map fun e => (e.1, outcome e.2.address))).map
        RemoteUsrpError.usrpName =
      (entries.filter fun e => callFails outcome e.2).map Sigma.fst := by
  induction entries with
  | nil => rfl
  | cons e entries ih =>
      obtain ⟨he, htail⟩ := List.forall_mem_cons.mp hconfigured
      rw [List.map_cons]
      cases houtcome : outcome e.2.address with
      | ok value =>
          have hfails : callFails outcome e.2 = false := by simp [callFails, he, houtcome]
          rw [remoteUsrpErrors_ok, List.filter_cons_of_neg (by rw [hfails]; decide), ih htail]
      | error msg =>
          have hfails : callFails outcome e.2 = true := by simp [callFails, houtcome]
          rw [remoteUsrpErrors_error, List.filter_cons_of_pos (by exact hfails), List.map_cons,
            List.map_cons, ih htail]

end

/-! ## The whole call -/

section

variable {net : Network} {baseTime : ℚ} {outcome : Address → Except String Unit} {s s₁ : System}

/-- Until the devices are called, none is, and the registered clients stay the same. -/
theorem called_prepareExecute (hready : prepareExecute net s = .ok baseTime s₁) :
    Called s.usrpClients (executeCalls s.history) s₁ := by
  have hkeeps : Preserves (Called s.usrpClients (executeCalls s.history)) (prepareExecute net) :=
    preserves_prepareExecute (fun _ _ _ _ hs => hs) (fun _ _ _ hs => hs) (fun _ hs => hs)
      fun _ hs => hs
  exact hkeeps.of_ok ⟨rfl, rfl⟩ hready

theorem allCalls_eq (s : System) (baseTime : ℚ) :
    allCalls s.usrpClients baseTime = s.devices.map fun device => (device, baseTime) := by
  rw [allCalls, devices, Dict.values, List.map_map, List.map_map]
  rfl

/-- With all clients configured, the errors that are gathered name the failing devices. -/
theorem map_usrpName_allOutcomes (outcome : Address → Except String Unit)
    (h : AllConfigured s.usrpClients) :
    (remoteUsrpErrors (allOutcomes outcome s.usrpClients)).map RemoteUsrpError.usrpName =
      failingUsrps outcome s :=
  map_usrpName_remoteUsrpErrors (forall_values_iff.mp h)

/-- A client that was never configured fails. -/
theorem failingUsrps_ne_nil (h : ¬ AllConfigured s.usrpClients) : failingUsrps outcome s ≠ [] := by
  have hsome : ∃ e ∈ s.usrpClients.entries, ¬ e.2.client.rfConfiguredOnce = true := by
    by_contra hall
    refine h (forall_values_iff.mpr fun e he => ?_)
    by_contra hnot
    exact hall ⟨e, he, hnot⟩
  obtain ⟨e, he, hnot⟩ := hsome
  have hfails : callFails outcome e.2 = true := by simp [callFails, hnot]
  exact List.ne_nil_of_mem (List.mem_map.mpr ⟨e, List.mem_filter.mpr ⟨he, hfails⟩, rfl⟩)

/-- **All-device dispatch.**  Once the system is prepared, every registered device is
called and the exception names exactly the devices whose calls fail, if and only if
every registered client was configured: the error of a client that was not is not
gathered. -/
theorem execute_dispatchesAll_iff (hready : prepareExecute net s = .ok baseTime s₁)
    (hanswers : ∀ u ∈ s.usrpClients.values, net.Answers baseTime outcome u.address) :
    DispatchesAll outcome baseTime s (execute net s) ↔ AllConfigured s.usrpClients := by
  have hcalled := called_prepareExecute hready
  have htriple := dispatch_triple (executeCalls s.history) hanswers
  have hrun : execute net s = dispatch net baseTime s₁ := bind_of_ok hready
  rw [hrun]
  constructor
  · intro h
    by_contra hnot
    obtain ⟨e, hthrown, hnames⟩ := h.raises (failingUsrps_ne_nil hnot)
    rcases htriple.of_error hcalled (eq_of_thrown hthrown) with ⟨-, -, hall, -⟩ | ⟨rfl, -⟩
    · exact hnot hall
    -- the error of the client names no device, but some device fails
    · exact failingUsrps_ne_nil hnot hnames.symm
  · intro hall
    have hnames := map_usrpName_allOutcomes outcome hall
    rw [allCalls_eq] at htriple
    cases hend : dispatch net baseTime s₁ with
    | ok value s' =>
        obtain ⟨hnone, -, -, hcalls⟩ := htriple.of_ok hcalled hend
        have hnil : failingUsrps outcome s = [] := by
          rw [← hnames, hnone]
          rfl
        exact ⟨hcalls, fun _ => rfl, fun hne => absurd hnil hne⟩
    | error e s' =>
        rcases htriple.of_error hcalled hend with ⟨hsome, rfl, -, -, hcalls⟩ | ⟨-, hnot⟩
        · refine ⟨hcalls, fun hnil => absurd ?_ hsome, fun _ => ⟨_, rfl, hnames⟩⟩
          rw [← hnames] at hnil
          exact List.map_eq_nil_iff.mp hnil
        · exact absurd hall hnot

end

/-- Two devices, of which only the clients with these names are configured. -/
def exampleDevices (usrpNames : List String) : System :=
  Machine.run (step .reliable) (create "auto")
    ([.newUsrp "192.168.189.131" "usrp1" 5555, .newUsrp "192.168.189.132" "usrp2" 5555] ++
      usrpNames.map fun usrpName => .configureRfConfig usrpName {})

/-- The first device is not configured, and the second one is not called. -/
theorem execute_dispatchesAll_fails :
    ∃ baseTime s₁, prepareExecute .reliable (exampleDevices ["usrp2"]) = .ok baseTime s₁ ∧
      (∀ u ∈ (exampleDevices ["usrp2"]).usrpClients.values,
        Network.reliable.Answers baseTime (fun _ => .ok ()) u.address) ∧
      ¬ DispatchesAll (fun _ => .ok ()) baseTime (exampleDevices ["usrp2"])
        (execute .reliable (exampleDevices ["usrp2"])) := by
  have hreturns : returned (prepareExecute .reliable (exampleDevices ["usrp2"])) = true := by
    decide +kernel
  obtain ⟨baseTime, hready⟩ := exists_of_returned hreturns
  refine ⟨baseTime, _, hready, fun u _ h => rfl, fun h => ?_⟩
  have hone : (executeCalls (finalState
      (execute .reliable (exampleDevices ["usrp2"]))).history).length = 1 := by decide +kernel
  have htwo : (exampleDevices ["usrp2"]).devices.length = 2 := by decide +kernel
  have hlength := congrArg List.length h.calls
  rw [hone, List.length_append, List.length_map, htwo] at hlength
  omega

/-- The server of the first device raises an exception when it is to execute. -/
def exampleOutcome (device : Address) : Except String Unit :=
  if device = ("192.168.189.131", 5555) then .error "foo" else .ok ()

/-- A network with that server; all other requests succeed. -/
def exampleFailing : Network := fun h device r =>
  match r with
  | .execute _ => match exampleOutcome device with
      | .ok () => .returns ()
      | .error msg => .fails (.remoteError msg) true
  | r => Network.reliable h device r

/-- With both clients configured, both are called, and the first one is named. -/
theorem execute_dispatchesAll_example :
    ∃ baseTime, DispatchesAll exampleOutcome baseTime (exampleDevices ["usrp1", "usrp2"])
      (execute exampleFailing (exampleDevices ["usrp1", "usrp2"])) := by
  have hreturns : returned (prepareExecute exampleFailing (exampleDevices ["usrp1", "usrp2"])) =
      true := by decide +kernel
  obtain ⟨baseTime, hready⟩ := exists_of_returned hreturns
  refine ⟨baseTime, (execute_dispatchesAll_iff hready fun u _ h => ?_).mpr (by decide +kernel)⟩
  unfold exampleFailing
  cases exampleOutcome u.address with
  | ok value => exact rfl
  | error msg => exact ⟨true, rfl⟩

end System

end UsrpWrapper
