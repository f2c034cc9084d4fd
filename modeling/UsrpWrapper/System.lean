import UsrpWrapper.RpcClient
import UsrpWrapper.Lib.Dict
import UsrpWrapper.Lib.Machine
import UsrpWrapper.Lib.Triple

/-!
# The system

`System` (`system.py`) registers USRPs under their names, synchronises them, and lets
them execute and collect together.

The flag `_usrpsSynced` is reset by a timer, which may fire at any moment.  A call reads
the flag at most once, so that the timer fires, as far as the call can tell, before or
after it; `Op.timerExpires` is that step between two calls.

The `ip` and the `port` of a `LabeledUsrp` are those of its client, which never change.
FPGA times are rationals.
-/

namespace UsrpWrapper

open Lib Lib.Command Lib.Trace

/-! ## Clipped values -/

/-- `np.abs(x) > bound`, which is false of a nan. -/
def Float64.absGt (bound : ℚ) : Float64 → Bool
  | .finite x => decide (bound < |x|)
  | .inf _ => true
  | .nan => false

/-- `np.abs(x) >= bound`, which is false of a nan. -/
def Float64.absGe (bound : ℚ) : Float64 → Bool
  | .finite x => decide (bound ≤ |x|)
  | .inf _ => true
  | .nan => false

/-- `rxContainsClippedValue`: a real or imaginary part has reached 1. -/
def rxContainsClippedValue (mimoSignal : PyMimoSignal) : Bool :=
  mimoSignal.signals.any fun s =>
    s.data.any (fun z => z.re.absGe 1) || s.data.any (fun z => z.im.absGe 1)

/-- `txContainsClippedValue`: a real or imaginary part is above 1. -/
def txContainsClippedValue (mimoSignal : PyMimoSignal) : Bool :=
  mimoSignal.signals.any fun s =>
    s.data.any (fun z => z.re.absGt 1) || s.data.any (fun z => z.im.absGt 1)

/-! ## State -/

/-- A client under the name it was registered with. -/
structure LabeledUsrp where
  name : String
  client : UsrpClient
  deriving DecidableEq

namespace LabeledUsrp

/-- The IP of its server. -/
def ip (u : LabeledUsrp) : String := u.client.ip

/-- The port of its server. -/
def port (u : LabeledUsrp) : ℕ := u.client.port

/-- The server, by which devices are told apart. -/
def address (u : LabeledUsrp) : Address := u.client.address

end LabeledUsrp

/-- `System`: the registered clients, the two flags of the synchronisation and the sync source
that was asked for.  The history is what the system has done; the code does not have it. -/
structure System where
  usrpClients : Dict String LabeledUsrp
  usrpsSynced : Bool
  syncSourceSet : Bool
  syncSourceRequest : String
  history : History

namespace System

/-- `System.__init__`. -/
def create (syncSource : String) : System := ⟨∅, false, false, syncSource, []⟩

/-- The FPGA times of synchronised devices are read less than this apart. -/
def syncThresholdSec : ℚ := 1 / 5

/-- How far behind the latest FPGA time an execution starts. -/
def baseTimeOffsetSec : ℚ := 1 / 2

/-- How often the clocks are reset before the synchronisation gives up. -/
def syncAttempts : ℕ := 3

/-- The addresses of the registered USRPs, in the order of their registration. -/
def devices (s : System) : List Address := s.usrpClients.values.map LabeledUsrp.address

/-- A call of the system: what it has changed stays when it raises. -/
abbrev SystemM := EStateM ClientError System

variable {α : Type}

/-- A call of a client, as part of a call of the system. -/
def onHistory (x : RpcM α) : SystemM α :=
  onField System.history (fun h s => { s with history := h }) x

/-- `self.__usrpClients[usrpName]`. -/
def labeledUsrp (usrpName : String) : SystemM LabeledUsrp := reads fun s =>
  match s.usrpClients.lookup usrpName with
  | some u => .ok u
  | none => .error (.keyError usrpName)

section

variable (net : Network)

/-! ## Registration -/

/-- `except RemoteError as e: raise RemoteUsrpError(e.msg, usrpName)`. -/
def labelRemoteError (usrpName : String) (x : SystemM α) : SystemM α := fun s =>
  match x s with
  | .ok a s' => .ok a s'
  | .error (.remote msg) s' => .error (.remoteUsrp ⟨msg, usrpName⟩) s'
  | .error e s' => .error e s'

/-- The exception of `assertUniqueUsrp`. -/
def connectionExists : ClientError := .python (.valueError "Connection to USRP already exists!")

/-- `assertUniqueUsrp`: the name is free, and no registered client has this IP and port. -/
def assertUniqueUsrp (ip : String) (port : ℕ) (usrpName : String) (s : System) :
    Except ClientError Unit := do
  check (usrpName ∈ s.usrpClients) connectionExists
  check (∃ u ∈ s.usrpClients.values, u.ip = ip ∧ u.port = port) connectionExists

/-- The assignments at the end of `addUsrp`. -/
def register (usrpName : String) (client : UsrpClient) (s : System) : System :=
  { s with
    usrpClients := Dict.set usrpName ⟨usrpName, client⟩ s.usrpClients
    syncSourceSet := false
    history := .registered usrpName client.address :: s.history }

/-- `addUsrp`: the name and the address are looked at before the device is reset. -/
def addUsrp (usrpName : String) (client : UsrpClient) : SystemM UsrpClient :=
  labelRemoteError usrpName do
    -- reset even if the registration is rejected afterwards
    modify fun s => { s with usrpsSynced := false }
    reads (assertUniqueUsrp client.ip client.port usrpName)
    -- asked for the log message
    let _ ← onHistory (client.getRemoteVersion net)
    onHistory (client.resetStreamingConfigs net)
    modify (register usrpName client)
    return client

/-- `newUsrp`: the constructor of the client has reset the device before `addUsrp` looks at it. -/
def newUsrp (ip usrpName : String) (port : ℕ) : SystemM UsrpClient := do
  let usrpClient ← labelRemoteError usrpName (onHistory (UsrpClient.create net ip port))
  addUsrp net usrpName usrpClient

/-! ## Synchronisation -/

/-- `__calculateSyncSource`: with `auto`, several devices need an external source. -/
def calculateSyncSource (s : System) : Except ClientError String :=
  if s.syncSourceRequest = "auto" then
    .ok (if s.usrpClients.entries.length ≤ 1 then "internal" else "external")
  else if 1 < s.usrpClients.entries.length ∧ s.syncSourceRequest = "internal" then
    .error (.python (.runtimeError "Cannot use 'internal' reference with multiple USRPs"))
  else .ok s.syncSourceRequest

/-- `__setTimeToZeroNextPps`: one device after the other, each at its own next pulse. -/
def setTimeToZeroNextPps : SystemM Unit := do
  let s ← get
  forM s.usrpClients.values fun usrp => onHistory (usrp.client.setTimeToZeroNextPps net)

/-- `resetFpgaTimes`, which leaves the flag of the synchronisation as it is. -/
def resetFpgaTimes : SystemM Unit := setTimeToZeroNextPps net

/-- `__updateSyncSources`: once after each registration, all devices get the source. -/
def updateSyncSources : SystemM Unit := do
  let s ← get
  if s.syncSourceSet then pure ()
  else do
    let source ← reads calculateSyncSource
    forM s.usrpClients.values fun usrp => onHistory (usrp.client.setSyncSource net source)
    -- the new source is in force from here on, and the times of the old one are void
    resetFpgaTimes net
    modify fun s => { s with syncSourceSet := true }

/-- `__getCurrentFpgaTimes`, in the order of registration. -/
def getCurrentFpgaTimes : SystemM (List ℚ) := do
  let s ← get
  s.usrpClients.values.mapM fun item => onHistory (item.client.getCurrentFpgaTime net)

/-- `np.max`, of which the array must not be empty. -/
def npMax (times : List ℚ) : Except ClientError ℚ :=
  match times.max? with
  | some t => .ok t
  | none => .error (.python .numpy)

/-- `np.min`, of which the array must not be empty either. -/
def npMin (times : List ℚ) : Except ClientError ℚ :=
  match times.min? with
  | some t => .ok t
  | none => .error (.python .numpy)

/-- The condition of `synchronisationValid`. -/
def timesValid (currentFpgaTimes : List ℚ) : Except ClientError Bool := do
  let latest ← npMax currentFpgaTimes
  let earliest ← npMin currentFpgaTimes
  return latest - earliest < syncThresholdSec

/-- `synchronisationValid`: the latest time is close to the earliest one. -/
def synchronisationValid : SystemM Bool := do
  let currentFpgaTimes ← getCurrentFpgaTimes net
  let valid ← liftE (timesValid currentFpgaTimes)
  -- the check is recorded with the devices it has seen
  let s ← get
  onHistory (record (.checked s.devices valid))
  return valid

/-- The loop of `__synchronizeUsrps`, with the number of attempts that are left. -/
def attemptSync : ℕ → SystemM Unit
  | 0 => throw (.python (.runtimeError "Tried at least 3 syncing wihout succes."))
  | n + 1 => do
      setTimeToZeroNextPps net
      if ← synchronisationValid net then modify fun s => { s with usrpsSynced := true }
      else attemptSync n

/-- `__synchronizeUsrps`. -/
def synchronizeClocks : SystemM Unit := do
  let s ← get
  if s.usrpsSynced then pure ()
  else if ← synchronisationValid net then modify fun s => { s with usrpsSynced := true }
  else attemptSync net syncAttempts

/-- `synchronizeUsrps`: first the sources, and then the clocks they drive. -/
def synchronizeUsrps : SystemM Unit := do
  updateSyncSources net
  synchronizeClocks net

/-! ## Streaming -/

/-- `configureTx`: a signal above 1 does not get to the client. -/
def configureTx (usrpName : String) (txStreamingConfig : PyTxStreamingConfig) : SystemM Unit := do
  liftE (check (txContainsClippedValue txStreamingConfig.samples = true)
    (.python (.valueError "Tx signal contains values above 1.0.")))
  let usrp ← labeledUsrp usrpName
  onHistory (usrp.client.configureTx net txStreamingConfig)

/-- `configureRx` of the client that is registered under the name. -/
def configureRx (usrpName : String) (rxStreamingConfig : PyRxStreamingConfig) : SystemM Unit := do
  let usrp ← labeledUsrp usrpName
  onHistory (usrp.client.configureRx net rxStreamingConfig)

/-- `configureRfConfig` of the client that is registered under the name. -/
def configureRfConfig (usrpName : String) (rfConfig : PyRfConfig) : SystemM Unit := do
  let usrp ← labeledUsrp usrpName
  onField (fun s => (usrp.client, s.history))
    (fun p s => { s with
      usrpClients := Dict.set usrpName ⟨usrp.name, p.1⟩ s.usrpClients, history := p.2 })
    (UsrpClient.configureRfConfig net rfConfig)

/-- `except RemoteError as e`: the message of the error. -/
def catchRemoteError (x : SystemM α) : SystemM (Except String α) := fun s =>
  match x s with
  | .ok a s' => .ok (.ok a) s'
  | .error (.remote msg) s' => .ok (.error msg) s'
  | .error e s' => .error e s'

/-- The errors that were gathered. -/
def remoteUsrpErrors (outcomes : List (String × Except String α)) : List RemoteUsrpError :=
  outcomes.filterMap fun
    | (usrpName, .error msg) => some ⟨msg, usrpName⟩
    | (_, .ok _) => none

/-- A device that raised contributes its error. -/
@[simp] theorem remoteUsrpErrors_error (usrpName msg : String)
    (outcomes : List (String × Except String α)) :
    remoteUsrpErrors ((usrpName, .error msg) :: outcomes) =
      ⟨msg, usrpName⟩ :: remoteUsrpErrors outcomes := rfl

/-- A device that returned contributes none. -/
@[simp] theorem remoteUsrpErrors_ok (usrpName : String) (a : α)
    (outcomes : List (String × Except String α)) :
    remoteUsrpErrors ((usrpName, .ok a) :: outcomes) = remoteUsrpErrors outcomes := rfl

/-- What the calls that did not fail returned. -/
def returnedValues (outcomes : List (String × Except String α)) : List (String × α) :=
  outcomes.filterMap fun
    | (_, .error _) => none
    | (usrpName, .ok a) => some (usrpName, a)

/-- `__catchRemoteUsrpErrors`: all devices are called, whatever the servers of the first ones
answer; their errors are raised together. -/
def catchRemoteUsrpErrors (f : String → SystemM α) : SystemM (List (String × α)) := do
  let s ← get
  -- any exception but a `RemoteError` ends the loop, and the outcomes so far are dropped
  let outcomes ← s.usrpClients.keys.mapM fun usrpName => do
    let outcome ← catchRemoteError (f usrpName)
    return (usrpName, outcome)
  if remoteUsrpErrors outcomes = [] then return returnedValues outcomes
  else throw (.multipleRemoteUsrp (remoteUsrpErrors outcomes))

/-- `__calculateBaseTimeSec`: a time that is still ahead on every device. -/
def calculateBaseTimeSec : SystemM ℚ := do
  let currentFpgaTimesSec ← getCurrentFpgaTimes net
  let maxTime ← liftE (npMax currentFpgaTimesSec)
  return maxTime + baseTimeOffsetSec

/-- The call of one device in `execute`. -/
def callExecuteAtUsrp (baseTimeSec : ℚ) (usrpName : String) : SystemM Unit := do
  let usrp ← labeledUsrp usrpName
  onHistory (usrp.client.execute net baseTimeSec)

/-- `execute`, up to the calls of the devices. -/
def prepareExecute : SystemM ℚ := do
  synchronizeUsrps net
  calculateBaseTimeSec net

/-- `execute`, from the calls of the devices on. -/
def dispatch (baseTimeSec : ℚ) : SystemM Unit := do
  onHistory (record (.dispatch baseTimeSec))
  let _ ← catchRemoteUsrpErrors (callExecuteAtUsrp net baseTimeSec)

/-- `execute`. -/
def execute : SystemM Unit := do
  let baseTimeSec ← prepareExecute net
  dispatch net baseTimeSec

/-- `__assertNoClippedValues`: the first device with a clipped sample is named. -/
def assertNoClippedValues (samples : List (String × List PyMimoSignal)) : Except ClientError Unit :=
  match samples.find? fun p => p.2.any rxContainsClippedValue with
  | some (usrpName, _) => .error (.python (.valueError
      ("USRP " ++ usrpName ++ " contains clipped values. Please check your gains.")))
  | none => .ok ()

/-- The call of one device in `collect`. -/
def callCollectAtUsrp (usrpName : String) : SystemM (List PyMimoSignal) := do
  let usrp ← labeledUsrp usrpName
  onHistory (usrp.client.collect net)

/-- `collect`: the devices have given their samples away before clipping is looked for. -/
def collect : SystemM (List (String × List PyMimoSignal)) := do
  let samples ← catchRemoteUsrpErrors (callCollectAtUsrp net)
  liftE (assertNoClippedValues samples)
  return samples

/-! ## Runs -/

/-- A call of the user, or the timer of the flag. -/
inductive Op where
  | newUsrp (ip usrpName : String) (port : ℕ)
  | addUsrp (usrpName : String) (client : UsrpClient)
  | resetFpgaTimes
  | getCurrentFpgaTimes
  | synchronisationValid
  | synchronizeUsrps
  | configureTx (usrpName : String) (txStreamingConfig : PyTxStreamingConfig)
  | configureRx (usrpName : String) (rxStreamingConfig : PyRxStreamingConfig)
  | configureRfConfig (usrpName : String) (rfConfig : PyRfConfig)
  | execute
  | collect
  | timerExpires

/-- The state after a call, whichever way it ends. -/
def step (s : System) : Op → System
  | .newUsrp ip usrpName port => finalState (newUsrp net ip usrpName port s)
  | .addUsrp usrpName client => finalState (addUsrp net usrpName client s)
  | .resetFpgaTimes => finalState (resetFpgaTimes net s)
  | .getCurrentFpgaTimes => finalState (getCurrentFpgaTimes net s)
  | .synchronisationValid => finalState (synchronisationValid net s)
  | .synchronizeUsrps => finalState (synchronizeUsrps net s)
  | .configureTx usrpName conf => finalState (configureTx net usrpName conf s)
  | .configureRx usrpName conf => finalState (configureRx net usrpName conf s)
  | .configureRfConfig usrpName conf => finalState (configureRfConfig net usrpName conf s)
  | .execute => finalState (execute net s)
  | .collect => finalState (collect net s)
  | .timerExpires => { s with usrpsSynced := false }

end

/-! ## What the calls keep

Most calls only send requests, and keep what the events they record keep. -/

section

variable {net : Network} {I : System → Prop}

/-- The property survives the event. -/
def KeepsEvent (I : System → Prop) (e : ClientEvent) : Prop :=
  ∀ s, I s → I { s with history := e :: s.history }

/-- A call of a client keeps what its events keep. -/
theorem preserves_onHistory {x : RpcM α}
    (hx : ∀ s : System, Preserves (fun h => I { s with history := h }) x) :
    Preserves I (onHistory x) :=
  Preserves.onField (fun s h => I { s with history := h }) (fun _ hs => hs) (fun s _ => hx s)
    fun _ _ _ hh => hh

theorem preserves_record {e : ClientEvent} (he : KeepsEvent I e) :
    Preserves I (onHistory (record e)) :=
  preserves_onHistory fun _ => Preserves.modify fun _ hs => he _ hs

/-- A request keeps what its event keeps, whether it was carried out or not. -/
theorem preserves_onRequest {device : Address} {r : Request}
    (hI : ∀ applied, KeepsEvent I (.request device r applied)) :
    Preserves I (onHistory (request net device r)) :=
  preserves_onHistory fun _ => preserves_request fun _ applied hs => hI applied _ hs

/-- A request that returns has been carried out. -/
theorem onRequest_triple {device : Address} {r : Request}
    (hI : ∀ applied, KeepsEvent I (.request device r applied)) :
    Triple I (onHistory (request net device r))
      (fun _ s' => ∃ s, I s ∧ I s' ∧ s' = { s with history := .request device r true :: s.history })
      (fun _ => I) := by
  intro s hs
  have hkeep : I (finalState (onHistory (request net device r) s)) := preserves_onRequest hI s hs
  cases hcall : onHistory (request net device r) s with
  | ok value s' =>
      obtain ⟨h, hrequest, rfl⟩ := onField_eq_ok_iff.mp hcall
      rw [hcall] at hkeep
      exact ⟨s, hs, hkeep, by rw [request_eq_ok hrequest]⟩
  | error e s' =>
      rw [hcall] at hkeep
      exact hkeep

/-- The constructor of a client makes two requests. -/
theorem preserves_create {ip : String} {port : ℕ}
    (hconnect : ∀ applied, KeepsEvent I (.request (ip, port) .connect applied))
    (hreset : ∀ applied, KeepsEvent I (.request (ip, port) .resetStreamingConfigs applied)) :
    Preserves I (onHistory (UsrpClient.create net ip port)) := by
  refine preserves_onHistory fun s => ?_
  refine (preserves_request fun h applied hs => hconnect applied _ hs).bind fun _ => ?_
  exact (preserves_request fun h applied hs => hreset applied _ hs).bind fun _ => Preserves.pure _

/-- The handlers only change how a call ends. -/
theorem finalState_labelRemoteError (usrpName : String) (x : SystemM α) (s : System) :
    finalState (labelRemoteError usrpName x s) = finalState (x s) := by
  unfold labelRemoteError
  cases x s with
  | ok a s' => rfl
  | error e s' => cases e <;> rfl

/-- A caught exception leaves the state it was raised in. -/
theorem finalState_catchRemoteError (x : SystemM α) (s : System) :
    finalState (catchRemoteError x s) = finalState (x s) := by
  unfold catchRemoteError
  cases x s with
  | ok a s' => rfl
  | error e s' => cases e <;> rfl

/-- Giving an exception another name keeps what the call keeps. -/
theorem preserves_labelRemoteError {x : SystemM α} {usrpName : String} (hx : Preserves I x) :
    Preserves I (labelRemoteError usrpName x) :=
  hx.of_finalState_eq (finalState_labelRemoteError usrpName x)

/-- Catching an exception keeps what the call keeps. -/
theorem preserves_catchRemoteError {x : SystemM α} (hx : Preserves I x) :
    Preserves I (catchRemoteError x) :=
  hx.of_finalState_eq (finalState_catchRemoteError x)

/-- The calls of all devices keep what the call of each one keeps. -/
theorem preserves_catchRemoteUsrpErrors {f : String → SystemM α} (hf : ∀ n, Preserves I (f n)) :
    Preserves I (catchRemoteUsrpErrors f) := by
  refine Preserves.get.bind fun s => ?_
  refine Preserves.bind (Preserves.mapM fun n _ => ?_) fun outcomes => ?_
  · exact (preserves_catchRemoteError (hf n)).bind fun _ => Preserves.pure _
  · split
    · exact Preserves.pure _
    · exact Preserves.throw _

/-- Resetting the clocks keeps what the resets keep. -/
theorem preserves_setTimeToZeroNextPps
    (hI : ∀ device applied, KeepsEvent I (.request device .setTimeToZeroNextPps applied)) :
    Preserves I (setTimeToZeroNextPps net) :=
  Preserves.get.bind fun _ => Preserves.forM fun _ _ => preserves_onRequest (hI _)

/-- Reading the clocks keeps what the readings keep. -/
theorem preserves_getCurrentFpgaTimes
    (hI : ∀ device applied, KeepsEvent I (.request device .getCurrentFpgaTime applied)) :
    Preserves I (getCurrentFpgaTimes net) :=
  Preserves.get.bind fun _ => Preserves.mapM fun _ _ => preserves_onRequest (hI _)

theorem preserves_calculateBaseTimeSec
    (hI : ∀ device applied, KeepsEvent I (.request device .getCurrentFpgaTime applied)) :
    Preserves I (calculateBaseTimeSec net) :=
  (preserves_getCurrentFpgaTimes hI).bind fun _ =>
    (Preserves.liftE _).bind fun _ => Preserves.pure _

/-- `configureTx` makes at most one request, of this config. -/
theorem preserves_configureTx {usrpName : String} {conf : PyTxStreamingConfig}
    (hI : ∀ device samples applied, KeepsEvent I (.request device
      (.configureTx conf.sendTimeOffset samples conf.numRepetitions) applied)) :
    Preserves I (configureTx net usrpName conf) := by
  refine (Preserves.liftE _).bind fun _ => (Preserves.reads _).bind fun usrp => ?_
  refine preserves_onHistory fun s => ?_
  unfold UsrpClient.configureTx
  split
  · exact Preserves.throw _
  · exact preserves_request fun h applied hs => hI _ _ applied _ hs

/-- `configureRx` makes at most one request, of this config. -/
theorem preserves_configureRx {usrpName : String} {conf : PyRxStreamingConfig}
    (hI : ∀ device applied, KeepsEvent I (.request device (.configureRx conf) applied)) :
    Preserves I (configureRx net usrpName conf) :=
  (Preserves.reads _).bind fun _ => preserves_onRequest (hI _)

/-- `collect` makes one request for each device. -/
theorem preserves_collect
    (hI : ∀ device applied, KeepsEvent I (.request device .collect applied)) :
    Preserves I (collect net) := by
  refine (preserves_catchRemoteUsrpErrors fun n => (Preserves.reads _).bind fun usrp =>
    preserves_onHistory fun s => ?_).bind fun samples =>
      (Preserves.liftE _).bind fun _ => Preserves.pure _
  refine (preserves_request fun h applied hs => hI _ applied _ hs).bind fun serialized => ?_
  split
  · exact Preserves.throw _
  · exact Preserves.pure _

/-- The call of one device is recorded, and makes at most one request. -/
theorem preserves_callExecuteAtUsrp {baseTimeSec : ℚ} {usrpName : String}
    (hcall : ∀ device, KeepsEvent I (.executeCall device baseTimeSec))
    (hI : ∀ device applied, KeepsEvent I (.request device (.execute baseTimeSec) applied)) :
    Preserves I (callExecuteAtUsrp net baseTimeSec usrpName) := by
  refine (Preserves.reads _).bind fun usrp => preserves_onHistory fun s => ?_
  refine Preserves.bind (Preserves.modify fun h hs => hcall usrp.address _ hs) fun _ => ?_
  split
  · exact preserves_request fun h applied hs => hI _ applied _ hs
  · exact Preserves.throw _

/-! Before the devices are called, `execute` only sends requests and sets the flags. -/

section

variable (hrequest : ∀ device r applied, KeepsEvent I (.request device r applied))
include hrequest

/-- Setting the sources only makes requests, and then marks them as set. -/
theorem preserves_updateSyncSources (hset : ∀ s, I s → I { s with syncSourceSet := true }) :
    Preserves I (updateSyncSources net) := by
  refine Preserves.get.bind fun s => ?_
  split
  · exact Preserves.pure ()
  · refine (Preserves.reads _).bind fun source => ?_
    refine (Preserves.forM fun u _ => preserves_onRequest (hrequest _ _)).bind fun _ => ?_
    exact (preserves_setTimeToZeroNextPps fun d => hrequest d _).bind fun _ => Preserves.modify hset

end

/-- A check keeps what the readings and its result keep. -/
theorem preserves_synchronisationValid
    (hread : ∀ device applied, KeepsEvent I (.request device .getCurrentFpgaTime applied))
    (hcheck : ∀ devices valid, KeepsEvent I (.checked devices valid)) :
    Preserves I (synchronisationValid net) := by
  refine (preserves_getCurrentFpgaTimes hread).bind fun times => ?_
  refine (Preserves.liftE _).bind fun valid => Preserves.get.bind fun s => ?_
  exact (preserves_record (hcheck s.devices valid)).bind fun _ => Preserves.pure _

/-- The synchronisation keeps what readings, resets and checks keep, and the flag. -/
theorem preserves_synchronizeClocks
    (hread : ∀ device applied, KeepsEvent I (.request device .getCurrentFpgaTime applied))
    (hreset : ∀ device applied, KeepsEvent I (.request device .setTimeToZeroNextPps applied))
    (hcheck : ∀ devices valid, KeepsEvent I (.checked devices valid))
    (hsynced : ∀ s, I s → I { s with usrpsSynced := true }) :
    Preserves I (synchronizeClocks net) := by
  have hattempt (n : ℕ) : Preserves I (attemptSync net n) := by
    induction n with
    | zero => exact Preserves.throw _
    | succ n ih =>
        refine (preserves_setTimeToZeroNextPps hreset).bind fun _ => ?_
        refine (preserves_synchronisationValid hread hcheck).bind fun valid => ?_
        split
        · exact Preserves.modify hsynced
        · exact ih
  refine Preserves.get.bind fun s => ?_
  split
  · exact Preserves.pure ()
  · refine (preserves_synchronisationValid hread hcheck).bind fun valid => ?_
    split
    · exact Preserves.modify hsynced
    · exact hattempt syncAttempts

/-- Up to the calls of the devices, `execute` makes requests and checks, and sets both flags. -/
theorem preserves_prepareExecute
    (hrequest : ∀ device r applied, KeepsEvent I (.request device r applied))
    (hcheck : ∀ devices valid, KeepsEvent I (.checked devices valid))
    (hsynced : ∀ s, I s → I { s with usrpsSynced := true })
    (hset : ∀ s, I s → I { s with syncSourceSet := true }) : Preserves I (prepareExecute net) := by
  have hsynchronize : Preserves I (synchronizeUsrps net) :=
    (preserves_updateSyncSources hrequest hset).bind fun _ =>
      preserves_synchronizeClocks (fun d => hrequest d _) (fun d => hrequest d _) hcheck hsynced
  exact hsynchronize.bind fun _ => preserves_calculateBaseTimeSec fun d => hrequest d _

end

end System

end UsrpWrapper
