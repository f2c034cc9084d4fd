import UsrpWrapper.Lib.Trace
import UsrpWrapper.Serialization

/-!
# The RPC client

`UsrpClient` (`rpc_client.py`) forwards the calls of the user to the server at its
address, and guards `execute`.

What servers and network do is a `Network`: for every request it says whether the
request returns, and if it fails, whether the server has carried it out before; it may
depend on everything that happened before.  A history records the requests, together
with the calls, checks and registrations of the client side.  Servers are told apart
by their address.

Texts that only travel, such as the JSON of a config, are the config itself.
-/

namespace UsrpWrapper

open Lib Lib.Command Lib.Trace

/-! ## Configs -/

/-- `RfConfig` of the Python code. -/
structure PyRfConfig where
  txAnalogFilterBw : ℚ := 0
  rxAnalogFilterBw : ℚ := 0
  txSamplingRate : ℚ := 0
  rxSamplingRate : ℚ := 0
  txGain : ℚ := 0
  rxGain : ℚ := 0
  txCarrierFrequency : ℚ := 0
  rxCarrierFrequency : ℚ := 0
  noTxStreams : ℤ := 1
  noRxStreams : ℤ := 1
  txAntennaMapping : List ℤ := []
  rxAntennaMapping : List ℤ := []

/-- `RxStreamingConfig` of the Python code. -/
structure PyRxStreamingConfig where
  receiveTimeOffset : ℚ := 0
  numSamples : ℤ := 0
  numRepetitions : ℤ := 1
  repetitionPeriod : ℤ := 0
  antennaPort : String := ""

/-- `TxStreamingConfig` of the Python code. -/
structure PyTxStreamingConfig where
  sendTimeOffset : ℚ
  samples : PyMimoSignal
  numRepetitions : ℤ

/-! ## Errors -/

/-- `RemoteUsrpError`: the message of a `RemoteError` and the name of its USRP. -/
structure RemoteUsrpError where
  actualUsrpMsg : String
  usrpName : String
  deriving DecidableEq

/-- The exceptions a call on the client side may raise. -/
inductive ClientError where
  /-- `RemoteError`: the server raised an exception. -/
  | remote (msg : String)
  /-- The server is not reachable, or does not answer any more. -/
  | connection
  | remoteUsrp (error : RemoteUsrpError)
  | multipleRemoteUsrp (errors : List RemoteUsrpError)
  | keyError (key : String)
  | python (error : PythonError)
  deriving DecidableEq

/-! ## Requests -/

/-- The IP and the port of a server. -/
abbrev Address := String × ℕ

/-- The calls of `zerorpc` that the clients make, with their arguments as the server gets them. -/
inductive Request where
  /-- The connection of a new client. -/
  | connect
  | getVersion
  | resetStreamingConfigs
  | setSyncSource (source : String)
  | setTimeToZeroNextPps
  | getCurrentFpgaTime
  | configureRfConfig (conf : PyRfConfig)
  | configureTx (sendTimeOffset : ℚ) (samples : List SerializedComplexArray) (numRepetitions : ℤ)
  | configureRx (conf : PyRxStreamingConfig)
  | execute (baseTime : ℚ)
  | collect

/-- What a request returns. -/
@[reducible] def Request.Result : Request → Type
  | .getVersion => String
  | .getCurrentFpgaTime => ℚ
  | .collect => List (List SerializedComplexArray)
  | _ => Unit

/-- How a call fails for the client: with the exception of the server, or with the connection. -/
inductive RpcFailure where
  | remoteError (msg : String)
  | connection
  deriving DecidableEq

/-- The exception in which a failed call ends on the client side. -/
def RpcFailure.toClientError : RpcFailure → ClientError
  | .remoteError msg => .remote msg
  | .connection => .connection

/-- How a request ends; a failure may come after the server has carried it out. -/
inductive Reply (r : Request) where
  | returns (value : r.Result)
  | fails (failure : RpcFailure) (applied : Bool)

/-- The server carries the request out. -/
def Reply.applied {r : Request} : Reply r → Bool
  | .returns _ => true
  | .fails _ applied => applied

/-- What a system does that can be seen from outside, in the order in which it happens. -/
inductive ClientEvent where
  /-- A request was sent; `applied` says whether the server carried it out. -/
  | request (device : Address) (r : Request) (applied : Bool)
  /-- `UsrpClient.execute` was called. -/
  | executeCall (device : Address) (baseTime : ℚ)
  /-- `System.addUsrp` registered a device. -/
  | registered (usrpName : String) (device : Address)
  /-- `System.synchronisationValid` returned. -/
  | checked (devices : List Address) (valid : Bool)
  /-- `System.execute` starts to call the devices. -/
  | dispatch (baseTime : ℚ)

/-- The newest event is the first one. -/
abbrev History := List ClientEvent

/-- How each request ends, given everything that has happened before it. -/
abbrev Network := History → Address → (r : Request) → Reply r

/-- Every request returns, and the clocks of all devices agree. -/
def Network.reliable : Network := fun _ _ r =>
  match r with
  | .getVersion => .returns ""
  | .getCurrentFpgaTime => .returns (0 : ℚ)
  | .collect => .returns []
  | .connect | .resetStreamingConfigs | .setSyncSource _ | .setTimeToZeroNextPps
  | .configureRfConfig _ | .configureTx _ _ _ | .configureRx _ | .execute _ => .returns ()

/-- A call of a client: it may raise, and it adds to the history. -/
abbrev RpcM := EStateM ClientError History

/-- Send a request and wait for its reply. -/
def request (net : Network) (device : Address) (r : Request) : RpcM r.Result := fun h =>
  match net h device r with
  | .returns value => .ok value (.request device r true :: h)
  | .fails failure applied => .error failure.toClientError (.request device r applied :: h)

/-! ## The client -/

/-- `UsrpClient`, with the address of its server and the flag that guards `execute`. -/
structure UsrpClient where
  ip : String
  port : ℕ
  rfConfiguredOnce : Bool
  deriving DecidableEq

namespace UsrpClient

variable (net : Network)

/-- The server of the client. -/
def address (c : UsrpClient) : Address := (c.ip, c.port)

/-- `UsrpClient.create`, which runs the constructor. -/
def create (ip : String) (port : ℕ) : RpcM UsrpClient := do
  request net (ip, port) .connect
  request net (ip, port) .resetStreamingConfigs
  return ⟨ip, port, false⟩

/-- `getRemoteVersion`, which is asked for the log message of a registration. -/
def getRemoteVersion (c : UsrpClient) : RpcM String := request net c.address .getVersion

/-- `resetStreamingConfigs`: the device forgets the configs that wait on it. -/
def resetStreamingConfigs (c : UsrpClient) : RpcM Unit :=
  request net c.address .resetStreamingConfigs

/-- `setSyncSource` of one device. -/
def setSyncSource (syncSource : String) (c : UsrpClient) : RpcM Unit :=
  request net c.address (.setSyncSource syncSource)

/-- `setTimeToZeroNextPps`: the request returns before the pulse has come. -/
def setTimeToZeroNextPps (c : UsrpClient) : RpcM Unit :=
  request net c.address .setTimeToZeroNextPps

/-- `getCurrentFpgaTime` of one device. -/
def getCurrentFpgaTime (c : UsrpClient) : RpcM ℚ := request net c.address .getCurrentFpgaTime

/-- `configureTx`; a signal that cannot be serialised is not sent. -/
def configureTx (txConfig : PyTxStreamingConfig) (c : UsrpClient) : RpcM Unit := do
  match txConfig.samples.serialize with
  | .error e => throw (.python e)
  | .ok samples =>
      request net c.address
        (.configureTx txConfig.sendTimeOffset samples txConfig.numRepetitions)

/-- `configureRx`, with the fields of the config as they are. -/
def configureRx (rxConfig : PyRxStreamingConfig) (c : UsrpClient) : RpcM Unit :=
  request net c.address (.configureRx rxConfig)

/-- `configureRfConfig` changes the client before it sends the request. -/
def configureRfConfig (rfConfig : PyRfConfig) :
    EStateM ClientError (UsrpClient × History) Unit := do
  modify fun s => ({ s.1 with rfConfiguredOnce := true }, s.2)
  let s ← get
  onField Prod.snd (fun h s => (s.1, h)) (request net s.1.address (.configureRfConfig rfConfig))

/-- The exception of `execute`. -/
def notConfigured : ClientError := .python (.runtimeError
  ("RF has not been configured " ++ "for the USRP device before execution!"))

/-- `execute`: without a call of `configureRfConfig` before, it raises and sends nothing. -/
def execute (baseTime : ℚ) (c : UsrpClient) : RpcM Unit := do
  record (.executeCall c.address baseTime)
  if c.rfConfiguredOnce then request net c.address (.execute baseTime)
  else throw notConfigured

/-- `executeImmediately`, which does not look at the flag. -/
def executeImmediately (c : UsrpClient) : RpcM Unit := request net c.address (.execute (-1))

/-- `collect`; what the server answers with is decoded after the request has returned. -/
def collect (c : UsrpClient) : RpcM (List PyMimoSignal) := do
  let serialized : List (List SerializedComplexArray) ← request net c.address .collect
  match serialized.mapM PyMimoSignal.deserialize with
  | .error e => throw (.python e)
  | .ok signals => return signals

end UsrpClient

/-! ## What the requests record -/

section

variable {net : Network} {h : History} {device : Address} {r : Request}

/-- A request records itself, whichever way it ends. -/
theorem finalState_request (net : Network) (device : Address) (r : Request) (h : History) :
    finalState (request net device r h) = .request device r (net h device r).applied :: h := by
  unfold request
  cases net h device r <;> rfl

/-- A request that returns is recorded as carried out. -/
theorem request_eq_ok {value : r.Result} {h' : History}
    (hok : request net device r h = .ok value h') : h' = .request device r true :: h := by
  unfold request at hok
  cases hreply : net h device r with
  | returns v =>
      rw [hreply] at hok
      cases hok
      rfl
  | fails failure applied =>
      rw [hreply] at hok
      cases hok

/-- How a request ends to which the network has an answer. -/
theorem request_of_returns {value : r.Result} (hreply : net h device r = .returns value) :
    request net device r h = .ok value (.request device r true :: h) := by
  rw [request, hreply]

/-- How a request ends that fails, before or after the server has carried it out. -/
theorem request_of_fails {failure : RpcFailure} {applied : Bool}
    (hreply : net h device r = .fails failure applied) : request net device r h =
      .error failure.toClientError (.request device r applied :: h) := by
  rw [request, hreply]

/-- A request keeps what its record keeps, whether it was carried out or not. -/
theorem preserves_request {J : History → Prop}
    (hJ : ∀ h applied, J h → J (.request device r applied :: h)) :
    Preserves J (request net device r) := by
  intro h hh
  rw [finalState_request]
  exact hJ h _ hh

/-- Behind the guard, `execute` is one request. -/
theorem execute_of_configured (net : Network) {c : UsrpClient} (h : History) (baseTime : ℚ)
    (hc : c.rfConfiguredOnce = true) :
    c.execute net baseTime h = request net c.address (.execute baseTime)
      (.executeCall c.address baseTime :: h) := by
  refine (bind_of_ok rfl).trans ?_
  rw [if_pos hc]

/-- The guard: the call is recorded, and nothing is sent. -/
theorem execute_of_not_configured (net : Network) {c : UsrpClient} (h : History) (baseTime : ℚ)
    (hc : c.rfConfiguredOnce = false) :
    c.execute net baseTime h = .error UsrpClient.notConfigured
      (.executeCall c.address baseTime :: h) := by
  refine (bind_of_ok rfl).trans ?_
  rw [if_neg (by rw [hc]; decide)]
  rfl

/-- `configureRfConfig` marks the client, and sends one request. -/
theorem finalState_configureRfConfig (net : Network) (conf : PyRfConfig) (c : UsrpClient)
    (h : History) :
    ∃ applied, finalState (UsrpClient.configureRfConfig net conf (c, h)) =
      ({ c with rfConfiguredOnce := true },
        .request c.address (.configureRfConfig conf) applied :: h) := by
  have hrun : UsrpClient.configureRfConfig net conf (c, h) =
      onField Prod.snd (fun h s => (s.1, h)) (request net c.address (.configureRfConfig conf))
        ({ c with rfConfiguredOnce := true }, h) := rfl
  rw [hrun, finalState_onField, finalState_request]
  exact ⟨_, rfl⟩

end

end UsrpWrapper
