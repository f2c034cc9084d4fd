import UsrpWrapper.RpcClient
import UsrpWrapper.StreamingSchedule
import UsrpWrapper.RfReadback

/-!
# The server

`UsrpServer` (`rpc_server.py`) carries out the requests of the clients on the device.
It implements the methods whose arguments or results need a conversion, and forwards all
other ones to the device.

The device is reached through the Python binding (`usrp_pybinding/usrp.cpp`), which
converts integers, floating point numbers and arrays.  `castInt_eq_ok_iff` and
`rfConfigToBinding_eq_ok_iff` say exactly what it takes and what arrives.

`serve` is one request.  What UHD answers meanwhile is an argument, and so are the steps
the threads of the device have made since the last request.
-/

namespace UsrpWrapper

open Lib Lib.Command

/-! ## The binding -/

/-- The conversions of samples: one of a NumPy array to one of the wrapper, and back. -/
structure Binding (α : Type) where
  toSample : Sample → α
  ofSample : α → Sample

/-- The exceptions of the server. -/
inductive ServerError where
  | python (error : PythonError)
  /-- The binding cannot convert a value. -/
  | binding
  | device (fault : Fault)
  deriving DecidableEq

/-- The text of the exception; `text` has those of NumPy, of the binding and of UHD. -/
def ServerError.msg (text : ServerError → String) : ServerError → String
  | .python (.typeError t) => t
  | .python (.valueError t) => t
  | .python (.runtimeError t) => t
  | .device (.usrp e) => e.what
  | .device (.runtime e) => e.what
  | e => text e

/-- A Python integer as an `int`. -/
def castInt (n : ℤ) : Except ServerError Int32 := do
  check (n < -2 ^ 31 ∨ 2 ^ 31 ≤ n) .binding
  return Int32.ofInt n

/-- A Python integer as an `unsigned int`. -/
def castUnsigned (n : ℤ) : Except ServerError UInt32 := do
  check (n < 0 ∨ 2 ^ 32 ≤ n) .binding
  return UInt32.ofNat n.toNat

/-- Numbers that fit into an `int` are converted, and no others. -/
theorem castInt_eq_ok_iff {n : ℤ} {m : Int32} : castInt n = .ok m ↔ m.toInt = n := by
  unfold castInt
  rw [check_bind_eq_ok_iff]
  constructor
  · rintro ⟨hrange, hcast⟩
    cases hcast
    rw [Int32.toInt_ofInt_of_le] <;> omega
  · rintro rfl
    have hle := m.le_toInt
    have hlt := m.toInt_lt
    exact ⟨by omega, congrArg Except.ok (Int32.ofInt_toInt m)⟩

theorem mapM_castInt_eq_ok_iff {ns : List ℤ} {ms : List Int32} :
    ns.mapM castInt = .ok ms ↔ ms.map Int32.toInt = ns := by
  induction ns generalizing ms with
  | nil =>
      rw [List.map_eq_nil_iff]
      exact ⟨fun h => (Except.ok.inj h).symm, fun h => congrArg Except.ok h.symm⟩
  | cons n ns ih =>
      rw [mapM_cons_eq_ok_iff]
      constructor
      · rintro ⟨m, ms', hm, hms, rfl⟩
        rw [List.map_cons, castInt_eq_ok_iff.mp hm, ih.mp hms]
      · intro h
        obtain ⟨m, ms', rfl, hm, hms⟩ := List.map_eq_cons_iff.mp h
        exact ⟨m, ms', castInt_eq_ok_iff.mpr hm, ih.mpr hms, rfl⟩

/-! ## Configs -/

/-- `RfConfigToBinding`. -/
def rfConfigToBinding (c : PyRfConfig) : Except ServerError RfConfig := do
  let noTxStreams ← castInt c.noTxStreams
  let noRxStreams ← castInt c.noRxStreams
  let txAntennaMapping ← c.txAntennaMapping.mapM castInt
  let rxAntennaMapping ← c.rxAntennaMapping.mapM castInt
  return {
    txGain := toFloat c.txGain
    rxGain := toFloat c.rxGain
    txCarrierFrequency := toFloat c.txCarrierFrequency
    rxCarrierFrequency := toFloat c.rxCarrierFrequency
    txAnalogFilterBw := toFloat c.txAnalogFilterBw
    rxAnalogFilterBw := toFloat c.rxAnalogFilterBw
    txSamplingRate := toFloat c.txSamplingRate
    rxSamplingRate := toFloat c.rxSamplingRate
    noTxStreams, noRxStreams, txAntennaMapping, rxAntennaMapping }

/-- What arrives consists of `float`s, whatever the numbers of Python were. -/
theorem isFloat_of_rfConfigToBinding {c : PyRfConfig} {b : RfConfig}
    (h : rfConfigToBinding c = .ok b) : b.IsFloat := by
  obtain ⟨_, -, h⟩ := except_bind_eq_ok_iff.mp h
  obtain ⟨_, -, h⟩ := except_bind_eq_ok_iff.mp h
  obtain ⟨_, -, h⟩ := except_bind_eq_ok_iff.mp h
  obtain ⟨_, -, h⟩ := except_bind_eq_ok_iff.mp h
  cases h
  simp only [RfConfig.IsFloat, RfConfig.rounded, toFloat_toFloat]

/-- `RfConfigFromBinding`. -/
def rfConfigFromBinding (c : RfConfig) : PyRfConfig where
  txAnalogFilterBw := c.txAnalogFilterBw
  rxAnalogFilterBw := c.rxAnalogFilterBw
  txSamplingRate := c.txSamplingRate
  rxSamplingRate := c.rxSamplingRate
  txGain := c.txGain
  rxGain := c.rxGain
  txCarrierFrequency := c.txCarrierFrequency
  rxCarrierFrequency := c.rxCarrierFrequency
  noTxStreams := c.noTxStreams.toInt
  noRxStreams := c.noRxStreams.toInt
  txAntennaMapping := c.txAntennaMapping.map Int32.toInt
  rxAntennaMapping := c.rxAntennaMapping.map Int32.toInt

/-- A config whose numbers have all gone through a `float`. -/
def PyRfConfig.mapFloats (f : ℚ → ℚ) (c : PyRfConfig) : PyRfConfig :=
  { c with
    txAnalogFilterBw := f c.txAnalogFilterBw
    rxAnalogFilterBw := f c.rxAnalogFilterBw
    txSamplingRate := f c.txSamplingRate
    rxSamplingRate := f c.rxSamplingRate
    txGain := f c.txGain
    rxGain := f c.rxGain
    txCarrierFrequency := f c.txCarrierFrequency
    rxCarrierFrequency := f c.rxCarrierFrequency }

/-- The binding takes a config exactly if there is one of its own that shows the same
numbers, rounded to `float`s; it then stores that one. -/
theorem rfConfigToBinding_eq_ok_iff {c : PyRfConfig} {b : RfConfig} :
    rfConfigToBinding c = .ok b ↔ rfConfigFromBinding b = c.mapFloats toFloat := by
  unfold rfConfigToBinding
  constructor
  · intro h
    obtain ⟨tx, htx, h⟩ := except_bind_eq_ok_iff.mp h
    obtain ⟨rx, hrx, h⟩ := except_bind_eq_ok_iff.mp h
    obtain ⟨txMapping, htxMapping, h⟩ := except_bind_eq_ok_iff.mp h
    obtain ⟨rxMapping, hrxMapping, h⟩ := except_bind_eq_ok_iff.mp h
    cases h
    simp only [rfConfigFromBinding, PyRfConfig.mapFloats, castInt_eq_ok_iff.mp htx,
      castInt_eq_ok_iff.mp hrx, mapM_castInt_eq_ok_iff.mp htxMapping,
      mapM_castInt_eq_ok_iff.mp hrxMapping]
  · intro h
    simp only [rfConfigFromBinding, PyRfConfig.mapFloats, PyRfConfig.mk.injEq] at h
    obtain ⟨h₁, h₂, h₃, h₄, h₅, h₆, h₇, h₈, htx, hrx, htxMapping, hrxMapping⟩ := h
    refine except_bind_eq_ok_iff.mpr ⟨_, castInt_eq_ok_iff.mpr htx, ?_⟩
    refine except_bind_eq_ok_iff.mpr ⟨_, castInt_eq_ok_iff.mpr hrx, ?_⟩
    refine except_bind_eq_ok_iff.mpr ⟨_, mapM_castInt_eq_ok_iff.mpr htxMapping, ?_⟩
    refine except_bind_eq_ok_iff.mpr ⟨_, mapM_castInt_eq_ok_iff.mpr hrxMapping, ?_⟩
    rw [← h₁, ← h₂, ← h₃, ← h₄, ← h₅, ← h₆, ← h₇, ← h₈]
    rfl

/-- `RxStreamingConfig` of the binding, from the fields of the Python one. -/
def PyRxStreamingConfig.toBinding (c : PyRxStreamingConfig) :
    Except ServerError RxStreamingConfig := do
  let numSamples ← castUnsigned c.numSamples
  let numRepetitions ← castUnsigned c.numRepetitions
  let repetitionPeriod ← castUnsigned c.repetitionPeriod
  return ⟨numSamples, c.receiveTimeOffset, numRepetitions, repetitionPeriod, c.antennaPort⟩

/-! ## Signals -/

namespace Binding

variable {α : Type} (B : Binding α)

/-- One array, of which as many elements are read as its first dimension says. -/
def fromNumpyArray (a : NdArray Sample) : Except ServerError (List α) :=
  match a.shape with
  | [] => .error .binding
  | n :: _ =>
      if n ≤ a.data.length then .ok ((a.data.take n).map B.toSample)
      else .error (.device .outOfBounds)

/-- `fromNumpyMimoSignal`. -/
def fromNumpyMimoSignal (signals : List (NdArray Sample)) : Except ServerError (MimoSignal α) :=
  signals.mapM B.fromNumpyArray

/-- `toNumpyMimoSignal`. -/
def toNumpyMimoSignal (samplesIn : MimoSignal α) : List (NdArray Sample) :=
  samplesIn.map fun v => .line (v.map B.ofSample)

/-- An array of one dimension is converted sample by sample. -/
@[simp] theorem fromNumpyArray_line (xs : List Sample) :
    B.fromNumpyArray (.line xs) = .ok (xs.map B.toSample) := by
  show (if xs.length ≤ xs.length then Except.ok ((xs.take xs.length).map B.toSample) else _) = _
  rw [if_pos le_rfl, List.take_length]

end Binding

/-! ## The server -/

/-- How UHD ends a call of `set_sync_source`: it may throw before or after it has changed
the source. -/
inductive SyncSourceAnswer where
  | returns
  | throws (changed : Bool)
  deriving DecidableEq

/-- What UHD answers during a request, and the steps the threads of the device have made
before it. -/
structure ServerAnswers (α : Type) where
  events : List (Usrp.Event α)
  streaming : ∀ e ∈ events, e.isStreaming = true
  rf : RfAnswers
  execute : Usrp.ExecuteAnswers
  recv : ℕ → List RecvAnswer
  syncSource : SyncSourceAnswer
  fpgaTime : ℚ

/-- The device of a server, with the sync source `RfNocFullDuplexGraph` remembers and the
one that is in force. -/
structure UsrpServer (α : Type) where
  usrp : Usrp α
  currentSyncSource : String
  syncSource : String

namespace UsrpServer

variable {α : Type}

/-- A method of the server. -/
abbrev ServerM (α : Type) := EStateM ServerError (UsrpServer α)

/-- A call of the device. -/
def onUsrp {β : Type} (x : Usrp.UsrpM α β) : ServerM α β := fun s =>
  match x s.usrp with
  | .ok b u => .ok b { s with usrp := u }
  | .error fault u => .error (.device fault) { s with usrp := u }

/-- A computation that raises an exception of Python. -/
def liftPython {β : Type} (x : Except PythonError β) : ServerM α β :=
  liftE (x.mapError .python)

section

variable (E : Environment α) (B : Binding α)

/-! ### Methods of the class -/

/-- `configureTx`: the samples are deserialised and converted before the device sees them. -/
def configureTx (sendTimeOffset : ℚ) (samples : List SerializedComplexArray)
    (numRepetitions : ℤ) : ServerM α Unit := do
  let mimoSignal ← liftPython (PyMimoSignal.deserialize samples)
  let signal ← liftE (B.fromNumpyMimoSignal mimoSignal.signals)
  let repetitions ← liftE (castInt numRepetitions)
  onUsrp (Usrp.setTxConfig E ⟨signal, sendTimeOffset, repetitions⟩)

/-- `configureRx`. -/
def configureRx (rxConfig : PyRxStreamingConfig) : ServerM α Unit := do
  let conf ← liftE rxConfig.toBinding
  onUsrp (Usrp.setRxConfig conf)

/-- `configureRfConfig`. -/
def configureRfConfig (rfConfig : PyRfConfig) (a : ServerAnswers α) : ServerM α Unit := do
  let conf ← liftE (rfConfigToBinding rfConfig)
  onUsrp (Usrp.setRfConfig E conf a.rf)

/-- `collect`: what the device returns is serialised, signal by signal. -/
def collect (a : ServerAnswers α) : ServerM α (List (List SerializedComplexArray)) := do
  let collected ← onUsrp (Usrp.collect E a.recv)
  liftPython (collected.mapM fun c => (PyMimoSignal.mk (B.toNumpyMimoSignal c)).serialize)

/-! ### Methods of the device -/

/-- `RfNocFullDuplexGraph::setSyncSource`. -/
def setSyncSource (type : String) (a : ServerAnswers α) : ServerM α Unit := do
  liftE (check (type ≠ "internal" ∧ type ≠ "external")
    (.device (.usrp (.invalidSyncSource type))))
  let s ← get
  if s.currentSyncSource = type then pure ()
  else match a.syncSource with
    | .returns => modify fun s => { s with syncSource := type, currentSyncSource := type }
    | .throws changed => do
        modify fun s => { s with syncSource := if changed then type else s.syncSource }
        throw (.device .uhd)

/-- A request; the threads that `execute` and `collect` join have ended.
`setTimeToZeroNextPps` only starts the PPS thread. -/
def serve (version : String) (a : ServerAnswers α) : (r : Request) → ServerM α r.Result
  | .connect => pure ()
  | .getVersion => pure version
  | .configureTx sendTimeOffset samples numRepetitions =>
      configureTx E B sendTimeOffset samples numRepetitions
  | .configureRx rxConfig => configureRx rxConfig
  | .configureRfConfig rfConfig => configureRfConfig E rfConfig a
  | .collect => collect E B a
  | .resetStreamingConfigs => onUsrp (modify Usrp.resetStreamingConfigs)
  | .setSyncSource source => setSyncSource source a
  | .setTimeToZeroNextPps => pure ()
  | .getCurrentFpgaTime => pure a.fpgaTime
  | .execute baseTime => onUsrp (Usrp.execute E a.execute baseTime)

/-- The threads make their steps. -/
def advance (a : ServerAnswers α) (s : UsrpServer α) : UsrpServer α :=
  { s with usrp := Machine.run (Usrp.step E) s.usrp a.events }

end

end UsrpServer

end UsrpWrapper
