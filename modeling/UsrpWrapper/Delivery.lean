import UsrpWrapper.ServerNetwork
import UsrpWrapper.Dispatch

/-!
# What is delivered

A `System` executes what was configured on all devices, and collects the samples of all
of them.

`execute_collect` follows the samples from the devices to the user: after any calls
before, and with any requests and replies lost, an execution that returns and the
collection that returns after it have, for every registered device and every RX config
that waited on it, the samples its streams delivered in between, as the transport
decodes them.

The history says what is known of a device: `rfConfigOf` is the RF config it has, and
`executedAt` the history in which it started what it has not finished or given away.
-/

namespace UsrpWrapper

open Lib Lib.Command Lib.Trace

/-! ## What the history says -/

/-- The RF config of the device, after a request that asks for another one. -/
def Request.updateRf (applied : Bool) (r : Request) (rf : Option PyRfConfig) : Option PyRfConfig :=
  match r with
  | .configureRfConfig conf => if applied = true then some conf else none
  | _ => rf

/-- The RF config that the server of the device has carried out, if it has not failed to
carry out another one since. -/
def rfConfigOf (device : Address) : History → Option PyRfConfig
  | [] => none
  | .request d r applied :: h =>
      if d = device then r.updateRf applied (rfConfigOf device h) else rfConfigOf device h
  | _ :: h => rfConfigOf device h

/-- The request starts the streams of the device. -/
def Request.executes : Request → Bool
  | .execute _ => true
  | _ => false

/-- The history in which the device started the execution whose samples wait on it. -/
def executedAt (device : Address) : History → Option History
  | [] => none
  | .request d r applied :: h =>
      if d ≠ device ∨ r.idle = true then executedAt device h
      else if r.executes = true ∧ applied = true then some h
      else none
  | _ :: h => executedAt device h

section

variable {device : Address} {e : ClientEvent} {h h₀ : History}

/-- A request of the device updates what its RF config is known to be. -/
theorem rfConfigOf_request (r : Request) (applied : Bool) (h : History) :
    rfConfigOf device (.request device r applied :: h) =
      r.updateRf applied (rfConfigOf device h) := by
  rw [rfConfigOf, if_pos rfl]

theorem rfConfigOf_other (h : History) (he : ∀ r applied, e ≠ .request device r applied) :
    rfConfigOf device (e :: h) = rfConfigOf device h := by
  cases e with
  | request d r applied =>
      have hd : d ≠ device := by
        rintro rfl
        exact he r applied rfl
      rw [rfConfigOf, if_neg hd]
  | _ => rfl

/-- Only requests of the device end or begin its execution. -/
theorem executedAt_other (h : History) (he : ∀ r applied, e ≠ .request device r applied) :
    executedAt device (e :: h) = executedAt device h := by
  cases e with
  | request d r applied =>
      have hd : d ≠ device := by
        rintro rfl
        exact he r applied rfl
      rw [executedAt, if_pos (Or.inl hd)]
  | _ => rfl

theorem executedAt_idle {r : Request} (hr : r.idle = true) (applied : Bool) (h : History) :
    executedAt device (.request device r applied :: h) = executedAt device h := by
  rw [executedAt, if_pos (Or.inr hr)]

theorem executedAt_execute (t : ℚ) (h : History) :
    executedAt device (.request device (.execute t) true :: h) = some h := by
  rw [executedAt, if_neg (by simp [Request.idle]), if_pos ⟨rfl, rfl⟩]

/-- A request that neither is idle nor starts an execution leaves none. -/
theorem executedAt_busy {r : Request} {applied : Bool} (hr : r.idle = false)
    (hexecutes : ¬ (r.executes = true ∧ applied = true)) (h : History) :
    executedAt device (.request device r applied :: h) = none := by
  rw [executedAt, if_neg (by simp [hr]), if_neg hexecutes]

theorem Request.exists_of_executes {r : Request} (hr : r.executes = true) :
    ∃ t, r = .execute t := by
  cases r with
  | execute t => exact ⟨t, rfl⟩
  | _ => cases hr

/-- An idle request, or an execution, changes no config. -/
theorem Request.keeps_of_idle {r : Request} (hr : r.idle = true ∨ r.executes = true)
    (applied : Bool) (pending : List Request) (rf : Option PyRfConfig) :
    r.updatePending pending = pending ∧ r.updateRf applied rf = rf := by
  cases r with
  | configureRfConfig | configureTx | configureRx | resetStreamingConfigs | collect =>
      rcases hr with hr | hr <;> cases hr
  | _ => exact ⟨rfl, rfl⟩

/-- What an execution waits for does not change what the history says otherwise, and no
other request but idle ones came after it. -/
structure SinceExecution (device : Address) (h₀ h : History) : Prop where
  suffix : h₀ <:+ h
  pending : pendingConfigs device h = pendingConfigs device h₀
  rf : rfConfigOf device h = rfConfigOf device h₀
  mem : ∀ r applied, r.idle = false → r.executes = false →
    .request device r applied ∈ h → .request device r applied ∈ h₀

theorem sinceExecution (hexecuted : executedAt device h = some h₀) :
    SinceExecution device h₀ h := by
  induction h with
  | nil => cases hexecuted
  | cons e h ih =>
      by_cases he : ∀ r applied, e ≠ .request device r applied
      · -- an event of another device
        rw [executedAt_other h he] at hexecuted
        obtain ⟨hsuffix, hpending, hrf, hmem⟩ := ih hexecuted
        refine ⟨hsuffix.trans (List.suffix_cons e h), ?_, (rfConfigOf_other h he).trans hrf,
          fun r applied hidle hexecutes hin => ?_⟩
        · rw [pendingConfigs_cons h (by rintro ⟨r, rfl⟩; exact he r true rfl), hpending]
        · rcases List.mem_cons.mp hin with rfl | hin
          · exact absurd rfl (he r applied)
          · exact hmem r applied hidle hexecutes hin
      · push Not at he
        obtain ⟨r, applied, rfl⟩ := he
        have hkeeps (hr : r.idle = true ∨ r.executes = true) :
            pendingConfigs device (.request device r applied :: h) = pendingConfigs device h ∧
              rfConfigOf device (.request device r applied :: h) = rfConfigOf device h := by
          obtain ⟨hpending, hrf⟩ :=
            Request.keeps_of_idle hr applied (pendingConfigs device h) (rfConfigOf device h)
          rw [rfConfigOf_request, Deployment.pendingConfigs_request, hpending, ite_self]
          exact ⟨rfl, hrf⟩
        have hother {r' : Request} {applied' : Bool} (hidle : r'.idle = false)
            (hexecutes : r'.executes = false) (hr : r.idle = true ∨ r.executes = true)
            (hin : .request device r' applied' ∈ .request device r applied :: h) :
            .request device r' applied' ∈ h := by
          rcases List.mem_cons.mp hin with heq | hin
          · obtain ⟨-, rfl, -⟩ := ClientEvent.request.inj heq
            rw [hidle, hexecutes] at hr
            rcases hr with hr | hr <;> cases hr
          · exact hin
        cases hr : r.idle with
        | true =>
            rw [executedAt_idle hr] at hexecuted
            obtain ⟨hsuffix, hpending, hrf, hmem⟩ := ih hexecuted
            obtain ⟨hpending', hrf'⟩ := hkeeps (Or.inl hr)
            exact ⟨hsuffix.trans (List.suffix_cons _ h), hpending'.trans hpending, hrf'.trans hrf,
              fun r' applied' hidle hexecutes hin =>
                hmem r' applied' hidle hexecutes (hother hidle hexecutes (Or.inl hr) hin)⟩
        | false =>
            by_cases hexecutes : r.executes = true ∧ applied = true
            · obtain ⟨hpending', hrf'⟩ := hkeeps (Or.inr hexecutes.1)
              have hstart : some h = some h₀ := by
                rw [← hexecuted, executedAt, if_neg (by simp [hr]), if_pos hexecutes]
              cases hstart
              exact ⟨List.suffix_cons _ _, hpending', hrf', fun r' applied' hidle hnot hin =>
                hother hidle hnot (Or.inr hexecutes.1) hin⟩
            · rw [executedAt_busy hr hexecutes] at hexecuted
              cases hexecuted

end

/-! ## The device -/

namespace Usrp

open ReplayBlockConfig Components

variable {α : Type} {E : Environment α}

/-- What the constructors leave. -/
structure Fresh (u : Usrp α) : Prop where
  tx : u.txStreamingConfigs = []
  rx : u.rxStreamingConfigs = []
  replay : ∃ memSize, u.components.replayConfig = ReplayBlockConfig.make memSize

/-- The sizes of the device fit each other, all its configs were accepted, and it has the
number of streams of the RF config, if one is known. -/
structure Known (rf : Option PyRfConfig) (u : Usrp α) : Prop where
  replay : u.components.replayConfig.Consistent
  tx : ∀ c ∈ u.txStreamingConfigs, 1 ≤ c.numRepetitions.toInt ∧ ∃ n len, Uniform n len c
  rx : ∀ c ∈ u.rxStreamingConfigs, RxLengthsOk c
  configured : ∀ conf, rf = some conf → ∃ tx rx : ℕ, conf.noTxStreams = tx ∧
    conf.noRxStreams = rx ∧ u.components.Configured tx rx

section

variable {rf : Option PyRfConfig} {u u' : Usrp α}

/-- Nothing is known of a device that has just been started. -/
theorem Fresh.known (h : Fresh u) : Known none u := by
  obtain ⟨memSize, hreplay⟩ := h.replay
  refine ⟨?_, fun c hc => ?_, fun c hc => ?_, fun conf hconf => nomatch hconf⟩
  · rw [hreplay]
    exact ⟨rfl, rfl, rfl, rfl, rfl, rfl⟩
  · rw [h.tx] at hc
    cases hc
  · rw [h.rx] at hc
    cases hc

/-- A device with a known RF config is ready. -/
theorem Known.ready {conf : PyRfConfig} (h : Known (some conf) u) : Ready u := by
  obtain ⟨tx, rx, -, -, hconfigured⟩ := h.configured conf rfl
  exact ⟨⟨tx, rx, hconfigured⟩, h.tx, h.rx⟩

/-- Its streams are as many as the config says. -/
theorem Known.counts {conf : PyRfConfig} (h : Known (some conf) u) :
    numTx u = conf.noTxStreams.toNat ∧ numRx u = conf.noRxStreams.toNat := by
  obtain ⟨tx, rx, htx, hrx, hconfigured⟩ := h.configured conf rfl
  rw [htx, hrx, Int.toNat_natCast, Int.toNat_natCast]
  exact configured_counts hconfigured

/-- A call that keeps the shape and, of each list, at most drops configs. -/
theorem Known.keep (h : Known rf u) (hshape : Shaped u.components u')
    (htx : ∀ c ∈ u'.txStreamingConfigs, c ∈ u.txStreamingConfigs)
    (hrx : ∀ c ∈ u'.rxStreamingConfigs, c ∈ u.rxStreamingConfigs) : Known rf u' := by
  refine ⟨hshape.replay.consistent h.replay, fun c hc => h.tx c (htx c hc),
    fun c hc => h.rx c (hrx c hc), fun conf hconf => ?_⟩
  obtain ⟨tx, rx, htxCount, hrxCount, hconfigured⟩ := h.configured conf hconf
  exact ⟨tx, rx, htxCount, hrxCount, hshape.configured hconfigured⟩

theorem Known.same (h : Known rf u) (hshape : Shaped u.components u') (hsame : SameConfigs u u') :
    Known rf u' := by
  refine h.keep hshape (fun c hc => ?_) fun c hc => ?_
  · rwa [hsame.1] at hc
  · rwa [hsame.2] at hc

/-- The threads change nothing about what is known. -/
theorem known_run {events : List (Event α)} (h : Known rf u)
    (hstreaming : ∀ e ∈ events, e.isStreaming = true) :
    Known rf (Machine.run (step E) u events) := by
  refine Machine.run_invariant (Known rf) (fun v e hv he => ?_) h
    (Machine.AllSteps.of_forall hstreaming)
  have hcontinues := continues_step (E := E) he v
  exact hv.same (shaped_step he (sameShape_refl _)) ⟨hcontinues.txConfigs, hcontinues.rxConfigs⟩

theorem known_setTxConfig (conf : TxStreamingConfig α) :
    Preserves (Known (α := α) rf) (setTxConfig E conf) := by
  intro u h
  cases hcall : setTxConfig E conf u with
  | error e u' =>
      obtain rfl := setTxConfig_of_error hcall
      exact h
  | ok v u' =>
      obtain ⟨c, len, hstored, rfl⟩ := storedAs_of_accepted hcall
      refine ⟨h.replay, fun c' hc' => ?_, h.rx, h.configured⟩
      rcases List.mem_append.mp hc' with hold | hnew
      · exact h.tx c' hold
      · rw [List.mem_singleton.mp hnew, hstored.numRepetitions]
        exact ⟨hstored.numRepetitions_pos, _, len, hstored.uniform⟩

theorem known_setRxConfig (conf : RxStreamingConfig) :
    Preserves (Known (α := α) rf) (setRxConfig conf) := by
  intro u h
  rcases rxRequest_cases u conf with hkept | hok
  · rw [rxRequest] at hkept
    rw [hkept]
    exact h
  · obtain ⟨⟨hlengths, -⟩, hstored⟩ := setRxConfig_eq_ok_iff.mp hok
    rw [rxRequest] at hstored
    rw [hstored]
    refine ⟨h.replay, h.tx, fun c hc => ?_, h.configured⟩
    rcases List.mem_append.mp hc with hold | hnew
    · exact h.rx c hold
    · rw [List.mem_singleton.mp hnew]
      exact hlengths

/-- Whatever becomes of a new RF config, the sizes fit each other. -/
theorem consistent_setRfConfig (b : RfNocBlocks) (conf : RfConfig) (a : RfAnswers) :
    Preserves (fun c : Components => c.replayConfig.Consistent)
      (Components.setRfConfig b conf a) := by
  refine Preserves.bind (Preserves.onField_of_put fun _ _ h => h) fun _ => ?_
  refine Preserves.get.bind fun _ => Preserves.bind (Preserves.onField_of_put fun _ _ h => h)
    fun _ => Preserves.modify fun c h => ?_
  exact ⟨rfl, rfl, h.txSize, h.rxSize, h.txSample, h.rxSample⟩

/-- A reconfiguration makes the config known when it returns; when it throws, nothing is known. -/
theorem setRfConfig_triple {conf : RfConfig} {pyConf : PyRfConfig} {a : RfAnswers}
    (htx : conf.noTxStreams.toInt = pyConf.noTxStreams)
    (hrx : conf.noRxStreams.toInt = pyConf.noRxStreams) :
    Triple (Known rf) (setRfConfig E conf a) (fun _ => Known (some pyConf))
      (fun _ => Known none) := by
  intro u h
  have hsame : SameConfigs u (finalState (setRfConfig E conf a u)) :=
    sameConfigs_onComponents _ u ⟨rfl, rfl⟩
  have hkeeps : Preserves (fun u : Usrp α => u.components.replayConfig.Consistent)
      (setRfConfig E conf a) :=
    Preserves.onField (fun _ (c : Components) => c.replayConfig.Consistent) (fun _ h => h)
      (fun _ _ => consistent_setRfConfig _ _ _) fun _ _ _ h => h
  have hknown {rf' : Option PyRfConfig}
      (hconfigured : ∀ conf', rf' = some conf' → ∃ tx rx : ℕ, conf'.noTxStreams = tx ∧
        conf'.noRxStreams = rx ∧
          (finalState (setRfConfig E conf a u)).components.Configured tx rx) :
      Known rf' (finalState (setRfConfig E conf a u)) := by
    refine ⟨hkeeps u h.replay, fun c hc => h.tx c ?_, fun c hc => h.rx c ?_, hconfigured⟩
    · rwa [hsame.1] at hc
    · rwa [hsame.2] at hc
  cases hcall : setRfConfig E conf a u with
  | ok v u' =>
      rw [hcall] at hknown
      refine hknown fun conf' hconf' => ?_
      cases hconf'
      obtain ⟨tx, rx, htx', hrx', hconfigured⟩ := configured_of_setRfConfig h.replay hcall
      exact ⟨tx, rx, htx.symm.trans htx', hrx.symm.trans hrx', hconfigured⟩
  | error e u' =>
      rw [hcall] at hknown
      exact hknown fun conf' hconf' => nomatch hconf'

theorem known_execute (a : ExecuteAnswers) (baseTime : ℚ) :
    Preserves (Known rf) (execute E a baseTime) := fun u h =>
  h.same (shaped_execute a baseTime u (sameShape_refl _))
    (sameConfigs_execute a baseTime u ⟨rfl, rfl⟩)

theorem known_collect (a : ℕ → List RecvAnswer) :
    Preserves (Known (α := α) rf) (collect E a) := by
  intro u h
  have hshape := shaped_collect (E := E) a u (sameShape_refl u.components)
  rcases sameConfigs_collect (E := E) (u := u) a u (Or.inl ⟨rfl, rfl⟩) with hsame | ⟨htx, hrx⟩
  · exact h.same hshape hsame
  · refine h.keep hshape (fun c hc => ?_) fun c hc => ?_
    · rw [htx] at hc
      cases hc
    · rw [hrx] at hc
      cases hc

/-! ### Executions that are not collected -/

/-- The device has started an execution, and its threads have made some steps since. -/
def Executing (E : Environment α) (baseTime : ℚ) (u u' : Usrp α) : Prop :=
  ∃ a v events, execute E a baseTime u = .ok () v ∧
    (∀ e ∈ events, e.isStreaming = true) ∧ u' = Machine.run (step E) v events

/-- A device goes on executing while its threads take steps. -/
theorem Executing.run {baseTime : ℚ} {events : List (Event α)} (h : Executing E baseTime u u')
    (hstreaming : ∀ e ∈ events, e.isStreaming = true) :
    Executing E baseTime u (Machine.run (step E) u' events) := by
  obtain ⟨a, v, events', hexecute, hstreaming', rfl⟩ := h
  refine ⟨a, v, events' ++ events, hexecute, fun e he => ?_, ?_⟩
  · rcases List.mem_append.mp he with he | he
    · exact hstreaming' e he
    · exact hstreaming e he
  · rw [Machine.run_append]

/-- Both threads were spawned, and not joined since. -/
def Spawned (u : Usrp α) : Prop := u.transmitThread ≠ .none ∧ u.receiveThread ≠ .none

theorem TxStep.spawned (h : TxStep u u') (hu : Spawned u) : Spawned u' := by
  obtain ⟨htx, hrx⟩ := hu
  cases h with
  | idle => exact ⟨htx, hrx⟩
  | exhausted i thread config => exact ⟨nofun, hrx⟩
  | start i total c a v thread config started =>
      obtain ⟨r, radioCommands, -, hv⟩ := started_startTransmit c a u
      rw [started] at hv
      obtain rfl : v = _ := hv
      exact ⟨nofun, hrx⟩
  | startFailed c a e v failed =>
      obtain ⟨r, radioCommands, -, hv⟩ := started_startTransmit c a u
      rw [failed] at hv
      obtain rfl : v = _ := hv
      exact ⟨nofun, hrx⟩
  | sample i total stream thread connected room => exact ⟨htx, hrx⟩
  | finish i total thread all => exact ⟨nofun, hrx⟩
  | fail code => exact ⟨nofun, hrx⟩

theorem RxStep.spawned (h : RxStep E u u') (hu : Spawned u) : Spawned u' := by
  obtain ⟨htx, hrx⟩ := hu
  cases h with
  | idle => exact ⟨htx, hrx⟩
  | exhausted i thread config => exact ⟨htx, nofun⟩
  | start i total c a v thread config started =>
      obtain ⟨r, radioCommands, -, hv⟩ := started_startReceive (E := E) c a u
      rw [started] at hv
      obtain rfl : v = _ := hv
      exact ⟨htx, nofun⟩
  | startFailed c a e v failed =>
      obtain ⟨r, radioCommands, -, hv⟩ := started_startReceive (E := E) c a u
      rw [failed] at hv
      obtain rfl : v = _ := hv
      exact ⟨htx, nofun⟩
  | sample i total stream w thread connected room => exact ⟨htx, hrx⟩
  | finish i total thread all => exact ⟨htx, nofun⟩
  | fail strerror => exact ⟨htx, nofun⟩

/-- Both threads of a device that executes have been spawned. -/
theorem Executing.spawned {baseTime : ℚ} (h : Executing E baseTime u u') : Spawned u' := by
  obtain ⟨a, v, events, hexecute, hstreaming, rfl⟩ := h
  refine Machine.run_invariant Spawned (fun w e hw he => ?_) ?_
    (Machine.AllSteps.of_forall hstreaming)
  · rcases step_cases (E := E) he w with htx | hrx
    · exact htx.spawned hw
    · exact hrx.spawned hw
  · obtain ⟨v', r, startTime, rxDecimFactor, -, -, -, rfl⟩ := execute_eq_ok hexecute
    exact ⟨nofun, nofun⟩

/-- What the streams played and delivered. -/
def SameStreams (u u' : Usrp α) : Prop := u'.sent = u.sent ∧ u'.received = u.received

/-- A collection, successful or not, streams nothing. -/
theorem sameStreams_collect (a : ℕ → List RecvAnswer) :
    Preserves (SameStreams u) (collect E a) := by
  refine Preserves.bind (Preserves.modify fun _ h => h) fun _ => (Preserves.reads _).bind fun _ =>
    (Preserves.reads _).bind fun _ => Preserves.bind ?_ fun _ => ?_
  · exact preserves_performDownload (fun _ => Preserves.onField_of_put fun _ _ h => h)
      (fun _ _ h => h) (fun _ _ h => h) a
  · exact Preserves.bind (Preserves.modify fun _ h => h) fun _ => Preserves.reads _

end

end Usrp

/-! ## The transport -/

section

variable {α : Type} (B : Binding α)

/-- What the client has of a signal of the device. -/
def Binding.received (m : MimoSignal α) : PyMimoSignal :=
  ⟨m.map fun v => .line (v.map fun x => (B.ofSample x).decoded)⟩

/-- An array of one dimension is decoded as one, sample by sample. -/
theorem eq_line_of_transport {xs : List Sample} {data : SerializedComplexArray}
    {a : NdArray Sample} (hserialize : serializeComplexArray (.line xs) = .ok data)
    (hdeserialize : deserializeComplexArray data = .ok a) : a = .line (xs.map Sample.decoded) := by
  by_cases hlen : xs.length = 1
  · exact absurd hdeserialize (deserializeComplexArray_single hlen hserialize a)
  · rw [serializeComplexArray_line hlen] at hserialize
    cases hserialize
    rw [deserializeComplexArray_lists] at hdeserialize
    exact (Except.ok.inj hdeserialize).symm

/-- A signal that arrives. -/
theorem eq_received_of_transport {m : MimoSignal α} {data : List SerializedComplexArray}
    {signal : PyMimoSignal}
    (hserialize : (PyMimoSignal.mk (B.toNumpyMimoSignal m)).serialize = .ok data)
    (hdeserialize : PyMimoSignal.deserialize data = .ok signal) : signal = B.received m := by
  obtain ⟨arrays, harrays, hpure⟩ := except_bind_eq_ok_iff.mp hdeserialize
  cases hpure
  have hlines : arrays =
      (B.toNumpyMimoSignal m).map fun a => .line (a.data.map Sample.decoded) := by
    refine eq_map_of_mapM_mapM (f := fun a => serializeComplexArray (.line a.data)) ?_ ?_ harrays
    · intro a data b hf hg
      exact eq_line_of_transport hf hg
    · rw [← hserialize]
      show _ = (m.map _).mapM serializeComplexArray
      rw [Binding.toNumpyMimoSignal, List.mapM_map, List.mapM_map]
      rfl
  rw [hlines, Binding.received, Binding.toNumpyMimoSignal, List.map_map]
  congr 1
  refine List.map_congr_left fun v _ => ?_
  show NdArray.line ((v.map B.ofSample).map Sample.decoded) = _
  rw [List.map_map]
  rfl

end

/-! ## The servers -/

namespace Deployment

variable {α : Type} {D : Deployment α} {device : Address} {h h₀ : History} {r : Request}
  {rf : Option PyRfConfig} {s : UsrpServer α} {u : Usrp α}

/-- After a request that fails, less is known. -/
theorem known_of_failed (r : Request) (hu : Usrp.Known rf u) :
    Usrp.Known (r.updateRf false rf) u := by
  cases r with
  | configureRfConfig conf => exact ⟨hu.replay, hu.tx, hu.rx, fun _ hconf => nomatch hconf⟩
  | _ => exact hu

/-- Serving a request updates what is known of the device, as the history does. -/
theorem serve_known (a : ServerAnswers α) (r : Request) :
    Triple (fun s => Usrp.Known rf s.usrp) (UsrpServer.serve (D.E device) D.B D.version a r)
      (fun _ s => Usrp.Known (r.updateRf true rf) s.usrp)
      (fun _ s => Usrp.Known (r.updateRf false rf) s.usrp) := by
  cases r with
  | configureRfConfig pyConf =>
      refine Triple.bind (Triple.reads fun _ _ hs => known_of_failed _ hs) fun conf => ?_
      refine onUsrp_triple fun s hs => ?_
      have hconf := rfConfigToBinding_eq_ok_iff.mp hs.1
      have htx : conf.noTxStreams.toInt = pyConf.noTxStreams :=
        congrArg PyRfConfig.noTxStreams hconf
      have hrx : conf.noRxStreams.toInt = pyConf.noRxStreams :=
        congrArg PyRfConfig.noRxStreams hconf
      have hknown : ∀ u, u = s.usrp → Usrp.Known rf u := by
        rintro _ rfl
        exact hs.2
      exact (Usrp.setRfConfig_triple htx hrx).mono_pre hknown
  | configureTx t samples n =>
      refine Triple.of_preserves ((Preserves.liftE _).bind fun _ => (Preserves.liftE _).bind
        fun _ => (Preserves.liftE _).bind fun _ => ?_)
      exact preserves_onUsrp (Usrp.known_setTxConfig _)
  | configureRx rxConfig =>
      refine Triple.of_preserves ((Preserves.liftE _).bind fun _ => ?_)
      exact preserves_onUsrp (Usrp.known_setRxConfig _)
  | collect =>
      refine Triple.of_preserves (Preserves.bind ?_ fun _ => Preserves.liftE _)
      exact preserves_onUsrp (Usrp.known_collect _)
  | resetStreamingConfigs =>
      refine Triple.of_preserves (preserves_onUsrp (Preserves.modify fun u hu => ?_))
      exact hu.keep (Components.sameShape_refl _) (fun _ hc => nomatch hc) fun _ hc => nomatch hc
  | execute t => exact Triple.of_preserves (preserves_onUsrp (Usrp.known_execute _ _))
  | setSyncSource source =>
      exact Triple.of_preserves (preserves_setSyncSource source a fun _ _ _ hs => hs)
  | connect => exact Triple.pure fun _ hs => hs
  | getVersion => exact Triple.pure fun _ hs => hs
  | setTimeToZeroNextPps => exact Triple.pure fun _ hs => hs
  | getCurrentFpgaTime => exact Triple.pure fun _ hs => hs

/-- The same of the answer, which may fail after the device has been called. -/
theorem known_answer (a : ServerAnswers α) (hs : Usrp.Known rf s.usrp) :
    Usrp.Known (r.updateRf (D.answer device a r s).1.applied rf)
      (D.answer device a r s).2.usrp := by
  have htriple := @serve_known α D device rf a r
  by_cases hr : r = .collect
  · subst hr
    rw [answer_snd]
    exact Triple.finalState (S := fun s : UsrpServer α => Usrp.Known rf s.usrp) htriple hs
  · rw [answer_of_serve device a hr]
    cases hserve : UsrpServer.serve (D.E device) D.B D.version a r s with
    | ok value s' => exact htriple.of_ok hs hserve
    | error e s' => exact htriple.of_error hs hserve

/-- The same of the request as the network carries it out. -/
theorem known_handle (hs : Usrp.Known rf s.usrp) :
    Usrp.Known (r.updateRf (D.handle h device r s).1.applied rf)
      (D.handle h device r s).2.usrp := by
  have hadvanced : Usrp.Known rf
      (UsrpServer.advance (D.E device) (D.answers h device) s).usrp :=
    Usrp.known_run hs (D.answers h device).streaming
  have hanswer := @known_answer α D device r rf _ (D.answers h device) hadvanced
  have hcases := handled D h device r s
  generalize D.handle h device r s = p at hcases ⊢
  cases hcases with
  | dropped => exact known_of_failed r hadvanced
  | answered ended => exact hanswer
  | unheard ended => exact hanswer

/-- An idle request leaves the device to its threads. -/
theorem usrp_handle_of_idle (hr : r.idle = true) :
    (D.handle h device r s).2.usrp =
      (UsrpServer.advance (D.E device) (D.answers h device) s).usrp := by
  have hanswer (a : ServerAnswers α) (t : UsrpServer α) :
      (D.answer device a r t).2.usrp = t.usrp := by
    rw [answer_snd]
    cases r with
    | setSyncSource source =>
        exact preserves_setSyncSource (I := fun t' => t'.usrp = t.usrp) source a
          (fun _ _ _ ht => ht) t rfl
    | connect | getVersion | setTimeToZeroNextPps | getCurrentFpgaTime => rfl
    | _ => cases hr
  have hcases := handled D h device r s
  generalize D.handle h device r s = p at hcases ⊢
  cases hcases with
  | dropped => rfl
  | answered ended => exact hanswer _ _
  | unheard ended => exact hanswer _ _

/-- An execution that is carried out. -/
theorem executing_of_applied {t : ℚ}
    (happlied : (D.handle h device (.execute t) s).1.applied = true) :
    Usrp.Executing (D.E device) t (UsrpServer.advance (D.E device) (D.answers h device) s).usrp
      (D.handle h device (.execute t) s).2.usrp := by
  have hanswer (a : ServerAnswers α) (v : UsrpServer α)
      (happlied : (D.answer device a (.execute t) v).1.applied = true) :
      Usrp.Executing (D.E device) t v.usrp (D.answer device a (.execute t) v).2.usrp := by
    rw [answer_of_serve device a (by simp)] at happlied ⊢
    cases hserve : UsrpServer.serve (D.E device) D.B D.version a (.execute t) v with
    | ok value v' =>
        obtain ⟨w, hexecute, rfl⟩ := onUsrp_eq_ok_iff.mp hserve
        refine ⟨a.execute, w, [], hexecute, fun _ he => ?_, ?_⟩
        · cases he
        · rfl
    | error e v' =>
        rw [hserve] at happlied
        cases happlied
  have hcases := handled D h device (.execute t) s
  generalize D.handle h device (.execute t) s = p at hcases happlied ⊢
  cases hcases with
  | dropped => cases happlied
  | answered ended => exact hanswer _ _ happlied
  | unheard ended => exact hanswer _ _ happlied

/-- What the history says of the device of a server is true. -/
structure Served (D : Deployment α) (device : Address) (h : History) (s : UsrpServer α) : Prop where
  known : Usrp.Known (rfConfigOf device h) s.usrp
  executing : ∀ h₀, executedAt device h = some h₀ → ∃ s₀ t, D.serverAt h₀ device = some s₀ ∧
    .request device (.execute t) true :: h₀ <:+ h ∧ Usrp.Executing (D.E device) t
      (UsrpServer.advance (D.E device) (D.answers h₀ device) s₀).usrp s.usrp

/-- A request of the device keeps the server as the history has it. -/
theorem served_handle (hserver : D.serverAt h device = some s) (hs : Served D device h s) :
    Served D device (.request device r (D.handle h device r s).1.applied :: h)
      (D.handle h device r s).2 := by
  refine ⟨?_, fun h₀ hexecuted => ?_⟩
  · rw [rfConfigOf_request]
    exact known_handle hs.known
  · cases hr : r.idle with
    | true =>
        rw [executedAt_idle hr] at hexecuted
        obtain ⟨s₀, t, hserver₀, hsuffix, hexecuting⟩ := hs.executing h₀ hexecuted
        refine ⟨s₀, t, hserver₀, hsuffix.trans (List.suffix_cons _ _), ?_⟩
        rw [usrp_handle_of_idle hr]
        exact hexecuting.run (D.answers h device).streaming
    | false =>
        by_cases hexecutes : r.executes = true ∧ (D.handle h device r s).1.applied = true
        · obtain ⟨hr', happlied⟩ := hexecutes
          obtain ⟨t, rfl⟩ := Request.exists_of_executes hr'
          rw [happlied, executedAt_execute] at hexecuted
          cases hexecuted
          refine ⟨s, t, hserver, ?_, executing_of_applied happlied⟩
          rw [happlied]
        · rw [executedAt_busy hr hexecutes] at hexecuted
          cases hexecuted

/-- What the history says of any server. -/
def AllServed (D : Deployment α) (h : History) : Prop :=
  ∀ device s, D.serverAt h device = some s → Served D device h s

theorem Served.other {e : ClientEvent} (hs : Served D device h s)
    (he : ∀ r applied, e ≠ .request device r applied) : Served D device (e :: h) s := by
  refine ⟨?_, fun h₀ hexecuted => ?_⟩
  · rw [rfConfigOf_other h he]
    exact hs.known
  · rw [executedAt_other h he] at hexecuted
    obtain ⟨s₀, t, hserver₀, hsuffix, hexecuting⟩ := hs.executing h₀ hexecuted
    exact ⟨s₀, t, hserver₀, hsuffix.trans (List.suffix_cons _ _), hexecuting⟩

/-- All servers are as the history has them, at every moment. -/
theorem chronicled_allServed (D : Deployment α) :
    Chronicled D.network (fun _ => True) (AllServed D) := by
  refine .of_events ?_ ?_
  · intro h d r _ hall device s hserver
    by_cases hd : d = device
    · subst hd
      rw [serverAt_same, Option.map_eq_some_iff] at hserver
      obtain ⟨s₀, hserver₀, rfl⟩ := hserver
      rw [network_of_server r hserver₀]
      exact served_handle hserver₀ (hall d s₀ hserver₀)
    · have hother : ∀ r' applied', ClientEvent.request d r (D.network h d r).applied ≠
          .request device r' applied' := by
        rintro r' applied' ⟨⟩
        exact hd rfl
      rw [serverAt_other h hother] at hserver
      exact (hall device s hserver).other hother
  · intro h e he hall device s hserver
    have hother := he device
    rw [serverAt_other h hother] at hserver
    exact (hall device s hserver).other hother

/-! ## One collection -/

/-- The device has played the TX configs of the requests, and `result` is what it has
received for their RX configs; it keeps a record of both. -/
structure Delivered (D : Deployment α) (device : Address) (pending : List Request)
    (conf : PyRfConfig) (u : Usrp α) (result : List (MimoSignal α)) : Prop where
  collected : Usrp.NoWrap (pending.filterMap storedRx) conf.noRxStreams.toNat →
    Usrp.Collected (D.E device) (pending.filterMap storedRx) conf.noRxStreams.toNat u.received
      result
  sent : Usrp.SentOk (D.E device) conf.noTxStreams.toNat
    (pending.filterMap (D.storedTx (D.E device))) u.sent
  complete : u.sent.length = (pending.filterMap (D.storedTx (D.E device))).length

theorem finished_of_ended {thread : StreamThread} (hended : thread.ended = true)
    (hspawned : thread ≠ .none) : thread = .finished := by
  cases thread with
  | none => exact absurd rfl hspawned
  | finished => rfl
  | next i => cases hended
  | busy i total => cases hended

/-- The collection of a device whose threads have ended returns one signal for each repetition of
the configs that waited there when it was executed. -/
theorem delivered_of_collect {conf : PyRfConfig} {pending : List Request} {v u' : Usrp α}
    {a : ℕ → List RecvAnswer} {result : List (MimoSignal α)}
    (hknown : Usrp.Known (some conf) u) (hholds : D.Holds (D.E device) pending u)
    {t : ℚ} (hexecuting : Usrp.Executing (D.E device) t u v) (hended : ThreadsEnded v)
    (hcollect : Usrp.collect (D.E device) a v = .ok result u') :
    Delivered D device pending conf u' result := by
  have hspawned := hexecuting.spawned
  obtain ⟨answers, w, events, hexecute, hstreaming, rfl⟩ := hexecuting
  have hstreamed := Usrp.streamed_of_ready hknown.ready hexecute hstreaming
    (finished_of_ended hended.1 hspawned.1) (finished_of_ended hended.2 hspawned.2) hcollect
  obtain ⟨hsent, hreceived⟩ := (Usrp.sameStreams_collect (E := D.E device) a).of_ok
    (⟨rfl, rfl⟩ : Usrp.SameStreams _ _) hcollect
  obtain ⟨hnumTx, hnumRx⟩ := hknown.counts
  refine ⟨?_, ?_, ?_⟩
  · rw [hreceived, ← hnumRx, ← hholds.rx]
    exact hstreamed.collected
  · rw [hsent, ← hnumTx, ← hholds.tx]
    exact hstreamed.sent
  · rw [hsent, ← hholds.tx]
    exact hstreamed.complete

theorem liftPython_eq_ok {β : Type} {x : Except PythonError β} {b : β} {s s' : UsrpServer α}
    (hok : UsrpServer.liftPython x s = .ok b s') : x = .ok b ∧ s' = s := by
  obtain ⟨hmapped, rfl⟩ := liftE_eq_ok_iff.mp hok
  cases x with
  | ok b' =>
      cases hmapped
      exact ⟨rfl, rfl⟩
  | error e => cases hmapped

/-- A `collect` whose reply arrives: the threads had ended, and the device has returned. -/
theorem collect_of_returns {serialized : List (List SerializedComplexArray)}
    (hreply : (D.handle h device .collect s).1 = .returns serialized) :
    ThreadsEnded (UsrpServer.advance (D.E device) (D.answers h device) s).usrp ∧
      ∃ result, Usrp.collect (D.E device) (D.answers h device).recv
          (UsrpServer.advance (D.E device) (D.answers h device) s).usrp =
            .ok result (D.handle h device .collect s).2.usrp ∧
        (result.mapM fun c => (PyMimoSignal.mk (D.B.toNumpyMimoSignal c)).serialize) =
          .ok serialized := by
  have hcases := handled D h device .collect s
  generalize D.handle h device .collect s = p at hcases hreply ⊢
  cases hcases with
  | dropped => cases hreply
  | unheard ended => cases hreply
  | answered ended =>
      refine ⟨ended rfl, ?_⟩
      generalize UsrpServer.advance (D.E device) (D.answers h device) s = v at hreply ⊢
      unfold answer at hreply ⊢
      cases hserve :
          UsrpServer.serve (D.E device) D.B D.version (D.answers h device) .collect v with
      | error e v' =>
          rw [hserve] at hreply
          cases hreply
      | ok value v' =>
          rw [hserve] at hreply
          cases hreply
          obtain ⟨result, v₁, hcall, hserialize⟩ := bind_eq_ok_iff.mp hserve
          obtain ⟨u', hcollect, rfl⟩ := onUsrp_eq_ok_iff.mp hcall
          obtain ⟨hserialized, rfl⟩ := liftPython_eq_ok hserialize
          exact ⟨result, hcollect, hserialized⟩

/-- A `collect` of a client that returns. -/
theorem collect_of_client {h' : History} {client : UsrpClient} {signals : List PyMimoSignal}
    (hcall : client.collect D.network h = .ok signals h') :
    h' = .request client.address .collect true :: h ∧
      ∃ s s' result, D.serverAt h client.address = some s ∧
        D.serverAt h' client.address = some s' ∧
        ThreadsEnded (UsrpServer.advance (D.E client.address)
          (D.answers h client.address) s).usrp ∧
        Usrp.collect (D.E client.address) (D.answers h client.address).recv
          (UsrpServer.advance (D.E client.address) (D.answers h client.address) s).usrp =
            .ok result s'.usrp ∧
        signals = result.map D.B.received := by
  obtain ⟨serialized, h₁, hrequest, hdeserialize⟩ := bind_eq_ok_iff.mp hcall
  obtain rfl := request_eq_ok hrequest
  have hreply := returns_of_request hrequest
  have hsignals : serialized.mapM PyMimoSignal.deserialize = .ok signals ∧
      h' = .request client.address .collect true :: h := by
    cases hmap : serialized.mapM PyMimoSignal.deserialize with
    | error e =>
        rw [hmap] at hdeserialize
        cases hdeserialize
    | ok signals' =>
        rw [hmap] at hdeserialize
        cases hdeserialize
        exact ⟨rfl, rfl⟩
  obtain ⟨hsignals, rfl⟩ := hsignals
  refine ⟨rfl, ?_⟩
  cases hserver : D.serverAt h client.address with
  | none =>
      rw [network, hserver] at hreply
      cases hreply
  | some s =>
      rw [network_of_server .collect hserver] at hreply
      obtain ⟨hended, result, hcollect, hserialized⟩ := collect_of_returns hreply
      refine ⟨s, (D.handle h client.address .collect s).2, result, rfl, ?_, hended, hcollect, ?_⟩
      · rw [serverAt_same, hserver]
        rfl
      · exact eq_map_of_mapM_mapM (fun m data signal => eq_received_of_transport D.B) hserialized
          hsignals

end Deployment

/-! ## The calls of all devices -/

namespace System

/-- A registered USRP, under its name. -/
abbrev Entry := Sigma fun _ : String => LabeledUsrp

section

variable {β : Type}

theorem returnedValues_concat (outcomes : List (String × Except String β)) (usrpName : String)
    (a : β) : returnedValues (outcomes ++ [(usrpName, .ok a)]) =
      returnedValues outcomes ++ [(usrpName, a)] := by
  rw [returnedValues, List.filterMap_append]
  rfl

/-- Once an error is gathered, there is no way back. -/
theorem remoteUsrpErrors_concat_ne_nil {outcomes : List (String × Except String β)}
    (o : String × Except String β)
    (h : remoteUsrpErrors outcomes ≠ [] ∨ ∃ usrpName msg, o = (usrpName, .error msg)) :
    remoteUsrpErrors (outcomes ++ [o]) ≠ [] := by
  rw [remoteUsrpErrors, List.filterMap_append]
  intro hnil
  obtain ⟨hbefore, hlast⟩ := List.append_eq_nil_iff.mp hnil
  rcases h with h | ⟨usrpName, msg, rfl⟩
  · exact h hbefore
  · cases hlast

/-- The calls of all devices, one after the other: an invariant that sees the devices before,
and how their calls have ended. -/
theorem outcomes_triple {f : String → SystemM β} {clients : Dict String LabeledUsrp}
    {I : List Entry → List (String × Except String β) → System → Prop}
    {E : ClientError → System → Prop}
    (hok : ∀ before e after outcomes s a s', clients.entries = before ++ e :: after →
      I before outcomes s → f e.1 s = .ok a s' →
        I (before ++ [e]) (outcomes ++ [(e.1, .ok a)]) s')
    (hremote : ∀ before e after outcomes s msg s', clients.entries = before ++ e :: after →
      I before outcomes s → f e.1 s = .error (.remote msg) s' →
        I (before ++ [e]) (outcomes ++ [(e.1, .error msg)]) s')
    (hother : ∀ usrpName s error s', (∀ msg, error ≠ .remote msg) →
      f usrpName s = .error error s' → E error s') :
    Triple (I [] []) (clients.entries.mapM fun e : Entry => do
      let outcome ← catchRemoteError (f e.1)
      return (e.1, outcome)) (I clients.entries) E := by
  refine Triple.mapM_split _ fun before e after outcomes hentries s hI => ?_
  rw [bind_apply]
  unfold catchRemoteError
  cases hf : f e.1 s with
  | ok a s' => exact hok before e after outcomes s a s' hentries hI hf
  | error error s' =>
      cases error with
      | remote msg => exact hremote before e after outcomes s msg s' hentries hI hf
      | _ => exact hother e.1 s _ s' (by rintro msg ⟨⟩) hf

/-- The loop over the devices, with the values of all of them or the errors of some. -/
theorem catchRemoteUsrpErrors_apply (f : String → SystemM β) (s : System) :
    catchRemoteUsrpErrors f s = ((s.usrpClients.entries.mapM fun e : Entry => do
      let outcome ← catchRemoteError (f e.1)
      return (e.1, outcome)) >>= fun outcomes =>
        if remoteUsrpErrors outcomes = [] then pure (returnedValues outcomes)
        else throw (ClientError.multipleRemoteUsrp (remoteUsrpErrors outcomes))) s := by
  have hkeys : s.usrpClients.keys = s.usrpClients.entries.map Sigma.fst := rfl
  unfold catchRemoteUsrpErrors
  rw [bind_of_ok (get_apply s), hkeys, List.mapM_map]
  rfl

/-- **Calls of all devices that return as a whole.** -/
theorem catchRemoteUsrpErrors_ok {f : String → SystemM β} {clients : Dict String LabeledUsrp}
    {I : List Entry → List (String × β) → System → Prop}
    (hcall : ∀ before e after values s a s', clients.entries = before ++ e :: after →
      s.usrpClients = clients → I before values s → f e.1 s = .ok a s' →
        s'.usrpClients = clients ∧ I (before ++ [e]) (values ++ [(e.1, a)]) s')
    {s s' : System} {values : List (String × β)} (hclients : s.usrpClients = clients)
    (hs : I [] [] s) (hok : catchRemoteUsrpErrors f s = .ok values s') :
    s'.usrpClients = clients ∧ I clients.entries values s' := by
  let J : List Entry → List (String × Except String β) → System → Prop := fun before outcomes s =>
    remoteUsrpErrors outcomes ≠ [] ∨
      s.usrpClients = clients ∧ I before (returnedValues outcomes) s
  have hloop := @outcomes_triple β f clients J (fun _ _ => True)
    (fun before e after outcomes s a s' hentries hJ hf => by
      rcases hJ with herrors | ⟨hsame, hI⟩
      · exact Or.inl (remoteUsrpErrors_concat_ne_nil _ (Or.inl herrors))
      · refine Or.inr ?_
        rw [returnedValues_concat]
        exact hcall before e after _ s a s' hentries hsame hI hf)
    (fun _ _ _ _ _ msg _ _ _ _ =>
      Or.inl (remoteUsrpErrors_concat_ne_nil _ (Or.inr ⟨_, msg, rfl⟩)))
    fun _ _ _ _ _ _ => trivial
  rw [catchRemoteUsrpErrors_apply, hclients] at hok
  obtain ⟨outcomes, s₁, hmap, hend⟩ := bind_eq_ok_iff.mp hok
  have hJ := hloop.of_ok (Or.inr ⟨hclients, hs⟩) hmap
  split at hend
  · cases hend
    exact hJ.resolve_left (not_not.mpr ‹_›)
  · cases hend

/-- Calls of all devices of which some have failed. -/
theorem catchRemoteUsrpErrors_error {f : String → SystemM β} {clients : Dict String LabeledUsrp}
    {I : List Entry → List (String × Except String β) → System → Prop}
    (hok : ∀ before e after outcomes s a s', clients.entries = before ++ e :: after →
      I before outcomes s → f e.1 s = .ok a s' →
        I (before ++ [e]) (outcomes ++ [(e.1, .ok a)]) s')
    (hremote : ∀ before e after outcomes s msg s', clients.entries = before ++ e :: after →
      I before outcomes s → f e.1 s = .error (.remote msg) s' →
        I (before ++ [e]) (outcomes ++ [(e.1, .error msg)]) s')
    (hsingle : ∀ usrpName s errors s', f usrpName s ≠ .error (.multipleRemoteUsrp errors) s')
    {s s' : System} {errors : List RemoteUsrpError} (hclients : s.usrpClients = clients)
    (hs : I [] [] s)
    (herror : catchRemoteUsrpErrors f s = .error (.multipleRemoteUsrp errors) s') :
    ∃ outcomes, errors = remoteUsrpErrors outcomes ∧ I clients.entries outcomes s' := by
  have hloop := outcomes_triple (E := fun error _ => ∀ errors, error ≠ .multipleRemoteUsrp errors)
    hok hremote fun usrpName s error s' _ hf errors heq => hsingle usrpName s errors s' (heq ▸ hf)
  rw [catchRemoteUsrpErrors_apply, hclients] at herror
  rcases bind_eq_error_iff.mp herror with hmap | ⟨outcomes, s₁, hmap, hend⟩
  · exact absurd rfl (hloop.of_error hs hmap errors)
  · have hI := hloop.of_ok hs hmap
    split at hend
    · cases hend
    · cases hend
      exact ⟨outcomes, rfl, hI⟩

end

/-- A call that sends idle requests only, or none. -/
def Op.idle : Op → Bool
  | .resetFpgaTimes => true
  | .getCurrentFpgaTimes => true
  | .synchronisationValid => true
  | .synchronizeUsrps => true
  | .timerExpires => true
  | _ => false

section

variable {net : Network} {s s' : System}

/-- `execute` registers nobody. -/
theorem sameClients_prepareExecute (clients : Dict String LabeledUsrp) :
    Preserves (fun s : System => s.usrpClients = clients) (prepareExecute net) :=
  preserves_prepareExecute (fun _ _ _ _ hs => hs) (fun _ _ _ hs => hs) (fun _ hs => hs)
    fun _ hs => hs

theorem usrpClients_idle {op : Op} (hop : op.idle = true) :
    (step net s op).usrpClients = s.usrpClients := by
  have hkeeps {β : Type} {x : SystemM β}
      (hx : Preserves (fun t : System => t.usrpClients = s.usrpClients) x) :
      (finalState (x s)).usrpClients = s.usrpClients := hx s rfl
  cases op with
  | resetFpgaTimes => exact hkeeps (preserves_setTimeToZeroNextPps fun _ _ _ hs => hs)
  | getCurrentFpgaTimes => exact hkeeps (preserves_getCurrentFpgaTimes fun _ _ _ hs => hs)
  | synchronisationValid =>
      exact hkeeps (preserves_synchronisationValid (fun _ _ _ hs => hs) fun _ _ _ hs => hs)
  | synchronizeUsrps =>
      exact hkeeps ((preserves_updateSyncSources (fun _ _ _ _ hs => hs) fun _ hs => hs).bind
        fun _ => preserves_synchronizeClocks (fun _ _ _ hs => hs) (fun _ _ _ hs => hs)
          (fun _ _ _ hs => hs) fun _ hs => hs)
  | timerExpires => rfl
  | _ => cases hop

/-- The calls between an execution and its collection register nobody. -/
theorem usrpClients_idleRun {ops : List Op} (hops : ∀ op ∈ ops, op.idle = true) :
    (Machine.run (step net) s ops).usrpClients = s.usrpClients :=
  Machine.run_invariant (fun t : System => t.usrpClients = s.usrpClients)
    (fun _ _ ht hop => (usrpClients_idle hop).trans ht) rfl (Machine.AllSteps.of_forall hops)

end

end System

namespace Chronicled

open UsrpWrapper.System

variable {net : Network} {K : Request → Prop} {J : History → Prop}

/-- What requests between an execution and its collection keep is kept by every call then. -/
theorem idleStep (hJ : Chronicled net K J) (hidle : ∀ r, r.idle = true → K r) {s : System} {op : Op}
    (hop : op.idle = true) (hs : J s.history) : J (System.step net s op).history := by
  cases op with
  | resetFpgaTimes => exact hJ.setTimeToZeroNextPps hidle s hs
  | getCurrentFpgaTimes => exact hJ.getCurrentFpgaTimes hidle s hs
  | synchronisationValid => exact hJ.synchronisationValid hidle s hs
  | synchronizeUsrps => exact hJ.synchronizeUsrps hidle s hs
  | timerExpires => exact hs
  | _ => cases hop

/-- It is kept by any number of calls. -/
theorem idleRun (hJ : Chronicled net K J) (hidle : ∀ r, r.idle = true → K r) {s : System}
    {ops : List Op} (hops : ∀ op ∈ ops, op.idle = true) (hs : J s.history) :
    J (Machine.run (System.step net) s ops).history :=
  Machine.run_invariant (fun t : System => J t.history)
    (fun _ _ ht hop => hJ.idleStep hidle hop ht) hs (Machine.AllSteps.of_forall hops)

end Chronicled

/-! ## From the execution to the collection -/

namespace Deployment

open UsrpWrapper.System

variable {α : Type} {D : Deployment α} {device : Address} {h h' : History} {s s' : System}

/-- The result of the collection for one device: if the device has an RF config, and an
execution waits on it, its samples are delivered. -/
def DeliveredTo (D : Deployment α) (h h' : History) (usrp : Entry)
    (p : String × List PyMimoSignal) : Prop :=
  p.1 = usrp.1 ∧ ∀ conf, rfConfigOf usrp.2.address h = some conf →
    (executedAt usrp.2.address h).isSome = true →
      ∃ v result, D.serverAt h' usrp.2.address = some v ∧ p.2 = result.map D.B.received ∧
        Delivered D usrp.2.address (pendingConfigs usrp.2.address h) conf v.usrp result

/-- Requests to other devices do not matter. -/
theorem DeliveredTo.other {usrp : Entry} {p : String × List PyMimoSignal} {e : ClientEvent}
    (hdelivered : DeliveredTo D h h' usrp p)
    (he : ∀ r applied, e ≠ .request usrp.2.address r applied) :
    DeliveredTo D h (e :: h') usrp p := by
  refine ⟨hdelivered.1, fun conf hconf hexecuted => ?_⟩
  rw [serverAt_other h' he]
  exact hdelivered.2 conf hconf hexecuted

/-- What was delivered stays delivered when other devices are asked. -/
theorem deliveredTo_others {entries : List Entry} {values : List (String × List PyMimoSignal)}
    {e : ClientEvent} (hall : List.Forall₂ (DeliveredTo D h h') entries values)
    (he : ∀ usrp ∈ entries, ∀ r applied, e ≠ .request usrp.2.address r applied) :
    List.Forall₂ (DeliveredTo D h (e :: h')) entries values :=
  ((List.forall₂_and_left _ _).mpr ⟨he, hall⟩).imp fun _ _ hboth => hboth.2.other hboth.1

/-- All that is known of the histories that led to this one. -/
def Kept (D : Deployment α) (h : History) : Prop :=
  ∀ h₀, h₀ <:+ h → InStep D h₀ ∧ AllServed D h₀

/-- The invariants of the servers hold at every moment. -/
theorem chronicled_kept (D : Deployment α) : Chronicled D.network (fun _ => True) (Kept D) :=
  ((chronicled_inStep D).and (chronicled_allServed D)).suffixes

theorem kept_nil (hfresh : ∀ device s, D.servers device = some s → Usrp.Fresh s.usrp) :
    Kept D [] := by
  intro h₀ hsuffix
  obtain rfl := List.suffix_nil.mp hsuffix
  refine ⟨fun _ hreset => ?_, fun device s hserver => ⟨?_, fun h₀ hexecuted => ?_⟩⟩
  · cases hreset
  · exact (hfresh device s hserver).known
  · cases hexecuted

/-- The collection of one device; the requests before it went to other ones. -/
theorem deliveredTo_of_collect {usrp : Entry} {hᵢ : History} {signals : List PyMimoSignal}
    (hkept : Kept D h)
    (hreset : .request usrp.2.address .resetStreamingConfigs true ∈ h)
    (hsame : D.serverAt hᵢ usrp.2.address = D.serverAt h usrp.2.address)
    (hcall : usrp.2.client.collect D.network hᵢ = .ok signals h') :
    DeliveredTo D h h' usrp (usrp.1, signals) := by
  refine ⟨rfl, fun conf hconf hexecuted => ?_⟩
  obtain ⟨h₀, hexecuted⟩ := Option.isSome_iff_exists.mp hexecuted
  obtain ⟨-, v, v', result, hserver, hserver', hended, hcollect, hsignals⟩ :=
    collect_of_client hcall
  have hserver : D.serverAt h usrp.2.address = some v := hsame.symm.trans hserver
  obtain ⟨hsuffix, hpending, hrf, hmem⟩ := sinceExecution hexecuted
  -- the server when the execution was requested
  obtain ⟨v₀, t, hserver₀, -, hexecuting⟩ :=
    ((hkept h (List.suffix_refl h)).2 _ v hserver).executing h₀ hexecuted
  obtain ⟨hstep₀, hserved₀⟩ := hkept h₀ hsuffix
  have hknown := (hserved₀ _ v₀ hserver₀).known
  obtain ⟨w, hw, hholds⟩ := hstep₀ usrp.2.address (hmem _ _ rfl rfl hreset)
  rw [hserver₀] at hw
  cases hw
  rw [← hrf, hconf] at hknown
  rw [← hpending] at hholds
  exact ⟨v', result, hserver', hsignals, delivered_of_collect
    (Usrp.known_run hknown (D.answers h₀ usrp.2.address).streaming)
    (hholds.same (sameConfigs_advance (D.answers h₀ usrp.2.address) v₀))
    (hexecuting.run (D.answers hᵢ usrp.2.address).streaming) hended hcollect⟩

/-- **The collection of all devices.** -/
theorem deliveredTo_of_system_collect {samples : List (String × List PyMimoSignal)}
    (hkept : Kept D s.history) (hregistered : RegisteredOk s)
    (hcollect : System.collect D.network s = .ok samples s') :
    List.Forall₂ (DeliveredTo D s.history s'.history) s.usrpClients.entries samples := by
  obtain ⟨values, s₁, hcalls, hchecked⟩ := bind_eq_ok_iff.mp hcollect
  obtain ⟨_, s₂, hlift, hpure⟩ := bind_eq_ok_iff.mp hchecked
  obtain ⟨-, rfl⟩ := liftE_eq_ok_iff.mp hlift
  cases hpure
  have hdevices : s.devices = s.usrpClients.entries.map fun e => e.2.address := by
    rw [System.devices, Dict.values, List.map_map]
    rfl
  -- the devices before have delivered, and the servers of the other ones are as they were
  let I : List Entry → List (String × List PyMimoSignal) → System → Prop := fun before values t =>
    List.Forall₂ (DeliveredTo D s.history t.history) before values ∧
      ∀ d, (∀ e ∈ before, e.2.address ≠ d) → D.serverAt t.history d = D.serverAt s.history d
  have hresult := catchRemoteUsrpErrors_ok (I := I) ?_ rfl ⟨List.Forall₂.nil, fun _ _ => rfl⟩ hcalls
  · exact hresult.2.1
  · rintro before e after values t signals t' hentries hclients ⟨hall, hsame⟩ hcall
    have hmem : e ∈ s.usrpClients.entries := by
      rw [hentries]
      exact List.mem_append_right _ List.mem_cons_self
    have hnodup := hregistered.nodup
    rw [hdevices, hentries, List.map_append, List.map_cons] at hnodup
    have hdistinct : ∀ e' ∈ before, e'.2.address ≠ e.2.address := by
      intro e' he' heq
      have hdisjoint := (List.nodup_append.mp hnodup).2.2
      exact hdisjoint _ (List.mem_map.mpr ⟨e', he', rfl⟩) _ List.mem_cons_self heq
    have hlookup : callCollectAtUsrp D.network e.1 t =
        onHistory (e.2.client.collect D.network) t :=
      bind_of_ok (labeledUsrp_eq_ok (by rw [hclients]; exact hmem))
    rw [hlookup] at hcall
    obtain ⟨h₁, hclient, rfl⟩ := onField_eq_ok_iff.mp hcall
    have hrecorded : h₁ = .request e.2.address .collect true :: t.history :=
      (collect_of_client hclient).1
    have hreset := hregistered.reset e.2.address
      (by rw [hdevices]; exact List.mem_map.mpr ⟨e, hmem, rfl⟩)
    have hdelivered := deliveredTo_of_collect hkept hreset (hsame _ hdistinct) hclient
    have hother {d : Address} (hd : e.2.address ≠ d) (r : Request) (applied : Bool) :
        ClientEvent.request e.2.address .collect true ≠ .request d r applied := by
      rintro ⟨⟩
      exact hd rfl
    refine ⟨hclients, ?_, fun d hd => ?_⟩
    · refine List.rel_append ?_ (.cons hdelivered .nil)
      show List.Forall₂ (DeliveredTo D s.history h₁) before values
      rw [hrecorded]
      exact deliveredTo_others hall fun usrp husrp r applied =>
        hother (hdistinct usrp husrp).symm r applied
    · show D.serverAt h₁ d = _
      rw [hrecorded, serverAt_other _ (hother (hd e (by simp)))]
      exact hsame d fun e' he' => hd e' (List.mem_append_left _ he')

/-! ### What the calls in between keep -/

/-- What the history says of the configs of the device. -/
def SameSetup (device : Address) (h h' : History) : Prop :=
  pendingConfigs device h' = pendingConfigs device h ∧ rfConfigOf device h' = rfConfigOf device h

/-- Idle requests and executions change no configs. -/
theorem chronicled_sameSetup (net : Network) (device : Address) (h : History) :
    Chronicled net (fun r => r.idle = true ∨ r.executes = true) (SameSetup device h) := by
  have hother {e : ClientEvent} {h' : History} (hsame : SameSetup device h h')
      (he : ∀ r applied, e ≠ .request device r applied) : SameSetup device h (e :: h') := by
    refine ⟨?_, (rfConfigOf_other h' he).trans hsame.2⟩
    rw [pendingConfigs_cons h' (by rintro ⟨r, rfl⟩; exact he r true rfl)]
    exact hsame.1
  refine .of_events ?_ ?_
  · intro h' d r hr hsame
    by_cases hd : d = device
    · subst hd
      obtain ⟨hpending, hrf⟩ := Request.keeps_of_idle hr (net h' d r).applied
        (pendingConfigs d h') (rfConfigOf d h')
      refine ⟨?_, ?_⟩
      · rw [pendingConfigs_request, hpending, ite_self]
        exact hsame.1
      · rw [rfConfigOf_request, hrf]
        exact hsame.2
    · refine hother hsame ?_
      rintro r' applied ⟨⟩
      exact hd rfl
  · exact fun h' e he hsame => hother hsame (he device)

/-- Idle requests leave an execution to wait. -/
theorem chronicled_executedAt (net : Network) (device : Address) :
    Chronicled net (fun r => r.idle = true) fun h => (executedAt device h).isSome = true := by
  refine .of_events ?_ ?_
  · intro h d r hr hsome
    rwa [executedAt, if_pos (Or.inr hr)]
  · intro h e he hsome
    rwa [executedAt_other h (he device)]

/-- A request that returns is in the history, as one that was carried out. -/
theorem execute_of_returned {net : Network} {client : UsrpClient} {t : ℚ} {u : Unit}
    (hcall : client.execute net t h = .ok u h') :
    h' = .request client.address (.execute t) true :: .executeCall client.address t :: h := by
  cases hconfigured : client.rfConfiguredOnce with
  | true =>
      rw [execute_of_configured net h t hconfigured] at hcall
      exact request_eq_ok hcall
  | false =>
      rw [execute_of_not_configured net h t hconfigured] at hcall
      cases hcall

/-- The execution that waits on the device was requested with this base time. -/
def ExecutesWith (t : ℚ) (device : Address) (h : History) : Prop :=
  ∃ h₀, executedAt device h = some h₀ ∧ .request device (.execute t) true :: h₀ <:+ h

/-- An event elsewhere does not stop the execution. -/
theorem ExecutesWith.other {t : ℚ} {e : ClientEvent} (hexecutes : ExecutesWith t device h)
    (he : ∀ r applied, e ≠ .request device r applied) : ExecutesWith t device (e :: h) := by
  obtain ⟨h₀, hexecuted, hsuffix⟩ := hexecutes
  refine ⟨h₀, ?_, hsuffix.trans (List.suffix_cons _ _)⟩
  rwa [executedAt_other h he]

/-- All devices execute with the same base time. -/
theorem executes_of_dispatch {net : Network} {t : ℚ}
    (hdispatch : System.dispatch net t s = .ok () s') : s'.usrpClients = s.usrpClients ∧
      ∀ e ∈ s.usrpClients.entries, ExecutesWith t e.2.address s'.history := by
  obtain ⟨_, s₂, hrecord, hcalls⟩ := bind_eq_ok_iff.mp hdispatch
  obtain ⟨_, s₃, hcatch, hpure⟩ := bind_eq_ok_iff.mp hcalls
  cases hpure
  obtain ⟨h₂, -, rfl⟩ := onField_eq_ok_iff.mp hrecord
  let I : List Entry → List (String × Unit) → System → Prop := fun before _ t' =>
    ∀ e ∈ before, ExecutesWith t e.2.address t'.history
  have hstart : ({ s with history := h₂ } : System).usrpClients = s.usrpClients := rfl
  refine catchRemoteUsrpErrors_ok (I := I) ?_ hstart (fun _ he => nomatch he) hcatch
  rintro before e after values t' u t'' hentries hclients' hall hcall
  have hmem : e ∈ t'.usrpClients.entries := by
    rw [hclients', hentries]
    exact List.mem_append_right _ List.mem_cons_self
  have hlookup : callExecuteAtUsrp net t e.1 t' = onHistory (e.2.client.execute net t) t' :=
    bind_of_ok (labeledUsrp_eq_ok hmem)
  rw [hlookup] at hcall
  obtain ⟨h₁, hclient, rfl⟩ := onField_eq_ok_iff.mp hcall
  have hrecorded : h₁ = .request e.2.address (.execute t) true ::
      .executeCall e.2.address t :: t'.history := execute_of_returned hclient
  refine ⟨hclients', fun e' he' => ?_⟩
  show ExecutesWith t e'.2.address h₁
  rw [hrecorded]
  by_cases heq : e.2.address = e'.2.address
  · rw [heq]
    exact ⟨_, executedAt_execute _ _, List.suffix_rfl⟩
  · have hbefore : e' ∈ before := by
      refine (List.mem_append.mp he').resolve_right fun hlast => heq ?_
      rw [List.mem_singleton.mp hlast]
    refine ((hall e' hbefore).other ?_).other fun r applied hsame => ?_
    · rintro r applied ⟨⟩
    · exact heq (ClientEvent.request.inj hsame).1

/-- An execution of the system that returns has started an execution of every device. -/
theorem executes_of_execute {net : Network}
    (hexecute : System.execute net s = .ok () s') :
    s'.usrpClients = s.usrpClients ∧ (∀ d, SameSetup d s.history s'.history) ∧
      ∀ e ∈ s.usrpClients.entries, (executedAt e.2.address s'.history).isSome = true := by
  obtain ⟨t, s₁, hready, hdispatch⟩ := bind_eq_ok_iff.mp hexecute
  have hclients : s₁.usrpClients = s.usrpClients :=
    (sameClients_prepareExecute s.usrpClients).of_ok rfl hready
  have hsetup (d : Address) : SameSetup d s.history s'.history := by
    have hchronicled := chronicled_sameSetup net d s.history
    have hprepared := (hchronicled.prepareExecute fun _ hr => Or.inl hr).of_ok
      (show SameSetup d s.history s.history from ⟨rfl, rfl⟩) hready
    exact (hchronicled.dispatch (Or.inr rfl)).of_ok hprepared hdispatch
  obtain ⟨hclients', hexecutes⟩ := executes_of_dispatch hdispatch
  rw [hclients] at hclients' hexecutes
  refine ⟨hclients', hsetup, fun e he => ?_⟩
  obtain ⟨h₀, hexecuted, -⟩ := hexecutes e he
  rw [hexecuted]
  rfl

/-- The result for one device of a collection that has led to `h'`: the samples of the
configs that waited on the device in `h`. -/
def DeliversPending (D : Deployment α) (h h' : History) (usrp : Entry)
    (p : String × List PyMimoSignal) : Prop :=
  p.1 = usrp.1 ∧ ∃ conf v result, rfConfigOf usrp.2.address h = some conf ∧
    D.serverAt h' usrp.2.address = some v ∧ p.2 = result.map D.B.received ∧
      Delivered D usrp.2.address (pendingConfigs usrp.2.address h) conf v.usrp result

/-- **From the configs of the user to the samples of the devices and back.**  Servers are
as the constructors leave them; then any calls are made, and any requests and replies are
lost.  If an execution returns at some time, on devices whose last RF configuration was
carried out, and, after calls that only synchronise or query, a collection returns too,
then it has for each registered device, in the order of registration and under its name,
the samples of the RX configs that waited on it, if their sizes do not wrap, and the device has
played the TX configs that waited on it.  A thread of a device ends a config once all its
samples are there (`Usrp.txEnd`, `Usrp.rxEnd`). -/
theorem execute_collect (D : Deployment α)
    (hfresh : ∀ device v, D.servers device = some v → Usrp.Fresh v.usrp) {syncSource : String}
    {ops : List Op} {s s₁ s₂ : System} {samples : List (String × List PyMimoSignal)}
    (hrun : Machine.run (System.step D.network) (System.create syncSource) ops = s)
    (hrf : ∀ device ∈ s.devices, (rfConfigOf device s.history).isSome = true)
    (hexecute : System.execute D.network s = .ok () s₁) {between : List Op}
    (hbetween : ∀ op ∈ between, op.idle = true)
    (hcollect : System.collect D.network (Machine.run (System.step D.network) s₁ between) =
      .ok samples s₂) :
    List.Forall₂ (DeliversPending D s.history s₂.history) s.usrpClients.entries samples := by
  obtain ⟨hclients, hsetup, hexecuted⟩ := executes_of_execute hexecute
  -- the collection comes after a run of calls as well
  have hall : Machine.run (System.step D.network) s₁ between =
      Machine.run (System.step D.network) (System.create syncSource)
        (ops ++ .execute :: between) := by
    have hstep : System.step D.network s .execute = s₁ := congrArg finalState hexecute
    rw [Machine.run_append, hrun, ← hstep]
    rfl
  have hkept : Kept D (Machine.run (System.step D.network) s₁ between).history := by
    rw [hall]
    exact (chronicled_kept D).run (kept_nil hfresh) _
  have hregistered : RegisteredOk (Machine.run (System.step D.network) s₁ between) := by
    rw [hall]
    exact registeredOk_run D.network syncSource _
  -- the calls in between change neither the configs nor the executions
  have hclients' : (Machine.run (System.step D.network) s₁ between).usrpClients = s.usrpClients :=
    (usrpClients_idleRun hbetween).trans hclients
  have hsetup' (d : Address) : SameSetup d s.history
      (Machine.run (System.step D.network) s₁ between).history :=
    (chronicled_sameSetup D.network d s.history).idleRun (fun _ hr => Or.inl hr) hbetween (hsetup d)
  have hexecuted' (e : Entry) (he : e ∈ s.usrpClients.entries) :
      (executedAt e.2.address (Machine.run (System.step D.network) s₁ between).history).isSome =
        true :=
    (chronicled_executedAt D.network e.2.address).idleRun (fun _ hr => hr) hbetween
      (hexecuted e he)
  have hdelivered := deliveredTo_of_system_collect hkept hregistered hcollect
  rw [hclients'] at hdelivered
  refine ((List.forall₂_and_left _ _).mpr ⟨fun e he => he, hdelivered⟩).imp ?_
  rintro e p ⟨he, hname, hdelivers⟩
  have hmem : e.2.address ∈ s.devices :=
    List.mem_map.mpr ⟨e.2, List.mem_map.mpr ⟨e, he, rfl⟩, rfl⟩
  obtain ⟨conf, hconf⟩ := Option.isSome_iff_exists.mp (hrf _ hmem)
  obtain ⟨hpending, hconfigured⟩ := hsetup' e.2.address
  obtain ⟨v, result, hserver, hsignals, hresult⟩ :=
    hdelivers conf (hconfigured.trans hconf) (hexecuted' e he)
  rw [hpending] at hresult
  exact ⟨hname, conf, v, result, hconf, hserver, hsignals, hresult⟩

/-! ### A deployment that starts -/

/-- The streams of a device that executes end before the next request. -/
def exampleEvents (h : History) (device : Address) : List (Usrp.Event Wire) :=
  if (executedAt device h).isSome = true then Usrp.exampleCycle.events else []

theorem streaming_exampleEvents (h : History) (device : Address) :
    ∀ e ∈ exampleEvents h device, e.isStreaming = true := by
  unfold exampleEvents
  split
  · exact Usrp.exampleCycle.streaming
  · intro e he
    cases he

/-- A server that has just been started, the reply to whose eighth request is lost.  Once
it executes, its streams end before the next request. -/
def exampleStarted : Deployment Wire where
  version := "1.7.0"
  text := fun _ => "Remote error"
  E := fun _ => Usrp.exampleEnvironment
  B := exampleBinding
  servers := fun device =>
    if device = ("192.168.189.131", 5555) then
      some ⟨{ Usrp.exampleUsrp with components := Components.exampleStart }, "internal", "internal"⟩
    else none
  answers := fun h device =>
    { exampleServerAnswers with
      events := exampleEvents h device
      streaming := streaming_exampleEvents h device }
  link := fun h _ _ => if h.length = 7 then .losesReply else .delivers

theorem fresh_exampleStarted (device : Address) (v : UsrpServer Wire)
    (hserver : exampleStarted.servers device = some v) : Usrp.Fresh v.usrp := by
  unfold exampleStarted at hserver
  dsimp only at hserver
  split at hserver
  · cases hserver
    exact ⟨rfl, rfl, _, rfl⟩
  · cases hserver

/-- One RF config, one TX config, and one RX config, of which the user does not hear that
the device has it. -/
def exampleConfiguration : List Op :=
  [.newUsrp "192.168.189.131" "usrp1" 5555,
    .configureRfConfig "usrp1"
      (rfConfigFromBinding (Components.exampleConfig 122880000 122880000)),
    .configureTx "usrp1"
      ⟨0, ⟨[.line (List.replicate 8 ⟨.finite (1 / 2), .finite 0⟩)]⟩, 1⟩,
    .configureRx "usrp1" { numSamples := 8 }]

/-- The system after these calls. -/
def exampleConfigured : System :=
  Machine.run (System.step exampleStarted.network) (System.create "auto") exampleConfiguration

/-- The system after an execution, and a look at the clocks. -/
def exampleExecuted : System :=
  Machine.run (System.step exampleStarted.network)
    (finalState (System.execute exampleStarted.network exampleConfigured)) [.getCurrentFpgaTimes]

theorem execute_collect_example :
    ∃ samples s₂, System.collect exampleStarted.network exampleExecuted = .ok samples s₂ ∧
      List.Forall₂ (DeliversPending exampleStarted exampleConfigured.history s₂.history)
        exampleConfigured.usrpClients.entries samples := by
  obtain ⟨_, hexecute⟩ := exists_of_returned (by decide +kernel :
    returned (System.execute exampleStarted.network exampleConfigured) = true)
  obtain ⟨samples, hcollect⟩ := exists_of_returned (by decide +kernel :
    returned (System.collect exampleStarted.network exampleExecuted) = true)
  refine ⟨samples, _, hcollect, ?_⟩
  exact execute_collect exampleStarted fresh_exampleStarted rfl (by decide +kernel) hexecute
    (by decide) hcollect

end Deployment

end UsrpWrapper
