import UsrpWrapper.RpcClient
import UsrpWrapper.Lib.Machine

/-!
# The guard of `execute`

`UsrpClient.execute` refuses to send the request unless `configureRfConfig` was called
before, since the server would stream without an RF configuration.
`execute_afterRfConfig_iff` says for which sequences of calls this keeps every execute
request behind an RF configuration that the server has carried out: the flag is set
before the request that may fail, and `executeImmediately` does not look at it.
-/

namespace UsrpWrapper

open Lib Lib.Command Lib.Trace

/-! ## Events -/

/-- A client at this address has sent a `configureRfConfig` request. -/
def ClientEvent.requestsRf (device : Address) : ClientEvent → Bool
  | .request d (.configureRfConfig _) _ => decide (d = device)
  | _ => false

/-- The server has carried out a `configureRfConfig` request. -/
def ClientEvent.configuresRf (device : Address) : ClientEvent → Bool
  | .request d (.configureRfConfig _) applied => decide (d = device) && applied
  | _ => false

/-- An RF configuration of the device was requested. -/
def RfRequested (device : Address) (h : History) : Prop := h.any (·.requestsRf device) = true

/-- An RF configuration of the device was carried out. -/
def RfConfigured (device : Address) (h : History) : Prop := h.any (·.configuresRf device) = true

instance (device : Address) (h : History) : Decidable (RfRequested device h) :=
  inferInstanceAs (Decidable (_ = _))

instance (device : Address) (h : History) : Decidable (RfConfigured device h) :=
  inferInstanceAs (Decidable (_ = _))

/-- An execute request is sent after a `configureRfConfig` that succeeded. -/
def AfterRfConfig : ClientEvent → History → Prop
  | .request device (.execute _) _, h => RfConfigured device h
  | _, _ => True

/-- An event that neither executes nor configures. -/
def ClientEvent.Unguarded : ClientEvent → Prop
  | .request _ (.execute _) _ => False
  | .request _ (.configureRfConfig _) _ => False
  | _ => True

section

variable {device : Address} {e : ClientEvent} {h : History}

theorem afterRfConfig_of_unguarded (he : e.Unguarded) : AfterRfConfig e h := by
  cases e with
  | request d r applied =>
      cases r with
      | execute t => exact he.elim
      | _ => trivial
  | _ => trivial

theorem requestsRf_of_unguarded (he : e.Unguarded) : e.requestsRf device = false := by
  cases e with
  | request d r applied =>
      cases r with
      | configureRfConfig conf => exact he.elim
      | _ => rfl
  | _ => rfl

end

/-! ## Calls -/

/-- The calls of the user of a client. -/
inductive ClientCall where
  | configureRfConfig (rfConfig : PyRfConfig)
  | configureTx (txConfig : PyTxStreamingConfig)
  | configureRx (rxConfig : PyRxStreamingConfig)
  | execute (baseTime : ℚ)
  | executeImmediately
  | collect

namespace UsrpClient

variable (net : Network)

/-- The client and its history after a call, whichever way it ends. -/
def step (s : UsrpClient × History) : ClientCall → UsrpClient × History
  | .configureRfConfig rfConfig => finalState (configureRfConfig net rfConfig s)
  | .configureTx txConfig => (s.1, finalState (s.1.configureTx net txConfig s.2))
  | .configureRx rxConfig => (s.1, finalState (s.1.configureRx net rxConfig s.2))
  | .execute baseTime => (s.1, finalState (s.1.execute net baseTime s.2))
  | .executeImmediately => (s.1, finalState (s.1.executeImmediately net s.2))
  | .collect => (s.1, finalState (s.1.collect net s.2))

/-- What a call does to the flag of the client, and the events it adds. -/
inductive CallStep (c : UsrpClient) (h : History) : ClientCall → UsrpClient × History → Prop
  | configured (conf : PyRfConfig) (applied : Bool) :
      CallStep c h (.configureRfConfig conf) ({ c with rfConfiguredOnce := true },
        .request c.address (.configureRfConfig conf) applied :: h)
  | executed (baseTime : ℚ) (applied : Bool) (flag : c.rfConfiguredOnce = true) :
      CallStep c h (.execute baseTime)
        (c, .request c.address (.execute baseTime) applied :: .executeCall c.address baseTime :: h)
  | refused (baseTime : ℚ) (flag : c.rfConfiguredOnce = false) :
      CallStep c h (.execute baseTime) (c, .executeCall c.address baseTime :: h)
  | immediately (applied : Bool) :
      CallStep c h .executeImmediately (c, .request c.address (.execute (-1)) applied :: h)
  | other {call : ClientCall} {h' : History} (hrf : ∀ conf, call ≠ .configureRfConfig conf)
      (hexecute : ∀ t, call ≠ .execute t) (himmediately : call ≠ .executeImmediately)
      (unguarded : Extends ClientEvent.Unguarded h h') : CallStep c h call (c, h')

/-- Every call of the client is one of these steps. -/
theorem callStep_step (c : UsrpClient) (h : History) (call : ClientCall) :
    CallStep c h call (step net (c, h) call) := by
  have hrequest (r : Request) (hr : ∀ applied, (ClientEvent.request c.address r applied).Unguarded)
      : Preserves (Extends ClientEvent.Unguarded h) (request net c.address r) :=
    preserves_request fun h' applied hh => hh.cons (hr applied)
  cases call with
  | configureRfConfig conf =>
      obtain ⟨applied, hend⟩ := finalState_configureRfConfig net conf c h
      rw [step, hend]
      exact .configured conf applied
  | configureTx txConfig =>
      refine .other (by simp) (by simp) (by simp) ?_
      show Extends _ h (finalState (c.configureTx net txConfig h))
      unfold configureTx
      cases txConfig.samples.serialize with
      | error e => exact Extends.refl h
      | ok samples => exact hrequest (.configureTx _ _ _) (fun _ => trivial) h (Extends.refl h)
  | configureRx rxConfig =>
      refine .other (by simp) (by simp) (by simp) ?_
      exact hrequest (.configureRx rxConfig) (fun _ => trivial) h (Extends.refl h)
  | execute baseTime =>
      cases hflag : c.rfConfiguredOnce with
      | true =>
          rw [step, execute_of_configured net h baseTime hflag, finalState_request]
          exact .executed baseTime _ hflag
      | false =>
          rw [step, execute_of_not_configured net h baseTime hflag]
          exact .refused baseTime hflag
  | executeImmediately =>
      rw [step, executeImmediately, finalState_request]
      exact .immediately _
  | collect =>
      refine .other (by simp) (by simp) (by simp) ?_
      refine Preserves.bind (hrequest .collect fun _ => trivial) (fun serialized => ?_) h
        (Extends.refl h)
      split
      · exact Preserves.throw _
      · exact Preserves.pure _

/-! ## Sequences of calls -/

/-- A call does not send an execute request before the server has carried out an RF
configuration of the client: `executeImmediately` is called after one, and `execute`
before the first call of `configureRfConfig` or after one that succeeded. -/
def InOrder (s : UsrpClient × History) : ClientCall → Prop
  | .executeImmediately => RfConfigured s.1.address s.2
  | .execute _ => RfRequested s.1.address s.2 → RfConfigured s.1.address s.2
  | _ => True

instance (s : UsrpClient × History) : ∀ call, Decidable (InOrder s call)
  | .configureRfConfig _ => inferInstanceAs (Decidable True)
  | .configureTx _ => inferInstanceAs (Decidable True)
  | .configureRx _ => inferInstanceAs (Decidable True)
  | .execute _ => inferInstanceAs (Decidable (_ → _))
  | .executeImmediately => inferInstanceAs (Decidable (RfConfigured _ _))
  | .collect => inferInstanceAs (Decidable True)

/-- The flag of the client says whether `configureRfConfig` was called. -/
def FlagOk (s : UsrpClient × History) : Prop :=
  s.1.rfConfiguredOnce = true ↔ RfRequested s.1.address s.2

/-- An event other than an RF configuration does not concern the flag. -/
theorem FlagOk.cons {c : UsrpClient} {h : History} {e : ClientEvent}
    (he : e.requestsRf c.address = false) (hflag : FlagOk (c, h)) : FlagOk (c, e :: h) := by
  rw [FlagOk, RfRequested, List.any_cons, he, Bool.false_or]
  exact hflag

/-- The flag is set only after a `configureRfConfig` request, whichever call is made. -/
theorem flagOk_step {c : UsrpClient} {h : History} (hflag : FlagOk (c, h)) (call : ClientCall) :
    FlagOk (step net (c, h) call) := by
  have hstep := callStep_step net c h call
  generalize step net (c, h) call = s' at hstep
  cases hstep with
  | configured conf applied =>
      refine iff_of_true rfl ?_
      rw [RfRequested, List.any_cons]
      simp [ClientEvent.requestsRf, address]
  | executed baseTime applied flag => exact (hflag.cons rfl).cons rfl
  | refused baseTime flag => exact hflag.cons rfl
  | immediately applied => exact hflag.cons rfl
  | other hrf hexecute himmediately unguarded =>
      exact unguarded.keeps (I := fun h => FlagOk (c, h))
        (fun e h' he hok => hok.cons (requestsRf_of_unguarded he)) hflag

/-- A call in order is exactly one that keeps the execute requests behind an RF
configuration. -/
theorem always_step_iff {c : UsrpClient} {h : History} (hflag : FlagOk (c, h))
    (halways : Always AfterRfConfig h) (call : ClientCall) :
    Always AfterRfConfig (step net (c, h) call).2 ↔ InOrder (c, h) call := by
  have hstep := callStep_step net c h call
  generalize step net (c, h) call = s' at hstep
  cases hstep with
  | configured conf applied => exact iff_of_true ⟨trivial, halways⟩ trivial
  | executed baseTime applied flag =>
      have hrequested : RfRequested c.address h := hflag.mp flag
      have hcall : RfConfigured c.address (.executeCall c.address baseTime :: h) ↔
          RfConfigured c.address h := Iff.rfl
      refine ⟨fun hend _ => hcall.mp hend.1, fun horder => ?_⟩
      exact ⟨hcall.mpr (horder hrequested), trivial, halways⟩
  | refused baseTime flag =>
      refine iff_of_true ⟨trivial, halways⟩ fun hrequested => ?_
      rw [hflag.mpr hrequested] at flag
      cases flag
  | immediately applied => exact ⟨fun hend => hend.1, fun horder => ⟨horder, halways⟩⟩
  | other hrf hexecute himmediately unguarded =>
      refine iff_of_true ?_ ?_
      · exact unguarded.keeps (fun e h' he hh => ⟨afterRfConfig_of_unguarded he, hh⟩) halways
      · cases call with
        | execute t => exact absurd rfl (hexecute t)
        | executeImmediately => exact absurd rfl himmediately
        | _ => trivial

/-- What was sent stays in the history. -/
theorem always_of_step {c : UsrpClient} {h : History} {call : ClientCall}
    (hend : Always AfterRfConfig (step net (c, h) call).2) : Always AfterRfConfig h := by
  have hstep := callStep_step net c h call
  generalize step net (c, h) call = s' at hstep hend
  cases hstep with
  | configured conf applied => exact hend.2
  | executed baseTime applied flag => exact hend.2.2
  | refused baseTime flag => exact hend.2
  | immediately applied => exact hend.2
  | other hrf hexecute himmediately unguarded =>
      obtain ⟨new, -, rfl⟩ := unguarded
      induction new with
      | nil => exact hend
      | cons e new ih => exact ih hend.2

/-- If all requests of a run are in order, so were those before it. -/
theorem always_of_run {s : UsrpClient × History} {calls : List ClientCall}
    (hend : Always AfterRfConfig (Machine.run (step net) s calls).2) :
    Always AfterRfConfig s.2 := by
  induction calls generalizing s with
  | nil => exact hend
  | cons call calls ih => exact always_of_step net (ih hend)

/-- A run keeps the execute requests behind an RF configuration exactly if all its
calls are in order. -/
theorem always_run_iff {s : UsrpClient × History} (hflag : FlagOk s)
    (halways : Always AfterRfConfig s.2) (calls : List ClientCall) :
    Always AfterRfConfig (Machine.run (step net) s calls).2 ↔
      Machine.AllSteps (step net) InOrder s calls := by
  induction calls generalizing s with
  | nil => exact iff_of_true halways trivial
  | cons call calls ih =>
      obtain ⟨c, h⟩ := s
      have hiff := always_step_iff net hflag halways call
      constructor
      · intro hend
        have hstep := always_of_run net (s := step net (c, h) call) hend
        exact ⟨hiff.mp hstep, (ih (flagOk_step net hflag call) hstep).mp hend⟩
      · rintro ⟨horder, hrest⟩
        exact (ih (flagOk_step net hflag call) (hiff.mpr horder)).mpr hrest

end UsrpClient

/-- **The guard of `execute`.**  Whichever requests of a new client fail, its execute
requests are all sent after an RF configuration that the server has carried out, exactly
if its calls are in order. -/
theorem execute_afterRfConfig_iff {net : Network} {ip : String} {port : ℕ} {c : UsrpClient}
    {h : History} (hcreate : UsrpClient.create net ip port [] = .ok c h)
    (calls : List ClientCall) :
    Always AfterRfConfig (Machine.run (UsrpClient.step net) (c, h) calls).2 ↔
      Machine.AllSteps (UsrpClient.step net) UsrpClient.InOrder (c, h) calls := by
  obtain ⟨_, h₁, hconnect, hrest⟩ := bind_eq_ok_iff.mp hcreate
  obtain ⟨_, h₂, hreset, hpure⟩ := bind_eq_ok_iff.mp hrest
  cases hpure
  rw [request_eq_ok hreset, request_eq_ok hconnect]
  refine UsrpClient.always_run_iff net ?_ ?_ calls
  · exact iff_of_false (by simp) (by simp [RfRequested, ClientEvent.requestsRf])
  · exact ⟨trivial, trivial, trivial⟩

/-- Every `configureRfConfig` request fails on the server. -/
def exampleRfRejected : Network := fun h device r =>
  match r with
  | .configureRfConfig _ => .fails (.remoteError "rejected") false
  | r => Network.reliable h device r

/-- `executeImmediately` needs no RF configuration, and `execute` none that succeeded. -/
theorem execute_withoutRfConfig :
    (∃ c h, UsrpClient.create Network.reliable "192.168.189.131" 5555 [] = .ok c h ∧
        ¬ Always AfterRfConfig
          (Machine.run (UsrpClient.step Network.reliable) (c, h) [.executeImmediately]).2) ∧
      ∃ c h, UsrpClient.create exampleRfRejected "192.168.189.131" 5555 [] = .ok c h ∧
        ¬ Always AfterRfConfig (Machine.run (UsrpClient.step exampleRfRejected) (c, h)
          [.configureRfConfig {}, .execute 5]).2 := by
  refine ⟨⟨_, _, rfl, ?_⟩, _, _, rfl, ?_⟩
  · exact fun hend => Bool.noConfusion (show false = true from hend.1)
  · exact fun hend => Bool.noConfusion (show false = true from hend.1)

/-- A refused `execute`, then one behind an RF configuration. -/
theorem execute_afterRfConfig_example :
    ∃ c h, UsrpClient.create Network.reliable "192.168.189.131" 5555 [] = .ok c h ∧
      Always AfterRfConfig (Machine.run (UsrpClient.step Network.reliable) (c, h)
        [.execute 5, .configureRfConfig {}, .execute 5, .executeImmediately]).2 := by
  refine ⟨_, _, rfl, (execute_afterRfConfig_iff rfl _).mpr ?_⟩
  decide +kernel

end UsrpWrapper
