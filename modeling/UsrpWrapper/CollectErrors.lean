import UsrpWrapper.Delivery
import UsrpWrapper.Lib.Exceptions

/-!
# Collections that fail

`System.collect` asks every device, also after another one has failed, and raises the
errors at the end.  A device that has answered by then has given its configs up, with
their samples, and what it has answered is thrown away.

`collect_loses` says what this comes to: if the user collects again, whichever devices the
error did not name return an empty list.  The same holds for all devices if the samples of
one of them are clipped.
-/

namespace UsrpWrapper

open Lib Lib.Command Lib.Trace

/-! ## Devices without configs -/

/-- No RX config waits on the device. -/
def Emptied (device : Address) (h : History) : Prop :=
  ∀ conf, .configureRx conf ∉ pendingConfigs device h

theorem emptied_collect (device : Address) (h : History) :
    Emptied device (.request device .collect true :: h) := by
  intro conf
  rw [pendingConfigs_carriedOut]
  exact List.not_mem_nil

/-- Only another config changes this. -/
theorem Emptied.cons {device : Address} {e : ClientEvent} {h : History}
    (hempty : Emptied device h) (he : ∀ conf, e ≠ .request device (.configureRx conf) true) :
    Emptied device (e :: h) := by
  intro conf
  by_cases hdone : e.CarriedOut device
  · obtain ⟨r, rfl⟩ := hdone
    rw [pendingConfigs_carriedOut]
    cases r with
    | configureTx _ _ _ =>
        intro hmem
        rcases List.mem_append.mp hmem with hold | hnew
        · exact hempty conf hold
        · cases List.mem_singleton.mp hnew
    | configureRx conf' => exact absurd rfl (he conf')
    | resetStreamingConfigs => exact List.not_mem_nil
    | collect => exact List.not_mem_nil
    | _ => exact hempty conf
  · rw [pendingConfigs_cons h hdone]
    exact hempty conf

theorem Emptied.collect {device d : Address} {applied : Bool} {h : History}
    (hempty : Emptied device h) : Emptied device (.request d .collect applied :: h) :=
  hempty.cons fun _ heq => nomatch (ClientEvent.request.inj heq).2.1

/-- The device has carried out a request with another RX config since then. -/
def ConfiguredSince (device : Address) (h₁ h : History) : Prop :=
  ∃ added conf, h = added ++ h₁ ∧ .request device (.configureRx conf) true ∈ added

/-- Nothing that happens later takes a configuration back. -/
theorem ConfiguredSince.cons {device : Address} {h₁ h : History}
    (hconf : ConfiguredSince device h₁ h) (e : ClientEvent) :
    ConfiguredSince device h₁ (e :: h) := by
  obtain ⟨added, conf, rfl, hmem⟩ := hconf
  exact ⟨e :: added, conf, rfl, List.mem_cons_of_mem e hmem⟩

/-- The device stays without RX configs until it is sent one. -/
theorem chronicled_emptied (net : Network) (device : Address) (h₁ : History) :
    Chronicled net (fun _ => True) fun h =>
      (h₁ <:+ h ∧ Emptied device h) ∨ ConfiguredSince device h₁ h := by
  have hcons {h : History} (e : ClientEvent)
      (hh : (h₁ <:+ h ∧ Emptied device h) ∨ ConfiguredSince device h₁ h) :
      (h₁ <:+ e :: h ∧ Emptied device (e :: h)) ∨ ConfiguredSince device h₁ (e :: h) := by
    rcases hh with ⟨hsuffix, hempty⟩ | hconf
    · by_cases he : ∃ conf, e = .request device (.configureRx conf) true
      · obtain ⟨conf, rfl⟩ := he
        obtain ⟨added, rfl⟩ := hsuffix
        exact Or.inr ⟨_ :: added, conf, rfl, List.mem_cons_self⟩
      · exact Or.inl ⟨hsuffix.trans (List.suffix_cons _ _),
          hempty.cons fun conf heq => he ⟨conf, heq⟩⟩
    · exact Or.inr (hconf.cons e)
  exact .of_events (fun _ _ _ _ hh => hcons _ hh) fun _ _ _ hh => hcons _ hh

/-- Without RX configs a collection returns nothing. -/
theorem Usrp.eq_nil_of_collect {α : Type} {E : Environment α} {u u' : Usrp α}
    {a : ℕ → List RecvAnswer} {result : List (MimoSignal α)} (hrx : u.rxStreamingConfigs = [])
    (hcollect : Usrp.collect E a u = .ok result u') : result = [] := by
  have htriple : Triple (fun v : Usrp α => v.rxStreamingConfigs = []) (Usrp.performDownload E a)
      (fun _ v => v.receivedSamples = []) (fun _ _ => True) := by
    let F : Usrp α → Prop := fun v => v.rxStreamingConfigs = [] ∧ v.receivedSamples = []
    refine Triple.bind (Q := fun _ => F) (Triple.modify fun v hv => ⟨hv, rfl⟩) fun _ => ?_
    refine Triple.bind Triple.get fun v => ?_
    refine Triple.bind (Q := fun _ w => v.rxStreamingConfigs = [] ∧ F w) ?_ fun _ => ?_
    · have hconnect {β : Type} (x : EStateM Fault FullDuplexGraph β) :
          Preserves (fun w : Usrp α => v.rxStreamingConfigs = [] ∧ F w) (Usrp.onGraph x) :=
        Preserves.onField_of_put fun _ _ h => h
      refine ((Triple.of_preserves (hconnect _)).mono_error fun _ _ _ => trivial).mono_pre ?_
      rintro w ⟨rfl, hv⟩
      exact ⟨hv.1, hv⟩
    · refine Triple.of_fact fun hnone => ?_
      rw [hnone]
      exact Triple.pure fun _ h => h.2
  unfold Usrp.collect at hcollect
  rw [bind_of_ok (modify_apply _ _)] at hcollect
  obtain ⟨_, u₁, hread, hcollect⟩ := bind_eq_ok_iff.mp hcollect
  obtain ⟨-, rfl⟩ := reads_eq_ok_iff.mp hread
  obtain ⟨_, u₂, hread, hcollect⟩ := bind_eq_ok_iff.mp hcollect
  obtain ⟨-, rfl⟩ := reads_eq_ok_iff.mp hread
  obtain ⟨_, u₃, hdownload, hcollect⟩ := bind_eq_ok_iff.mp hcollect
  have hnone := htriple.of_ok (show u.joinThreads.rxStreamingConfigs = [] from hrx) hdownload
  rw [bind_of_ok (modify_apply _ _)] at hcollect
  obtain ⟨hresult, -⟩ := reads_eq_ok_iff.mp hcollect
  rw [← Except.ok.inj hresult]
  exact hnone

/-! ## How a collection fails -/

namespace System

/-- What `collect` raises for a device that has received clipped samples. -/
def clippedValues (usrpName : String) : ClientError :=
  .python (.valueError
    ("USRP " ++ usrpName ++ " contains clipped values. Please check your gains."))

/-- The error is about other devices than this one; it was raised when all had been asked. -/
def Spares (usrpName : String) (error : ClientError) : Prop :=
  (∃ errors, error = .multipleRemoteUsrp errors ∧ ∀ e ∈ errors, e.usrpName ≠ usrpName) ∨
    ∃ clipped, error = clippedValues clipped

/-- The errors that are raised once all devices have been asked. -/
def Final (error : ClientError) : Prop :=
  (∃ errors, error = .multipleRemoteUsrp errors) ∨ ∃ clipped, error = clippedValues clipped

theorem deserialize_not_final (data : List SerializedComplexArray) :
    Rejects (fun e => ¬ Final (.python e)) (PyMimoSignal.deserialize data) := by
  have hnumpy : ¬ Final (.python .numpy) := by
    rintro (⟨_, h⟩ | ⟨_, h⟩) <;> cases h
  have hlen (x : Nested Float64) : Rejects (fun e => ¬ Final (.python e)) (len x) := by
    cases x with
    | scalar _ => exact Rejects.error (by rintro (⟨_, h⟩ | ⟨_, h⟩) <;> cases h)
    | list items => exact Rejects.ok _
  have harray (x : Nested Float64) : Rejects (fun e => ¬ Final (.python e)) (npArray x) := by
    unfold npArray
    split
    · exact Rejects.error hnumpy
    · exact Rejects.ok _
  refine Rejects.bind (Rejects.mapM (fun d => ?_) data) fun _ => Rejects.ok _
  refine Rejects.bind (hlen _) fun _ => Rejects.bind (hlen _) fun _ => ?_
  refine Rejects.bind (Rejects.check ?_) fun _ => Rejects.bind (harray _) fun _ =>
    Rejects.bind (harray _) fun _ => ?_
  · -- another text
    rintro (⟨_, h⟩ | ⟨clipped, h⟩)
    · cases h
    · have htext := congrArg String.toList (PythonError.valueError.inj (ClientError.python.inj h))
      simp at htext
  · unfold npAdd
    split
    · exact Rejects.error hnumpy
    · exact Rejects.ok _

/-! ## What is left after a collection that failed -/

section

variable {net : Network} {s s' : System} {error : ClientError} {usrpName : String}

/-- The request of one device raises only what `collect` waits for before it raises it. -/
theorem callCollect_not_final (net : Network) (usrpName : String) :
    Throws (fun e => ¬ Final e) (callCollectAtUsrp net usrpName) := by
  have hrequest (device : Address) :
      Throws (fun e => ¬ Final e) (request net device .collect) := by
    intro h
    unfold request
    cases net h device .collect with
    | returns value => exact Rejects.ok _
    | fails failure applied =>
        cases failure <;> exact Rejects.error (by rintro (⟨_, h⟩ | ⟨_, h⟩) <;> cases h)
  refine Throws.bind (Throws.reads fun s => ?_) fun usrp => Throws.onField ?_
  · split
    · exact Rejects.ok _
    · exact Rejects.error (by rintro (⟨_, h⟩ | ⟨_, h⟩) <;> cases h)
  · refine (hrequest _).bind fun serialized => ?_
    split
    · rename_i e hdeserialize
      exact Throws.throw (Rejects.mapM deserialize_not_final _ e hdeserialize)
    · exact Throws.pure _

/-- A property that survives `collect` requests survives this one. -/
theorem preserves_callCollect {I : System → Prop}
    (hI : ∀ device applied, KeepsEvent I (.request device .collect applied)) :
    Preserves I (callCollectAtUsrp net usrpName) := by
  refine (Preserves.reads _).bind fun usrp => preserves_onHistory fun s => ?_
  refine (preserves_request fun h applied hs => hI _ applied _ hs).bind fun serialized => ?_
  split
  · exact Preserves.throw _
  · exact Preserves.pure _

/-- A call that returns: the device has been asked, and has given its configs up. -/
theorem history_of_callCollect {usrp : LabeledUsrp} {signals : List PyMimoSignal}
    (hmem : (⟨usrpName, usrp⟩ : Entry) ∈ s.usrpClients.entries)
    (hcall : callCollectAtUsrp net usrpName s = .ok signals s') :
    s'.history = .request usrp.address .collect true :: s.history ∧
      s'.usrpClients = s.usrpClients ∧
      ∃ h, usrp.client.collect net s.history = .ok signals h := by
  have hlookup : callCollectAtUsrp net usrpName s = onHistory (usrp.client.collect net) s :=
    bind_of_ok (labeledUsrp_eq_ok hmem)
  rw [hlookup] at hcall
  obtain ⟨h, hclient, rfl⟩ := onField_eq_ok_iff.mp hcall
  refine ⟨?_, rfl, h, hclient⟩
  obtain ⟨serialized, h₁, hrequest, hdeserialize⟩ := bind_eq_ok_iff.mp hclient
  obtain rfl := request_eq_ok hrequest
  cases hmap : serialized.mapM PyMimoSignal.deserialize with
  | error e =>
      rw [hmap] at hdeserialize
      cases hdeserialize
  | ok signals' =>
      rw [hmap] at hdeserialize
      cases hdeserialize
      rfl

/-- **A collection that fails has emptied the devices it does not blame.** -/
theorem emptied_of_collect_error (hfailed : System.collect net s = .error error s')
    (hspares : Spares usrpName error) {usrp : LabeledUsrp}
    (husrp : (⟨usrpName, usrp⟩ : Entry) ∈ s.usrpClients.entries) :
    Emptied usrp.address s'.history := by
  -- the devices that have been asked: emptied, or to blame
  let I : List Entry → List (String × Except String (List PyMimoSignal)) → System → Prop :=
    fun before outcomes t => t.usrpClients = s.usrpClients ∧
      ∀ e ∈ before, Emptied e.2.address t.history ∨ ∃ msg, (e.1, .error msg) ∈ outcomes
  have hkeeps (before : List Entry) (outcomes : List (String × Except String (List PyMimoSignal)))
      (d : Address) (a : Bool) : KeepsEvent (I before outcomes) (.request d .collect a) :=
    fun t ht => ⟨ht.1, fun e he => (ht.2 e he).imp Emptied.collect id⟩
  have hgrow {before : List Entry} {e : Entry} {t : System}
      {outcomes : List (String × Except String (List PyMimoSignal))}
      {outcome : Except String (List PyMimoSignal)} (ht : I before outcomes t)
      (he : Emptied e.2.address t.history ∨ ∃ msg, outcome = .error msg) :
      I (before ++ [e]) (outcomes ++ [(e.1, outcome)]) t := by
    refine ⟨ht.1, fun e' he' => ?_⟩
    rcases List.mem_append.mp he' with hold | hnew
    · refine (ht.2 e' hold).imp id ?_
      rintro ⟨msg, hmem⟩
      exact ⟨msg, List.mem_append_left _ hmem⟩
    · rw [List.mem_singleton.mp hnew]
      refine he.imp id ?_
      rintro ⟨msg, rfl⟩
      exact ⟨msg, List.mem_append_right _ List.mem_cons_self⟩
  have hok : ∀ before e after outcomes t a t', s.usrpClients.entries = before ++ e :: after →
      I before outcomes t → callCollectAtUsrp net e.1 t = .ok a t' →
        I (before ++ [e]) (outcomes ++ [(e.1, .ok a)]) t' := by
    intro before e after outcomes t a t' hentries ht hcall
    have hmem : e ∈ t.usrpClients.entries := by
      rw [ht.1, hentries]
      exact List.mem_append_right _ List.mem_cons_self
    have hkept := (preserves_callCollect (hkeeps before outcomes)).of_ok ht hcall
    refine hgrow hkept (Or.inl ?_)
    rw [(history_of_callCollect hmem hcall).1]
    exact emptied_collect _ _
  have hremote : ∀ before e after outcomes t msg t',
      s.usrpClients.entries = before ++ e :: after → I before outcomes t →
        callCollectAtUsrp net e.1 t = .error (.remote msg) t' →
          I (before ++ [e]) (outcomes ++ [(e.1, .error msg)]) t' := by
    intro before e after outcomes t msg t' _ ht hcall
    have hkept := (preserves_callCollect (hkeeps before outcomes)).of_error ht hcall
    exact hgrow hkept (Or.inr ⟨msg, rfl⟩)
  have hstart : I [] [] s := ⟨rfl, fun _ he => nomatch he⟩
  rcases bind_eq_error_iff.mp hfailed with hcatch | ⟨values, t, hcatch, hclipped⟩
  · rcases hspares with ⟨errors, rfl, hspares⟩ | ⟨clipped, rfl⟩
    · obtain ⟨outcomes, rfl, hI⟩ := catchRemoteUsrpErrors_error hok hremote
        (fun n t errors t' hcall => (callCollect_not_final net n).of_error hcall
          (Or.inl ⟨errors, rfl⟩)) rfl hstart hcatch
      refine (hI.2 _ husrp).resolve_right ?_
      rintro ⟨msg, hmem⟩
      exact hspares ⟨msg, usrpName⟩ (List.mem_filterMap.mpr ⟨_, hmem, rfl⟩) rfl
    · -- no call raises this error
      have hloop := outcomes_triple (E := fun error _ => ¬ Final error) hok hremote
        fun n _ _ _ _ hcall => (callCollect_not_final net n).of_error hcall
      rw [catchRemoteUsrpErrors_apply] at hcatch
      rcases bind_eq_error_iff.mp hcatch with hmap | ⟨outcomes, t, hmap, hend⟩
      · exact absurd (Or.inr ⟨clipped, rfl⟩) (hloop.of_error hstart hmap)
      · split at hend <;> cases hend
  · -- all devices have answered
    have hloop := outcomes_triple (E := fun _ _ => True) hok hremote fun _ _ _ _ _ _ => trivial
    rw [catchRemoteUsrpErrors_apply] at hcatch
    obtain ⟨outcomes, t', hmap, hend⟩ := bind_eq_ok_iff.mp hcatch
    have hI := hloop.of_ok hstart hmap
    split at hend
    · cases hend
      have hsame : s' = t := by
        rcases bind_eq_error_iff.mp hclipped with hlift | ⟨_, _, hlift, hpure⟩
        · exact (reads_eq_error_iff.mp hlift).2
        · cases hpure
      rw [hsame]
      refine (hI.2 _ husrp).resolve_right ?_
      rintro ⟨msg, hmem⟩
      have herror : (⟨msg, usrpName⟩ : RemoteUsrpError) ∈ remoteUsrpErrors outcomes :=
        List.mem_filterMap.mpr ⟨_, hmem, rfl⟩
      rw [‹remoteUsrpErrors outcomes = []›] at herror
      cases herror
    · cases hend

end

/-! ## Names -/

section

variable {net : Network} {s s' : System}

/-- The names of the registered devices, with their addresses. -/
def labels (s : System) : List (String × Address) :=
  s.usrpClients.entries.map fun usrp => (usrp.1, usrp.2.address)

theorem labels_register {usrpName : String} {client : UsrpClient}
    (hnew : usrpName ∉ s.usrpClients) : labels s <+: labels (register usrpName client s) := by
  show _ <+: (Dict.set usrpName _ s.usrpClients).entries.map _
  rw [Dict.entries_set_of_notMem hnew, List.map_append]
  exact List.prefix_append _ _

theorem labels_addUsrp (usrpName : String) (client : UsrpClient) :
    Preserves (fun t => labels s <+: labels t) (addUsrp net usrpName client) := by
  refine preserves_labelRemoteError fun t ht => ?_
  let I : System → Prop := fun t => labels s <+: labels t
  let F : System → Prop := fun t => usrpName ∉ t.usrpClients ∧ I t
  have hrequest {r : Request} : Triple F (onHistory (request net client.address r))
      (fun _ => F) (fun _ => I) :=
    (Triple.of_preserves (preserves_onRequest fun _ _ ht => ht)).mono_error fun _ _ ht => ht.2
  refine Triple.finalState (P := I) (S := I) ?_ ht
  refine Triple.bind (Q := fun _ => I) (Triple.modify fun _ ht => ht) fun _ => ?_
  refine Triple.bind (Triple.reads fun _ _ ht => ht) fun _ => ?_
  refine Triple.mono_pre (P := F) ?_ ?_
  · refine hrequest.bind fun _ => hrequest.bind fun _ => ?_
    refine Triple.bind (Q := fun _ => I) (Triple.modify fun t ht => ?_) fun _ =>
      Triple.pure fun _ ht => ht
    exact ht.2.trans (labels_register ht.1)
  · rintro t ⟨hunique, ht⟩
    exact ⟨(check_bind_eq_ok_iff.mp hunique).1, ht⟩

/-- The calls between two executions only append labels. -/
theorem labels_idle {op : Op} (hop : op.idle = true) : labels s <+: labels (step net s op) := by
  rw [labels, labels, usrpClients_idle hop]

/-- No call takes a device away, or renames it. -/
theorem labels_step (op : Op) (s : System) : labels s <+: labels (step net s op) := by
  have hkeeps {β : Type} {x : SystemM β} (hx : Preserves (fun t => labels s <+: labels t) x) :
      labels s <+: labels (finalState (x s)) := hx s (List.prefix_refl _)
  cases op with
  | newUsrp ip usrpName port =>
      refine hkeeps ((preserves_labelRemoteError (preserves_create ?_ ?_)).bind fun client =>
        labels_addUsrp usrpName client)
      all_goals exact fun _ _ ht => ht
  | addUsrp usrpName client => exact hkeeps (labels_addUsrp usrpName client)
  | configureTx usrpName conf => exact hkeeps (preserves_configureTx fun _ _ _ _ ht => ht)
  | configureRx usrpName conf => exact hkeeps (preserves_configureRx fun _ _ _ ht => ht)
  | configureRfConfig usrpName conf =>
      show labels s <+: labels (finalState (configureRfConfig net usrpName conf s))
      rcases configureRfConfig_cases net usrpName conf s with hsame | ⟨u, applied, hfound, hfinal⟩
      · rw [hsame]
      · rw [hfinal]
        have hsame : (Dict.set usrpName ⟨u.name, { u.client with rfConfiguredOnce := true }⟩
            s.usrpClients).entries.map (fun usrp => (usrp.1, usrp.2.address)) = labels s :=
          Dict.map_entries_set hfound rfl
        show labels s <+: List.map _ _
        rw [hsame]
  | execute =>
      refine hkeeps ((preserves_prepareExecute (fun _ _ _ _ ht => ht) (fun _ _ _ ht => ht)
        (fun _ ht => ht) fun _ ht => ht).bind fun baseTime => ?_)
      refine (preserves_record fun _ ht => ht).bind fun _ => Preserves.bind
        (preserves_catchRemoteUsrpErrors fun n => ?_) fun _ => Preserves.pure _
      exact preserves_callExecuteAtUsrp (fun _ _ ht => ht) fun _ _ _ ht => ht
  | collect => exact hkeeps (preserves_collect fun _ _ _ ht => ht)
  | resetFpgaTimes => exact labels_idle rfl
  | getCurrentFpgaTimes => exact labels_idle rfl
  | synchronisationValid => exact labels_idle rfl
  | synchronizeUsrps => exact labels_idle rfl
  | timerExpires => exact labels_idle rfl

/-- A registered device stays registered, under its name and address. -/
theorem mem_labels_run (net : Network) (ops : List Op) {usrp : Entry}
    (husrp : usrp ∈ s.usrpClients.entries) :
    ∃ e ∈ (Machine.run (step net) s ops).usrpClients.entries, e.1 = usrp.1 ∧
      e.2.address = usrp.2.address := by
  have hlabels : labels s <+: labels (Machine.run (step net) s ops) :=
    Machine.run_invariant (Q := fun _ _ => True) (fun t => labels s <+: labels t)
      (fun t op ht _ => ht.trans (labels_step op t)) (List.prefix_refl _)
      (Machine.AllSteps.of_forall fun _ _ => trivial)
  obtain ⟨e, he, hlabel⟩ := List.mem_map.mp (hlabels.subset (List.mem_map.mpr ⟨usrp, husrp, rfl⟩))
  exact ⟨e, he, congrArg Prod.fst hlabel, congrArg Prod.snd hlabel⟩

end

end System

namespace Deployment

open UsrpWrapper.System

variable {α : Type} {D : Deployment α} {s s' : System}

/-- A device without RX configs returns nothing. -/
theorem eq_nil_of_client {client : UsrpClient} {h h' : History} {signals : List PyMimoSignal}
    (hstep : InStep D h) (hreset : .request client.address .resetStreamingConfigs true ∈ h)
    (hempty : Emptied client.address h) (hcall : client.collect D.network h = .ok signals h') :
    signals = [] := by
  obtain ⟨-, v, v', result, hserver, -, -, hcollect, rfl⟩ := collect_of_client hcall
  obtain ⟨w, hw, hholds⟩ := hstep client.address hreset
  rw [hserver] at hw
  cases hw
  have hadvanced := hholds.same (sameConfigs_advance (E := D.E client.address)
    (D.answers h client.address) v)
  have hnone : (pendingConfigs client.address h).filterMap storedRx = [] := by
    rw [List.filterMap_eq_nil_iff]
    intro r hr
    cases r with
    | configureRx conf => exact absurd hr (hempty conf)
    | _ => rfl
  rw [Usrp.eq_nil_of_collect (hadvanced.rx.trans hnone) hcollect]
  rfl

/-- The collection of all devices, some of which have no RX configs. -/
theorem eq_nil_of_collect {samples : List (String × List PyMimoSignal)}
    (hstep : InStep D s.history) (hregistered : RegisteredOk s)
    (hcollect : System.collect D.network s = .ok samples s') {usrp : Entry}
    (husrp : usrp ∈ s.usrpClients.entries) (hempty : Emptied usrp.2.address s.history) :
    (usrp.1, []) ∈ samples := by
  obtain ⟨values, s₁, hcalls, hchecked⟩ := bind_eq_ok_iff.mp hcollect
  obtain ⟨_, s₂, hlift, hpure⟩ := bind_eq_ok_iff.mp hchecked
  obtain ⟨-, rfl⟩ := liftE_eq_ok_iff.mp hlift
  cases hpure
  let I : List Entry → List (String × List PyMimoSignal) → System → Prop := fun before values t =>
    InStep D t.history ∧ s.history <:+ t.history ∧ Emptied usrp.2.address t.history ∧
      (usrp ∈ before → (usrp.1, []) ∈ values)
  have hresult := catchRemoteUsrpErrors_ok (I := I) ?_ rfl
    ⟨hstep, List.suffix_refl _, hempty, fun hmem => nomatch hmem⟩ hcalls
  · exact hresult.2.2.2.2 husrp
  · rintro before e after values t signals t' hentries hclients ⟨ht, hsuffix, hempty, hmem⟩ hcall
    have he : e ∈ s.usrpClients.entries := by
      rw [hentries]
      exact List.mem_append_right _ List.mem_cons_self
    obtain ⟨hhistory, hsame, h, hclient⟩ :=
      history_of_callCollect (by rw [hclients]; exact he) hcall
    have happlied : (D.network t.history e.2.address .collect).applied = true := by
      obtain ⟨serialized, h₁, hrequest, -⟩ := bind_eq_ok_iff.mp hclient
      have hreply : D.network t.history e.2.address .collect = .returns serialized :=
        returns_of_request hrequest
      rw [hreply]
      rfl
    have hkept := (chronicled_inStep D).request t.history e.2.address .collect trivial ht
    rw [happlied] at hkept
    refine ⟨hsame.trans hclients, ?_⟩
    simp only [I]
    rw [hhistory]
    refine ⟨hkept, hsuffix.trans (List.suffix_cons _ _), hempty.collect, ?_⟩
    intro hnow
    rcases List.mem_append.mp hnow with hold | hnew
    · exact List.mem_append_left _ (hmem hold)
    · obtain rfl := List.mem_singleton.mp hnew
      have hdevice : usrp.2.address ∈ s.devices :=
        List.mem_map.mpr ⟨usrp.2, List.mem_map.mpr ⟨usrp, he, rfl⟩, rfl⟩
      have hnil : signals = [] := eq_nil_of_client ht
        (hsuffix.subset (hregistered.reset _ hdevice)) hempty hclient
      rw [hnil]
      exact List.mem_append_right _ List.mem_cons_self

/-- **The samples of the other devices are lost.**  After any calls, and with any requests
and replies lost: if a collection raises the errors of some devices, or finds clipped
values, then whatever is called after it, the next collection that returns has an empty
list for every device that the error did not name, unless this device has carried out a
request with another RX config. -/
theorem collect_loses (D : Deployment α) {syncSource : String} {ops : List Op} {s s₁ s₂ : System}
    {error : ClientError} {samples : List (String × List PyMimoSignal)}
    (hrun : Machine.run (System.step D.network) (System.create syncSource) ops = s)
    (hfailed : System.collect D.network s = .error error s₁) {later : List Op}
    (hcollect : System.collect D.network (Machine.run (System.step D.network) s₁ later) =
      .ok samples s₂) :
    ∀ usrp ∈ s.usrpClients.entries, Spares usrp.1 error → (usrp.1, []) ∈ samples ∨
      ConfiguredSince usrp.2.address s₁.history
        (Machine.run (System.step D.network) s₁ later).history := by
  intro usrp husrp hspares
  have hall : Machine.run (System.step D.network) s₁ later =
      Machine.run (System.step D.network) (System.create syncSource)
        (ops ++ .collect :: later) := by
    have hstep : System.step D.network s .collect = s₁ := congrArg finalState hfailed
    rw [Machine.run_append, hrun, ← hstep]
    rfl
  have hclients : s₁.usrpClients = s.usrpClients := by
    have hkept : Preserves (fun t => t.usrpClients = s.usrpClients) (System.collect D.network) :=
      preserves_collect fun _ _ _ ht => ht
    exact hkept.of_error rfl hfailed
  have hempty : Emptied usrp.2.address s₁.history :=
    emptied_of_collect_error hfailed hspares husrp
  rcases (chronicled_emptied D.network usrp.2.address s₁.history).run
    (Or.inl ⟨List.suffix_refl _, hempty⟩) later with ⟨-, hempty⟩ | hconf
  · -- the device is still registered under its name
    obtain ⟨e, he, hname, haddress⟩ := mem_labels_run D.network later
      (by rw [hclients]; exact husrp)
    have hstep : InStep D (Machine.run (System.step D.network) s₁ later).history := by
      rw [hall]
      exact (chronicled_inStep D).run (by rintro d ⟨⟩) _
    have hregistered : RegisteredOk (Machine.run (System.step D.network) s₁ later) := by
      rw [hall]
      exact registeredOk_run D.network syncSource _
    rw [← haddress] at hempty
    rw [← hname]
    exact Or.inl (eq_nil_of_collect hstep hregistered hcollect he hempty)
  · exact Or.inr hconf

/-! ### A stream that fails -/

/-- Two servers that have just been started.  The first download from the second one ends
in an overflow. -/
def exampleOverflow : Deployment Wire where
  version := "1.7.0"
  text := fun _ => "Remote error"
  E := fun _ => Usrp.exampleEnvironment
  B := exampleBinding
  servers := fun _ =>
    some ⟨{ Usrp.exampleUsrp with components := Components.exampleStart }, "internal", "internal"⟩
  answers := fun h device =>
    { exampleServerAnswers with
      events := exampleEvents h device
      streaming := streaming_exampleEvents h device
      recv := if device.2 = 5556 ∧ h.length < 32 then
          fun _ => [⟨0, some "ERROR_CODE_OVERFLOW", false⟩]
        else Usrp.exampleGoodAnswers }
  link := fun _ _ _ => .delivers

/-- Both devices play 8 samples, receive as many, and execute. -/
def exampleBoth : List Op :=
  [.newUsrp "192.168.189.131" "usrp1" 5555, .newUsrp "192.168.189.131" "usrp2" 5556] ++
    ["usrp1", "usrp2"].flatMap (fun usrpName =>
      [.configureRfConfig usrpName
          (rfConfigFromBinding (Components.exampleConfig 122880000 122880000)),
        .configureTx usrpName
          ⟨0, ⟨[.line (List.replicate 8 ⟨.finite (1 / 2), .finite 0⟩)]⟩, 1⟩,
        .configureRx usrpName { numSamples := 8 }]) ++
    [.execute]

/-- The system when the samples can be collected. -/
def exampleToCollect : System :=
  Machine.run (System.step exampleOverflow.network) (System.create "auto") exampleBoth

/-- The system after the overflow, and another execution. -/
def exampleAgain : System :=
  Machine.run (System.step exampleOverflow.network)
    (finalState (System.collect exampleOverflow.network exampleToCollect)) [.execute]

/-- The devices that the error names. -/
def blamed : ClientError → Option (List String)
  | .multipleRemoteUsrp errors => some (errors.map RemoteUsrpError.usrpName)
  | _ => none

/-- An error that blames named devices spares all others. -/
theorem spares_of_blamed {error : ClientError} {names : List String} {usrpName : String}
    (hblamed : blamed error = some names) (hname : usrpName ∉ names) : Spares usrpName error := by
  cases error with
  | multipleRemoteUsrp errors =>
      cases hblamed
      refine Or.inl ⟨errors, rfl, ?_⟩
      rintro e he rfl
      exact hname (List.mem_map_of_mem he)
  | _ => cases hblamed

/-- Requests with an RX config. -/
def configuresRx : ClientEvent → Bool
  | .request _ (.configureRx _) _ => true
  | _ => false

/-- The second device receives again, but the samples of the first one are gone. -/
theorem collect_loses_example :
    ∃ samples s₂, System.collect exampleOverflow.network exampleAgain = .ok samples s₂ ∧
      ("usrp1", []) ∈ samples := by
  have hblamed : (thrown (System.collect exampleOverflow.network exampleToCollect)).bind blamed =
      some ["usrp2"] := by decide +kernel
  obtain ⟨error, hthrown, hblamed⟩ := Option.bind_eq_some_iff.mp hblamed
  have hfailed := eq_of_thrown hthrown
  obtain ⟨samples, hcollect⟩ := exists_of_returned (by decide +kernel :
    returned (System.collect exampleOverflow.network exampleAgain) = true)
  obtain ⟨usrp, husrp, hname⟩ : ∃ usrp ∈ exampleToCollect.usrpClients.entries,
      usrp.1 = "usrp1" := List.mem_map.mp (by decide +kernel)
  refine ⟨samples, _, hcollect, ?_⟩
  have hspares : Spares usrp.1 error := spares_of_blamed hblamed (by rw [hname]; decide)
  rw [← hname]
  refine (collect_loses exampleOverflow rfl hfailed hcollect usrp husrp hspares).resolve_right ?_
  · rintro ⟨added, conf, hgrown, hmem⟩
    have hcount := congrArg (List.countP configuresRx) hgrown
    have hsame : List.countP configuresRx exampleAgain.history =
        List.countP configuresRx (finalState (System.collect exampleOverflow.network
          exampleToCollect)).history := by decide +kernel
    have hpos : 0 < added.countP configuresRx := List.countP_pos_iff.mpr ⟨_, hmem, rfl⟩
    rw [List.countP_append] at hcount
    have hagain : List.countP configuresRx exampleAgain.history =
        added.countP configuresRx + List.countP configuresRx
          (finalState (System.collect exampleOverflow.network exampleToCollect)).history := hcount
    omega

end Deployment

end UsrpWrapper
