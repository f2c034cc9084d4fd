import UsrpWrapper.SyncSource
import Mathlib.Algebra.Order.Floor.Ring

/-!
# The FPGA clocks

The FPGA time of a device counts from the pulse at which it was last set to zero.  Which
pulse that is depends on when the device is asked, and on the sync source in force: with
`internal` every device has pulses of its own, with another source they all have the same
ones, one second apart.

A system asks one device after the other, so that they may well take different pulses.
`clocks_agree` says that it finds out: when an execution starts, all devices count from the
same pulse.  The reason is that the times of a check may differ by `syncThresholdSec`, but
not by a whole second, as long as a check takes less than the rest of one.
-/

namespace UsrpWrapper

open Lib Lib.Command Lib.Trace

/-! ## Resets after the sync source -/

/-- The device is to count from its next pulse. -/
def Zeroes (device : Address) : ClientEvent → Prop
  | .request d .setTimeToZeroNextPps true => d = device
  | _ => False

/-- The device accepts a sync source. -/
def SetsSource (device : Address) : ClientEvent → Prop
  | .request d (.setSyncSource _) true => d = device
  | _ => False

/-- The device was reset after it had accepted its sync source. -/
def Zeroed (device : Address) (h : History) : Prop := Since (Zeroes device) (SetsSource device) h

/-- An execution starts when all registered devices have been reset under their source. -/
def DispatchZeroed (e : ClientEvent) (h : History) : Prop :=
  match e with
  | .dispatch _ => ∀ device ∈ registeredDevices h, Zeroed device h
  | _ => True

/-- Events that set no sync source, register no device and start no execution. -/
def ClientEvent.Harmless : ClientEvent → Prop
  | .request _ (.setSyncSource _) _ => False
  | .registered _ _ => False
  | .dispatch _ => False
  | _ => True

/-- A reset is undone by no other event than a change of the source. -/
theorem Zeroed.cons {device : Address} {e : ClientEvent} {h : History}
    (he : ∀ source, e ≠ .request device (.setSyncSource source) true) (hh : Zeroed device h) :
    Zeroed device (e :: h) := by
  refine Or.inr ⟨fun hsets => ?_, hh⟩
  cases e with
  | request d r applied =>
      cases r with
      | setSyncSource source =>
          cases applied with
          | true => exact he source (by rw [show d = device from hsets])
          | false => exact hsets
      | _ => exact hsets
  | _ => exact hsets

/-- A reset that was carried out counts from then on. -/
theorem zeroed_reset (device : Address) (h : History) :
    Zeroed device (.request device .setTimeToZeroNextPps true :: h) :=
  Or.inl rfl

namespace System

/-- Once the sync source is marked as set, all registered devices have been reset under it. -/
structure ZeroInvariant (s : System) : Prop where
  registered : registeredDevices s.history = s.devices
  zeroed : s.syncSourceSet = true → ∀ device ∈ s.devices, Zeroed device s.history
  dispatches : Always DispatchZeroed s.history

section

variable {net : Network} {I : System → Prop}

/-- An event that neither changes a source nor dispatches keeps the invariant. -/
theorem zeroInvariant_harmless {e : ClientEvent} (he : e.Harmless) :
    KeepsEvent ZeroInvariant e := by
  intro s hs
  refine ⟨?_, fun hset device hdevice => (hs.zeroed hset device hdevice).cons ?_, ?_, hs.dispatches⟩
  · rw [registeredDevices_cons _ (by rintro n d rfl; exact he)]
    exact hs.registered
  · rintro source rfl
    exact he
  · cases e with
    | dispatch t => exact absurd he id
    | _ => exact trivial

theorem ZeroInvariant.configure {s : System} {usrpClients : Dict String LabeledUsrp}
    (hs : ZeroInvariant s) (hdevices : usrpClients.values.map LabeledUsrp.address = s.devices) :
    ZeroInvariant { s with usrpClients := usrpClients } := by
  have hsame : devices { s with usrpClients := usrpClients } = s.devices := hdevices
  refine ⟨hs.registered.trans hsame.symm, fun hset device hdevice => ?_, hs.dispatches⟩
  rw [hsame] at hdevice
  exact hs.zeroed hset device hdevice

/-- The clocks of the devices are reset one after the other. -/
theorem resets_triple
    (hI : ∀ device applied, KeepsEvent I (.request device .setTimeToZeroNextPps applied))
    (usrps : List LabeledUsrp) :
    Triple I (forM usrps fun usrp => onHistory (usrp.client.setTimeToZeroNextPps net))
      (fun _ s => I s ∧ ∀ u ∈ usrps, Zeroed u.address s.history) (fun _ => I) := by
  induction usrps generalizing I with
  | nil => exact Triple.pure fun s hs => ⟨hs, fun _ hu => (nomatch hu)⟩
  | cons u usrps ih =>
      rw [List.forM_cons]
      -- the rest of the loop keeps that the first device has been reset
      let J : System → Prop := fun s => I s ∧ Zeroed u.address s.history
      have hJ (d : Address) (a : Bool) : KeepsEvent J (.request d .setTimeToZeroNextPps a) :=
        fun s hs => ⟨hI d a s hs.1, hs.2.cons (by rintro source ⟨⟩)⟩
      refine Triple.bind (Q := fun _ => J)
        ((onRequest_triple (hI u.address)).mono_post ?_) fun _ => ?_
      · rintro _ _ ⟨s, -, hs, rfl⟩
        exact ⟨hs, zeroed_reset u.address s.history⟩
      · refine (ih hJ).conseq (fun _ hs => hs) (fun _ s hs => ?_) fun _ _ hs => hs.1
        exact ⟨hs.1.1, List.forall_mem_cons.mpr ⟨hs.1.2, hs.2⟩⟩

/-- After `updateSyncSources` the sources are set. -/
theorem zeroInvariant_updateSyncSources :
    Triple ZeroInvariant (updateSyncSources net)
      (fun _ s => ZeroInvariant s ∧ s.syncSourceSet = true) (fun _ => ZeroInvariant) := by
  refine Triple.bind Triple.get fun s₁ => Triple.ite (fun hset => Triple.pure ?_) fun hset => ?_
  · rintro s ⟨rfl, hs⟩
    exact ⟨hs, hset⟩
  refine Triple.bind (Triple.reads fun s e hs => hs.2) fun source => ?_
  -- while the flag is not set, nothing is claimed of the devices
  let F : System → Prop := fun s =>
    ZeroInvariant s ∧ s.syncSourceSet = false ∧ s.usrpClients = s₁.usrpClients
  have hF {e : ClientEvent} (he : ∀ n d, e ≠ .registered n d) (he' : ∀ t, e ≠ .dispatch t) :
      KeepsEvent F e := by
    rintro s ⟨hs, hunset, hclients⟩
    refine ⟨⟨?_, fun hset' => ?_, ?_, hs.dispatches⟩, hunset, hclients⟩
    · rw [registeredDevices_cons _ he]
      exact hs.registered
    · rw [show s.syncSourceSet = true from hset'] at hunset
      cases hunset
    · cases e with
      | dispatch t => exact absurd rfl (he' t)
      | _ => exact trivial
  refine Triple.mono_pre (P := F) ?_ ?_
  swap
  · rintro s ⟨-, rfl, hs⟩
    exact ⟨hs, Bool.eq_false_of_not_eq_true hset, rfl⟩
  have hsources : Preserves F
      (forM s₁.usrpClients.values fun usrp => onHistory (usrp.client.setSyncSource net source)) :=
    Preserves.forM fun usrp _ => preserves_onRequest fun a =>
      hF (by rintro _ _ ⟨⟩) (by rintro _ ⟨⟩)
  refine Triple.bind ((Triple.of_preserves hsources).mono_error fun _ _ hs => hs.1) fun _ => ?_
  refine Triple.bind (Q := fun _ s => F s ∧ ∀ u ∈ s₁.usrpClients.values, Zeroed u.address s.history)
    ?_ fun _ => Triple.modify ?_
  · refine Triple.bind Triple.get fun s₂ => ?_
    rintro s ⟨rfl, hs⟩
    rw [← hs.2.2]
    have hresets := @resets_triple net F
      (fun _ _ => hF (by rintro _ _ ⟨⟩) (by rintro _ ⟨⟩)) s₂.usrpClients.values
    exact (hresets.mono_error fun _ _ hs => hs.1) s₂ hs
  · rintro s ⟨⟨hs, -, hclients⟩, hzeroed⟩
    refine ⟨⟨hs.registered, fun _ device hdevice => ?_, hs.dispatches⟩, rfl⟩
    obtain ⟨u, hu, rfl⟩ := List.mem_map.mp hdevice
    exact hzeroed u (by rwa [← hclients])

/-- A registration resets the mark. -/
theorem zeroInvariant_addUsrp (usrpName : String) (client : UsrpClient) :
    Preserves ZeroInvariant (addUsrp net usrpName client) := by
  refine preserves_labelRemoteError fun s hs => ?_
  let F : System → Prop := fun s =>
    assertUniqueUsrp client.ip client.port usrpName s = .ok () ∧ ZeroInvariant s
  have hF {e : ClientEvent} (he : e.Harmless) : KeepsEvent F e :=
    fun t ht => ⟨ht.1, zeroInvariant_harmless he t ht.2⟩
  refine Triple.finalState (P := ZeroInvariant) (S := ZeroInvariant) ?_ hs
  refine Triple.bind (Q := fun _ => ZeroInvariant)
    (Triple.modify fun t ht => ⟨ht.registered, ht.zeroed, ht.dispatches⟩) fun _ => ?_
  refine Triple.bind (Triple.reads fun t e ht => ht) fun _ => ?_
  refine Triple.mono_pre (P := F) ?_ fun t ht => ht
  have hrequest (r : Request) (hr : ∀ a, (ClientEvent.request client.address r a).Harmless) :
      Triple F (onHistory (request net client.address r)) (fun _ => F) (fun _ => ZeroInvariant) :=
    (Triple.of_preserves (preserves_onRequest fun a => hF (hr a))).mono_error fun _ _ ht => ht.2
  refine (hrequest .getVersion fun _ => trivial).bind fun _ => ?_
  refine (hrequest .resetStreamingConfigs fun _ => trivial).bind fun _ => ?_
  refine Triple.bind (Q := fun _ => ZeroInvariant) (Triple.modify ?_) fun _ =>
    Triple.pure fun _ ht => ht
  rintro t ⟨hunique, ht⟩
  refine ⟨?_, fun hset => (nomatch hset), trivial, ht.dispatches⟩
  rw [devices_register (check_bind_eq_ok_iff.mp hunique).1, ← ht.registered]
  exact registeredDevices_registered usrpName client.address t.history

/-- After `synchronizeUsrps` the sources are set, and all times have been reset under them. -/
theorem zeroInvariant_synchronizeUsrps :
    Triple ZeroInvariant (synchronizeUsrps net)
      (fun _ s => ZeroInvariant s ∧ s.syncSourceSet = true) (fun _ => ZeroInvariant) := by
  have hkeeps {e : ClientEvent} (he : e.Harmless) :
      KeepsEvent (fun s => ZeroInvariant s ∧ s.syncSourceSet = true) e :=
    fun s hs => ⟨zeroInvariant_harmless he s hs.1, hs.2⟩
  refine zeroInvariant_updateSyncSources.bind fun _ => ?_
  refine (Triple.of_preserves (preserves_synchronizeClocks ?_ ?_ ?_ ?_)).mono_error
    fun _ _ hs => hs.1
  · exact fun _ _ => hkeeps trivial
  · exact fun _ _ => hkeeps trivial
  · exact fun _ _ => hkeeps trivial
  · exact fun s hs => ⟨⟨hs.1.registered, hs.1.zeroed, hs.1.dispatches⟩, hs.2⟩

/-- When `execute` gets to the dispatch, all times have been reset since the last change of a
source. -/
theorem zeroInvariant_prepareExecute :
    Triple ZeroInvariant (prepareExecute net)
      (fun _ s => ZeroInvariant s ∧ s.syncSourceSet = true) (fun _ => ZeroInvariant) := by
  have hbase : Preserves (fun s => ZeroInvariant s ∧ s.syncSourceSet = true)
      (calculateBaseTimeSec net) := by
    refine preserves_calculateBaseTimeSec fun _ _ s hs => ⟨?_, hs.2⟩
    exact zeroInvariant_harmless (by trivial) s hs.1
  exact zeroInvariant_synchronizeUsrps.bind fun _ =>
    (Triple.of_preserves hbase).mono_error fun _ _ hs => hs.1

/-- `execute` keeps the invariant, wherever it stops. -/
theorem zeroInvariant_execute : Preserves ZeroInvariant (execute net) := by
  have hkeeps {e : ClientEvent} (he : e.Harmless) : KeepsEvent ZeroInvariant e :=
    zeroInvariant_harmless he
  refine fun s hs => Triple.finalState (P := ZeroInvariant) (S := ZeroInvariant) ?_ hs
  refine zeroInvariant_prepareExecute.bind fun t => ?_
  refine Triple.bind (Q := fun _ => ZeroInvariant) (fun s hs => ?_) fun _ => ?_
  · -- the calls of the devices start
    obtain ⟨hinv, hset⟩ := hs
    refine ⟨hinv.registered, fun hset device hdevice => ?_, ?_, hinv.dispatches⟩
    · exact (hinv.zeroed hset device hdevice).cons (by rintro source ⟨⟩)
    · intro device hdevice
      rw [hinv.registered] at hdevice
      exact hinv.zeroed hset device hdevice
  · refine Triple.of_preserves (Preserves.bind (preserves_catchRemoteUsrpErrors fun n => ?_)
      fun _ => Preserves.pure _)
    exact preserves_callExecuteAtUsrp (fun _ => hkeeps trivial) fun _ _ => hkeeps trivial

theorem zeroInvariant_configureRfConfig (usrpName : String) (conf : PyRfConfig) :
    Preserves ZeroInvariant (configureRfConfig net usrpName conf) := by
  intro s hs
  rcases configureRfConfig_cases net usrpName conf s with hsame | ⟨u, applied, hfound, hfinal⟩
  · rwa [hsame]
  · rw [hfinal]
    have hdevices : (Dict.set usrpName ⟨u.name, { u.client with rfConfiguredOnce := true }⟩
        s.usrpClients).values.map LabeledUsrp.address = s.devices := Dict.map_values_set hfound rfl
    have hevent : (ClientEvent.request u.address (.configureRfConfig conf) applied).Harmless :=
      trivial
    exact (zeroInvariant_harmless hevent s hs).configure hdevices

/-- Every call keeps the invariant. -/
theorem zeroInvariant_step (op : Op) (s : System) (hs : ZeroInvariant s) :
    ZeroInvariant (step net s op) := by
  have hkeeps {e : ClientEvent} (he : e.Harmless) : KeepsEvent ZeroInvariant e :=
    zeroInvariant_harmless he
  cases op with
  | newUsrp ip usrpName port =>
      have hcreate : Preserves ZeroInvariant (newUsrp net ip usrpName port) :=
        (preserves_labelRemoteError (preserves_create (fun _ => hkeeps trivial)
          fun _ => hkeeps trivial)).bind fun client => zeroInvariant_addUsrp usrpName client
      exact hcreate s hs
  | addUsrp usrpName client => exact zeroInvariant_addUsrp usrpName client s hs
  | resetFpgaTimes => exact preserves_setTimeToZeroNextPps (fun _ _ => hkeeps trivial) s hs
  | getCurrentFpgaTimes => exact preserves_getCurrentFpgaTimes (fun _ _ => hkeeps trivial) s hs
  | synchronisationValid =>
      exact preserves_synchronisationValid (fun _ _ => hkeeps trivial)
        (fun _ _ => hkeeps trivial) s hs
  | synchronizeUsrps =>
      exact (zeroInvariant_synchronizeUsrps.mono_post fun _ _ hs => hs.1).finalState hs
  | configureTx usrpName conf =>
      exact preserves_configureTx (fun _ _ _ => hkeeps trivial) s hs
  | configureRx usrpName conf => exact preserves_configureRx (fun _ _ => hkeeps trivial) s hs
  | configureRfConfig usrpName conf => exact zeroInvariant_configureRfConfig usrpName conf s hs
  | execute => exact zeroInvariant_execute s hs
  | collect => exact preserves_collect (fun _ _ => hkeeps trivial) s hs
  | timerExpires => exact ⟨hs.registered, hs.zeroed, hs.dispatches⟩

/-- It holds after every run. -/
theorem zeroInvariant_run (net : Network) (syncSource : String) (ops : List Op) :
    ZeroInvariant (Machine.run (step net) (create syncSource) ops) :=
  Machine.run_invariant (Q := fun _ _ => True) ZeroInvariant
    (fun s op hs _ => zeroInvariant_step op s hs) ⟨rfl, fun hset => (nomatch hset), trivial⟩
    (Machine.AllSteps.of_forall fun _ _ => trivial)

/-- **An execution finds all devices reset** under the sync source they have accepted. -/
theorem dispatchZeroed_run (net : Network) (syncSource : String) (ops : List Op) :
    Always DispatchZeroed (Machine.run (step net) (create syncSource) ops).history :=
  (zeroInvariant_run net syncSource ops).dispatches

end

end System

/-! ## The clocks -/

/-- The moment at which a device handles the request that follows a history, one of the
pulses of the device under a sync source, and the moment from which it counts when it has
not been reset.  Only with `internal` do devices have pulses of their own. -/
structure FpgaClocks where
  moment : History → Address → ℚ
  pulse : String → Address → ℚ
  boot : Address → ℚ
  shared : ∀ source, source ≠ "internal" → ∀ d d', pulse source d = pulse source d'

/-- The first of the pulses, which come every second, that comes after the moment. -/
def nextPulse (pulse moment : ℚ) : ℚ := pulse + (⌊moment - pulse⌋ + 1)

/-- The moments of the last `n` requests. -/
def FpgaClocks.lastMoments (C : FpgaClocks) : ℕ → History → List ℚ
  | 0, _ => []
  | _ + 1, [] => []
  | n + 1, .request device _ _ :: h => C.moment h device :: C.lastMoments n h
  | n + 1, _ :: h => C.lastMoments (n + 1) h

/-- The devices of a check that succeeds are read within the rest of a second. -/
def QuickCheck (C : FpgaClocks) (e : ClientEvent) (h : History) : Prop :=
  match e with
  | .checked devices true => ∀ t ∈ C.lastMoments devices.length h,
      ∀ t' ∈ C.lastMoments devices.length h, t - t' < 1 - System.syncThresholdSec
  | _ => True

instance (C : FpgaClocks) (e : ClientEvent) (h : History) : Decidable (QuickCheck C e h) := by
  unfold QuickCheck
  split <;> infer_instance

/-- Times that pass a check are close to each other. -/
theorem sub_lt_of_timesValid {times : List ℚ} (hvalid : System.timesValid times = .ok true) :
    ∀ t ∈ times, ∀ t' ∈ times, t - t' < System.syncThresholdSec := by
  unfold System.timesValid System.npMax System.npMin at hvalid
  cases hmax : times.max? with
  | none =>
      rw [hmax] at hvalid
      cases hvalid
  | some latest =>
      cases hmin : times.min? with
      | none =>
          rw [hmax, hmin] at hvalid
          cases hvalid
      | some earliest =>
          rw [hmax, hmin] at hvalid
          have hspan : latest - earliest < System.syncThresholdSec := by
            have hdecide := Except.ok.inj hvalid
            exact of_decide_eq_true hdecide
          intro t ht t' ht'
          have hle : t ≤ latest := (List.max?_eq_some_iff.mp hmax).2 t ht
          have hge : earliest ≤ t' := (List.min?_eq_some_iff.mp hmin).2 t' ht'
          linarith

/-- A list of one element at most has no two different ones. -/
theorem eq_of_length_le_one {β : Type} {l : List β} (hl : l.length ≤ 1) {x y : β} (hx : x ∈ l)
    (hy : y ∈ l) : x = y := by
  match l, hl with
  | [], _ => cases hx
  | [z], _ => rw [List.mem_singleton.mp hx, List.mem_singleton.mp hy]

/-- Whole seconds that are less than one apart. -/
theorem eq_of_pulses {a : ℚ} {k k' : ℤ} (hlt : a + k - (a + k') < 1) (hgt : a + k' - (a + k) < 1) :
    a + (k : ℚ) = a + k' := by
  have hk : k < k' + 1 := by
    have : (k : ℚ) < (k' + 1 : ℤ) := by push_cast; linarith
    exact_mod_cast this
  have hk' : k' < k + 1 := by
    have : (k' : ℚ) < (k + 1 : ℤ) := by push_cast; linarith
    exact_mod_cast this
  rw [show k = k' by omega]

namespace Deployment

variable {α : Type} {D : Deployment α} {C : FpgaClocks} {device : Address} {h h₀ : History}

/-- The sync source in force at the device. -/
def sourceAt (D : Deployment α) (h : History) (device : Address) : String :=
  match D.serverAt h device with
  | some s => s.syncSource
  | none => "internal"

/-- The moment from which the device counts. -/
def zeroAt (D : Deployment α) (C : FpgaClocks) : History → Address → ℚ
  | [], device => C.boot device
  | .request d .setTimeToZeroNextPps true :: h, device =>
      if d = device then nextPulse (C.pulse (D.sourceAt h device) device) (C.moment h device)
      else zeroAt D C h device
  | _ :: h, device => zeroAt D C h device

/-- The clocks of the devices show the time since they count. -/
def Shows (D : Deployment α) (C : FpgaClocks) : Prop :=
  ∀ h device, (D.answers h device).fpgaTime = C.moment h device - D.zeroAt C h device

/-- When an execution starts, the registered devices count from the same moment. -/
def ClocksAgree (D : Deployment α) (C : FpgaClocks) (e : ClientEvent) (h : History) : Prop :=
  match e with
  | .dispatch _ => ∀ d ∈ registeredDevices h, ∀ d' ∈ registeredDevices h,
      D.zeroAt C h d = D.zeroAt C h d'
  | _ => True

/-- Only a reset and a change of the source move the zero of a clock. -/
theorem zeroAt_cons {e : ClientEvent} (he : ¬ Zeroes device e) :
    D.zeroAt C (e :: h) device = D.zeroAt C h device := by
  cases e with
  | request d r applied =>
      cases r with
      | setTimeToZeroNextPps =>
          cases applied with
          | true => exact if_neg he
          | false => rfl
      | _ => rfl
  | _ => rfl

/-- A device that has been reset under its source counts from a pulse of this source. -/
theorem zeroAt_of_zeroed {source : String} (hzeroed : Zeroed device h)
    (haccepted : acceptedSyncSource device h = some source)
    (hsource : ∀ h₀, h₀ <:+ h → acceptedSyncSource device h₀ = some source →
      D.sourceAt h₀ device = source) :
    ∃ k : ℤ, D.zeroAt C h device = C.pulse source device + k := by
  induction h with
  | nil => exact absurd hzeroed id
  | cons e h ih =>
      by_cases he : Zeroes device e
      · cases e with
        | request d r applied =>
            cases r with
            | setTimeToZeroNextPps =>
                cases applied with
                | true =>
                    obtain rfl : d = device := he
                    refine ⟨⌊C.moment h d - C.pulse source d⌋ + 1, ?_⟩
                    rw [zeroAt, if_pos rfl, hsource h (List.suffix_cons _ _) haccepted, nextPulse]
                    push_cast
                    ring
                | false => exact absurd he id
            | _ => exact absurd he id
        | _ => exact absurd he id
      · rw [zeroAt_cons he]
        obtain ⟨hkept, htail⟩ := hzeroed.resolve_left he
        refine ih htail ?_ fun h₀ hsuffix => hsource h₀ (hsuffix.trans (List.suffix_cons _ _))
        cases e with
        | request d r applied =>
            cases r with
            | setSyncSource source' =>
                cases applied with
                | true =>
                    have hd : d ≠ device := hkept
                    rwa [acceptedSyncSource_other hd] at haccepted
                | false => exact haccepted
            | _ => exact haccepted
        | _ => exact haccepted

/-- What a device answers when it is asked for its time. -/
theorem eq_of_getCurrentFpgaTime {t : ℚ}
    (hreply : D.network h device .getCurrentFpgaTime = .returns t) :
    t = (D.answers h device).fpgaTime := by
  cases hserver : D.serverAt h device with
  | none =>
      rw [network, hserver] at hreply
      cases hreply
  | some s =>
      rw [network_of_server _ hserver] at hreply
      have hcases := handled D h device .getCurrentFpgaTime s
      generalize D.handle h device .getCurrentFpgaTime s = p at hcases hreply
      cases hcases with
      | dropped => cases hreply
      | answered ended =>
          rw [answer_of_serve device _ (by rintro ⟨⟩)] at hreply
          cases hreply
          rfl
      | unheard ended => cases hreply

/-! ### Readings -/

theorem lastMoments_subset (C : FpgaClocks) (n : ℕ) (h : History) :
    C.lastMoments n h ⊆ C.lastMoments (n + 1) h := by
  induction h generalizing n with
  | nil => cases n <;> exact List.Subset.refl _
  | cons e h ih =>
      cases n with
      | zero => exact List.nil_subset _
      | succ n =>
          cases e with
          | request d r a => exact List.cons_subset_cons _ (ih n)
          | _ => exact ih (n + 1)

/-- Later readings count as well. -/
theorem mem_lastMoments_of_readings {net : Network} {devices : List Address} {times : List ℚ}
    (hreadings : Readings net h₀ devices times h) {k : ℕ} {t : ℚ} (ht : t ∈ C.lastMoments k h₀) :
    t ∈ C.lastMoments (devices.length + k) h := by
  induction hreadings generalizing k with
  | nil => rwa [List.length_nil, Nat.zero_add]
  | cons hreply hrest ih =>
      rw [List.length_cons, Nat.succ_add_eq_add_succ]
      exact ih (List.mem_cons_of_mem _ ht)

/-- Reading the times does not move a zero. -/
theorem zeroAt_of_readings {net : Network} {devices : List Address} {times : List ℚ}
    (hreadings : Readings net h₀ devices times h) : D.zeroAt C h device = D.zeroAt C h₀ device := by
  induction hreadings with
  | nil => rfl
  | cons hreply hrest ih => exact ih.trans (zeroAt_cons id)

/-- Every reading shows the time since the device counts. -/
theorem exists_of_readings (hshows : D.Shows C) {devices : List Address} {times : List ℚ}
    (hreadings : Readings D.network h₀ devices times h) (hdevice : device ∈ devices) :
    ∃ t ∈ C.lastMoments devices.length h, t - D.zeroAt C h device ∈ times := by
  induction hreadings with
  | nil => cases hdevice
  | @cons h₁ h₂ d devices time times hreply hrest ih =>
      rcases List.mem_cons.mp hdevice with rfl | htail
      · refine ⟨C.moment h₁ device, ?_, ?_⟩
        · exact mem_lastMoments_of_readings hrest (k := 1) List.mem_cons_self
        · have hsame : D.zeroAt C (.request device .getCurrentFpgaTime true :: h₁) device =
              D.zeroAt C h₁ device := zeroAt_cons id
          rw [zeroAt_of_readings hrest, hsame, ← hshows h₁ device,
            ← eq_of_getCurrentFpgaTime hreply]
          exact List.mem_cons_self
      · obtain ⟨t, ht, htime⟩ := ih htail
        exact ⟨t, lastMoments_subset C _ _ ht, List.mem_cons_of_mem _ htime⟩

/-- **A check that succeeds**: the devices count from moments less than a second apart. -/
theorem zeroAt_sub_lt (hshows : D.Shows C) {devices : List Address}
    (hchecked : CheckedBy D.network devices true h)
    (hquick : QuickCheck C (.checked devices true) h) {d d' : Address} (hd : d ∈ devices)
    (hd' : d' ∈ devices) : D.zeroAt C h d - D.zeroAt C h d' < 1 := by
  obtain ⟨h₀, times, hreadings, hvalid⟩ := hchecked
  obtain ⟨t, ht, htime⟩ := exists_of_readings hshows hreadings hd
  obtain ⟨t', ht', htime'⟩ := exists_of_readings hshows hreadings hd'
  have hclose := sub_lt_of_timesValid hvalid _ htime' _ htime
  have hspan := hquick t ht t' ht'
  linarith

/-! ### Agreement -/

/-- A check is recorded with what it has found. -/
def ReadBefore (net : Network) (e : ClientEvent) (h : History) : Prop :=
  match e with
  | .checked devices valid => CheckedBy net devices valid h
  | _ => True

/-- Every check of the times is preceded by the readings it is about. -/
theorem chronicled_readBefore (net : Network) :
    Chronicled net (fun _ => True) (Always (ReadBefore net)) := by
  constructor
  · exact fun h device r _ hh => ⟨trivial, hh⟩
  · exact fun h devices valid hchecked hh => ⟨hchecked, hh⟩
  · intro h e _ hchecked hh
    refine ⟨?_, hh⟩
    cases e with
    | checked devices valid => exact absurd rfl (hchecked devices valid)
    | _ => exact trivial

/-- Events that call for no other check leave the clocks as they are. -/
theorem zeroAt_append {new : History} (hnew : ∀ e ∈ new, ¬ Unsynchronises e) :
    D.zeroAt C (new ++ h) device = D.zeroAt C h device := by
  induction new with
  | nil => rfl
  | cons e new ih =>
      obtain ⟨he, htail⟩ := List.forall_mem_cons.mp hnew
      refine (zeroAt_cons fun hzeroes => he ?_).trans (ih htail)
      cases e with
      | request d r applied => cases r <;> first | exact trivial | exact hzeroes
      | registered n d => exact trivial
      | _ => exact hzeroes

/-- The source in force is the one the device has accepted, unless this is `internal`. -/
theorem sourceAt_of_accepted {request source : String} (htracked : TrackedAt D request h device)
    (haccepted : acceptedSyncSource device h = some source) (hsource : source ≠ "internal") :
    D.sourceAt h device = source := by
  unfold TrackedAt at htracked
  unfold sourceAt
  cases hserver : D.serverAt h device with
  | none =>
      rw [hserver, haccepted] at htracked
      cases htracked
  | some s =>
      rw [hserver, haccepted] at htracked
      cases Tracked.known htracked with
      | remembered _ hknown => exact hknown source rfl
      | unnoticed _ _ _ hknown => exact absurd (hknown source rfl) hsource

/-- When an execution starts, any two devices count from the same moment. -/
theorem zeroAt_eq_of_dispatch {request : String}
    (hstart : ∀ device, ∀ s ∈ D.servers device, StartsKnown D device s) (hshows : D.Shows C)
    {ops : List System.Op}
    (hops : Machine.AllSteps (System.step D.network) System.ResetsUnsynced
      (System.create request) ops)
    (hquick : Always (QuickCheck C)
      (Machine.run (System.step D.network) (System.create request) ops).history) {t : ℚ}
    (hsuffix : .dispatch t :: h <:+
      (Machine.run (System.step D.network) (System.create request) ops).history) {d d' : Address}
    (hd : d ∈ registeredDevices h) (hd' : d' ∈ registeredDevices h) :
    D.zeroAt C h d = D.zeroAt C h d' := by
  by_cases hsingle : (registeredDevices h).length ≤ 1
  · rw [eq_of_length_le_one hsingle hd hd']
  -- several devices: they have all been reset under the same source, not `internal`
  obtain ⟨his, haccepted⟩ :=
    always_iff.mp (System.sourceDue_run D.network request ops) _ _ hsuffix
  have hzeroed := always_iff.mp (System.dispatchZeroed_run D.network request ops) _ _ hsuffix
  generalize dueSource request (registeredDevices h).length = source at his haccepted
  have hsource : source ≠ "internal" := fun heq => hsingle (his.internal heq)
  have hpulse {device : Address} (hdevice : device ∈ registeredDevices h) :
      ∃ k : ℤ, D.zeroAt C h device = C.pulse source device + k := by
    refine zeroAt_of_zeroed (hzeroed device hdevice) (haccepted device hdevice) ?_
    intro h₀ hsuffix₀ haccepted₀
    have hbefore := (hsuffix₀.trans (List.suffix_cons _ _)).trans hsuffix
    exact sourceAt_of_accepted ((inForceInvariant_run D request hstart ops hbefore).tracked _)
      haccepted₀ hsource
  -- the last check has found them less than a second apart
  obtain ⟨new, e, h₀, hsplit, hgood, hnew⟩ :=
    (always_iff.mp (System.clockInvariant_run D.network request hops).dispatches _ _ hsuffix).exists
  cases e with
  | checked devices valid =>
      obtain ⟨hdevices, rfl⟩ := hgood
      have hsuffix₀ : .checked devices true :: h₀ <:+
          (Machine.run (System.step D.network) (System.create request) ops).history := by
        refine List.IsSuffix.trans ?_ ((List.suffix_cons _ _).trans hsuffix)
        rw [hsplit]
        exact List.suffix_append _ _
      have hchecks := (chronicled_readBefore D.network).run
        (show Always (ReadBefore D.network) (System.create request).history from trivial) ops
      have hclose {a b : Address} (ha : a ∈ registeredDevices h)
          (hb : b ∈ registeredDevices h) : D.zeroAt C h a - D.zeroAt C h b < 1 := by
        rw [← hdevices] at ha hb
        have hlt := zeroAt_sub_lt hshows (always_iff.mp hchecks _ _ hsuffix₀)
          (always_iff.mp hquick _ _ hsuffix₀) ha hb
        rwa [hsplit, zeroAt_append hnew, zeroAt_append hnew, zeroAt_cons id, zeroAt_cons id]
      have hlt := hclose hd hd'
      have hgt := hclose hd' hd
      obtain ⟨k, hk⟩ := hpulse hd
      obtain ⟨k', hk'⟩ := hpulse hd'
      rw [hk, hk', C.shared source hsource d' d] at hlt hgt
      rw [hk, hk', C.shared source hsource d' d]
      exact eq_of_pulses hlt hgt
  | _ => exact absurd hgood id

/-- **The clocks agree.**  In every run of a system in which `resetFpgaTimes` is called only
while the synchronisation flag is not set, on devices as in `source_in_force`, whichever
requests and replies are lost: if the clocks are right and a check that succeeds has read the
times within the rest of a second, then an execution starts only when all registered devices
count from the same moment. -/
theorem clocks_agree (D : Deployment α) (C : FpgaClocks) (request : String)
    (hstart : ∀ device, ∀ s ∈ D.servers device, StartsKnown D device s) (hshows : D.Shows C)
    {ops : List System.Op}
    (hops : Machine.AllSteps (System.step D.network) System.ResetsUnsynced
      (System.create request) ops)
    (hquick : Always (QuickCheck C)
      (Machine.run (System.step D.network) (System.create request) ops).history) :
    Always (ClocksAgree D C)
      (Machine.run (System.step D.network) (System.create request) ops).history := by
  rw [always_iff]
  intro e h hsuffix
  cases e with
  | dispatch t =>
      intro d hd d' hd'
      exact zeroAt_eq_of_dispatch hstart hshows hops hquick hsuffix hd hd'
  | _ => exact trivial

/-! ### Two devices with clocks -/

/-- A request takes a thirteenth of a second. -/
def exampleClocks : FpgaClocks where
  moment := fun h _ => h.length / 13
  pulse := fun _ _ => 0
  boot := fun device => if device.1 = "192.168.189.131" then 0 else 1 / 3
  shared := fun _ _ _ _ => rfl

/-- The pulses are the same for all sources. -/
def exampleZero : History → Address → ℚ
  | [], device => exampleClocks.boot device
  | .request d .setTimeToZeroNextPps true :: h, device =>
      if d = device then nextPulse 0 (exampleClocks.moment h device) else exampleZero h device
  | _ :: h, device => exampleZero h device

/-- Servers at one port that tell the time of these clocks, without losses. -/
def exampleClocked : Deployment Wire :=
  { exampleDeployment with
    servers := fun device => if device.2 = 5555 then some exampleServer else none
    answers := fun h device => { exampleServerAnswers with
      fpgaTime := exampleClocks.moment h device - exampleZero h device }
    link := fun _ _ _ => .delivers }

/-- The servers of the example show the times of the clocks. -/
theorem shows_exampleClocked : exampleClocked.Shows exampleClocks := by
  have hzero (h : History) (device : Address) :
      exampleClocked.zeroAt exampleClocks h device = exampleZero h device := by
    induction h with
    | nil => rfl
    | cons e h ih =>
        cases e with
        | request d r applied =>
            cases r with
            | setTimeToZeroNextPps =>
                cases applied with
                | true =>
                    rw [zeroAt, exampleZero, ih]
                    rfl
                | false => exact ih
            | _ => exact ih
        | _ => exact ih
  intro h device
  rw [hzero]
  rfl

/-- The first reset takes two pulses, which the check finds out. -/
theorem clocks_agree_example :
    Always (ClocksAgree exampleClocked exampleClocks)
      (Machine.run (System.step exampleClocked.network) (System.create "auto")
        [.newUsrp "192.168.189.131" "usrp1" 5555, .newUsrp "192.168.189.132" "usrp2" 5555,
          .execute]).history :=
  clocks_agree exampleClocked exampleClocks "auto"
    (fun _ _ hs => startsKnown_example hs) shows_exampleClocked
    ⟨fun h => (nomatch h), fun h => (nomatch h), fun h => (nomatch h), trivial⟩
    (by decide +kernel)

end Deployment

end UsrpWrapper
