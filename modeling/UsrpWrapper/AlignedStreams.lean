import UsrpWrapper.Delivery
import UsrpWrapper.FpgaClocks
import UsrpWrapper.StreamCommands

/-!
# The streams of all devices

A stream command carries a time of the clock of its device, and every device has a clock of
its own.  What the user of a system asks for is something else: that the streams of all
devices start together, apart from the offsets in their configs.

`streams_aligned` composes three results.  The samples that wait on a device were started
for the configs that the user has sent to it (`Delivery`); the threads issue the commands of
these configs, at the start time plus their offsets (`StreamCommands`); and all clocks count
from the same pulse (`FpgaClocks`).  So there is one moment for all devices, from which the
offsets of all their streams count.
-/

namespace UsrpWrapper

open Lib Lib.Command Lib.Trace

namespace System

/-- A call that only asks the devices for their times, or nothing at all. -/
def Op.asks : Op → Bool
  | .getCurrentFpgaTimes => true
  | .synchronisationValid => true
  | .timerExpires => true
  | _ => false

theorem Op.idle_of_asks {op : Op} (hop : op.asks = true) : op.idle = true := by
  cases op with
  | getCurrentFpgaTimes | synchronisationValid | timerExpires => rfl
  | _ => cases hop

/-- Such a call keeps what readings and checks keep. -/
theorem keeps_asks {net : Network} {J : History → Prop}
    (hread : ∀ device applied h, J h → J (.request device .getCurrentFpgaTime applied :: h))
    (hcheck : ∀ devices valid h, J h → J (.checked devices valid :: h)) {s : System} {op : Op}
    (hop : op.asks = true) (hs : J s.history) : J (step net s op).history := by
  have hreads (device : Address) (applied : Bool) :
      KeepsEvent (fun t => J t.history) (.request device .getCurrentFpgaTime applied) :=
    fun t ht => hread device applied t.history ht
  cases op with
  | getCurrentFpgaTimes => exact preserves_getCurrentFpgaTimes hreads s hs
  | synchronisationValid =>
      exact preserves_synchronisationValid hreads
        (fun devices valid t ht => hcheck devices valid t.history ht) s hs
  | timerExpires => exact hs
  | _ => cases hop

end System

namespace Deployment

open UsrpWrapper.System

variable {α : Type} {D : Deployment α} {C : FpgaClocks} {device : Address} {h h₀ : History}
  {s s' : System} {t : ℚ}

/-! ## The start time -/

/-- Times that are read are not negative, if none is. -/
theorem nonneg_of_readings (hnonneg : ∀ h device, 0 ≤ (D.answers h device).fpgaTime)
    {devices : List Address} {times : List ℚ}
    (hreadings : Readings D.network h₀ devices times h) : ∀ t ∈ times, 0 ≤ t := by
  induction hreadings with
  | nil => exact fun _ ht => nomatch ht
  | @cons h₁ h₂ d devices time times hreply hrest ih =>
      refine List.forall_mem_cons.mpr ⟨?_, ih⟩
      rw [eq_of_getCurrentFpgaTime hreply]
      exact hnonneg h₁ d

/-- The devices start their streams at the base time: they do not take it for unset. -/
theorem startTime_of_prepareExecute (hnonneg : ∀ h device, 0 ≤ (D.answers h device).fpgaTime)
    (hready : prepareExecute D.network s = .ok t s') (a : Usrp.ExecuteAnswers) :
    Usrp.startTime a t = t := by
  obtain ⟨_, s₁, -, hbase⟩ := bind_eq_ok_iff.mp hready
  obtain ⟨times, s₂, hread, hmax⟩ := bind_eq_ok_iff.mp hbase
  obtain ⟨latest, s₃, hlatest, hpure⟩ := bind_eq_ok_iff.mp hmax
  cases hpure
  obtain ⟨hlatest, -⟩ := liftE_eq_ok_iff.mp hlatest
  have hmem : latest ∈ times := by
    unfold npMax at hlatest
    cases hmaximum : times.max? with
    | none =>
        rw [hmaximum] at hlatest
        cases hlatest
    | some latest' =>
        rw [hmaximum] at hlatest
        cases hlatest
        exact (List.max?_eq_some_iff.mp hmaximum).1
  have hle := nonneg_of_readings hnonneg (readings_of_getCurrentFpgaTimes hread) latest hmem
  have hpositive : 0 ≤ latest + baseTimeOffsetSec := by
    unfold baseTimeOffsetSec
    linarith
  exact if_neg (not_lt.mpr hpositive)

/-! ## From the execution on -/

theorem ExecutesWith.eq {t' : ℚ} (hexecutes : ExecutesWith t device h)
    (hexecuted : executedAt device h = some h₀)
    (hsuffix : .request device (.execute t') true :: h₀ <:+ h) : t' = t := by
  obtain ⟨h₁, hexecuted', hsuffix'⟩ := hexecutes
  rw [hexecuted] at hexecuted'
  cases hexecuted'
  have hsame := (List.suffix_of_suffix_length_le hsuffix hsuffix' le_rfl).eq_of_length rfl
  obtain ⟨-, hrequest, -⟩ := ClientEvent.request.inj (List.cons.inj hsame).1
  exact Request.execute.inj hrequest

/-- Idle requests leave an execution to wait. -/
theorem chronicled_executesWith (net : Network) (t : ℚ) (device : Address) :
    Chronicled net (fun r => r.idle = true) (ExecutesWith t device) := by
  refine .of_events (fun h d r hr hexecutes => ?_) fun h e he hexecutes =>
    hexecutes.other (he device)
  obtain ⟨h₀, hexecuted, hsuffix⟩ := hexecutes
  refine ⟨h₀, ?_, hsuffix.trans (List.suffix_cons _ _)⟩
  rwa [executedAt, if_pos (Or.inr hr)]

/-- Only a reset changes from which moment a device counts. -/
theorem chronicled_zeroAt (C : FpgaClocks) (device : Address) (moment : ℚ) :
    Chronicled D.network (fun r => r ≠ .setTimeToZeroNextPps)
      fun h => D.zeroAt C h device = moment := by
  refine .of_events (fun h d r hr hzero => ?_) fun h e he hzero => ?_
  · refine (zeroAt_cons fun hzeroes => ?_).trans hzero
    cases r with
    | setTimeToZeroNextPps => exact hr rfl
    | _ => exact hzeroes
  · refine (zeroAt_cons fun hzeroes => ?_).trans hzero
    cases e with
    | request d r applied => exact he d r applied rfl
    | _ => exact hzeroes

/-- The dispatch is in the history that it ends with. -/
theorem suffix_of_dispatch {net : Network} (hdispatch : dispatch net t s = .ok () s') :
    .dispatch t :: s.history <:+ s'.history := by
  have hgrows {e : ClientEvent} :
      KeepsEvent (fun u => .dispatch t :: s.history <:+ u.history) e :=
    fun u hu => hu.trans (List.suffix_cons _ _)
  obtain ⟨_, s₁, hrecord, hcalls⟩ := bind_eq_ok_iff.mp hdispatch
  obtain ⟨h₁, hrecorded, rfl⟩ := onField_eq_ok_iff.mp hrecord
  cases hrecorded
  refine Preserves.of_ok (I := fun u : System => .dispatch t :: s.history <:+ u.history)
    ?_ List.suffix_rfl hcalls
  refine Preserves.bind (preserves_catchRemoteUsrpErrors fun n => ?_) fun _ => Preserves.pure _
  exact preserves_callExecuteAtUsrp (fun _ => hgrows) fun _ _ => hgrows

/-! ## One device -/

/-- The device is set up as the requests that wait on it and its RF config say. -/
structure SetUp (D : Deployment α) (device : Address) (pending : List Request)
    (conf : PyRfConfig) (u : Usrp α) : Prop where
  holds : D.Holds (D.E device) pending u
  txStreams : Usrp.numTx u = conf.noTxStreams.toNat
  rxStreams : Usrp.numRx u = conf.noRxStreams.toNat

/-- The streams of the device count from `moment`: the execution that waits on it has found
the device set up as the user has asked, and its threads issue the commands of the configs
at `moment`, on the clock of the device, plus the offsets of the configs. -/
def StreamsAt (D : Deployment α) (C : FpgaClocks) (moment : ℚ) (h : History) (device : Address) :
    Prop :=
  ∃ h₀ s₀ v conf added, executedAt device h = some h₀ ∧ D.serverAt h₀ device = some s₀ ∧
    D.serverAt h device = some v ∧ rfConfigOf device h = some conf ∧
    SetUp D device (pendingConfigs device h) conf
      (UsrpServer.advance (D.E device) (D.answers h₀ device) s₀).usrp ∧
    Usrp.Commanded (D.E device) (UsrpServer.advance (D.E device) (D.answers h₀ device) s₀).usrp
      v.usrp v.usrp.rxDecimFactor (moment - D.zeroAt C h device) added

/-- A device on which an execution waits. -/
theorem streamsAt_of_executesWith {conf : PyRfConfig} (hkept : Kept D h)
    (hexecutes : ExecutesWith t device h)
    (hreset : .request device .resetStreamingConfigs true ∈ h)
    (hconf : rfConfigOf device h = some conf)
    (hstart : ∀ a : Usrp.ExecuteAnswers, Usrp.startTime a t = t) :
    StreamsAt D C (D.zeroAt C h device + t) h device := by
  obtain ⟨h₀, hexecuted, -⟩ := id hexecutes
  obtain ⟨hsuffix, hpending, hrf, hmem⟩ := sinceExecution hexecuted
  obtain ⟨v, hserver, -⟩ := (hkept h List.suffix_rfl).1 device hreset
  obtain ⟨v₀, t', hserver₀, hrequest, hexecuting⟩ :=
    ((hkept h List.suffix_rfl).2 _ v hserver).executing h₀ hexecuted
  obtain rfl := hexecutes.eq hexecuted hrequest
  -- the device as the execution has found it
  obtain ⟨hstep₀, hserved₀⟩ := hkept h₀ hsuffix
  have hknown := (hserved₀ _ v₀ hserver₀).known
  obtain ⟨w, hw, hholds⟩ := hstep₀ device (hmem _ _ rfl rfl hreset)
  rw [hserver₀] at hw
  cases hw
  rw [← hrf, hconf] at hknown
  rw [← hpending] at hholds
  obtain ⟨htx, hrx⟩ := (Usrp.known_run (E := D.E device) hknown
    (D.answers h₀ device).streaming).counts
  have hsetUp : SetUp D device (pendingConfigs device h) conf
      (UsrpServer.advance (D.E device) (D.answers h₀ device) v₀).usrp :=
    ⟨hholds.same (sameConfigs_advance (D.answers h₀ device) v₀), htx, hrx⟩
  -- and what its threads have issued since
  obtain ⟨a, u', events, hexecute, hstreaming, hrun⟩ := hexecuting
  have hlaunched := Usrp.launched_of_execute hexecute
  obtain ⟨added, honPlan⟩ := Usrp.onPlan_run hlaunched.onPlan hstreaming
  rw [← hrun] at honPlan
  refine ⟨h₀, v₀, v, conf, added, hexecuted, hserver₀, hserver, hconf, hsetUp, ?_⟩
  rw [add_sub_cancel_left, honPlan.same.rxDecimFactor, ← hstart a]
  exact honPlan.commanded hlaunched

/-! ## All devices -/

/-- When the devices are called, all their clocks count from the same moment. -/
theorem zeroAt_eq_of_execute {request : String}
    (hknown : ∀ device, ∀ s ∈ D.servers device, StartsKnown D device s) (hshows : D.Shows C)
    {ops : List Op}
    (hops : Machine.AllSteps (System.step D.network) ResetsUnsynced (create request) ops)
    (hrun : Machine.run (System.step D.network) (create request) ops = s) {s₂ : System}
    (hready : prepareExecute D.network s = .ok t s₂)
    (hdispatch : dispatch D.network t s₂ = .ok () s') (hquick : Always (QuickCheck C) s'.history)
    {d d' : Address} (hd : d ∈ s.devices) (hd' : d' ∈ s.devices) :
    D.zeroAt C s₂.history d = D.zeroAt C s₂.history d' := by
  have hclients : s₂.usrpClients = s.usrpClients :=
    (sameClients_prepareExecute s.usrpClients).of_ok rfl hready
  have hregistered : registeredDevices s₂.history = s.devices := by
    have hinvariant := (@zeroInvariant_prepareExecute D.network).of_ok
      (hrun ▸ zeroInvariant_run D.network request ops) hready
    rw [hinvariant.1.registered, System.devices, hclients, System.devices]
  -- the execution is the last call of a run
  have hexecute : System.execute D.network s = .ok () s' := (bind_of_ok hready).trans hdispatch
  have hall : Machine.run (System.step D.network) (create request) (ops ++ [.execute]) = s' := by
    rw [Machine.run_append, hrun]
    exact congrArg finalState hexecute
  have hops' : Machine.AllSteps (System.step D.network) ResetsUnsynced (create request)
      (ops ++ [.execute]) := Machine.allSteps_append.mpr ⟨hops, by rintro ⟨⟩, trivial⟩
  have hsuffix := suffix_of_dispatch hdispatch
  rw [← hregistered] at hd hd'
  rw [← hall] at hquick hsuffix
  exact zeroAt_eq_of_dispatch hknown hshows hops' hquick hsuffix hd hd'

/-- The calls of the devices, and the user who asks for times, reset no clock. -/
theorem zeroAt_of_dispatch (hdispatch : dispatch D.network t s = .ok () s') {between : List Op}
    (hbetween : ∀ op ∈ between, op.asks = true) :
    D.zeroAt C (Machine.run (System.step D.network) s' between).history device =
      D.zeroAt C s.history device := by
  refine Machine.run_invariant
    (fun u : System => D.zeroAt C u.history device = D.zeroAt C s.history device)
    (fun u op hu hop => ?_) ?_ (Machine.AllSteps.of_forall hbetween)
  · exact keeps_asks (J := fun h => D.zeroAt C h device = D.zeroAt C s.history device)
      (fun _ _ _ hh => (zeroAt_cons id).trans hh) (fun _ _ _ hh => (zeroAt_cons id).trans hh) hop hu
  · exact ((chronicled_zeroAt C device _).dispatch (by rintro ⟨⟩)).of_ok rfl hdispatch

/-- **The streams of all devices start together.**  Servers are as the constructors leave
them, and their clocks are right; then any calls are made, of which `resetFpgaTimes` only
while the synchronisation flag is not set, and any requests and replies are lost.  If an
execution returns at some time, on devices whose last RF configuration was carried out, and
the checks up to then were quick, then, as long as the user only asks for times, all devices
have found the configs that were sent to them, and issue the commands for them with the
offsets counted from one moment, the same for all devices. -/
theorem streams_aligned (D : Deployment α) (C : FpgaClocks) (request : String)
    (hknown : ∀ device, ∀ s ∈ D.servers device, StartsKnown D device s)
    (hfresh : ∀ device s, D.servers device = some s → Usrp.Fresh s.usrp)
    (hshows : D.Shows C) (hnonneg : ∀ h device, 0 ≤ (D.answers h device).fpgaTime)
    {ops : List Op}
    (hops : Machine.AllSteps (System.step D.network) ResetsUnsynced (create request) ops)
    {s s₁ : System} (hrun : Machine.run (System.step D.network) (create request) ops = s)
    (hrf : ∀ device ∈ s.devices, (rfConfigOf device s.history).isSome = true)
    (hexecute : System.execute D.network s = .ok () s₁)
    (hquick : Always (QuickCheck C) s₁.history) {between : List Op}
    (hbetween : ∀ op ∈ between, op.asks = true) :
    ∃ moment, ∀ device ∈ s.devices, StreamsAt D C moment
      (Machine.run (System.step D.network) s₁ between).history device := by
  obtain ⟨t, s₂, hready, hdispatch⟩ := bind_eq_ok_iff.mp hexecute
  have hstart := startTime_of_prepareExecute hnonneg hready
  have hagree {d d' : Address} (hd : d ∈ s.devices) (hd' : d' ∈ s.devices) :=
    zeroAt_eq_of_execute hknown hshows hops hrun hready hdispatch hquick hd hd'
  obtain ⟨hclients, hsetup, -⟩ := executes_of_execute hexecute
  obtain ⟨-, hexecutes⟩ := executes_of_dispatch hdispatch
  rw [(sameClients_prepareExecute s.usrpClients).of_ok rfl hready] at hexecutes
  -- the calls after the execution belong to a run as well, and are idle
  have hidle : ∀ op ∈ between, op.idle = true := fun op hop => Op.idle_of_asks (hbetween op hop)
  have hall : Machine.run (System.step D.network) s₁ between =
      Machine.run (System.step D.network) (create request) (ops ++ .execute :: between) := by
    have hstep : System.step D.network s .execute = s₁ := congrArg finalState hexecute
    rw [Machine.run_append, hrun, ← hstep]
    rfl
  have hkept : Kept D (Machine.run (System.step D.network) s₁ between).history := by
    rw [hall]
    exact (chronicled_kept D).run (kept_nil hfresh) _
  have hregistered : RegisteredOk (Machine.run (System.step D.network) s₁ between) := by
    rw [hall]
    exact registeredOk_run D.network request _
  cases hdevices : s.devices with
  | nil => exact ⟨0, fun _ hd => nomatch hd⟩
  | cons first rest =>
      refine ⟨D.zeroAt C s₂.history first + t, fun device hdevice => ?_⟩
      rw [← hdevices] at hdevice
      have hreset := hregistered.reset device
        (by rwa [System.devices, usrpClients_idleRun hidle, hclients])
      obtain ⟨conf, hconf⟩ := Option.isSome_iff_exists.mp (hrf _ hdevice)
      rw [hagree (hdevices ▸ List.mem_cons_self) hdevice, ← zeroAt_of_dispatch hdispatch hbetween]
      obtain ⟨usrp, husrp, rfl⟩ := List.mem_map.mp hdevice
      obtain ⟨e, he, rfl⟩ := List.mem_map.mp husrp
      have hsame := (chronicled_sameSetup D.network e.2.address s.history).idleRun
        (fun _ hr => Or.inl hr) hidle (hsetup _)
      have hwaits := (chronicled_executesWith D.network t e.2.address).idleRun (fun _ hr => hr)
        hidle (hexecutes e he)
      exact streamsAt_of_executesWith hkept hwaits hreset (hsame.2.trans hconf) hstart

/-! ### Two devices -/

/-- A request takes a thirteenth of a second, and a reset keeps its device busy for one. -/
def exampleMoment : History → Address → ℚ
  | [], _ => 0
  | .request d .setTimeToZeroNextPps true :: h, device =>
      exampleMoment h device + if d = device then 1 else 1 / 13
  | _ :: h, device => exampleMoment h device + 1 / 13

/-- Pulses half a second after each full one, and a request takes 1/13 s. -/
def exampleSlowClocks : FpgaClocks where
  moment := exampleMoment
  pulse := fun _ _ => 1 / 2
  boot := fun device => if device.2 = 5555 then 0 else -(1 / 3)
  shared := fun _ _ _ _ => rfl

/-- When the time of a device was 0. -/
def exampleSlowZero : History → Address → ℚ
  | [], device => exampleSlowClocks.boot device
  | .request d .setTimeToZeroNextPps true :: h, device =>
      if d = device then nextPulse (1 / 2) (exampleMoment h device) else exampleSlowZero h device
  | _ :: h, device => exampleSlowZero h device

/-- Two servers that have just been started, and whose streams end before the next request. -/
def exampleSlow : Deployment Wire where
  version := "1.7.0"
  text := fun _ => "Remote error"
  E := fun _ => Usrp.exampleEnvironment
  B := exampleBinding
  servers := fun _ =>
    some ⟨{ Usrp.exampleUsrp with components := Components.exampleStart }, "internal", "internal"⟩
  answers := fun h device =>
    { exampleServerAnswers with
      events := exampleEvents h device
      streaming := streaming_exampleEvents h device
      fpgaTime := exampleMoment h device - exampleSlowZero h device }
  link := fun _ _ _ => .delivers

/-- The servers of the example show the times of the clocks. -/
theorem shows_exampleSlow : exampleSlow.Shows exampleSlowClocks := by
  have hzero (h : History) (device : Address) :
      exampleSlow.zeroAt exampleSlowClocks h device = exampleSlowZero h device := by
    induction h with
    | nil => rfl
    | cons e h ih =>
        cases e with
        | request d r applied =>
            cases r with
            | setTimeToZeroNextPps =>
                cases applied with
                | true =>
                    rw [zeroAt, exampleSlowZero, ih]
                    rfl
                | false => exact ih
            | _ => exact ih
        | _ => exact ih
  intro h device
  rw [hzero]
  rfl

/-- A device answers only once its pulse has come. -/
theorem exampleSlowZero_le (h : History) (device : Address) :
    exampleSlowZero h device ≤ exampleMoment h device := by
  induction h with
  | nil =>
      show (if device.2 = 5555 then (0 : ℚ) else -(1 / 3)) ≤ 0
      split <;> norm_num
  | cons e h ih =>
      have hlater : exampleSlowZero h device ≤ exampleMoment h device + 1 / 13 := by linarith
      cases e with
      | request d r applied =>
          cases r with
          | setTimeToZeroNextPps =>
              cases applied with
              | true =>
                  rw [exampleSlowZero, exampleMoment]
                  split
                  · have hfloor := Int.floor_le (exampleMoment h device - 1 / 2)
                    rw [nextPulse]
                    linarith
                  · exact hlater
              | false => exact hlater
          | _ => exact hlater
      | _ => exact hlater

/-- Both devices play 8 samples and receive as many, the second one half a second later. -/
def exampleTwoStreams : List Op :=
  [.newUsrp "192.168.189.131" "usrp1" 5555, .newUsrp "192.168.189.132" "usrp2" 5556] ++
    [("usrp1", 0), ("usrp2", 1 / 2)].flatMap fun (usrpName, offset) =>
      [.configureRfConfig usrpName
          (rfConfigFromBinding (Components.exampleConfig 122880000 122880000)),
        .configureTx usrpName
          ⟨offset, ⟨[.line (List.replicate 8 ⟨.finite (1 / 2), .finite 0⟩)]⟩, 1⟩,
        .configureRx usrpName { receiveTimeOffset := offset, numSamples := 8 }]

/-- The system when they are configured. -/
def exampleToAlign : System :=
  Machine.run (System.step exampleSlow.network) (create "auto") exampleTwoStreams

theorem streams_aligned_example :
    exampleToAlign.devices = [("192.168.189.131", 5555), ("192.168.189.132", 5556)] ∧
      ∃ moment, ∀ device ∈ exampleToAlign.devices,
        StreamsAt exampleSlow exampleSlowClocks moment
          (Machine.run (System.step exampleSlow.network)
            (finalState (System.execute exampleSlow.network exampleToAlign))
            [.getCurrentFpgaTimes]).history device := by
  have hops : Machine.AllSteps (System.step exampleSlow.network) ResetsUnsynced (create "auto")
      exampleTwoStreams := by
    have hnone : ∀ op ∈ exampleTwoStreams, op.idle = false := by decide
    refine Machine.allSteps_iff_forall.mpr fun before op later hsplit hreset => ?_
    have hbusy := hnone op (by simp [hsplit])
    rw [hreset] at hbusy
    cases hbusy
  obtain ⟨_, hexecute⟩ := exists_of_returned (by decide +kernel :
    returned (System.execute exampleSlow.network exampleToAlign) = true)
  refine ⟨by decide +kernel, ?_⟩
  refine streams_aligned exampleSlow exampleSlowClocks "auto" ?_ ?_ shows_exampleSlow
    (fun h device => sub_nonneg.mpr (exampleSlowZero_le h device)) hops rfl (by decide +kernel)
    hexecute (by decide +kernel) ?_
  · rintro device s ⟨⟩
    exact ⟨rfl, Or.inl rfl⟩
  · rintro device s ⟨⟩
    exact ⟨rfl, rfl, _, rfl⟩
  · exact fun op hop => by rw [List.mem_singleton.mp hop]; rfl

end Deployment

end UsrpWrapper
