import UsrpWrapper.RunIsolation
import UsrpWrapper.Lib.Schedule
import Mathlib.Data.Fintype.Basic

/-!
# Schedules of streaming configs

`setTxConfig` and `setRxConfig` accept a config if its offset lies the guard offset
and the duration of the last stored config behind the offset of that config.

* `rxSchedule_separated_iff`: which sequences of RX configs this keeps apart, any
  two of them, at one sampling rate.  The duration is computed in `unsigned int`.
* `storedConfigs_valid`: what is known of the stored configs after any sequence of
  calls, in which `setRfConfig` may change the number of streams and the rates.
-/

namespace UsrpWrapper

open Lib Lib.Command

/-! ## Durations -/

/-- The exact number of samples an RX config spans. -/
def RxStreamingConfig.span (c : RxStreamingConfig) : ℕ :=
  c.numRepetitions.toNat *
    if c.repetitionPeriod = 0 then c.numSamples.toNat else c.repetitionPeriod.toNat

/-- `totalSamples` is the span modulo `2 ^ 32`. -/
theorem RxStreamingConfig.totalSamples_toNat (c : RxStreamingConfig) :
    c.totalSamples.toNat = c.span % 2 ^ 32 := by
  unfold totalSamples span
  split
  · rw [UInt32.toNat_toUInt64, UInt32.toNat_mul, Nat.mul_comm]
  · rw [UInt32.toNat_toUInt64, UInt32.toNat_mul, Nat.mul_comm]

/-- The duration of all repetitions of a TX config. -/
def TxStreamingConfig.duration {α : Type} (fs : ℚ) (c : TxStreamingConfig α) : ℚ :=
  (c.samples.headD []).length / fs * c.numRepetitions.toInt

/-- An RX config starts the guard offset and the span of another one after it. -/
def RxFollows (fs : ℚ) : RxStreamingConfig → RxStreamingConfig → Prop :=
  Schedule.Follows (fun c => c.receiveTimeOffset) (fun c => c.span / fs) GUARD_OFFSET_S

/-- A TX config starts the guard offset and the duration of another one after
it. -/
def TxFollows {α : Type} (fs : ℚ) : TxStreamingConfig α → TxStreamingConfig α → Prop :=
  Schedule.Follows (fun c => c.sendTimeOffset) (TxStreamingConfig.duration fs)
    GUARD_OFFSET_S

namespace Usrp

variable {α : Type} {E : Environment α}

theorem guardOffset_nonneg : 0 ≤ GUARD_OFFSET_S := by
  norm_num [GUARD_OFFSET_S]

/-! ## Accepted RX configs -/

/-- The offset the last stored config asks for, if there is one. -/
theorem minimumRxOffset_le_iff {prev : Option RxStreamingConfig} {c : RxStreamingConfig} {fs : ℚ} :
    minimumRxOffset prev c GUARD_OFFSET_S fs ≤ c.receiveTimeOffset ↔
      ∀ p ∈ prev, Schedule.Follows (fun c : RxStreamingConfig => c.receiveTimeOffset)
        (fun c => c.totalSamples.toNat / fs) GUARD_OFFSET_S p c := by
  cases prev with
  | none => simp [minimumRxOffset]
  | some p => simp [minimumRxOffset, Schedule.Follows]

theorem setRxConfig_eq_ok_iff {c : RxStreamingConfig} {u u' : Usrp α} :
    setRxConfig c u = .ok () u' ↔
      (RxLengthsOk c ∧ ∀ p ∈ u.rxStreamingConfigs.getLast?,
        Schedule.Follows (fun c : RxStreamingConfig => c.receiveTimeOffset)
          (fun c => c.totalSamples.toNat / u.components.rfConfig.getRxSamplingRate)
          GUARD_OFFSET_S p c) ∧
        u' = { u with rxStreamingConfigs := u.rxStreamingConfigs ++ [c] } := by
  rw [setRxConfig, bind_eq_ok_iff, ← minimumRxOffset_le_iff,
    ← assertValidRxStreamingConfig_eq_ok_iff]
  constructor
  · exact fun h => setRxConfig_eq_ok (bind_eq_ok_iff.mpr h)
  · rintro ⟨hvalid, rfl⟩
    exact ⟨(), u, reads_eq_ok_iff.mpr ⟨hvalid, rfl⟩, rfl⟩

/-- The device after a request for an RX config, accepted or not. -/
def rxRequest (u : Usrp α) (c : RxStreamingConfig) : Usrp α := finalState (setRxConfig c u)

/-- A request is rejected without a trace, or it is accepted. -/
theorem rxRequest_cases (u : Usrp α) (c : RxStreamingConfig) :
    rxRequest u c = u ∨ setRxConfig c u = .ok () (rxRequest u c) := by
  unfold rxRequest
  cases h : setRxConfig c u with
  | ok v u' => exact Or.inr rfl
  | error e u' =>
      rw [setRxConfig, bind_eq_error_iff] at h
      rcases h with h | ⟨_, u₁, -, hmodify⟩
      · exact Or.inl (reads_eq_error_iff.mp h).2
      · cases hmodify

/-- Any two stored RX configs are separated by the guard offset and the exact span
of the earlier one, at the rate `fs`. -/
def RxSeparated (fs : ℚ) (u : Usrp α) : Prop := u.rxStreamingConfigs.Pairwise (RxFollows fs)

/-- The span of the last stored RX config does not wrap. -/
def LastSpanExact (u : Usrp α) : Prop := ∀ p ∈ u.rxStreamingConfigs.getLast?, p.span < 2 ^ 32

section

variable {u : Usrp α} {fs : ℚ}

/-- A request is kept apart from all stored configs, if the span of the last one
is exact. -/
theorem rxSeparated_rxRequest (hfs : 0 < fs)
    (hrate : u.components.rfConfig.getRxSamplingRate = fs) (hseparated : RxSeparated fs u)
    (hspan : LastSpanExact u) (c : RxStreamingConfig) : RxSeparated fs (rxRequest u c) := by
  rcases rxRequest_cases u c with hkept | hok
  · rw [hkept]
    exact hseparated
  · obtain ⟨⟨-, hfollows⟩, hstored⟩ := setRxConfig_eq_ok_iff.mp hok
    rw [hstored]
    refine Schedule.pairwise_concat guardOffset_nonneg (fun p _ => by positivity) hseparated ?_
    intro p hp
    have hexact := hfollows p hp
    rw [Schedule.Follows, hrate, p.totalSamples_toNat, Nat.mod_eq_of_lt (hspan p hp)] at hexact
    exact hexact

/-- The earliest config that is accepted behind a config. -/
def earliestRxConfig (fs : ℚ) (p : RxStreamingConfig) : RxStreamingConfig where
  numSamples := 8
  receiveTimeOffset := p.receiveTimeOffset + GUARD_OFFSET_S + p.totalSamples.toNat / fs
  numRepetitions := 1
  repetitionPeriod := 0
  antennaPort := ""

/-- Behind a config whose span wraps, a config is accepted too early. -/
theorem not_rxSeparated_earliest (hfs : 0 < fs)
    (hrate : u.components.rfConfig.getRxSamplingRate = fs) {p : RxStreamingConfig}
    (hp : p ∈ u.rxStreamingConfigs.getLast?) (hwrap : 2 ^ 32 ≤ p.span) :
    ¬ RxSeparated fs (rxRequest u (earliestRxConfig fs p)) := by
  have honce : ¬ 1 < (earliestRxConfig fs p).numRepetitions.toNat := Nat.lt_irrefl 1
  have hlengths : RxLengthsOk (earliestRxConfig fs p) :=
    ⟨Nat.le_refl 1, fun h => absurd rfl h, fun h => absurd h honce, fun h => absurd h honce⟩
  have hok : setRxConfig (earliestRxConfig fs p) u = .ok () { u with
      rxStreamingConfigs := u.rxStreamingConfigs ++ [earliestRxConfig fs p] } := by
    refine setRxConfig_eq_ok_iff.mpr ⟨⟨hlengths, fun q hq => ?_⟩, rfl⟩
    obtain rfl := Option.mem_unique hp hq
    rw [hrate]
    exact le_refl _
  intro hseparated
  rw [rxRequest, hok] at hseparated
  have hfollows := (List.pairwise_append.mp hseparated).2.2 p (List.mem_of_getLast? hp)
    (earliestRxConfig fs p) (List.mem_singleton.mpr rfl)
  have hle : (p.span : ℚ) / fs ≤ p.totalSamples.toNat / fs := by
    have hstart : p.receiveTimeOffset + GUARD_OFFSET_S + p.span / fs ≤
        p.receiveTimeOffset + GUARD_OFFSET_S + p.totalSamples.toNat / fs := hfollows
    linarith only [hstart]
  rw [div_le_div_iff_of_pos_right hfs, Nat.cast_le, p.totalSamples_toNat] at hle
  have hlt := Nat.mod_lt p.span (show 0 < 2 ^ 32 by decide)
  omega

/-- **Separation of the RX schedule.**  From a reset device with a positive RX
rate, and whatever is requested next, the stored configs stay separated from each
other along a sequence of requests exactly if no further config is requested
behind one that spans `2 ^ 32` samples or more. -/
theorem rxSchedule_separated_iff (hfs : 0 < u.components.rfConfig.getRxSamplingRate)
    (requests : List RxStreamingConfig) :
    Machine.AllSteps rxRequest
        (fun v _ => ∀ c, RxSeparated u.components.rfConfig.getRxSamplingRate (rxRequest v c))
        (resetStreamingConfigs u) requests ↔
      Machine.AllSteps rxRequest (fun v _ => LastSpanExact v) (resetStreamingConfigs u)
        requests := by
  refine Machine.AllSteps.iff_of_invariant
    (fun v => v.components.rfConfig.getRxSamplingRate =
        u.components.rfConfig.getRxSamplingRate ∧
      RxSeparated u.components.rfConfig.getRxSamplingRate v) ?_ ?_ ⟨rfl, List.Pairwise.nil⟩
  · rintro v - ⟨hrate, hseparated⟩
    refine ⟨fun h p hp => ?_, fun hspan => rxSeparated_rxRequest hfs hrate hseparated hspan⟩
    by_contra hwrap
    exact not_rxSeparated_earliest hfs hrate hp (not_lt.mp hwrap) (h _)
  · rintro v c ⟨hrate, hseparated⟩ hspan
    refine ⟨?_, rxSeparated_rxRequest hfs hrate hseparated hspan c⟩
    rcases rxRequest_cases v c with hkept | hok
    · rw [hkept, hrate]
    · rw [(setRxConfig_eq_ok_iff.mp hok).2]
      exact hrate

end

/-- A config of `2 ^ 32` samples counts as one of none: the next one is accepted
the guard offset behind its start. -/
theorem rxSchedule_overlaps :
    ∃ u, forM [⟨8, 0, 0x20000000, 0, ""⟩, ⟨8, 1 / 20, 1, 0, ""⟩] setRxConfig exampleUsrp =
        .ok () u ∧ ¬ RxSeparated exampleUsrp.components.rfConfig.getRxSamplingRate u := by
  obtain ⟨_, hok⟩ := exists_of_returned
    (by decide +kernel : returned (forM [⟨8, 0, 0x20000000, 0, ""⟩, ⟨8, 1 / 20, 1, 0, ""⟩]
      setRxConfig exampleUsrp) = true)
  refine ⟨_, hok, fun hseparated => ?_⟩
  rw [RxSeparated, (forM_setRxConfig_eq_ok hok).2] at hseparated
  have hfollows := (List.pairwise_cons.mp hseparated).1 _ (List.mem_singleton.mpr rfl)
  revert hfollows
  unfold RxFollows Schedule.Follows
  decide +kernel

/-- Two repetitions of 16 samples, then a request that is rejected, and one that
starts behind them. -/
theorem rxSchedule_separated_example :
    Machine.AllSteps rxRequest
      (fun v _ => ∀ c, RxSeparated exampleUsrp.components.rfConfig.getRxSamplingRate
        (rxRequest v c))
      (resetStreamingConfigs exampleUsrp)
      [⟨8, 0, 2, 16, ""⟩, ⟨8, 0, 1, 0, ""⟩, ⟨8, 1 / 10, 1, 0, ""⟩] := by
  have hexact : Machine.AllSteps rxRequest (fun v _ => LastSpanExact v)
      (resetStreamingConfigs exampleUsrp)
      [⟨8, 0, 2, 16, ""⟩, ⟨8, 0, 1, 0, ""⟩, ⟨8, 1 / 10, 1, 0, ""⟩] := by
    refine ⟨?_, ?_, ?_, trivial⟩ <;> unfold LastSpanExact <;> decide +kernel
  exact (rxSchedule_separated_iff (by decide +kernel) _).mpr hexact

/-! ## Calls of the client -/

/-- A call of the client, or a step of a thread. -/
inductive Call (α : Type) where
  | event (e : Event α)
  | resetStreamingConfigs
  | execute (a : ExecuteAnswers) (baseTime : ℚ)
  | collect (a : ℕ → List RecvAnswer)

/-- The device after a call, whether it returns or throws. -/
def callStep (E : Environment α) (u : Usrp α) : Call α → Usrp α
  | .event e => step E u e
  | .resetStreamingConfigs => resetStreamingConfigs u
  | .execute a baseTime => finalState (execute E a baseTime u)
  | .collect a => finalState (collect E a u)

/-- The lists of streaming configs are those of `u`. -/
def SameConfigs (u v : Usrp α) : Prop :=
  v.txStreamingConfigs = u.txStreamingConfigs ∧ v.rxStreamingConfigs = u.rxStreamingConfigs

section

variable {u u' : Usrp α} {β : Type}

theorem sameConfigs_onReplay (x : EStateM Fault ReplayBlockConfig β) :
    Preserves (SameConfigs u) (onReplay x) :=
  Preserves.onField_of_put fun _ _ h => h

theorem sameConfigs_onGraph (x : EStateM Fault FullDuplexGraph β) :
    Preserves (SameConfigs u) (onGraph x) :=
  Preserves.onField_of_put fun _ _ h => h

theorem sameConfigs_onComponents (x : EStateM Fault Components Unit) :
    Preserves (SameConfigs u) (onComponents x) :=
  Preserves.onField_of_put fun _ _ h => h

theorem sameConfigs_uploadConfigs (a : ExecuteAnswers) (i : ℕ)
    (configs : List (TxStreamingConfig α)) :
    Preserves (SameConfigs u) (uploadConfigs E a i configs) := by
  induction configs generalizing i with
  | nil => exact Preserves.pure _
  | cons config configs ih =>
      refine (Preserves.liftE _).bind fun _ => (sameConfigs_onReplay _).bind fun _ => ?_
      exact (sameConfigs_onGraph _).bind fun _ => ih (i + 1)

theorem sameConfigs_execute (a : ExecuteAnswers) (baseTime : ℚ) :
    Preserves (SameConfigs u) (execute E a baseTime) := by
  refine Preserves.bind (Preserves.modify fun _ h => h) fun _ => ?_
  refine (sameConfigs_onReplay _).bind fun _ => Preserves.bind ?_ fun _ => ?_
  · exact Preserves.get.bind fun _ => (sameConfigs_onGraph _).bind fun _ =>
      sameConfigs_uploadConfigs _ _ _
  · refine Preserves.get.bind fun _ => (sameConfigs_onGraph _).bind fun _ => ?_
    exact (sameConfigs_onComponents _).bind fun _ => Preserves.modify fun _ h => h

/-- What a download keeps: a property that its replays keep, and that does not
depend on the graph and on the received samples. -/
theorem preserves_performDownload {I : Usrp α → Prop}
    (hreplay : ∀ numSamples, Preserves I (onReplay (ReplayBlockConfig.configDownload numSamples)))
    (hgraph : ∀ u g, I u → I { u with fdGraph := g })
    (hreceived : ∀ u receivedSamples, I u → I { u with receivedSamples })
    (a : ℕ → List RecvAnswer) : Preserves I (performDownload E a) := by
  have honGraph {γ : Type} (x : EStateM Fault FullDuplexGraph γ) : Preserves I (onGraph x) :=
    Preserves.onField_of_put fun u g h => hgraph u g h
  refine Preserves.bind (Preserves.modify fun _ h => hreceived _ _ h) fun _ =>
    Preserves.get.bind fun _ => ?_
  refine (honGraph _).bind fun _ => Preserves.forM fun _ _ => Preserves.forM fun _ _ => ?_
  refine (hreplay _).bind fun _ => Preserves.get.bind fun _ => ?_
  refine (honGraph _).bind fun _ => Preserves.bind (Preserves.modify fun _ h => hreceived _ _ h)
    fun _ => ?_
  exact (Preserves.liftE _).bind fun _ => Preserves.modify fun _ h => hreceived _ _ h

theorem sameConfigs_performDownload (a : ℕ → List RecvAnswer) :
    Preserves (SameConfigs u) (performDownload E a) :=
  preserves_performDownload (fun _ => sameConfigs_onReplay _) (fun _ _ h => h) (fun _ _ h => h) a

/-- The lists are as before, or both are empty. -/
theorem sameConfigs_collect (a : ℕ → List RecvAnswer) :
    Preserves (fun v => SameConfigs u v ∨ v.txStreamingConfigs = [] ∧ v.rxStreamingConfigs = [])
      (collect E a) := by
  refine Preserves.bind (Preserves.modify fun _ h => h) fun _ => ?_
  refine (Preserves.reads _).bind fun _ => ?_
  refine (Preserves.reads _).bind fun _ => Preserves.bind ?_ fun _ => ?_
  · rintro v (hsame | ⟨htx, hrx⟩)
    · exact Or.inl (sameConfigs_performDownload a v hsame)
    · have hkept := sameConfigs_performDownload (E := E) (u := v) a v ⟨rfl, rfl⟩
      exact Or.inr ⟨hkept.1.trans htx, hkept.2.trans hrx⟩
  · exact Preserves.bind (Preserves.modify fun _ _ => Or.inr ⟨rfl, rfl⟩) fun _ => Preserves.reads _

end

/-! ## What is known of stored configs -/

/-- Under the RF configuration of `v`, a TX config has one signal for each stream
and follows the config before it. -/
structure TxValid (v : Usrp α) (prev : Option (TxStreamingConfig α)) (c : TxStreamingConfig α) :
    Prop where
  streams : c.samples.length = (sizeOfInt v.components.rfConfig.getNumTxStreams).toNat
  follows : ∀ p ∈ prev, TxFollows v.components.rfConfig.getTxSamplingRate p c

/-- Under the RF configuration of `v`, an RX config follows the config before it,
whose span does not wrap. -/
def RxValid (v : Usrp α) (prev : Option RxStreamingConfig) (c : RxStreamingConfig) : Prop :=
  ∀ p ∈ prev, p.span < 2 ^ 32 → RxFollows v.components.rfConfig.getRxSamplingRate p c

/-- What a call does to the lists of streaming configs. -/
inductive ConfigStep (u : Usrp α) : Usrp α → Prop
  | kept {v : Usrp α} (same : SameConfigs u v) : ConfigStep u v
  | cleared {v : Usrp α} (tx : v.txStreamingConfigs = []) (rx : v.rxStreamingConfigs = []) :
      ConfigStep u v
  | txStored (c : TxStreamingConfig α) (valid : TxValid u u.txStreamingConfigs.getLast? c) :
      ConfigStep u { u with txStreamingConfigs := u.txStreamingConfigs ++ [c] }
  | rxStored (c : RxStreamingConfig) (valid : RxValid u u.rxStreamingConfigs.getLast? c) :
      ConfigStep u { u with rxStreamingConfigs := u.rxStreamingConfigs ++ [c] }

section

variable {u u' : Usrp α}

/-- The TX list stays, is emptied, or grows by a valid config. -/
theorem ConfigStep.txConfigs (h : ConfigStep u u') :
    u'.txStreamingConfigs = u.txStreamingConfigs ∨ u'.txStreamingConfigs = [] ∨
      ∃ c, TxValid u u.txStreamingConfigs.getLast? c ∧
        u'.txStreamingConfigs = u.txStreamingConfigs ++ [c] := by
  cases h with
  | kept same => exact Or.inl same.1
  | cleared tx rx => exact Or.inr (Or.inl tx)
  | txStored c valid => exact Or.inr (Or.inr ⟨c, valid, rfl⟩)
  | rxStored c valid => exact Or.inl rfl

theorem ConfigStep.rxConfigs (h : ConfigStep u u') :
    u'.rxStreamingConfigs = u.rxStreamingConfigs ∨ u'.rxStreamingConfigs = [] ∨
      ∃ c, RxValid u u.rxStreamingConfigs.getLast? c ∧
        u'.rxStreamingConfigs = u.rxStreamingConfigs ++ [c] := by
  cases h with
  | kept same => exact Or.inl same.2
  | cleared tx rx => exact Or.inr (Or.inl rx)
  | txStored c valid => exact Or.inl rfl
  | rxStored c valid => exact Or.inr (Or.inr ⟨c, valid, rfl⟩)

/-- The offset the last stored TX config asks for. -/
theorem txFollows_of_minimumTxOffset {prev : Option (TxStreamingConfig α)}
    {c : TxStreamingConfig α} {fs offset : ℚ}
    (h : minimumTxOffset prev c GUARD_OFFSET_S fs = .ok offset) (hle : offset ≤ c.sendTimeOffset) :
    ∀ p ∈ prev, TxFollows fs p c := by
  rintro p hp
  obtain rfl := Option.mem_def.mp hp
  obtain ⟨first, hfirst, hoffset⟩ := except_bind_eq_ok_iff.mp h
  have hhead : p.samples.headD [] = first := by
    cases hsamples : p.samples with
    | nil =>
        rw [hsamples] at hfirst
        cases hfirst
    | cons signal rest =>
        rw [hsamples] at hfirst
        cases hfirst
        rfl
  cases hoffset
  rw [TxFollows, Schedule.Follows, TxStreamingConfig.duration, hhead]
  exact hle

/-- What is stored for an accepted TX config: the signals filled up to words. -/
structure PaddedFrom (zero : α) (conf c : TxStreamingConfig α) : Prop where
  aligned : conf.alignToWordSize zero = .ok c
  length_le : (c.samples.headD []).length ≤ MAX_SAMPLES_TX_SIGNAL
  numRepetitions_pos : 1 ≤ c.numRepetitions.toInt

/-- A rejected TX config changes nothing, and an accepted one is stored. -/
theorem setTxConfig_cases (conf : TxStreamingConfig α) (u : Usrp α) :
    finalState (setTxConfig E conf u) = u ∨
      ∃ c, PaddedFrom E.format.zero conf c ∧ TxValid u u.txStreamingConfigs.getLast? c ∧
        finalState (setTxConfig E conf u) =
          { u with txStreamingConfigs := u.txStreamingConfigs ++ [c] } := by
  cases h : setTxConfig E conf u with
  | error e u' =>
      refine Or.inl ?_
      rw [setTxConfig, bind_eq_error_iff] at h
      rcases h with h | ⟨_, u₁, hok, h⟩
      · exact (reads_eq_error_iff.mp h).2
      · obtain ⟨-, rfl⟩ := reads_eq_ok_iff.mp hok
        rcases bind_eq_error_iff.mp h with h | ⟨_, u₂, -, hmodify⟩
        · exact (reads_eq_error_iff.mp h).2
        · cases hmodify
  | ok v u' =>
      obtain ⟨c, hsignal, hconfig, haligned, rfl⟩ := setTxConfig_eq_ok h
      obtain ⟨first, hfirst, hcount, hsignals⟩ := assertValidTxSignal_eq_ok hsignal
      obtain ⟨hpos, -⟩ := assertValidTxStreamingConfig_eq_ok hconfig hfirst
      obtain ⟨offset, hoffset, hchecks⟩ := except_bind_eq_ok_iff.mp hconfig
      obtain ⟨hle, -⟩ := check_bind_eq_ok_iff.mp hchecks
      have hstored := (TxStreamingConfig.alignToWordSize_eq_ok_iff hfirst).mp haligned
      refine Or.inr ⟨c, ⟨haligned, ?_, ?_⟩, ⟨?_, ?_⟩, rfl⟩
      · -- the largest accepted length is a multiple of 8
        have hlength := (hsignals first (mem_of_firstSignal hfirst)).1
        have hmax : MAX_SAMPLES_TX_SIGNAL = 200000 := rfl
        cases hsamples : conf.samples with
        | nil =>
            rw [hsamples] at hfirst
            cases hfirst
        | cons signal rest =>
            rw [hstored, hsamples]
            show (resize _ _ _).length ≤ _
            rw [resize_length, nextMultipleOfWordSize_toNat (by rw [UInt64.toNat_ofNat']; omega),
              UInt64.toNat_ofNat']
            omega
      · rw [hstored]
        exact hpos
      · rw [hstored]
        exact (List.length_map _).trans hcount
      · have hfollows := txFollows_of_minimumTxOffset hoffset (not_lt.mp hle)
        rw [hstored]
        exact hfollows

/-- `setTxConfig` is such a step. -/
theorem configStep_setTxConfig (conf : TxStreamingConfig α) (u : Usrp α) :
    ConfigStep u (finalState (setTxConfig E conf u)) := by
  rcases setTxConfig_cases (E := E) conf u with hkept | ⟨c, -, hvalid, hstored⟩
  · rw [hkept]
    exact .kept ⟨rfl, rfl⟩
  · rw [hstored]
    exact .txStored c hvalid

/-- So is `setRxConfig`. -/
theorem configStep_setRxConfig (conf : RxStreamingConfig) (u : Usrp α) :
    ConfigStep u (finalState (setRxConfig conf u)) := by
  rcases rxRequest_cases u conf with hkept | hok
  · rw [rxRequest] at hkept
    rw [hkept]
    exact .kept ⟨rfl, rfl⟩
  · obtain ⟨⟨-, hfollows⟩, -⟩ := setRxConfig_eq_ok_iff.mp hok
    rw [(setRxConfig_eq_ok_iff.mp hok).2] at hok
    rw [hok]
    refine .rxStored conf fun p hp hspan => ?_
    have hexact := hfollows p hp
    rw [Schedule.Follows, p.totalSamples_toNat, Nat.mod_eq_of_lt hspan] at hexact
    exact hexact

/-- **Every call keeps or empties the lists, or appends a config that is valid
under the RF configuration of the moment.** -/
theorem configStep_callStep (x : Call α) (u : Usrp α) : ConfigStep u (callStep E u x) := by
  cases x with
  | event e =>
      by_cases he : e.isStreaming = true
      · have hcontinues := continues_step (E := E) he u
        exact .kept ⟨hcontinues.txConfigs, hcontinues.rxConfigs⟩
      · cases e with
        | setTxConfig conf => exact configStep_setTxConfig conf u
        | setRxConfig conf => exact configStep_setRxConfig conf u
        | setRfConfig conf a => exact .kept (sameConfigs_onComponents _ u ⟨rfl, rfl⟩)
        | _ => exact absurd rfl he
  | resetStreamingConfigs => exact .cleared rfl rfl
  | execute a baseTime => exact .kept (sameConfigs_execute a baseTime u ⟨rfl, rfl⟩)
  | collect a =>
      rcases sameConfigs_collect (E := E) (u := u) a u (Or.inl ⟨rfl, rfl⟩) with hsame | ⟨htx, hrx⟩
      · exact .kept hsame
      · exact .cleared htx hrx

/-- An upload that returns has found one signal for each stream in every config. -/
theorem streams_of_uploadConfigs {a : ExecuteAnswers} {i : ℕ}
    {configs : List (TxStreamingConfig α)} {n : UInt64} (hcount : u.fdGraph.numTxStreams = n)
    (h : uploadConfigs E a i configs u = .ok () u') :
    ∀ c ∈ configs, c.samples.length = n.toNat := by
  induction configs generalizing u i with
  | nil => exact fun c hc => nomatch hc
  | cons config configs ih =>
      obtain ⟨first, u₁, hlift, hrest⟩ := bind_eq_ok_iff.mp h
      obtain ⟨-, rfl⟩ := liftE_eq_ok_iff.mp hlift
      obtain ⟨_, u₂, hreplay, hrest⟩ := bind_eq_ok_iff.mp hrest
      obtain ⟨r, -, rfl⟩ := onField_eq_ok_iff.mp hreplay
      obtain ⟨_, u₃, hgraph, hrest⟩ := bind_eq_ok_iff.mp hrest
      obtain ⟨g, hupload, rfl⟩ := onField_eq_ok_iff.mp hgraph
      obtain ⟨_, g₁, hcheck, -⟩ := bind_eq_ok_iff.mp hupload
      obtain ⟨hstreams, rfl⟩ := reads_eq_ok_iff.mp hcheck
      rw [check_eq_ok_iff, not_not] at hstreams
      have hkept : g.numTxStreams = n :=
        (FullDuplexGraph.preserves_upload (I := fun g => g.numTxStreams = n) (fun _ _ hg => hg)
          _ _).of_ok (s := (putReplay r u₁).fdGraph) hcount hupload
      intro c hc
      rcases List.mem_cons.mp hc with rfl | hc
      · exact hstreams.trans (congrArg UInt64.toNat hcount)
      · exact ih hkept hrest c hc

/-- An execution that returns. -/
theorem streams_of_execute {a : ExecuteAnswers} {baseTime : ℚ}
    (h : execute E a baseTime u = .ok () u') : ∀ c ∈ u.txStreamingConfigs,
      c.samples.length = (sizeOfInt u.components.rfConfig.getNumTxStreams).toNat := by
  obtain ⟨v, -, -, -, hupload, -⟩ := execute_eq_ok h
  unfold performUpload at hupload
  rw [bind_of_ok (get_apply _)] at hupload
  obtain ⟨_, u₁, hconnect, hloop⟩ := bind_eq_ok_iff.mp hupload
  obtain ⟨g, hgraph, rfl⟩ := onField_eq_ok_iff.mp hconnect
  cases hgraph
  exact streams_of_uploadConfigs rfl hloop

/-- **What is known of stored configs.**  After any calls and thread steps, a
stored TX config has one signal for each TX stream, and a stored TX or RX config
follows the one before it, all under the RF configuration with which it was
accepted; and an execution that returns has found one signal for each current TX
stream in every stored TX config. -/
theorem storedConfigs_valid (htx : u.txStreamingConfigs = []) (hrx : u.rxStreamingConfigs = [])
    (calls : List (Call α)) :
    (∀ (n : ℕ) (c : TxStreamingConfig α),
      (Machine.run (callStep E) u calls).txStreamingConfigs[n]? = some c →
        ∃ k < calls.length,
          (Machine.run (callStep E) u (calls.take k)).txStreamingConfigs =
            (Machine.run (callStep E) u calls).txStreamingConfigs.take n ∧
          TxValid (Machine.run (callStep E) u (calls.take k))
            ((Machine.run (callStep E) u calls).txStreamingConfigs.take n).getLast? c) ∧
    (∀ (n : ℕ) (c : RxStreamingConfig),
      (Machine.run (callStep E) u calls).rxStreamingConfigs[n]? = some c →
        ∃ k < calls.length,
          (Machine.run (callStep E) u (calls.take k)).rxStreamingConfigs =
            (Machine.run (callStep E) u calls).rxStreamingConfigs.take n ∧
          RxValid (Machine.run (callStep E) u (calls.take k))
            ((Machine.run (callStep E) u calls).rxStreamingConfigs.take n).getLast? c) ∧
    ∀ (a : ExecuteAnswers) (baseTime : ℚ) (u' : Usrp α),
      execute E a baseTime (Machine.run (callStep E) u calls) = .ok () u' →
        ∀ c ∈ (Machine.run (callStep E) u calls).txStreamingConfigs,
          c.samples.length = (sizeOfInt
            (Machine.run (callStep E) u calls).components.rfConfig.getNumTxStreams).toNat := by
  refine ⟨fun n c hget => ?_, fun n c hget => ?_, fun a baseTime u' h => streams_of_execute h⟩
  · exact Machine.exists_appended (f := fun v : Usrp α => v.txStreamingConfigs)
      (fun v x => (configStep_callStep x v).txConfigs) htx calls hget
  · exact Machine.exists_appended (f := fun v : Usrp α => v.rxStreamingConfigs)
      (fun v x => (configStep_callStep x v).rxConfigs) hrx calls hget

end

/-- The stored configs are valid under the current RF configuration. -/
structure StoredValid (u : Usrp α) : Prop where
  streams : ∀ c ∈ u.txStreamingConfigs,
    c.samples.length = (sizeOfInt u.components.rfConfig.getNumTxStreams).toNat
  tx : u.txStreamingConfigs.IsChain (TxFollows u.components.rfConfig.getTxSamplingRate)
  rx : u.rxStreamingConfigs.IsChain (RxFollows u.components.rfConfig.getRxSamplingRate)

/-- One signal of 8 samples. -/
def exampleTxConfig : TxStreamingConfig Wire := ⟨[List.replicate 8 fun _ => 0], 0, 1⟩

/-- One millisecond at 122.88 MHz, and a config that starts 50.1 ms after its end. -/
def exampleRxPair : List RxStreamingConfig := [⟨122880, 0, 1, 0, ""⟩, ⟨8, 511 / 10000, 1, 0, ""⟩]

/-- Two TX streams. -/
def exampleTwoStreams : RfConfig :=
  { Components.exampleConfig 122880000 122880000 with noTxStreams := 2 }

/-- `setRfConfig` changes the number of TX streams, or halves the RX rate, and
keeps the stored configs. -/
theorem storedConfigs_not_revalidated :
    (∃ u₁ u₂, setTxConfig exampleEnvironment exampleTxConfig exampleUsrp = .ok () u₁ ∧
        setRfConfig exampleEnvironment exampleTwoStreams (Components.obedient exampleTwoStreams)
          u₁ = .ok () u₂ ∧ ¬ StoredValid u₂) ∧
      ∃ u₁ u₂, forM exampleRxPair setRxConfig exampleUsrp = .ok () u₁ ∧
        setRfConfig exampleEnvironment (Components.exampleConfig 122880000 61440000)
          (Components.obedient (Components.exampleConfig 122880000 61440000)) u₁ = .ok () u₂ ∧
        ¬ StoredValid u₂ := by
  refine ⟨?_, ?_⟩
  · obtain ⟨_, hset⟩ := exists_of_returned
      (by decide +kernel : returned (setTxConfig exampleEnvironment exampleTxConfig
        exampleUsrp) = true)
    obtain ⟨_, hrf⟩ := exists_of_returned
      (by decide +kernel : returned (setRfConfig exampleEnvironment exampleTwoStreams
        (Components.obedient exampleTwoStreams) (finalState (setTxConfig exampleEnvironment
          exampleTxConfig exampleUsrp))) = true)
    refine ⟨_, _, hset, hrf, fun hvalid => ?_⟩
    have hstreams := hvalid.streams
    revert hstreams
    decide +kernel
  · obtain ⟨_, hset⟩ := exists_of_returned
      (by decide +kernel : returned (forM exampleRxPair setRxConfig exampleUsrp) = true)
    obtain ⟨_, hrf⟩ := exists_of_returned
      (by decide +kernel : returned (setRfConfig exampleEnvironment
        (Components.exampleConfig 122880000 61440000)
        (Components.obedient (Components.exampleConfig 122880000 61440000))
        (finalState (forM exampleRxPair setRxConfig exampleUsrp))) = true)
    refine ⟨_, _, hset, hrf, fun hvalid => ?_⟩
    have hrx := hvalid.rx
    revert hrx
    unfold RxFollows Schedule.Follows
    decide +kernel

/-- The same signal a tenth of a second later. -/
def exampleLaterTxConfig : TxStreamingConfig Wire :=
  { exampleTxConfig with sendTimeOffset := 1 / 10 }

/-- Two configs, and then another RF configuration. -/
def exampleStoringCalls : List (Call Wire) :=
  [.event (.setTxConfig exampleTxConfig), .event (.setTxConfig exampleLaterTxConfig),
    .event (.setRfConfig exampleTwoStreams (Components.obedient exampleTwoStreams))]

/-- After the RF configuration has changed, both configs are still stored; the second one was
accepted behind the first one. -/
theorem storedConfigs_valid_example :
    ∃ k < 3, (Machine.run (callStep exampleEnvironment) exampleUsrp
        (exampleStoringCalls.take k)).txStreamingConfigs = [exampleTxConfig] ∧
      TxValid (Machine.run (callStep exampleEnvironment) exampleUsrp (exampleStoringCalls.take k))
        (some exampleTxConfig) exampleLaterTxConfig := by
  have hstored : (Machine.run (callStep exampleEnvironment) exampleUsrp
      exampleStoringCalls).txStreamingConfigs = [exampleTxConfig, exampleLaterTxConfig] := by
    decide +kernel
  obtain ⟨k, hk, hbefore, hvalid⟩ :=
    (storedConfigs_valid (E := exampleEnvironment) (u := exampleUsrp) rfl rfl
      exampleStoringCalls).1 1 exampleLaterTxConfig (by rw [hstored]; rfl)
  rw [hstored] at hbefore hvalid
  exact ⟨k, hk, hbefore, hvalid⟩

end Usrp

end UsrpWrapper
