import UsrpWrapper.RfReconfiguration
import Mathlib.Data.List.Nodup

/-!
# Antenna routing

A stream reaches its radio channel in two conversions: `mapStreamToAntenna` looks
up the antenna and returns it as a `uint`, and `getRadioChannelPair`,
`getDDCChannelPair` and `getDUCChannelPair` split the antenna, an `int` again,
into a block and a channel of this block.

`checkMapping` compares the entries of a mapping with `NUM_ANTENNAS` from above
only.  `antennaRouting_iff` says for which mappings the streams of both directions
are spread over different channels that exist (`Routed`).
-/

namespace UsrpWrapper

open Lib.Command

namespace StreamMapper

/-! ## The channels of a stream -/

section

variable (b : RfNocBlocks) (mapping : List Int32) (streamIdx : UInt32)

/-- The radio channel a stream is configured and connected to. -/
def radioOfStream : Except Fault Channel := do
  let antenna ← mapStreamToAntenna streamIdx mapping
  b.getRadioChannelPair antenna.toInt32

/-- The DDC channel whose output rate is set for a stream. -/
def ddcOfStream : Except Fault Channel := do
  let antenna ← mapStreamToAntenna streamIdx mapping
  return b.getDDCChannelPair antenna.toInt32

/-- The DUC channel whose input rate is set for a stream. -/
def ducOfStream : Except Fault Channel := do
  let antenna ← mapStreamToAntenna streamIdx mapping
  return b.getDUCChannelPair antenna.toInt32

end

/-- The streams are spread over different existing channels, and their DDCs and
DUCs are those of the same radio and channel. -/
structure Routed (b : RfNocBlocks) (mapping : List Int32) (numStreams : ℕ) : Prop where
  exists_channel : ∀ s < numStreams, ∃ radio, radioOfStream b mapping (UInt32.ofNat s) = .ok radio ∧
    0 ≤ radio.2.toInt ∧ radio.2.toInt < b.numAntennasPerRadio.toInt
  distinct : ∀ s < numStreams, ∀ t < numStreams,
    radioOfStream b mapping (UInt32.ofNat s) = radioOfStream b mapping (UInt32.ofNat t) → s = t
  ddc : ∀ s < numStreams,
    ddcOfStream b mapping (UInt32.ofNat s) = radioOfStream b mapping (UInt32.ofNat s)
  duc : ∀ s < numStreams,
    ducOfStream b mapping (UInt32.ofNat s) = radioOfStream b mapping (UInt32.ofNat s)

/-- The entries are antennas, and no antenna is used twice. -/
def ValidMapping (mapping : List Int32) : Prop :=
  (∀ antenna ∈ mapping, 0 ≤ antenna) ∧ mapping.Nodup

instance (mapping : List Int32) : Decidable (ValidMapping mapping) :=
  inferInstanceAs (Decidable (_ ∧ _))

end StreamMapper

/-! ## Splitting an antenna -/

namespace RfNocBlocks

variable {b : RfNocBlocks} {antenna antenna' : Int32}

/-- The channel of an antenna of the second radio. -/
theorem toInt_sub_numAntennasPerRadio (hn : 2 ≤ b.numAntennasPerRadio.toInt)
    (hlt : antenna.toInt < 4) (hge : ¬ antenna < b.numAntennasPerRadio) :
    (antenna - b.numAntennasPerRadio).toInt = antenna.toInt - b.numAntennasPerRadio.toInt := by
  rw [Int32.lt_iff_toInt_lt] at hge
  rw [Int32.toInt_sub]
  exact Int.bmod_eq_of_le (by omega) (by omega)

/-- With two channels a radio, every antenna below 4 has one, and it is the one
the DDCs and DUCs use. -/
theorem getRadioChannelPair_eq (hn : 2 ≤ b.numAntennasPerRadio.toInt) (hlt : antenna.toInt < 4) :
    b.getRadioChannelPair antenna = .ok (b.getDDCChannelPair antenna) := by
  unfold getRadioChannelPair getDDCChannelPair
  by_cases hfirst : antenna < b.numAntennasPerRadio
  · rw [if_pos hfirst, if_pos hfirst]
  · have hsecond : antenna < 2 * b.numAntennasPerRadio := by
      rw [Int32.lt_iff_toInt_lt] at hfirst ⊢
      rw [Int32.toInt_mul, show (2 : Int32).toInt = 2 from rfl,
        Int.bmod_eq_of_le (by omega) (by omega)]
      omega
    rw [if_neg hfirst, if_neg hfirst, if_pos hsecond]

/-- The channel exists exactly if the antenna is not negative. -/
theorem channel_exists_iff (hn : 2 ≤ b.numAntennasPerRadio.toInt) (hlt : antenna.toInt < 4) :
    0 ≤ (b.getDDCChannelPair antenna).2.toInt ∧
      (b.getDDCChannelPair antenna).2.toInt < b.numAntennasPerRadio.toInt ↔ 0 ≤ antenna := by
  rw [Int32.le_iff_toInt_le, Int32.toInt_zero]
  unfold getDDCChannelPair
  by_cases hfirst : antenna < b.numAntennasPerRadio
  · rw [if_pos hfirst]
    rw [Int32.lt_iff_toInt_lt] at hfirst
    exact and_iff_left hfirst
  · rw [if_neg hfirst]
    have hchannel := toInt_sub_numAntennasPerRadio hn hlt hfirst
    rw [Int32.lt_iff_toInt_lt] at hfirst
    simp only [hchannel]
    omega

/-- Different antennas have different channels. -/
theorem getDDCChannelPair_inj :
    b.getDDCChannelPair antenna = b.getDDCChannelPair antenna' ↔ antenna = antenna' := by
  refine ⟨fun h => ?_, fun h => by rw [h]⟩
  unfold getDDCChannelPair at h
  by_cases hfirst : antenna < b.numAntennasPerRadio <;>
    by_cases hfirst' : antenna' < b.numAntennasPerRadio
  · rw [if_pos hfirst, if_pos hfirst'] at h
    exact congrArg Prod.snd h
  · rw [if_pos hfirst, if_neg hfirst'] at h
    cases congrArg Prod.fst h
  · rw [if_neg hfirst, if_pos hfirst'] at h
    cases congrArg Prod.fst h
  · rw [if_neg hfirst, if_neg hfirst'] at h
    exact (Int32.sub_left_inj b.numAntennasPerRadio).mp (congrArg Prod.snd h)

end RfNocBlocks

/-! ## Accepted mappings -/

namespace StreamMapper

variable {b : RfNocBlocks} {mapping chosen : List Int32}

/-- The antennas a check of a mapping accepts. -/
theorem lt_of_checkMapping {numStreams : UInt32} (h : checkMapping mapping numStreams = .ok ()) :
    ∀ antenna ∈ mapping, antenna.toInt < 4 := by
  intro antenna hmem
  have hentry := forM_except_eq_ok (check_bind_eq_ok_iff.mp h).2 antenna hmem
  rw [check_eq_ok_iff, Int32.le_iff_toInt_le] at hentry
  exact not_le.mp hentry

/-- The default mapping of up to four streams. -/
theorem toInt_of_mem_defaultMapping {numStreams : UInt32} (hle : numStreams.toNat ≤ 4)
    {antenna : Int32} (hmem : antenna ∈ defaultMapping numStreams) :
    ∃ s < numStreams.toNat, antenna = Int32.ofNat s ∧ antenna.toInt = s := by
  obtain ⟨s, hs, rfl⟩ := List.mem_map.mp hmem
  rw [List.mem_range] at hs
  exact ⟨s, hs, rfl, Int32.toInt_ofNat_of_lt (by omega)⟩

theorem validMapping_defaultMapping {numStreams : UInt32} (hle : numStreams.toNat ≤ 4) :
    ValidMapping (defaultMapping numStreams) := by
  refine ⟨fun antenna hmem => ?_, ?_⟩
  · obtain ⟨s, -, -, hval⟩ := toInt_of_mem_defaultMapping hle hmem
    rw [Int32.le_iff_toInt_le, Int32.toInt_zero, hval]
    exact Int.natCast_nonneg s
  · refine List.Nodup.map_on ?_ List.nodup_range
    intro s hs t ht hst
    rw [List.mem_range] at hs ht
    have hval := congrArg Int32.toInt hst
    rw [Int32.toInt_ofNat_of_lt (by omega), Int32.toInt_ofNat_of_lt (by omega)] at hval
    exact_mod_cast hval

/-- Which mapping is chosen, and what is known of its entries. -/
theorem validMapping_chosen {numStreams : Int32} (hle : numStreams.toUInt32.toNat ≤ 4)
    (h : chooseMapping mapping numStreams = .ok chosen) :
    (∀ antenna ∈ chosen, antenna.toInt < 4) ∧ (ValidMapping chosen ↔ ValidMapping mapping) := by
  unfold chooseMapping at h
  split at h
  · obtain ⟨_, hcheck, hpure⟩ := except_bind_eq_ok_iff.mp h
    cases hpure
    exact ⟨lt_of_checkMapping hcheck, Iff.rfl⟩
  · rename_i hempty
    cases h
    obtain rfl : mapping = [] := List.length_eq_zero_iff.mp (Nat.eq_zero_of_not_pos hempty)
    refine ⟨fun antenna hmem => ?_, ?_⟩
    · obtain ⟨s, hs, -, hval⟩ := toInt_of_mem_defaultMapping hle hmem
      omega
    · exact iff_of_true (validMapping_defaultMapping hle) ⟨fun _ h => (nomatch h), List.nodup_nil⟩

/-! ## Routing -/

/-- The radio channel of a stream of a mapping whose entries are below 4. -/
theorem radioOfStream_eq (hn : 2 ≤ b.numAntennasPerRadio.toInt)
    (hlt : ∀ antenna ∈ mapping, antenna.toInt < 4) (hsize : mapping.length ≤ 4) {s : ℕ}
    (hs : s < mapping.length) :
    radioOfStream b mapping (UInt32.ofNat s) = .ok (b.getDDCChannelPair mapping[s]) := by
  rw [radioOfStream, mapStreamToAntenna_of_lt hs (by omega)]
  show b.getRadioChannelPair (mapping[s]).toUInt32.toInt32 = _
  rw [Int32.toInt32_toUInt32, RfNocBlocks.getRadioChannelPair_eq hn (hlt _ (List.getElem_mem hs))]

theorem ddcOfStream_eq (hsize : mapping.length ≤ 4) {s : ℕ} (hs : s < mapping.length) :
    ddcOfStream b mapping (UInt32.ofNat s) = .ok (b.getDDCChannelPair mapping[s]) := by
  rw [ddcOfStream, mapStreamToAntenna_of_lt hs (by omega)]
  show Except.ok (b.getDDCChannelPair (mapping[s]).toUInt32.toInt32) = _
  rw [Int32.toInt32_toUInt32]

/-- **When the streams of one direction are routed**: exactly if the entries of
the mapping are antennas and no two are the same. -/
theorem routed_iff (hn : 2 ≤ b.numAntennasPerRadio.toInt)
    (hlt : ∀ antenna ∈ mapping, antenna.toInt < 4) (hsize : mapping.length ≤ 4) :
    Routed b mapping mapping.length ↔ ValidMapping mapping := by
  constructor
  · intro h
    refine ⟨fun antenna hmem => ?_, List.nodup_iff_injective_get.mpr fun s t hst => ?_⟩
    · obtain ⟨s, hs, rfl⟩ := List.getElem_of_mem hmem
      obtain ⟨radio, hradio, hrange⟩ := h.exists_channel s hs
      rw [radioOfStream_eq hn hlt hsize hs] at hradio
      cases hradio
      exact (RfNocBlocks.channel_exists_iff hn (hlt _ hmem)).mp hrange
    · apply Fin.ext
      refine h.distinct s s.isLt t t.isLt ?_
      rw [radioOfStream_eq hn hlt hsize s.isLt, radioOfStream_eq hn hlt hsize t.isLt]
      exact congrArg (fun antenna => Except.ok (b.getDDCChannelPair antenna)) hst
  · rintro ⟨hpos, hnodup⟩
    refine ⟨fun s hs => ?_, fun s hs t ht hst => ?_, fun s hs => ?_, fun s hs => ?_⟩
    · have hmem := List.getElem_mem hs
      exact ⟨_, radioOfStream_eq hn hlt hsize hs,
        (RfNocBlocks.channel_exists_iff hn (hlt _ hmem)).mpr (hpos _ hmem)⟩
    · rw [radioOfStream_eq hn hlt hsize hs, radioOfStream_eq hn hlt hsize ht,
        Except.ok.injEq] at hst
      exact (hnodup.getElem_inj_iff).mp (RfNocBlocks.getDDCChannelPair_inj.mp hst)
    · rw [radioOfStream_eq hn hlt hsize hs, ddcOfStream_eq hsize hs]
    · rw [radioOfStream_eq hn hlt hsize hs]
      exact ddcOfStream_eq hsize hs

/-- **Antenna routing.**  After a call that accepts the mappings of a config, the
streams of both directions are routed to different existing channels exactly if
the entries of each mapping are not negative and no two are the same. -/
theorem antennaRouting_iff {conf : RfConfig} {m m' : StreamMapper}
    (hn : 2 ≤ b.numAntennasPerRadio) (hcounts : StreamCountsOk conf)
    (h : setRfConfig conf m = .ok () m') :
    Routed b m'.txMapping conf.noTxStreams.toInt.toNat ∧
        Routed b m'.rxMapping conf.noRxStreams.toInt.toNat ↔
      ValidMapping conf.txAntennaMapping ∧ ValidMapping conf.rxAntennaMapping := by
  rw [Int32.le_iff_toInt_le] at hn
  -- one direction, whose mapping was chosen
  have hdirection {mapping chosen : List Int32} {n : Int32} (hpos : 1 ≤ n.toInt)
      (hle : n.toInt ≤ 4) (hchosen : chooseMapping mapping n = .ok chosen) :
      Routed b chosen n.toInt.toNat ↔ ValidMapping mapping := by
    have hlen := length_of_chooseMapping hchosen
    have hcount := RFConfiguration.toNat_toUInt32_of_pos hpos
    obtain ⟨hlt, hvalid⟩ := validMapping_chosen (by omega) hchosen
    rw [← hcount, ← hlen, routed_iff hn hlt (by omega), hvalid]
  rw [setRfConfig_apply] at h
  cases htx : chooseMapping conf.txAntennaMapping conf.noTxStreams with
  | error e =>
      rw [htx] at h
      cases h
  | ok tx =>
      cases hrx : chooseMapping conf.rxAntennaMapping conf.noRxStreams with
      | error e =>
          rw [htx, hrx] at h
          cases h
      | ok rx =>
          rw [htx, hrx] at h
          cases h
          exact and_congr (hdirection hcounts.tx_pos hcounts.tx_le htx)
            (hdirection hcounts.rx_pos hcounts.rx_le hrx)

open Components

/-- A config with this TX mapping and the default RX mapping of one stream. -/
def exampleMapping (noTxStreams : Int32) (txAntennaMapping : List Int32) : RfConfig :=
  { exampleConfig 122880000 122880000 with noTxStreams, txAntennaMapping }

/-- A negative entry is accepted and leads to channel `-1`; two streams on the
same antenna are accepted as well. -/
theorem antennaRouting_fails :
    (∃ m, setRfConfig (exampleMapping 1 [-1]) ⟨[], []⟩ = .ok () m ∧
        ¬ Routed exampleDevice m.txMapping 1) ∧
      ∃ m, setRfConfig (exampleMapping 2 [0, 0]) ⟨[], []⟩ = .ok () m ∧
        ¬ Routed exampleDevice m.txMapping 2 := by
  refine ⟨⟨⟨[-1], [0]⟩, rfl, fun h => ?_⟩, ⟨⟨[0, 0], [0]⟩, rfl, fun h => ?_⟩⟩
  · obtain ⟨radio, hradio, hpos, -⟩ := h.exists_channel 0 (by decide)
    cases hradio
    exact absurd hpos (by decide)
  · exact absurd (h.distinct 0 (by decide) 1 (by decide) rfl) (by decide)

/-- Two TX streams on the antennas 3 and 1. -/
theorem antennaRouting_example :
    ∃ m, setRfConfig (exampleMapping 2 [3, 1]) ⟨[], []⟩ = .ok () m ∧
      Routed exampleDevice m.txMapping 2 ∧ Routed exampleDevice m.rxMapping 1 := by
  have haccepted : setRfConfig (exampleMapping 2 [3, 1]) ⟨[], []⟩ = .ok () ⟨[3, 1], [0]⟩ := rfl
  have hcounts : StreamCountsOk (exampleMapping 2 [3, 1]) :=
    ⟨by decide, by decide, by decide, by decide⟩
  have htx : ValidMapping [3, 1] := ⟨by simp, by simp⟩
  have hrx : ValidMapping [] := ⟨by simp, by simp⟩
  exact ⟨_, haccepted, (antennaRouting_iff (by decide) hcounts haccepted).mpr ⟨htx, hrx⟩⟩

end StreamMapper

end UsrpWrapper
