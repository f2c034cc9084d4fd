import UsrpWrapper.Config

/-!
# Streams, antennas and blocks

`StreamMapperBase` (`stream_mapper.cpp`) stores which antenna each stream uses,
and `RfNocBlocks` and `RFConfiguration` translate an antenna into a channel of
one of the two radio, DDC or DUC blocks.

A mapping entry is an `int`.  `mapStreamToAntenna` returns it as a `uint` and the
callers convert it back, so a negative entry, which `checkMapping` accepts,
reaches `getRadioChannelPair` unchanged.
-/

namespace UsrpWrapper

open Lib.Command

/-! ## The stream mapper -/

/-- `NUM_ANTENNAS`: the bound the entries of a mapping are compared with. -/
def NUM_ANTENNAS : Int32 := 4

/-- The antenna of each TX and of each RX stream. -/
structure StreamMapper where
  txMapping : List Int32
  rxMapping : List Int32
  deriving DecidableEq

namespace StreamMapper

/-- A member function of the mapper. -/
abbrev MapperM := EStateM Fault StreamMapper

/-- `checkMapping`; the comparison of the lengths is one of unsigned numbers. -/
def checkMapping (mapping : List Int32) (numStreams : UInt32) : Except Fault Unit := do
  check (mapping.length ≠ numStreams.toNat) (.usrp .mappingLengthMismatch)
  mapping.forM fun antenna => check (NUM_ANTENNAS ≤ antenna) (.usrp .mappingInvalidAntenna)

/-- `defaultMapping`: stream `i` uses antenna `i`. -/
def defaultMapping (numStreams : UInt32) : List Int32 :=
  (List.range numStreams.toNat).map Int32.ofNat

/-- The mapping a config asks for: its own, if it has one that passes the check,
and the default mapping otherwise. -/
def chooseMapping (mapping : List Int32) (numStreams : Int32) : Except Fault (List Int32) :=
  if 0 < mapping.length then do
    checkMapping mapping numStreams.toUInt32
    return mapping
  else return defaultMapping numStreams.toUInt32

/-- `setRfConfig`: the TX mapping is stored before the RX mapping is checked. -/
def setRfConfig (config : RfConfig) : MapperM Unit := do
  let txMapping ← liftE (chooseMapping config.txAntennaMapping config.noTxStreams)
  modify fun m => { m with txMapping }
  let rxMapping ← liftE (chooseMapping config.rxAntennaMapping config.noRxStreams)
  modify fun m => { m with rxMapping }

/-- `applyDefaultMapping`, for both directions. -/
def applyDefaultMapping (numStreams : UInt32) : StreamMapper :=
  ⟨defaultMapping numStreams, defaultMapping numStreams⟩

/-- `mapStreamToAntenna`: the entry of a stream; a negative one becomes a large antenna number. -/
def mapStreamToAntenna (streamIdx : UInt32) (mapping : List Int32) : Except Fault UInt32 :=
  match mapping[streamIdx.toNat]? with
  | none => .error (.usrp .streamIdxOutOfBounds)
  | some antenna => .ok antenna.toUInt32

/-- `mapTxStreamToAntenna`. -/
def mapTxStreamToAntenna (m : StreamMapper) (streamIdx : UInt32) : Except Fault UInt32 :=
  mapStreamToAntenna streamIdx m.txMapping

/-- `mapRxStreamToAntenna`. -/
def mapRxStreamToAntenna (m : StreamMapper) (streamIdx : UInt32) : Except Fault UInt32 :=
  mapStreamToAntenna streamIdx m.rxMapping

/-- `getNumTxStreams`: the length of the TX mapping. -/
def getNumTxStreams (m : StreamMapper) : UInt32 := UInt32.ofNat m.txMapping.length

/-- `getNumRxStreams`: the length of the RX mapping. -/
def getNumRxStreams (m : StreamMapper) : UInt32 := UInt32.ofNat m.rxMapping.length

end StreamMapper

/-! ## Channels -/

/-- The first or the second block of a kind. -/
inductive BlockNumber where
  | first
  | second
  deriving DecidableEq

/-- A channel of a radio, DDC or DUC block. -/
abbrev Channel := BlockNumber × Int32

/-- The device: the ports of a radio, the tick rate, whether the image has DDCs
and DUCs, and the decimation property of a DDC that is set to an output rate. -/
structure RfNocBlocks where
  numAntennasPerRadio : Int32
  masterClockRate : ℚ
  supportsDecimation : Bool
  decimation : ℚ → ℤ

namespace RfNocBlocks

/-- `getRadioChannelPair`: the antennas are counted through both radios. -/
def getRadioChannelPair (b : RfNocBlocks) (antenna : Int32) : Except Fault Channel :=
  if antenna < b.numAntennasPerRadio then .ok (.first, antenna)
  else if antenna < 2 * b.numAntennasPerRadio then
    .ok (.second, antenna - b.numAntennasPerRadio)
  else .error (.usrp .antennaNotAvailable)

/-- `getDDCChannelPair`, which does not reject antennas. -/
def getDDCChannelPair (b : RfNocBlocks) (antenna : Int32) : Channel :=
  if antenna < b.numAntennasPerRadio then (.first, antenna)
  else (.second, antenna - b.numAntennasPerRadio)

/-- `getDUCChannelPair`. -/
def getDUCChannelPair (b : RfNocBlocks) (antenna : Int32) : Channel :=
  b.getDDCChannelPair antenna

end RfNocBlocks

/-! ## Properties of mappings -/

namespace StreamMapper

/-- A mapping that passes the check has one entry for each stream. -/
theorem length_of_checkMapping {mapping : List Int32} {numStreams : UInt32}
    (h : checkMapping mapping numStreams = .ok ()) : mapping.length = numStreams.toNat := by
  rw [checkMapping, check_bind_eq_ok_iff, not_not] at h
  exact h.1

theorem length_of_chooseMapping {mapping chosen : List Int32} {numStreams : Int32}
    (h : chooseMapping mapping numStreams = .ok chosen) :
    chosen.length = numStreams.toUInt32.toNat := by
  unfold chooseMapping at h
  split at h
  · obtain ⟨_, hcheck, hpure⟩ := except_bind_eq_ok_iff.mp h
    cases hpure
    exact length_of_checkMapping hcheck
  · cases h
    simp [defaultMapping]

theorem mapStreamToAntenna_of_lt {mapping : List Int32} {s : ℕ} (h : s < mapping.length)
    (hsize : mapping.length ≤ 2 ^ 32) :
    mapStreamToAntenna (UInt32.ofNat s) mapping = .ok (mapping[s]).toUInt32 := by
  rw [mapStreamToAntenna, UInt32.toNat_ofNat', Nat.mod_eq_of_lt (by omega),
    List.getElem?_eq_getElem h]

/-- The states `setRfConfig` can leave: nothing changed, only the TX mapping
stored, or both mappings stored. -/
theorem setRfConfig_apply (config : RfConfig) (m : StreamMapper) :
    setRfConfig config m =
      match chooseMapping config.txAntennaMapping config.noTxStreams with
      | .error e => .error e m
      | .ok tx =>
          match chooseMapping config.rxAntennaMapping config.noRxStreams with
          | .error e => .error e { m with txMapping := tx }
          | .ok rx => .ok () ⟨tx, rx⟩ := by
  unfold setRfConfig
  cases htx : chooseMapping config.txAntennaMapping config.noTxStreams with
  | error e => exact bind_of_error (liftE_error e m)
  | ok tx =>
      rw [bind_of_ok (liftE_ok tx m), bind_of_ok (modify_apply _ _)]
      cases hrx : chooseMapping config.rxAntennaMapping config.noRxStreams with
      | error e => exact bind_of_error (liftE_error e _)
      | ok rx =>
          rw [bind_of_ok (liftE_ok rx _)]
          rfl

end StreamMapper

end UsrpWrapper
