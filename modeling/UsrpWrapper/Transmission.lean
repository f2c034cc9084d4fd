import UsrpWrapper.Execution
import UsrpWrapper.ReplayOrder

/-!
# Transmission from end to end

The upload stores the signals of the TX configs in the TX buffer, one block for
each config (`uploaded_of_uploadConfigs`).  The transmit thread then plays the
blocks one after the other (`TxProgress`).  What the receive thread records
meanwhile stays out of the TX buffer, for any list of RX configs (`RxAway`): so
each step plays the signals of its config (`transmission_correct`).
-/

namespace UsrpWrapper

open Lib Lib.Command

namespace Usrp

open ReplayBlockConfig BlockOffsetTracker

variable {α : Type} {E : Environment α}

/-! ## Signals and blocks -/

/-- A stored config: one signal for each stream, all of the length `len`. -/
structure Uniform (tx len : ℕ) (c : TxStreamingConfig α) : Prop where
  streams : c.samples.length = tx
  length : ∀ signal ∈ c.samples, signal.length = len
  len_le : len ≤ MAX_SAMPLES_TX_SIGNAL

/-- A stored config has one signal for each stream, all of one length. -/
theorem StoredAs.uniform {zero : α} {tx len : ℕ} {conf c : TxStreamingConfig α}
    (h : StoredAs zero tx len conf c) : Uniform tx len c :=
  ⟨h.streams, h.length, h.len_le⟩

/-- The words of a stream. -/
def content (E : Environment α) (c : TxStreamingConfig α) (s : ℕ) : List Wire :=
  ((c.samples[s]?).getD []).map E.format.toWire

/-- The number of samples `performUpload` takes from the first signal. -/
def signalLength (c : TxStreamingConfig α) : ℕ := ((c.samples[0]?).getD []).length

/-- The block of an uploaded config. -/
def uploadBlock (c : TxStreamingConfig α) : ReplayBlock :=
  newBlock (UInt64.ofNat (signalLength c)) 1 0

section

variable {tx len : ℕ} {c : TxStreamingConfig α} {first : List α}

theorem Uniform.content_length (h : Uniform tx len c) {s : ℕ} (hs : s < tx) :
    (content E c s).length = len := by
  rw [← h.streams] at hs
  rw [content, List.length_map, List.getElem?_eq_getElem hs, Option.getD_some]
  exact h.length _ (List.getElem_mem hs)

theorem Uniform.signalLength_eq (h : Uniform tx len c) (htx : 0 < tx) : signalLength c = len := by
  rw [← h.streams] at htx
  rw [signalLength, List.getElem?_eq_getElem htx, Option.getD_some]
  exact h.length _ (List.getElem_mem htx)

/-- The first signal has the length of the config. -/
theorem length_of_firstSignal (h : firstSignal c.samples = .ok first) :
    first.length = signalLength c := by
  rw [signalLength, ← headD_of_firstSignal h [], List.headD_eq_head?_getD, List.head?_eq_getElem?]

theorem Uniform.toNat_len (h : Uniform tx len c) : (UInt64.ofNat len).toNat = len := by
  have hle := h.len_le
  rw [show MAX_SAMPLES_TX_SIGNAL = 200000 from rfl] at hle
  rw [UInt64.toNat_ofNat']
  omega

theorem Uniform.exactTotal (h : Uniform tx len c) (htx : 0 < tx) :
    (uploadBlock c).exactTotal = len := by
  have hone : (uploadBlock c).repetitions.toNat = 1 := rfl
  have hperiod : (uploadBlock c).repetitionPeriod = UInt64.ofNat len := by
    rw [← h.signalLength_eq htx]
    rfl
  rw [ReplayBlock.exactTotal, hone, hperiod, h.toNat_len, Nat.mul_one]

end

/-! ## The upload of one config -/

section

variable {r : ReplayBlockConfig} {h h' : ReplayHardware} {contents : List (ℕ → List Wire)}
  {c : TxStreamingConfig α} {block : ReplayBlock}

/-- Part way through an upload: the first `total` words of every stream have
arrived, and of the first `p` streams `more` others. -/
def arrived (E : Environment α) (c : TxStreamingConfig α) (total more p : ℕ) (s : ℕ) : List Wire :=
  (content E c s).take (if s < p then total + more else total)

/-- Uploaded so far: the blocks before this one, and `current` of this one. -/
def Uploading (r : ReplayBlockConfig) (contents : List (ℕ → List Wire)) (block : ReplayBlock)
    (current : ℕ → List Wire) (h : ReplayHardware) : Prop :=
  Holding r .tx h contents ∧ Recording r .tx h contents.length block current

theorem arrived_of_lt {total more p s : ℕ} (hs : s < p) :
    arrived E c total more p s = (content E c s).take (total + more) := by
  rw [arrived, if_pos hs]

theorem arrived_of_ge {total more p s : ℕ} (hs : p ≤ s) :
    arrived E c total more p s = (content E c s).take total := by
  rw [arrived, if_neg (by omega)]

/-- The packet of stream `p` arrives. -/
theorem update_arrived (total more p : ℕ) :
    Function.update (arrived E c total more p) p
        (arrived E c total more p p ++ ((content E c p).drop total).take more) =
      arrived E c total more (p + 1) := by
  funext s
  rcases Nat.lt_trichotomy s p with hlt | rfl | hgt
  · rw [Function.update_of_ne hlt.ne, arrived_of_lt hlt, arrived_of_lt (by omega)]
  · rw [Function.update_self, arrived_of_ge le_rfl, arrived_of_lt (Nat.lt_succ_self s),
      List.take_add]
  · rw [Function.update_of_ne hgt.ne', arrived_of_ge hgt.le, arrived_of_ge hgt]

/-- The words of a packet of stream `p`. -/
theorem map_toWire_packet {p : ℕ} {signal : List α} (hsignal : c.samples[p]? = some signal)
    (total more : ℕ) : ((signal.drop total).take more).map E.format.toWire =
      ((content E c p).drop total).take more := by
  rw [content, hsignal, Option.getD_some, List.map_take, List.map_drop]

/-- The loop of `send` over the streams; the induction is on the streams that are
left, from stream `p` on. -/
theorem uploading_send_from (hfits : r.DirectionFits .tx)
    (hblock : (r.blocks .tx).replayBlocks[contents.length]? = some block)
    (htx : c.samples.length = (r.numStreams .tx).toNat)
    (hlen : ∀ s < (r.numStreams .tx).toNat, (content E c s).length = block.exactTotal)
    {total more : ℕ} (hmore : total + more ≤ block.exactTotal) :
    ∀ (rest : List (List α)) (p : ℕ) (h : ReplayHardware), c.samples.drop p = rest →
      Uploading r contents block (arrived E c total more p) h →
        Uploading r contents block (arrived E c total more c.samples.length)
          ((rest.zipIdx p).foldl (fun h (signal, port) =>
            (((signal.drop total).take more).map E.format.toWire).foldl
              (fun h w => h.store port w) h) h) := by
  intro rest
  induction rest with
  | nil =>
      intro p h hrest hup
      have hp : c.samples.length ≤ p := List.drop_eq_nil_iff.mp hrest
      refine ⟨hup.1, ?_⟩
      refine hup.2.of_eq fun s hs => ?_
      rw [← htx] at hs
      rw [arrived_of_lt hs, arrived_of_lt (by omega)]
  | cons signal rest ih =>
      intro p h hrest hup
      have hp : p < c.samples.length := by
        by_contra hge
        rw [List.drop_eq_nil_of_le (by omega)] at hrest
        cases hrest
      rw [List.drop_eq_getElem_cons hp] at hrest
      obtain ⟨rfl, hrest'⟩ := List.cons.inj hrest
      have hp' : p < (r.numStreams .tx).toNat := by rw [← htx]; exact hp
      have hwords := map_toWire_packet (E := E) (List.getElem?_eq_getElem hp) total more
      have hroom : (arrived E c total more p p).length +
          (((content E c p).drop total).take more).length ≤ block.exactTotal := by
        have hlenp := hlen p hp'
        rw [arrived_of_ge le_rfl, List.length_take, List.length_take, List.length_drop]
        omega
      have hstored := hup.2.storeAll hup.1 hfits hblock hp' _ hroom
      rw [update_arrived] at hstored
      rw [List.zipIdx_cons, List.foldl_cons]
      simp only [hwords]
      exact ih (p + 1) _ hrest' hstored

/-- **One packet of an upload.** -/
theorem uploading_send (hfits : r.DirectionFits .tx)
    (hblock : (r.blocks .tx).replayBlocks[contents.length]? = some block)
    (htx : c.samples.length = (r.numStreams .tx).toNat)
    (hlen : ∀ s < (r.numStreams .tx).toNat, (content E c s).length = block.exactTotal)
    {total more : ℕ} (hmore : total + more ≤ block.exactTotal) {g : FullDuplexGraph}
    (hup : Uploading r contents block (fun s => (content E c s).take total) g.replayBlock) :
    Uploading r contents block (fun s => (content E c s).take (total + more))
      (FullDuplexGraph.send E.format c.samples total more g).replayBlock := by
  have hstart : Uploading r contents block (arrived E c total more 0) g.replayBlock := by
    refine ⟨hup.1, hup.2.of_eq fun s _ => ?_⟩
    rw [arrived_of_ge (Nat.zero_le s)]
  have hend := uploading_send_from hfits hblock htx hlen hmore c.samples 0 g.replayBlock rfl hstart
  refine ⟨hend.1, hend.2.of_eq fun s hs => ?_⟩
  rw [← htx] at hs
  rw [arrived_of_lt hs]

/-- The calls of an upload only reach the replay block. -/
def SameButReplay (g g' : FullDuplexGraph) : Prop := ∃ replayBlock, g' = { g with replayBlock }

/-- A block is complete when all its samples have arrived. -/
theorem uploading_of_take {total : ℕ} (hge : block.exactTotal ≤ total)
    (hlen : ∀ s < (r.numStreams .tx).toNat, (content E c s).length = block.exactTotal)
    (hup : Uploading r contents block (fun s => (content E c s).take total) h) :
    Uploading r contents block (content E c) h := by
  refine ⟨hup.1, hup.2.of_eq fun s hs => ?_⟩
  rw [List.take_of_length_le (by rw [hlen s hs]; exact hge)]

/-- **All packets of an upload.** -/
theorem uploading_sendPackets (hfits : r.DirectionFits .tx)
    (hblock : (r.blocks .tx).replayBlocks[contents.length]? = some block)
    (htx : c.samples.length = (r.numStreams .tx).toNat)
    (hlen : ∀ s < (r.numStreams .tx).toNat, (content E c s).length = block.exactTotal)
    {answers : List ℕ} {total : ℕ} {g g' : FullDuplexGraph} (htotal : total ≤ block.exactTotal)
    (hup : Uploading r contents block (fun s => (content E c s).take total) g.replayBlock)
    (hok : FullDuplexGraph.sendPackets E.format c.samples block.exactTotal answers total g =
      .ok () g') :
    Uploading r contents block (content E c) g'.replayBlock ∧ SameButReplay g g' := by
  induction answers generalizing total g with
  | nil =>
      unfold FullDuplexGraph.sendPackets at hok
      split at hok
      · cases hok
      · rename_i hge
        cases hok
        exact ⟨uploading_of_take (not_lt.mp hge) hlen hup, _, rfl⟩
  | cons answer answers ih =>
      unfold FullDuplexGraph.sendPackets at hok
      split at hok
      · rw [bind_of_ok (modify_apply _ _)] at hok
        obtain ⟨hall, replayBlock, hsame⟩ := ih (by omega)
          (uploading_send hfits hblock htx hlen (by omega) hup) hok
        exact ⟨hall, replayBlock, hsame⟩
      · rename_i hge
        cases hok
        exact ⟨uploading_of_take (not_lt.mp hge) hlen hup, _, rfl⟩

/-- **An upload that returns stores the signals of the config.** -/
theorem uploading_upload (hfits : r.DirectionFits .tx)
    (hblock : (r.blocks .tx).replayBlocks[contents.length]? = some block)
    (htx : c.samples.length = (r.numStreams .tx).toNat)
    (hlen : ∀ s < (r.numStreams .tx).toNat, (content E c s).length = block.exactTotal)
    (hfirst : signalLength c = block.exactTotal) {a : UploadAnswers} {g g' : FullDuplexGraph}
    (hup : Uploading r contents block (fun _ => []) g.replayBlock)
    (hok : FullDuplexGraph.upload E.format c.samples a g = .ok () g') :
    Uploading r contents block (content E c) g'.replayBlock ∧ SameButReplay g g' := by
  obtain ⟨_, g₁, hcheck, hbody⟩ := bind_eq_ok_iff.mp hok
  obtain ⟨-, rfl⟩ := reads_eq_ok_iff.mp hcheck
  obtain ⟨first, g₂, hlift, hloop⟩ := bind_eq_ok_iff.mp hbody
  obtain ⟨hsignal, rfl⟩ := liftE_eq_ok_iff.mp hlift
  obtain ⟨_, g₃, hpackets, hevent⟩ := bind_eq_ok_iff.mp hloop
  rw [length_of_firstSignal hsignal, hfirst] at hpackets
  have hsame : g₃ = g' := by
    cases hcode : a.eventCode with
    | none =>
        rw [hcode] at hevent
        cases hevent
        rfl
    | some code =>
        rw [hcode] at hevent
        cases hevent
  subst hsame
  refine uploading_sendPackets hfits hblock htx hlen (Nat.zero_le _) ?_ hpackets
  exact ⟨hup.1, hup.2.of_eq fun s _ => List.take_zero⟩

end

/-! ## The upload of a list of configs -/

/-- The TX side of the device, once it has uploaded the configs `uploaded` and
started `k` plays. -/
structure TxSide (E : Environment α) (tx : ℕ) (uploaded : List (TxStreamingConfig α)) (k : ℕ)
    (u : Usrp α) : Prop where
  connected : u.fdGraph.numTxStreams.toNat = tx
  streams : (u.components.replayConfig.numStreams .tx).toNat = tx
  memSize : (u.components.replayConfig.blocks .tx).memSize.toNat =
    (buffer u.components.replayConfig.memSize.toNat .tx).size
  fits : u.components.replayConfig.DirectionFits .tx
  cursor : (u.components.replayConfig.blocks .tx).CursorOk
  done : (u.components.replayConfig.blocks .tx).replaysDone = k
  blocks : (u.components.replayConfig.blocks .tx).replayBlocks = uploaded.map uploadBlock
  holding : Holding u.components.replayConfig .tx u.fdGraph.replayBlock (uploaded.map (content E))

section

variable {tx : ℕ} {uploaded configs : List (TxStreamingConfig α)} {u u' : Usrp α}
  {c : TxStreamingConfig α} {k len : ℕ}

/-- At most 200000 samples of at most 4 streams never wrap. -/
theorem exactByteEnd_uploadBlock_lt (h : TxSide E tx uploaded k u) (hc : Uniform tx len c)
    (hpos : 0 < tx) (hle : tx ≤ 4) :
    (u.components.replayConfig.blocks .tx).exactByteEnd (uploadBlock c) < 2 ^ 64 := by
  have hsample : (u.components.replayConfig.blocks .tx).sampleSize.toNat = 4 := by
    rw [h.fits.sampleSize]
    rfl
  have hend := h.fits.end_le
  have hmem := u.components.replayConfig.memSize.toNat_lt
  have hlen := hc.len_le
  have hmax : MAX_SAMPLES_TX_SIGNAL = 200000 := rfl
  have hbytes : len * tx ≤ 200000 * 4 := Nat.mul_le_mul (by omega) hle
  rw [h.streams] at hend
  rw [exactByteEnd, hc.exactTotal hpos, h.fits.streams_eq, h.streams, hsample, Nat.add_mul,
    Nat.add_mul]
  simp only [buffer] at hend
  omega

/-- **The upload of the next config.** -/
theorem txSide_upload {replay : ReplayAnswers} {a : UploadAnswers} {r : ReplayBlockConfig}
    {g : FullDuplexGraph} (h : TxSide E tx uploaded k u)
    (hc : Uniform tx len c) (hpos : 0 < tx) (hle : tx ≤ 4)
    (hreplay : configUpload (UInt64.ofNat (signalLength c)) replay u.components.replayConfig =
      .ok () r)
    (hgraph : FullDuplexGraph.upload E.format c.samples a (putReplay r u).fdGraph = .ok () g) :
    TxSide E tx (uploaded ++ [c]) k { putReplay r u with fdGraph := g } := by
  obtain ⟨haccepted, hclear⟩ := configUpload_eq_ok_iff.mp hreplay
  have hrecorded : Recorded u.components.replayConfig .tx (uploadBlock c) r :=
    ⟨haccepted, clearRecordingBuffer_eq_ok hclear⟩
  have hext := hrecorded.extends
  have hfits := hrecorded.directionFits h.fits h.memSize (exactByteEnd_uploadBlock_lt h hc hpos hle)
  have hstreams : (r.numStreams .tx).toNat = tx :=
    (congrArg UInt64.toNat (hext.streams .tx)).trans h.streams
  have hblocks : (r.blocks .tx).replayBlocks = uploaded.map uploadBlock ++ [uploadBlock c] := by
    rw [hrecorded.blocks_eq, withBlock_replayBlocks, h.blocks]
  have hcount : (u.components.replayConfig.blocks .tx).replayBlocks.length =
      (uploaded.map (content E)).length := by
    rw [h.blocks, List.length_map, List.length_map]
  have hblock : (r.blocks .tx).replayBlocks[(uploaded.map (content E)).length]? =
      some (uploadBlock c) := by
    rw [hblocks, ← hcount, h.blocks, List.getElem?_concat_length]
  have hlen : ∀ s < (r.numStreams .tx).toNat,
      (content E c s).length = (uploadBlock c).exactTotal := by
    intro s hs
    rw [hstreams] at hs
    rw [hc.content_length hs, hc.exactTotal hpos]
  have hstart : Uploading r (uploaded.map (content E)) (uploadBlock c) (fun _ => [])
      (putReplay r u).fdGraph.replayBlock := by
    refine ⟨(h.holding.congr ⟨rfl, rfl, rfl⟩ (ReplayHardware.memory_commands _ _)).extends hext
      hcount.ge, ?_⟩
    have hrecording := recording_of_recorded hrecorded hfits u.fdGraph.replayBlock
    rw [hcount] at hrecording
    exact hrecording
  obtain ⟨⟨hheld, hrecording⟩, replayBlock, rfl⟩ := uploading_upload hfits hblock
    (hc.streams.trans hstreams.symm) hlen
    ((hc.signalLength_eq hpos).trans (hc.exactTotal hpos).symm) hstart hgraph
  refine ⟨h.connected, hstreams, ?_, hfits, ?_, ?_, ?_, ?_⟩
  · show (r.blocks .tx).memSize.toNat = (buffer r.memSize.toNat .tx).size
    rw [hrecorded.blocks_eq, hext.memSize]
    exact h.memSize
  · show (r.blocks .tx).CursorOk
    rw [hrecorded.blocks_eq]
    exact cursorOk_withBlock h.cursor _
  · show (r.blocks .tx).replaysDone = k
    rw [hrecorded.blocks_eq, replaysDone_withBlock h.cursor, h.done]
  · rw [List.map_append]
    exact hblocks
  · rw [List.map_append]
    exact hheld.concat hrecording hblock hlen

/-- **The upload of all configs.** -/
theorem txSide_uploadConfigs {a : ExecuteAnswers} {i : ℕ} (hpos : 0 < tx) (hle : tx ≤ 4)
    (hconfigs : ∀ c ∈ configs, ∃ len, Uniform tx len c) (h : TxSide E tx uploaded k u)
    (hok : uploadConfigs E a i configs u = .ok () u') : TxSide E tx (uploaded ++ configs) k u' := by
  induction configs generalizing i uploaded u with
  | nil =>
      cases hok
      rw [List.append_nil]
      exact h
  | cons c configs ih =>
      obtain ⟨first, u₁, hlift, hbody⟩ := bind_eq_ok_iff.mp hok
      obtain ⟨hfirst, rfl⟩ := liftE_eq_ok_iff.mp hlift
      obtain ⟨_, u₂, hrecord, hrest⟩ := bind_eq_ok_iff.mp hbody
      obtain ⟨r, hreplay, rfl⟩ := onField_eq_ok_iff.mp hrecord
      obtain ⟨_, u₃, hupload, htail⟩ := bind_eq_ok_iff.mp hrest
      obtain ⟨g, hgraph, rfl⟩ := onField_eq_ok_iff.mp hupload
      rw [length_of_firstSignal hfirst] at hreplay
      obtain ⟨len, hc⟩ := hconfigs c List.mem_cons_self
      have hside := txSide_upload h hc hpos hle hreplay hgraph
      have hend := ih (fun c' hc' => hconfigs c' (List.mem_cons_of_mem c hc')) hside htail
      rw [List.append_assoc, List.singleton_append] at hend
      exact hend

end

/-! ## Recordings stay away from the TX buffer -/

/-- Where the RX tracker records next: the end of its layout is in the RX buffer,
exactly if there are several streams, and as a word in any case. -/
structure RxEndOk (rx : ℕ) (r : ReplayBlockConfig) : Prop where
  streams : (r.numStreams .rx).toNat = rx
  tracker : (r.blocks .rx).numStreams = r.numStreams .rx
  sampleSize : (r.blocks .rx).sampleSize = SAMPLE_SIZE
  memSize : (r.blocks .rx).memSize.toNat = (buffer r.memSize.toNat .rx).size
  end_mod_le : layoutEnd (r.blocks .rx).replayBlocks * rx * 4 % 2 ^ 64 ≤
    (buffer r.memSize.toNat .rx).size
  end_le : 1 < rx → layoutEnd (r.blocks .rx).replayBlocks * rx * 4 ≤
    (buffer r.memSize.toNat .rx).size

section

variable {rx : ℕ} {r r' : ReplayBlockConfig} {block : ReplayBlock}

/-- With several streams a block is not repeated. -/
theorem exactTotal_le_of_streams (haccepted : (r.blocks .rx).RecordAccepted block)
    (hmany : 1 < (r.blocks .rx).numStreams.toNat)
    (hperiod : block.repetitionPeriod.toNat ≤ 2 ^ 32) :
    block.exactTotal ≤ 2 ^ 32 := by
  have hreps : block.repetitions.toNat ≤ 1 := by
    by_contra hlt
    refine haccepted.singleStream ⟨?_, ?_⟩
    · rw [UInt64.lt_iff_toNat_lt]
      exact not_le.mp hlt
    · rw [UInt64.lt_iff_toNat_lt]
      exact hmany
  calc block.exactTotal ≤ block.repetitionPeriod.toNat * 1 := Nat.mul_le_mul_left _ hreps
    _ ≤ 2 ^ 32 := by omega

/-- The exact offset of a slot of the new block. -/
theorem slotStart_withBlock (h : RxEndOk rx r) (s : ℕ) :
    (withBlock (r.blocks .rx) block).slotStart (r.blocks .rx).replayBlocks.length block s =
      layoutEnd (r.blocks .rx).replayBlocks * rx + block.exactTotal * s := by
  have hstart : Layout.start (blockSizes (withBlock (r.blocks .rx) block).replayBlocks)
      (r.blocks .rx).replayBlocks.length = layoutEnd (r.blocks .rx).replayBlocks := by
    rw [start_blockSizes, withBlock_replayBlocks, List.take_left]
  rw [slotStart, hstart,
    show (withBlock (r.blocks .rx) block).numStreams = (r.blocks .rx).numStreams from rfl,
    h.tracker, h.streams]

/-- What the capacity check has checked, modulo `2 ^ 64`. -/
theorem end_mod_lt_of_recorded (h : RxEndOk rx r) (hrec : Recorded r .rx block r') :
    (layoutEnd (r.blocks .rx).replayBlocks + block.exactTotal) * rx * 4 % 2 ^ 64 <
      (buffer r.memSize.toNat .rx).size := by
  have htracker : (r.blocks .rx).numStreams.toNat = rx := by rw [h.tracker, h.streams]
  have hsample : (r.blocks .rx).sampleSize.toNat = 4 := by
    rw [h.sampleSize]
    rfl
  have hfits := hrec.1.fits
  rw [FitsBuffer, exactByteEnd, htracker, hsample, h.memSize] at hfits
  exact hfits

/-- With several streams the sizes are small, so that the check is one of the exact
end. -/
theorem end_le_of_recorded (h : RxEndOk rx r) (hrec : Recorded r .rx block r') (hrx : rx ≤ 4)
    (hperiod : block.repetitionPeriod.toNat ≤ 2 ^ 32) (hmany : 1 < rx) :
    (layoutEnd (r.blocks .rx).replayBlocks + block.exactTotal) * rx * 4 ≤
      (buffer r.memSize.toNat .rx).size := by
  have htracker : (r.blocks .rx).numStreams.toNat = rx := by rw [h.tracker, h.streams]
  have htotal := exactTotal_le_of_streams hrec.1 (by rw [htracker]; exact hmany) hperiod
  have hend := h.end_le hmany
  have hbytes : block.exactTotal * rx ≤ 2 ^ 32 * 4 := Nat.mul_le_mul htotal hrx
  have hmem := r.memSize.toNat_lt
  have hlt : (layoutEnd (r.blocks .rx).replayBlocks + block.exactTotal) * rx * 4 < 2 ^ 64 := by
    rw [Nat.add_mul, Nat.add_mul]
    simp only [buffer] at hend
    omega
  have hmod := end_mod_lt_of_recorded h hrec
  rw [Nat.mod_eq_of_lt hlt] at hmod
  exact hmod.le

/-- **The capacity check keeps the end of the layout in the RX buffer.** -/
theorem rxEndOk_recorded (h : RxEndOk rx r) (hrec : Recorded r .rx block r') (hrx : rx ≤ 4)
    (hperiod : block.repetitionPeriod.toNat ≤ 2 ^ 32) : RxEndOk rx r' := by
  have hext := hrec.extends
  have hblocks : layoutEnd (r'.blocks .rx).replayBlocks =
      layoutEnd (r.blocks .rx).replayBlocks + block.exactTotal := by
    rw [hrec.blocks_eq, withBlock_replayBlocks, layoutEnd_append, layoutEnd_singleton]
  refine ⟨?_, ?_, ?_, ?_, ?_, ?_⟩
  · rw [hext.streams, h.streams]
  · rw [hext.streams, hext.trackerStreams, h.tracker]
  · rw [hrec.blocks_eq]
    exact h.sampleSize
  · rw [hrec.blocks_eq, hext.memSize]
    exact h.memSize
  · rw [hblocks, hext.memSize]
    exact (end_mod_lt_of_recorded h hrec).le
  · rw [hblocks, hext.memSize]
    exact end_le_of_recorded h hrec hrx hperiod

/-- **Every `record` starts behind the TX buffer.** -/
theorem offset_le_of_recorded (h : RxEndOk rx r) (hrec : Recorded r .rx block r') (hrx : rx ≤ 4)
    (hperiod : block.repetitionPeriod.toNat ≤ 2 ^ 32) {s : ℕ} (hs : s < rx) :
    (buffer r.memSize.toNat .rx).offset ≤ (r.bufferOffset .rx + offsetOf
      (withBlock (r.blocks .rx) block) (r.blocks .rx).replayBlocks.length 0 block s).toNat := by
  have hmem := r.memSize.toNat_lt
  have hbuffer := buffer_end_le r.memSize.toNat .rx
  have hsample : (withBlock (r.blocks .rx) block).sampleSize.toNat = 4 := by
    show (r.blocks .rx).sampleSize.toNat = 4
    rw [h.sampleSize]
    rfl
  have hoffset : (offsetOf (withBlock (r.blocks .rx) block) (r.blocks .rx).replayBlocks.length 0
      block s).toNat = (layoutEnd (r.blocks .rx).replayBlocks * rx + block.exactTotal * s) * 4 %
        2 ^ 64 := by
    rw [offsetOf, slotStart_withBlock h, hsample, UInt64.toNat_ofNat', Nat.zero_mul, Nat.add_zero]
  have hle : (layoutEnd (r.blocks .rx).replayBlocks * rx + block.exactTotal * s) * 4 % 2 ^ 64 ≤
      (buffer r.memSize.toNat .rx).size := by
    rcases Nat.lt_or_ge 1 rx with hmany | hone
    · have hend := end_le_of_recorded h hrec hrx hperiod hmany
      have hs' : block.exactTotal * s ≤ block.exactTotal * rx := Nat.mul_le_mul_left _ hs.le
      refine (Nat.mod_le _ _).trans ?_
      rw [Nat.add_mul] at hend
      omega
    · obtain rfl : s = 0 := by omega
      rw [Nat.mul_zero, Nat.add_zero]
      exact h.end_mod_le
  rw [UInt64.toNat_add, hoffset, toNat_bufferOffset]
  omega

end

/-- No port of the RX streams records below the RX buffer. -/
inductive RxAway (rx : ℕ) (u : Usrp α) : Prop
  | next (i : ℕ) (thread : u.receiveThread = .next i)
      (connected : u.fdGraph.numRxStreams.toNat = rx)
      (ends : RxEndOk rx u.components.replayConfig)
  | busy (i total : ℕ) (thread : u.receiveThread = .busy i total)
      (connected : u.fdGraph.numRxStreams.toNat = rx) (ends : RxEndOk rx u.components.replayConfig)
      (ports : ∀ s < rx, (buffer u.components.replayConfig.memSize.toNat .rx).offset ≤
        (u.fdGraph.replayBlock.recordPorts s).region.offset)
  | ended (thread : u.receiveThread = .finished)

section

variable {rx : ℕ} {u u' : Usrp α}

/-- A transmission does not move the RX half. -/
theorem RxEndOk.frame {r r' : ReplayBlockConfig} (h : RxEndOk rx r) (hagree : AgreeOn .rx r r') :
    RxEndOk rx r' := by
  refine ⟨?_, ?_, ?_, ?_, ?_, ?_⟩
  · rw [← hagree.streams, h.streams]
  · rw [← hagree.blocks, ← hagree.streams, h.tracker]
  · rw [← hagree.blocks, h.sampleSize]
  · rw [← hagree.blocks, ← hagree.memSize, h.memSize]
  · rw [← hagree.blocks, ← hagree.memSize]
    exact h.end_mod_le
  · rw [← hagree.blocks, ← hagree.memSize]
    exact h.end_le

/-- It does not move the record ports either. -/
theorem RxAway.frame (h : RxAway rx u) (f : RxFrame u u') : RxAway rx u' := by
  cases h with
  | next i thread connected ends =>
      refine .next i (f.thread.trans thread) ?_ (ends.frame f.agreeOn)
      rw [f.numRxStreams, connected]
  | busy i total thread connected ends ports =>
      refine .busy i total (f.thread.trans thread) ?_ (ends.frame f.agreeOn) ?_
      · rw [f.numRxStreams, connected]
      · rw [f.memSize, f.recordPorts]
        exact ports
  | ended thread => exact .ended (f.thread.trans thread)

theorem period_le (c : RxStreamingConfig) : c.period ≤ 2 ^ 32 := by
  have hlt := c.repetitionPeriod.toNat_lt
  have hsamples := c.numSamples.toNat_lt
  have haligned := c.wordAlignedNoSamples_toNat
  rw [RxStreamingConfig.period]
  split <;> omega

theorem RxAway.of_next {i : ℕ} (h : RxAway rx u) (hthread : u.receiveThread = .next i) :
    u.fdGraph.numRxStreams.toNat = rx ∧ RxEndOk rx u.components.replayConfig := by
  cases h with
  | next _ _ connected ends => exact ⟨connected, ends⟩
  | busy _ _ _ connected ends _ => exact ⟨connected, ends⟩
  | ended thread =>
      rw [hthread] at thread
      cases thread

/-- During a recording the ports point into the RX half. -/
theorem RxAway.of_busy {i total : ℕ} (h : RxAway rx u)
    (hthread : u.receiveThread = .busy i total) :
    u.fdGraph.numRxStreams.toNat = rx ∧ RxEndOk rx u.components.replayConfig ∧
      ∀ s < rx, (buffer u.components.replayConfig.memSize.toNat .rx).offset ≤
        (u.fdGraph.replayBlock.recordPorts s).region.offset := by
  cases h with
  | next _ thread _ _ =>
      rw [hthread] at thread
      cases thread
  | busy _ _ _ connected ends ports => exact ⟨connected, ends, ports⟩
  | ended thread =>
      rw [hthread] at thread
      cases thread

/-- A reception that starts records behind the TX buffer. -/
theorem rxAway_start {i total : ℕ} {c : RxStreamingConfig} {a : StreamAnswers} (hrx : rx ≤ 4)
    (connected : u.fdGraph.numRxStreams.toNat = rx) (ends : RxEndOk rx u.components.replayConfig)
    (hstart : startReceive E c a u = .ok total u') :
    RxAway rx { u' with receiveThread := .busy i total, receiving := fun _ => [] } := by
  obtain ⟨r, n, radioCommands, hreceive, -, -, rfl⟩ := startReceive_eq_ok hstart
  obtain ⟨haccepted, hclear⟩ := configReceive_eq_ok_iff.mp hreceive
  have hrecorded : Recorded u.components.replayConfig .rx (configBlock c) r :=
    ⟨haccepted, clearRecordingBuffer_eq_ok hclear⟩
  have hperiod : (configBlock c).repetitionPeriod.toNat ≤ 2 ^ 32 := by
    rw [repetitionPeriod_configBlock]
    exact period_le c
  refine .busy i total rfl connected (rxEndOk_recorded ends hrecorded hrx hperiod) fun s hs => ?_
  have hport := recordPorts_of_recorded hrecorded u.fdGraph.replayBlock
    (s := s) (by rw [ends.streams]; exact hs)
  show (buffer r.memSize.toNat .rx).offset ≤ ((u.fdGraph.replayBlock.commands
    (issuedSince u.components.replayConfig r)).recordPorts s).region.offset
  rw [hport, hrecorded.extends.memSize]
  exact offset_le_of_recorded ends hrecorded hrx hperiod hs

/-- Whatever the receive thread does, it records in its own half. -/
theorem rxAway_rxStep (hrx : rx ≤ 4) (h : RxAway rx u) (hstep : RxStep E u u') : RxAway rx u' := by
  cases hstep with
  | idle => exact h
  | exhausted i thread config => exact .ended rfl
  | start i total c a u' thread config started =>
      obtain ⟨connected, ends⟩ := h.of_next thread
      exact rxAway_start hrx connected ends started
  | startFailed c a e u' failed => exact .ended rfl
  | sample i total stream w thread hstream room =>
      obtain ⟨connected, ends, ports⟩ := h.of_busy thread
      refine .busy i total thread connected ends fun s hs => ?_
      show _ ≤ ((u.fdGraph.replayBlock.store stream w).recordPorts s).region.offset
      rw [ReplayHardware.region_store]
      exact ports s hs
  | finish i total thread all =>
      obtain ⟨connected, ends, -⟩ := h.of_busy thread
      exact .next (i + 1) rfl connected ends
  | fail strerror => exact .ended rfl

/-- **The recorded samples do not reach the TX buffer.** -/
theorem RxAway.agreeOn_store {i total stream : ℕ} (h : RxAway rx u)
    (hthread : u.receiveThread = .busy i total) (hstream : stream < u.fdGraph.numRxStreams.toNat)
    (w : Wire) : Store.AgreeOn u.fdGraph.replayBlock.memory
      (u.fdGraph.replayBlock.store stream w).memory
      (buffer u.components.replayConfig.memSize.toNat .tx) := by
  obtain ⟨connected, ends, ports⟩ := h.of_busy hthread
  refine ReplayHardware.agreeOn_store (Region.disjoint_of_le ?_).symm
  have hport := ports stream (by rw [← connected]; exact hstream)
  simp only [buffer] at hport ⊢
  omega

end

/-! ## Playing the blocks -/

/-- What a stream has to play of a stored config. -/
def playback (E : Environment α) (c : TxStreamingConfig α) (s : ℕ) : List Wire :=
  (List.replicate c.numRepetitions.toInt.toNat (content E c s)).flatten

/-- The completed steps played their configs. -/
def SentOk (E : Environment α) (tx : ℕ) (configs : List (TxStreamingConfig α))
    (sent : List (ℕ → List Wire)) : Prop :=
  ∀ (i : ℕ) (played : ℕ → List Wire), sent[i]? = some played →
    ∃ c, configs[i]? = some c ∧ ∀ s < tx, played s = playback E c s

/-- In the middle of step `i`, which plays the config `c`. -/
structure Sending (E : Environment α) (tx : ℕ) (configs : List (TxStreamingConfig α)) (i total : ℕ)
    (c : TxStreamingConfig α) (u : Usrp α) : Prop where
  count : u.sent.length = i
  config : configs[i]? = some c
  sent : SentOk E tx configs u.sent
  stored : u.txStreamingConfigs = configs
  side : TxSide E tx configs (i + 1) u
  total_eq : ∀ s < tx, (playback E c s).length = total
  ports : ∀ s < tx, u.fdGraph.replayBlock.playPorts s =
    ⟨(u.components.replayConfig.slotRegion .tx i (uploadBlock c) s).offset,
      (content E c s).length * 4⟩
  sending : ∀ s < tx, u.sending s = (playback E c s).take (u.sending s).length

/-- How far the transmit thread is. -/
inductive TxProgress (E : Environment α) (tx : ℕ) (configs : List (TxStreamingConfig α))
    (u : Usrp α) : Prop
  | next (i : ℕ) (thread : u.transmitThread = .next i) (count : u.sent.length = i)
      (le : i ≤ configs.length) (sent : SentOk E tx configs u.sent)
      (stored : u.txStreamingConfigs = configs) (side : TxSide E tx configs i u)
  | busy (i total : ℕ) (c : TxStreamingConfig α) (thread : u.transmitThread = .busy i total)
      (sending : Sending E tx configs i total c u)
  | ended (thread : u.transmitThread = .finished) (sent : SentOk E tx configs u.sent)
      (complete : u.transmitThreadException = none → u.sent.length = configs.length)

section

variable {tx : ℕ} {configs : List (TxStreamingConfig α)} {u u' : Usrp α}
  {c : TxStreamingConfig α}

/-- The upload stays as it is while its half and its memory do. -/
theorem TxSide.congr {uploaded : List (TxStreamingConfig α)} {k : ℕ} (h : TxSide E tx uploaded k u)
    (hagree : AgreeOn .tx u.components.replayConfig u'.components.replayConfig)
    (hconnected : u'.fdGraph.numTxStreams = u.fdGraph.numTxStreams)
    (hmemory : Store.AgreeOn u.fdGraph.replayBlock.memory u'.fdGraph.replayBlock.memory
      (buffer u.components.replayConfig.memSize.toNat .tx)) : TxSide E tx uploaded k u' := by
  refine ⟨?_, ?_, ?_, hagree.directionFits h.fits, ?_, ?_, ?_, ?_⟩
  · rw [hconnected, h.connected]
  · rw [← hagree.streams, h.streams]
  · rw [← hagree.blocks, ← hagree.memSize, h.memSize]
  · rw [← hagree.blocks]
    exact h.cursor
  · rw [← hagree.blocks, h.done]
  · rw [← hagree.blocks, h.blocks]
  · exact (h.holding.frame_buffer h.fits hmemory).congr hagree rfl

/-- The receive side does not disturb an iteration. -/
theorem Sending.frame {i total : ℕ} (h : Sending E tx configs i total c u) (f : TxFrame u u')
    (hside : TxSide E tx configs (i + 1) u') : Sending E tx configs i total c u' := by
  refine ⟨?_, h.config, ?_, f.configs.trans h.stored, hside, h.total_eq, ?_, ?_⟩
  · rw [f.sent, h.count]
  · rw [f.sent]
    exact h.sent
  · intro s hs
    rw [f.playPorts, f.agreeOn.slotRegion_eq]
    exact h.ports s hs
  · rw [f.sending]
    exact h.sending

/-- What the receive thread does at the start and the end of an iteration is no
concern of the transmission. -/
theorem TxProgress.frame (h : TxProgress E tx configs u) (f : TxFrame u u') :
    TxProgress E tx configs u' := by
  have hside {k : ℕ} (side : TxSide E tx configs k u) : TxSide E tx configs k u' := by
    refine side.congr f.agreeOn f.numTxStreams ?_
    rw [f.memory]
    exact Store.agreeOn_refl _ _
  cases h with
  | next i thread count le sent stored side =>
      refine .next i (f.thread.trans thread) ?_ le ?_ (f.configs.trans stored) (hside side)
      · rw [f.sent, count]
      · rw [f.sent]
        exact sent
  | busy i total c thread sending =>
      exact .busy i total c (f.thread.trans thread) (sending.frame f (hside sending.side))
  | ended thread sent complete =>
      refine .ended (f.thread.trans thread) ?_ ?_
      · rw [f.sent]
        exact sent
      · rw [f.sent, f.exception]
        exact complete

/-- A sample that is received leaves the TX buffer and the plays alone. -/
theorem txProgress_rxSample {rx i total stream : ℕ} (h : TxProgress E tx configs u)
    (haway : RxAway rx u) (w : Wire) (hthread : u.receiveThread = .busy i total)
    (hstream : stream < u.fdGraph.numRxStreams.toNat) : TxProgress E tx configs { u with
      fdGraph := { u.fdGraph with replayBlock := u.fdGraph.replayBlock.store stream w }
      receiving := Function.update u.receiving stream (u.receiving stream ++ [w]) } := by
  have hside {k : ℕ} (side : TxSide E tx configs k u) : TxSide E tx configs k { u with
      fdGraph := { u.fdGraph with replayBlock := u.fdGraph.replayBlock.store stream w }
      receiving := Function.update u.receiving stream (u.receiving stream ++ [w]) } :=
    side.congr ⟨rfl, rfl, rfl⟩ rfl (haway.agreeOn_store hthread hstream w)
  cases h with
  | next i thread count le sent stored side =>
      exact .next i thread count le sent stored (hside side)
  | busy i total c thread sending =>
      refine .busy i total c thread { sending with side := hside sending.side, ports := ?_ }
      intro s hs
      rw [← sending.ports s hs]
      exact congrFun (ReplayHardware.playPorts_store stream w _) s
  | ended thread sent complete => exact .ended thread sent complete

/-- The receive thread leaves the progress of the transmission alone. -/
theorem txProgress_rxStep {rx : ℕ} (h : TxProgress E tx configs u) (haway : RxAway rx u)
    (hstep : RxStep E u u') : TxProgress E tx configs u' := by
  rcases hstep.txFrame with hframe | ⟨i, total, stream, w, hthread, hstream, rfl⟩
  · exact h.frame hframe
  · exact txProgress_rxSample h haway w hthread hstream

/-- The progress at the start of an iteration. -/
theorem TxProgress.of_next {i : ℕ} (h : TxProgress E tx configs u)
    (hthread : u.transmitThread = .next i) : u.sent.length = i ∧ i ≤ configs.length ∧
      SentOk E tx configs u.sent ∧ u.txStreamingConfigs = configs ∧ TxSide E tx configs i u := by
  cases h with
  | next j thread count le sent stored side =>
      rw [hthread] at thread
      cases thread
      exact ⟨count, le, sent, stored, side⟩
  | busy j total c thread _ =>
      rw [hthread] at thread
      cases thread
  | ended thread _ _ =>
      rw [hthread] at thread
      cases thread

theorem TxProgress.of_busy {i total : ℕ} (h : TxProgress E tx configs u)
    (hthread : u.transmitThread = .busy i total) : ∃ c, Sending E tx configs i total c u := by
  cases h with
  | next j thread _ _ _ _ _ =>
      rw [hthread] at thread
      cases thread
  | busy j total' c thread sending =>
      rw [hthread] at thread
      cases thread
      exact ⟨c, sending⟩
  | ended thread _ _ =>
      rw [hthread] at thread
      cases thread

/-- What was sent is what the configs ask for. -/
theorem TxProgress.sent_ok (h : TxProgress E tx configs u) : SentOk E tx configs u.sent := by
  cases h with
  | next _ _ _ _ sent _ _ => exact sent
  | busy _ _ _ _ sending => exact sending.sent
  | ended _ sent _ => exact sent

/-- The number of samples to send does not wrap. -/
theorem toNat_totalSamples {len : ℕ} (hc : Uniform tx len c) {reps : Int32}
    (hpos : 1 ≤ reps.toInt) :
    (UInt64.ofNat len * sizeOfInt reps).toNat = reps.toInt.toNat * len := by
  have hreps : (sizeOfInt reps).toNat = reps.toInt.toNat := toNat_sizeOfInt (by omega)
  have hlt := reps.toInt_lt
  have hlen := hc.len_le
  have hmax : MAX_SAMPLES_TX_SIGNAL = 200000 := rfl
  have hle : reps.toInt.toNat * len ≤ 2 ^ 31 * 200000 := Nat.mul_le_mul (by omega) (by omega)
  rw [UInt64.toNat_mul, hc.toNat_len, hreps, Nat.mul_comm, Nat.mod_eq_of_lt]
  omega

/-- Blocks that are uploaded are replayed once. -/
theorem replayCount_uploadBlock (c : TxStreamingConfig α) : (uploadBlock c).replayCount = 1 := by
  have hone : intOfSize (uploadBlock c).repetitions = 1 := by
    show intOfSize 1 = 1
    decide
  rw [ReplayBlock.replayCount, hone]
  rfl

theorem start_replayCounts {t : BlockOffsetTracker}
    (hblocks : t.replayBlocks = configs.map uploadBlock)
    {i : ℕ} (hi : i ≤ configs.length) : Layout.start t.replayCounts i = i := by
  have hone : ∀ count ∈ t.replayCounts, count = 1 := by
    intro count hcount
    rw [replayCounts, hblocks, List.map_map] at hcount
    obtain ⟨c, -, rfl⟩ := List.mem_map.mp hcount
    exact replayCount_uploadBlock c
  refine Layout.start_of_forall_one hone ?_
  rw [replayCounts, hblocks, List.length_map, List.length_map]
  exact hi

/-- The next play selects the next config. -/
theorem selects_next {t : BlockOffsetTracker} {i i' j : ℕ} {block : ReplayBlock}
    (hblocks : t.replayBlocks = configs.map uploadBlock) (hcursor : t.CursorOk)
    (hdone : t.replaysDone = i) (h : Selects t i' j block) : i' = i ∧ j = 0 := by
  have hnumber := number_of_selects hcursor h
  obtain ⟨hi', hget⟩ := List.getElem?_eq_some_iff.mp h.block_eq
  have hj : j = 0 := by
    have hlt := lt_replayCount_of_selects h
    rw [← hget] at hlt
    simp only [hblocks, List.getElem_map, replayCount_uploadBlock] at hlt
    exact Nat.lt_one_iff.mp hlt
  rw [hblocks, List.length_map] at hi'
  rw [start_replayCounts hblocks hi'.le, hdone] at hnumber
  exact ⟨by omega, hj⟩

/-- All repetitions, of a signal filled up to whole words. -/
theorem length_playback {len : ℕ} (hc : Uniform tx len c) {s : ℕ} (hs : s < tx) :
    (playback E c s).length = c.numRepetitions.toInt.toNat * len := by
  rw [playback, List.length_flatten, List.map_replicate, List.sum_replicate_nat,
    hc.content_length hs]

/-- A replay that returns selects the block of the next config. -/
theorem played_next {i len : ℕ} {r : ReplayBlockConfig} (hpos : 0 < tx)
    (side : TxSide E tx configs i u) (hget : configs[i]? = some c)
    (htransmit : ReplayBlockConfig.configTransmit (UInt64.ofNat len) u.components.replayConfig =
      .ok () r) :
    Played u.components.replayConfig .tx (UInt64.ofNat len) i 0 (uploadBlock c) r := by
  have hcount : (u.components.replayConfig.blocks .tx).numStreams ≠ 0 := by
    intro hzero
    have hstreams := side.streams
    rw [← side.fits.streams_eq, hzero, show (0 : UInt64).toNat = 0 from rfl] at hstreams
    omega
  obtain ⟨i', j, block, hplayed⟩ : ∃ i' j block, Played u.components.replayConfig .tx
      (UInt64.ofNat len) i' j block r := playBlock_eq_ok (d := .tx) hcount side.cursor htransmit
  obtain ⟨rfl, rfl⟩ := selects_next side.blocks side.cursor side.done hplayed.1
  have hblock :
      (u.components.replayConfig.blocks .tx).replayBlocks[i']? = some (uploadBlock c) := by
    rw [side.blocks, List.getElem?_map, hget]
    rfl
  obtain rfl : block = uploadBlock c :=
    Option.some.inj (hplayed.1.block_eq.symm.trans hblock)
  exact hplayed

/-- The state of the TX side once the block of the next config is selected. -/
theorem TxSide.played {i : ℕ} {n : UInt64} {r : ReplayBlockConfig}
    (side : TxSide E tx configs i u) (le : i ≤ configs.length)
    (hplayed : Played u.components.replayConfig .tx n i 0 (uploadBlock c) r)
    (radioCommands : List RadioCommand) :
    TxSide E tx configs (i + 1) (afterCalls r radioCommands u) := by
  have hext := hplayed.extends
  have hmemory : (u.fdGraph.replayBlock.commands
      (issuedSince u.components.replayConfig r)).memory = u.fdGraph.replayBlock.memory :=
    ReplayHardware.memory_commands _ _
  refine ⟨side.connected, ?_, ?_, hplayed.directionFits side.fits, hplayed.cursorOk side.cursor,
    ?_, ?_, ?_⟩
  · exact (congrArg UInt64.toNat (hext.streams .tx)).trans side.streams
  · show (r.blocks .tx).memSize.toNat = (buffer r.memSize.toNat .tx).size
    rw [hplayed.blocks_eq, hext.memSize]
    exact side.memSize
  · show (r.blocks .tx).replaysDone = i + 1
    rw [hplayed.blocks_eq, replaysDone_moveTo, start_replayCounts side.blocks le]
  · show (r.blocks .tx).replayBlocks = _
    rw [hplayed.blocks_eq]
    exact side.blocks
  · refine (side.holding.congr ⟨rfl, rfl, rfl⟩ hmemory).extends hext ?_
    rw [side.blocks, List.length_map, List.length_map]

/-- **A transmission that starts plays the block of the next config.** -/
theorem txProgress_start {i total : ℕ} {a : StreamAnswers} (hpos : 0 < tx)
    (hconfigs : ∀ c ∈ configs, 1 ≤ c.numRepetitions.toInt ∧ ∃ len, Uniform tx len c)
    (h : TxProgress E tx configs u) (hthread : u.transmitThread = .next i)
    (hget : configs[i]? = some c) (hstart : startTransmit c a u = .ok total u') :
    TxProgress E tx configs { u' with
      transmitThread := .busy i total
      sending := fun _ => [] } := by
  obtain ⟨count, le, sent, stored, side⟩ := h.of_next hthread
  obtain ⟨first, r, radioCommands, hfirst, htransmit, rfl, rfl⟩ := startTransmit_eq_ok hstart
  obtain ⟨hi, hmem⟩ := List.getElem?_eq_some_iff.mp hget
  obtain ⟨hreps, len, hc⟩ := hconfigs c (hmem ▸ List.getElem_mem hi)
  rw [length_of_firstSignal hfirst, hc.signalLength_eq hpos] at htransmit ⊢
  have hplayed := played_next hpos side hget htransmit
  have hside := side.played le hplayed radioCommands
  refine .busy i _ c rfl ⟨count, hget, sent, stored, { hside with }, ?_, ?_, fun s hs => rfl⟩
  · intro s hs
    rw [length_playback hc hs, toNat_totalSamples hc hreps]
  · intro s hs
    have hport := playPorts_of_played hplayed side.fits u.fdGraph.replayBlock (s := s)
      (by rw [side.streams]; exact hs)
    have hbytes : (UInt64.ofNat len * SAMPLE_SIZE).toNat = len * 4 := by
      have hlen := hc.len_le
      have hmax : MAX_SAMPLES_TX_SIGNAL = 200000 := rfl
      rw [UInt64.toNat_mul, hc.toNat_len, show SAMPLE_SIZE.toNat = 4 from rfl,
        Nat.mod_eq_of_lt (by omega)]
    rw [Nat.zero_mul, Nat.zero_mul, Nat.add_zero, hbytes,
      ← hplayed.extends.slotRegion_eq hplayed.1.block_eq] at hport
    rw [hc.content_length hs]
    exact hport

/-- The port of a stream that is not done plays the next sample of its config. -/
theorem Sending.playWord_eq {i total stream : ℕ} (h : Sending E tx configs i total c u)
    (hstream : stream < tx) (hless : (u.sending stream).length < total) :
    (playback E c stream)[(u.sending stream).length]? =
      some (u.fdGraph.replayBlock.playWord stream (u.sending stream).length) := by
  have hblock : (u.components.replayConfig.blocks .tx).replayBlocks[i]? = some (uploadBlock c) := by
    rw [h.side.blocks, List.getElem?_map, h.config]
    rfl
  have hholds := (h.side.holding.slot i (content E c) _ stream
    (by rw [List.getElem?_map, h.config]; rfl) hblock (by rw [h.side.streams]; exact hstream)).2
  have hlength := h.total_eq stream hstream
  rw [playback, List.length_flatten, List.map_replicate, List.sum_replicate_nat,
    Nat.mul_comm] at hlength
  rw [playback, hholds.cyclicWord (by omega), ReplayHardware.playWord, h.ports stream hstream]

/-- A sample that is played is the next one of its stream. -/
theorem Sending.sample {i total stream : ℕ} (h : Sending E tx configs i total c u)
    (hstream : stream < u.fdGraph.numTxStreams.toNat)
    (hless : (u.sending stream).length < total) :
    Sending E tx configs i total c { u with
      sending := Function.update u.sending stream (u.sending stream ++
        [u.fdGraph.replayBlock.playWord stream (u.sending stream).length]) } := by
  rw [h.side.connected] at hstream
  have hword := h.playWord_eq hstream hless
  refine { h with side := { h.side with }, sending := fun s hs => ?_ }
  show Function.update u.sending stream _ s =
    List.take (Function.update u.sending stream _ s).length (playback E c s)
  by_cases heq : s = stream
  · subst heq
    rw [Function.update_self, List.length_append, List.length_singleton, List.take_add_one,
      ← h.sending s hs, hword]
    rfl
  · rw [Function.update_of_ne heq]
    exact h.sending s hs

/-- A step whose samples are all sent played its config. -/
theorem Sending.sentOk {i total : ℕ} (h : Sending E tx configs i total c u)
    (hall : ∀ stream < u.fdGraph.numTxStreams.toNat, (u.sending stream).length = total) :
    SentOk E tx configs (u.sent ++ [u.sending]) := by
  intro i' played hget
  rw [List.getElem?_append] at hget
  split at hget
  · exact h.sent i' played hget
  · rename_i hge
    obtain ⟨hlt, hplayed⟩ := List.getElem?_eq_some_iff.mp hget
    rw [List.length_singleton] at hlt
    have hcount := h.count
    obtain rfl : i' = i := by omega
    obtain rfl : u.sending = played := by simpa using hplayed
    refine ⟨c, h.config, fun s hs => ?_⟩
    rw [h.sending s hs, hall s (by rw [h.side.connected]; exact hs), ← h.total_eq s hs,
      List.take_length]

/-- The transmission as a whole. -/
theorem txProgress_txStep (hpos : 0 < tx)
    (hconfigs : ∀ c ∈ configs, 1 ≤ c.numRepetitions.toInt ∧ ∃ len, Uniform tx len c)
    (h : TxProgress E tx configs u) (hstep : TxStep u u') : TxProgress E tx configs u' := by
  cases hstep with
  | idle => exact h
  | exhausted i thread config =>
      obtain ⟨count, le, sent, stored, -⟩ := h.of_next thread
      rw [stored] at config
      have hlen := List.getElem?_eq_none_iff.mp config
      exact .ended rfl sent fun _ => (show u.sent.length = _ by omega)
  | start i total c a u' thread config started =>
      obtain ⟨-, -, -, stored, -⟩ := h.of_next thread
      rw [stored] at config
      exact txProgress_start hpos hconfigs h thread config started
  | startFailed c a e u' failed =>
      obtain ⟨r, radioCommands, -, hstarted⟩ := started_startTransmit c a u
      rw [failed] at hstarted
      cases hstarted
      exact .ended rfl h.sent_ok fun hnone => nomatch hnone
  | sample i total stream thread connected room =>
      obtain ⟨c, sending⟩ := h.of_busy thread
      exact .busy i total c thread (sending.sample connected room)
  | finish i total thread all =>
      obtain ⟨c, sending⟩ := h.of_busy thread
      obtain ⟨hi, -⟩ := List.getElem?_eq_some_iff.mp sending.config
      refine .next (i + 1) rfl ?_ hi (sending.sentOk all) sending.stored { sending.side with }
      show (u.sent ++ [u.sending]).length = i + 1
      rw [List.length_append, sending.count, List.length_singleton]
  | fail code => exact .ended rfl h.sent_ok fun hnone => nomatch hnone

/-- **Every step of a thread keeps the progress of the transmission.** -/
theorem txProgress_step {rx : ℕ} (hpos : 0 < tx) (hrx : rx ≤ 4)
    (hconfigs : ∀ c ∈ configs, 1 ≤ c.numRepetitions.toInt ∧ ∃ len, Uniform tx len c)
    (h : TxProgress E tx configs u ∧ RxAway rx u) {e : Event α} (he : e.isStreaming = true) :
    TxProgress E tx configs (step E u e) ∧ RxAway rx (step E u e) := by
  obtain ⟨hprogress, haway⟩ := h
  rcases step_cases (E := E) he u with htx | hrxStep
  · exact ⟨txProgress_txStep hpos hconfigs hprogress htx, haway.frame htx.rxFrame⟩
  · exact ⟨txProgress_rxStep hprogress haway hrxStep, rxAway_rxStep hrx haway hrxStep⟩

/-- In every run of the threads the transmit thread is somewhere in its configs. -/
theorem txProgress_run {rx : ℕ} (hpos : 0 < tx) (hrx : rx ≤ 4)
    (hconfigs : ∀ c ∈ configs, 1 ≤ c.numRepetitions.toInt ∧ ∃ len, Uniform tx len c)
    (h : TxProgress E tx configs u ∧ RxAway rx u) {events : List (Event α)}
    (hevents : ∀ e ∈ events, e.isStreaming = true) :
    TxProgress E tx configs (Machine.run (step E) u events) := by
  have hrun : TxProgress E tx configs (Machine.run (step E) u events) ∧
      RxAway rx (Machine.run (step E) u events) :=
    Machine.run_invariant (fun u => TxProgress E tx configs u ∧ RxAway rx u)
      (fun _ _ hinv he => txProgress_step hpos hrx hconfigs hinv he) h
      (Machine.AllSteps.of_forall hevents)
  exact hrun.1

/-- **The threads start with all configs uploaded, and an empty RX buffer.** -/
theorem txProgress_of_execute {rx : ℕ} {a : ExecuteAnswers} {baseTime : ℚ}
    (hconfigured : u.components.Configured tx rx) (hstored : u.txStreamingConfigs = configs)
    (hconfigs : ∀ c ∈ configs, ∃ len, Uniform tx len c)
    (h : execute E a baseTime u = .ok () u') : TxProgress E tx configs u' ∧ RxAway rx u' := by
  obtain ⟨v, r, startTime, rxDecimFactor, hupload, -, -, rfl⟩ := execute_eq_ok h
  have hframe := (preserves_performUpload a).of_ok (uploadFrame_refl (prepared u)) hupload
  have hagree := hframe.replay.agreeOn
  have hcounts := hconfigured.counts
  have hconsistent := hconfigured.consistent
  have hfits := hconsistent.directionFits_reset
  have hrx : (sizeOfInt v.components.rfConfig.getNumRxStreams).toNat = rx := by
    rw [hframe.rfConfig]
    exact toNat_sizeOfInt hcounts.storedRx
  -- the TX side before the first upload
  unfold performUpload at hupload
  rw [bind_of_ok (get_apply _)] at hupload
  obtain ⟨_, w, hconnect, hconfigsUp⟩ := bind_eq_ok_iff.mp hupload
  obtain ⟨g, hgraph, rfl⟩ := onField_eq_ok_iff.mp hconnect
  cases hgraph
  have hempty : TxSide E tx [] 0 { prepared u with
      fdGraph := { (prepared u).fdGraph with
        numTxStreams := sizeOfInt (prepared u).components.rfConfig.getNumTxStreams } } :=
    ⟨toNat_sizeOfInt hcounts.storedTx, hcounts.replayTx, hconsistent.toNat_memSize .tx, hfits .tx,
      Or.inl ⟨rfl, rfl⟩, replaysDone_start rfl, rfl, holding_nil _ _ _⟩
  have hside := txSide_uploadConfigs hconfigured.tx_pos hconfigured.tx_le
    (by rw [show (prepared u).txStreamingConfigs = configs from hstored]; exact hconfigs) hempty
    hconfigsUp
  rw [List.nil_append, show (prepared u).txStreamingConfigs = configs from hstored] at hside
  refine ⟨.next 0 rfl rfl (Nat.zero_le _) (fun i played hget => nomatch hget)
    (hframe.txConfigs.trans hstored) { hside with }, .next 0 rfl hrx ?_⟩
  have hends : RxEndOk rx u.components.replayConfig.reset := by
    refine ⟨hcounts.replayRx, hconsistent.rxStreams, hconsistent.rxSample,
      hconsistent.toNat_memSize .rx, ?_, fun _ => ?_⟩
    · show layoutEnd [] * rx * 4 % 2 ^ 64 ≤ _
      simp
    · show layoutEnd [] * rx * 4 ≤ _
      simp
  exact hends.frame hagree

/-! ## What is transmitted -/

/-- Each completed step played the config of the caller with its number: the
samples as often as they are to be repeated, with at most 7 zeros behind them, and
none if they are repeated. -/
def Transmitted (E : Environment α) (tx : ℕ) (confs : List (TxStreamingConfig α))
    (sent : List (ℕ → List Wire)) : Prop :=
  ∀ (i : ℕ) (played : ℕ → List Wire), sent[i]? = some played →
    ∃ conf, confs[i]? = some conf ∧ ∀ s < tx, ∃ samples k, conf.samples[s]? = some samples ∧
      k ≤ 7 ∧ (1 < conf.numRepetitions.toInt → k = 0) ∧
        played s = ((List.replicate conf.numRepetitions.toInt.toNat samples).flatten ++
          List.replicate k E.format.zero).map E.format.toWire

/-- What is played of a stored config, in terms of the caller's samples. -/
theorem playback_of_storedAs {len : ℕ} {conf : TxStreamingConfig α}
    (h : StoredAs E.format.zero tx len conf c) {s : ℕ} (hs : s < tx) :
    ∃ samples k, conf.samples[s]? = some samples ∧ k ≤ 7 ∧
      (1 < conf.numRepetitions.toInt → k = 0) ∧
        playback E c s = ((List.replicate conf.numRepetitions.toInt.toNat samples).flatten ++
          List.replicate k E.format.zero).map E.format.toWire := by
  rw [← h.streams] at hs
  obtain ⟨samples, k, hsamples, hk, hrepeated, hpadded⟩ :=
    h.padded s c.samples[s] (List.getElem?_eq_getElem hs)
  have hcontent : content E c s =
      (samples ++ List.replicate k E.format.zero).map E.format.toWire := by
    rw [content, List.getElem?_eq_getElem hs, Option.getD_some, hpadded]
  refine ⟨samples, k, hsamples, hk, hrepeated, ?_⟩
  rw [playback, hcontent, h.numRepetitions]
  have hpos := h.numRepetitions_pos
  rcases Int.lt_or_le 1 conf.numRepetitions.toInt with hmany | hone
  · obtain rfl := hrepeated hmany
    rw [List.replicate_zero, List.append_nil, List.append_nil, List.map_flatten, List.map_replicate]
  · rw [show conf.numRepetitions.toInt.toNat = 1 by omega, List.replicate_one, List.replicate_one,
      List.flatten_singleton, List.flatten_singleton]

/-- **Transmission from end to end.**  On a configured device with any RX configs,
TX configs that are accepted and executed are played step by step, in any
interleaving with the receptions, and all of them if no step fails. -/
theorem transmission_correct {rx : ℕ} {u₀ u₁ u₂ : Usrp α} {confs : List (TxStreamingConfig α)}
    {a : ExecuteAnswers} {baseTime : ℚ} {events : List (Event α)}
    (hconfigured : u₀.components.Configured tx rx) (hempty : u₀.txStreamingConfigs = [])
    (haccepted : forM confs (setTxConfig E) u₀ = .ok () u₁)
    (hexecute : execute E a baseTime u₁ = .ok () u₂)
    (hstreaming : ∀ e ∈ events, e.isStreaming = true) :
    Transmitted E tx confs (Machine.run (step E) u₂ events).sent ∧
      ((Machine.run (step E) u₂ events).transmitThread = .finished →
        (Machine.run (step E) u₂ events).transmitThreadException = none →
          (Machine.run (step E) u₂ events).sent.length = confs.length) := by
  obtain ⟨stored, hall, rfl⟩ := forM_setTxConfig_eq_ok hconfigured.counts.storedTx haccepted
  have hstored : u₀.txStreamingConfigs ++ stored = stored := by rw [hempty, List.nil_append]
  have hget {i : ℕ} {c : TxStreamingConfig α} (hc : stored[i]? = some c) :
      ∃ conf len, confs[i]? = some conf ∧ StoredAs E.format.zero tx len conf c := by
    obtain ⟨hi, rfl⟩ := List.getElem?_eq_some_iff.mp hc
    have hi' : i < confs.length := by
      rw [hall.length_eq]
      exact hi
    obtain ⟨len, hstoredAs⟩ := hall.get hi' hi
    exact ⟨confs[i], len, List.getElem?_eq_getElem hi', hstoredAs⟩
  have hconfigs : ∀ c ∈ stored, 1 ≤ c.numRepetitions.toInt ∧ ∃ len, Uniform tx len c := by
    intro c hc
    obtain ⟨i, hi, rfl⟩ := List.getElem_of_mem hc
    obtain ⟨conf, len, -, hstoredAs⟩ := hget (List.getElem?_eq_getElem hi)
    rw [hstoredAs.numRepetitions]
    exact ⟨hstoredAs.numRepetitions_pos, len, hstoredAs.uniform⟩
  have hstart := txProgress_of_execute (u := { u₀ with
    txStreamingConfigs := u₀.txStreamingConfigs ++ stored }) hconfigured hstored
    (fun c hc => (hconfigs c hc).2) hexecute
  have hprogress := txProgress_run hconfigured.tx_pos hconfigured.rx_le hconfigs hstart hstreaming
  have hsent := hprogress.sent_ok
  refine ⟨fun i played hplayed => ?_, fun hfinished hnone => ?_⟩
  · obtain ⟨c, hc, hplayback⟩ := hsent i played hplayed
    obtain ⟨conf, len, hconf, hstoredAs⟩ := hget hc
    refine ⟨conf, hconf, fun s hs => ?_⟩
    rw [hplayback s hs]
    exact playback_of_storedAs hstoredAs hs
  · rw [hall.length_eq]
    cases hprogress with
    | next i thread _ _ _ _ _ =>
        rw [hfinished] at thread
        cases thread
    | busy i total c thread _ =>
        rw [hfinished] at thread
        cases thread
    | ended _ _ complete => exact complete hnone

end

/-- The example device with a config that receives 8 samples. -/
def exampleReceiver : Usrp Wire := { exampleUsrp with rxStreamingConfigs := [⟨8, 0, 1, 0, ""⟩] }

/-- Eight samples that are sent twice, and five samples. -/
def exampleTxConfigs : List (TxStreamingConfig Wire) :=
  let signal := fun n => (List.range n).map fun i _ => UInt8.ofNat i
  [⟨[signal 8], 0, 2⟩, ⟨[signal 5], 1, 1⟩]

/-- The first step sends while samples are received. -/
def exampleTxEvents : List (Event Wire) :=
  [.txStart exampleStreamAnswers, .rxStart exampleStreamAnswers] ++
    (List.replicate 8 [.txSample 0, .rxSample 0 fun _ => 255, .txSample 0]).flatten ++
      [.rxEnd none, .txEnd none, .txStart exampleStreamAnswers] ++
        List.replicate 8 (.txSample 0) ++ [.txEnd none, .txStart exampleStreamAnswers]

/-- The example device sends both configs. -/
theorem transmission_correct_example :
    ∃ u₁ u₂, forM exampleTxConfigs (setTxConfig exampleEnvironment) exampleReceiver = .ok () u₁ ∧
      execute exampleEnvironment exampleExecuteAnswers 1 u₁ = .ok () u₂ ∧
      Transmitted exampleEnvironment 1 exampleTxConfigs
        (Machine.run (step exampleEnvironment) u₂ exampleTxEvents).sent ∧
      (Machine.run (step exampleEnvironment) u₂ exampleTxEvents).sent.length = 2 := by
  obtain ⟨_, haccepted⟩ := exists_of_returned (by decide +kernel :
    returned (forM exampleTxConfigs (setTxConfig exampleEnvironment) exampleReceiver) = true)
  obtain ⟨_, hexecute⟩ := exists_of_returned
    (by decide +kernel : returned (execute exampleEnvironment exampleExecuteAnswers 1
      (finalState (forM exampleTxConfigs (setTxConfig exampleEnvironment) exampleReceiver))) = true)
  refine ⟨_, _, haccepted, hexecute, ?_⟩
  have hstreaming : ∀ e ∈ exampleTxEvents, e.isStreaming = true := by decide
  obtain ⟨hsent, hall⟩ :=
    transmission_correct configured_exampleComponents rfl haccepted hexecute hstreaming
  exact ⟨hsent, hall (by decide +kernel) (by decide +kernel)⟩

end Usrp

end UsrpWrapper
