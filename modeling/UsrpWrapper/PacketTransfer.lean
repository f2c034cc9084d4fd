import UsrpWrapper.FullDuplexGraph
import UsrpWrapper.Lib.Loop
import Mathlib.Algebra.Order.BigOperators.Group.Finset

/-!
# The packets of an upload and a download

The sample loops of `upload` and `download` (`full_duplex_rfnoc_graph.cpp`),
iteration by iteration.  Each iteration makes one call on the streamer: it passes
a pointer into the samples of every channel, asks for a number of samples, and
moves on by what the streamer has transferred, which may be less.

What the streamer returns is a sequence with one entry for each call, so a loop
need not leave.  Of a loop that leaves, `sendLoop_calls` and `recvLoop_calls` give
all the calls it has made in closed form: the `k`-th one starts at the sum of the
counts before it.
-/

namespace UsrpWrapper

open Lib Lib.Command Finset

namespace FullDuplexGraph

/-! ## The loops -/

/-- A pointer into the samples of a channel. -/
structure SamplePointer where
  channel : ℕ
  offset : ℕ
  deriving DecidableEq

/-- A `send` or a `recv`: one pointer for each channel, the number of samples
asked for, and the number it has returned. -/
structure PacketCall where
  buffers : List SamplePointer
  requested : ℕ
  transferred : ℕ
  deriving DecidableEq

/-- The `buffers` of a call. -/
def buffersAt (numStreams offset : ℕ) : List SamplePointer :=
  (List.range numStreams).map fun c => ⟨c, offset⟩

/-- The state of the loop of `upload`: its counter and the calls made so far. -/
structure SendLoop where
  totalSamplesSent : ℕ
  calls : List PacketCall

/-- One iteration of the loop of `upload`, given what `send` returns. -/
def sendIteration (numTxStreams numSamples : ℕ) (s : SendLoop) (samplesSent : ℕ) :
    Iteration SendLoop (List PacketCall) :=
  if s.totalSamplesSent < numSamples then
    let buffers := buffersAt numTxStreams s.totalSamplesSent
    let samplesToSend := min (numSamples - s.totalSamplesSent) PACKET_SIZE
    .goOn ⟨s.totalSamplesSent + samplesSent,
      s.calls ++ [⟨buffers, samplesToSend, samplesSent⟩]⟩
  else .leave s.calls

section

variable {α : Type}

/-- `upload` up to the end of its loop, with the calls it has made. -/
def uploadSamples (txSignal : MimoSignal α) (numTxStreams : ℕ) (samplesSent : ℕ → ℕ) (fuel : ℕ) :
    Option (Except Fault (List PacketCall)) :=
  if txSignal.length ≠ numTxStreams then some (.error (.runtime .invalidChannelCount))
  else match firstSignal txSignal with
    | .error e => some (.error e)
    | .ok first =>
        (Loop.run (sendIteration numTxStreams first.length) samplesSent fuel 0 ⟨0, []⟩).map .ok

/-- What one `recv` leaves behind: its count, the samples it has written, and the
metadata. -/
structure RecvResult (α : Type) where
  numSamplesReceived : ℕ
  samples : ℕ → ℕ → α
  strerror : Option String
  endOfBurst : Bool

/-- The samples written for a channel. -/
def RecvResult.chunk (r : RecvResult α) (c : ℕ) : List α :=
  (List.range r.numSamplesReceived).map (r.samples c)

/-- Write samples into a buffer. -/
def overwrite (buffer : List α) (offset : ℕ) (chunk : List α) : List α :=
  buffer.take offset ++ chunk ++ buffer.drop (offset + chunk.length)

/-- The state of the loop of `download`: its counter, the buffers, the metadata of the last `recv`
and the calls made so far. -/
structure RecvLoop (α : Type) where
  totalSamplesReceived : ℕ
  result : MimoSignal α
  endOfBurst : Bool
  calls : List PacketCall

/-- The state behind a `recv`. -/
def RecvLoop.afterRecv (numRxStreams numRxSamples : ℕ) (s : RecvLoop α) (r : RecvResult α) :
    RecvLoop α :=
  let buffers := buffersAt numRxStreams s.totalSamplesReceived
  let remainingSamples := numRxSamples - s.totalSamplesReceived
  let reqSamples := min remainingSamples PACKET_SIZE
  { totalSamplesReceived := s.totalSamplesReceived + r.numSamplesReceived
    result := s.result.mapIdx fun c buffer =>
      overwrite buffer s.totalSamplesReceived (r.chunk c)
    endOfBurst := r.endOfBurst
    calls := s.calls ++ [⟨buffers, reqSamples, r.numSamplesReceived⟩] }

/-- One iteration of the loop of `download`, given what `recv` leaves behind; on
leaving, the check behind the loop. -/
def recvIteration (numRxStreams numRxSamples : ℕ) (s : RecvLoop α) (r : RecvResult α) :
    Iteration (RecvLoop α) (Except Fault (MimoSignal α) × List PacketCall) :=
  if s.totalSamplesReceived < numRxSamples then
    let s' := s.afterRecv numRxStreams numRxSamples r
    match r.strerror with
    | some strerror => .leave (.error (.runtime (.rxStreamer strerror)), s'.calls)
    | none => .goOn s'
  else if s.endOfBurst = false then .leave (.error (.usrp .noEndOfBurst), s.calls)
  else .leave (.ok s.result, s.calls)

/-- `download`, with the calls of its loop; `result` starts with zeros. -/
def downloadSamples (zero : α) (numRxStreams numRxSamples : ℕ) (received : ℕ → RecvResult α)
    (fuel : ℕ) : Option (Except Fault (MimoSignal α) × List PacketCall) :=
  let result := List.replicate numRxStreams (List.replicate numRxSamples zero)
  if numRxSamples = 0 then some (.ok result, [])
  else Loop.run (recvIteration numRxStreams numRxSamples) received fuel 0 ⟨0, result, false, []⟩

end

/-! ## The calls of a loop -/

/-- The counts of the calls: between `0` and the number asked for. -/
def PartialCounts (numSamples : ℕ) (counts : ℕ → ℕ) : Prop :=
  ∀ i, counts i ≤ min (numSamples - ∑ j ∈ range i, counts j) PACKET_SIZE

/-- The `k`-th call of a loop. -/
def packet (numStreams numSamples : ℕ) (counts : ℕ → ℕ) (k : ℕ) : PacketCall :=
  let total := ∑ j ∈ range k, counts j
  ⟨buffersAt numStreams total, min (numSamples - total) PACKET_SIZE, counts k⟩

/-- The first `k` calls of a loop. -/
def packets (numStreams numSamples : ℕ) (counts : ℕ → ℕ) (k : ℕ) : List PacketCall :=
  (List.range k).map (packet numStreams numSamples counts)

section

variable {numStreams numSamples k : ℕ} {counts : ℕ → ℕ}

@[simp] theorem packets_length :
    (packets numStreams numSamples counts k).length = k := by
  simp [packets]

theorem packets_succ : packets numStreams numSamples counts (k + 1) =
    packets numStreams numSamples counts k ++ [packet numStreams numSamples counts k] := by
  simp [packets, List.range_succ]

/-- No more samples are transferred than there are. -/
theorem PartialCounts.sum_le (h : PartialCounts numSamples counts) (k : ℕ) :
    ∑ j ∈ range k, counts j ≤ numSamples := by
  induction k with
  | zero => exact Nat.zero_le _
  | succ k ih =>
      have hk := h k
      rw [sum_range_succ]
      omega

/-- The pointers of a call point to where the calls before it ended. -/
theorem offset_of_mem_packet {p : SamplePointer}
    (hp : p ∈ (packet numStreams numSamples counts k).buffers) :
    p.channel < numStreams ∧ p.offset = ∑ j ∈ range k, counts j := by
  obtain ⟨c, hc, rfl⟩ := List.mem_map.mp hp
  exact ⟨List.mem_range.mp hc, rfl⟩

/-- A call asks for samples that lie between its pointers and the end. -/
theorem packet_end_le (h : PartialCounts numSamples counts) {p : SamplePointer}
    (hp : p ∈ (packet numStreams numSamples counts k).buffers) :
    p.offset + (packet numStreams numSamples counts k).requested ≤ numSamples := by
  obtain ⟨-, hoffset⟩ := offset_of_mem_packet hp
  have hsum := h.sum_le k
  have hreq : (packet numStreams numSamples counts k).requested ≤
      numSamples - ∑ j ∈ range k, counts j := min_le_left _ _
  omega

end

/-! ### The loop of `upload` -/

section

variable {numTxStreams numSamples i fuel : ℕ} {counts : ℕ → ℕ} {calls : List PacketCall}

/-- The state before iteration `i`. -/
structure Sending (numTxStreams numSamples : ℕ) (counts : ℕ → ℕ) (i : ℕ) (s : SendLoop) :
    Prop where
  total : s.totalSamplesSent = ∑ j ∈ range i, counts j
  calls : s.calls = packets numTxStreams numSamples counts i

theorem sending_start : Sending numTxStreams numSamples counts 0 ⟨0, []⟩ := ⟨rfl, rfl⟩

/-- With samples left, the loop makes the next call. -/
theorem Sending.goOn {s : SendLoop} (h : Sending numTxStreams numSamples counts i s)
    (hlt : ∑ j ∈ range i, counts j < numSamples) :
    ∃ s', sendIteration numTxStreams numSamples s (counts i) = .goOn s' ∧
      Sending numTxStreams numSamples counts (i + 1) s' := by
  refine ⟨_, if_pos (by rw [h.total]; exact hlt), ?_, ?_⟩
  · rw [sum_range_succ, h.total]
  · rw [packets_succ, h.calls, h.total]
    rfl

/-- The loop ends when all samples are sent. -/
theorem Sending.leave {s : SendLoop} (h : Sending numTxStreams numSamples counts i s)
    (hge : numSamples ≤ ∑ j ∈ range i, counts j) :
    sendIteration numTxStreams numSamples s (counts i) = .leave s.calls :=
  if_neg (by rw [h.total]; omega)

/-- An iteration that goes on has sent a packet. -/
theorem Sending.of_goOn {s s' : SendLoop} (h : Sending numTxStreams numSamples counts i s)
    (hgoOn : sendIteration numTxStreams numSamples s (counts i) = .goOn s') :
    ∑ j ∈ range i, counts j < numSamples ∧ Sending numTxStreams numSamples counts (i + 1) s' := by
  rcases Nat.lt_or_ge (∑ j ∈ range i, counts j) numSamples with hlt | hge
  · obtain ⟨s'', hbody, hs'⟩ := h.goOn hlt
    rw [hbody] at hgoOn
    cases hgoOn
    exact ⟨hlt, hs'⟩
  · rw [h.leave hge] at hgoOn
    cases hgoOn

/-- **The calls of a loop that leaves**: their counts add up to the samples. -/
theorem sendLoop_calls (hcounts : PartialCounts numSamples counts)
    (h : Loop.run (sendIteration numTxStreams numSamples) counts fuel 0 ⟨0, []⟩ = some calls) :
    ∃ k, ∑ j ∈ range k, counts j = numSamples ∧
      calls = packets numTxStreams numSamples counts k := by
  refine Loop.run_spec (I := Sending numTxStreams numSamples counts)
    (P := fun calls => ∃ k, ∑ j ∈ range k, counts j = numSamples ∧
      calls = packets numTxStreams numSamples counts k)
    (fun i s s' hs hgoOn => (hs.of_goOn hgoOn).2) ?_ sending_start h
  intro i s r hs hbody
  rcases Nat.lt_or_ge (∑ j ∈ range i, counts j) numSamples with hlt | hge
  · obtain ⟨s', hgoOn, -⟩ := hs.goOn hlt
    rw [hgoOn] at hbody
    cases hbody
  · rw [hs.leave hge] at hbody
    cases hbody
    exact ⟨i, Nat.le_antisymm (hcounts.sum_le i) hge, hs.calls⟩

end

/-! ### The loop of `download` -/

section

variable {α : Type}

/-- What the first `k` calls have written for a channel. -/
def received (answers : ℕ → RecvResult α) (k c : ℕ) : List α :=
  (List.range k).flatMap fun j => (answers j).chunk c

variable {answers : ℕ → RecvResult α}

@[simp] theorem RecvResult.chunk_length (r : RecvResult α) (c : ℕ) :
    (r.chunk c).length = r.numSamplesReceived := by
  simp [chunk]

theorem received_succ (k c : ℕ) :
    received answers (k + 1) c = received answers k c ++ (answers k).chunk c := by
  simp [received, List.range_succ]

@[simp] theorem received_length (k c : ℕ) :
    (received answers k c).length = ∑ j ∈ range k, (answers j).numSamplesReceived := by
  induction k with
  | zero => rfl
  | succ k ih => rw [received_succ, List.length_append, ih, RecvResult.chunk_length,
      sum_range_succ]

/-- Writing behind what is there already, into the zeros. -/
theorem overwrite_zeros {zero : α} {l chunk : List α} {n : ℕ} :
    overwrite (l ++ List.replicate n zero) l.length chunk =
      l ++ chunk ++ List.replicate (n - chunk.length) zero := by
  rw [overwrite, List.take_left, List.drop_append, List.drop_replicate]
  simp

variable {zero : α} {numRxStreams numRxSamples i fuel : ℕ}
  {out : Except Fault (MimoSignal α)} {calls : List PacketCall}

/-- The state before iteration `i`. -/
structure Receiving (zero : α) (numRxStreams numRxSamples : ℕ) (answers : ℕ → RecvResult α)
    (i : ℕ) (s : RecvLoop α) : Prop where
  total : s.totalSamplesReceived = ∑ j ∈ range i, (answers j).numSamplesReceived
  calls : s.calls =
    packets numRxStreams numRxSamples (fun j => (answers j).numSamplesReceived) i
  result : s.result = (List.range numRxStreams).map fun c => received answers i c ++
    List.replicate (numRxSamples - ∑ j ∈ range i, (answers j).numSamplesReceived) zero

theorem receiving_start : Receiving zero numRxStreams numRxSamples answers 0
    ⟨0, List.replicate numRxStreams (List.replicate numRxSamples zero), false, []⟩ :=
  ⟨rfl, rfl, by simp [received]⟩

/-- One more call, with an error or without one. -/
theorem Receiving.afterRecv {s : RecvLoop α}
    (h : Receiving zero numRxStreams numRxSamples answers i s) :
    Receiving zero numRxStreams numRxSamples answers (i + 1)
      (s.afterRecv numRxStreams numRxSamples (answers i)) := by
  refine ⟨?_, ?_, ?_⟩
  · rw [sum_range_succ, ← h.total]
    rfl
  · rw [packets_succ, ← h.calls, packet, ← h.total]
    rfl
  · show List.mapIdx _ s.result = _
    rw [h.result, h.total]
    refine List.ext_getElem (by simp) fun c hc hc' => ?_
    rw [List.getElem_mapIdx, List.getElem_map, List.getElem_map, List.getElem_range,
      ← received_length i c, overwrite_zeros, received_succ,
      RecvResult.chunk_length, received_length, sum_range_succ, Nat.sub_add_eq]

/-- An iteration with samples left receives a packet, or throws the error of the metadata. -/
theorem Receiving.iteration_of_lt {s : RecvLoop α}
    (h : Receiving zero numRxStreams numRxSamples answers i s)
    (hlt : ∑ j ∈ range i, (answers j).numSamplesReceived < numRxSamples) :
    recvIteration numRxStreams numRxSamples s (answers i) =
      match (answers i).strerror with
      | some strerror => .leave (.error (.runtime (.rxStreamer strerror)),
          (s.afterRecv numRxStreams numRxSamples (answers i)).calls)
      | none => .goOn (s.afterRecv numRxStreams numRxSamples (answers i)) := by
  rw [recvIteration, if_pos (by rw [h.total]; exact hlt)]

/-- The end of the loop looks at the last metadata. -/
theorem Receiving.iteration_of_ge {s : RecvLoop α}
    (h : Receiving zero numRxStreams numRxSamples answers i s)
    (hge : numRxSamples ≤ ∑ j ∈ range i, (answers j).numSamplesReceived) :
    recvIteration numRxStreams numRxSamples s (answers i) =
      if s.endOfBurst = false then .leave (.error (.usrp .noEndOfBurst), s.calls)
      else .leave (.ok s.result, s.calls) := by
  rw [recvIteration, if_neg (by rw [h.total]; omega)]

/-- An iteration of a loop that goes on is a call without an error. -/
theorem Receiving.of_goOn {s s' : RecvLoop α}
    (h : Receiving zero numRxStreams numRxSamples answers i s)
    (hgoOn : recvIteration numRxStreams numRxSamples s (answers i) = .goOn s') :
    ∑ j ∈ range i, (answers j).numSamplesReceived < numRxSamples ∧
      (answers i).strerror = none ∧ s' = s.afterRecv numRxStreams numRxSamples (answers i) := by
  rcases Nat.lt_or_ge (∑ j ∈ range i, (answers j).numSamplesReceived) numRxSamples with
    hlt | hge
  · rw [h.iteration_of_lt hlt] at hgoOn
    cases herror : (answers i).strerror with
    | none =>
        rw [herror] at hgoOn
        cases hgoOn
        exact ⟨hlt, rfl, rfl⟩
    | some strerror =>
        rw [herror] at hgoOn
        cases hgoOn
  · rw [h.iteration_of_ge hge] at hgoOn
    split at hgoOn <;> cases hgoOn

/-- What the calls and the result of a loop are when it leaves. -/
structure Downloaded (numRxStreams numRxSamples : ℕ) (answers : ℕ → RecvResult α)
    (out : Except Fault (MimoSignal α)) (calls : List PacketCall) (k : ℕ) : Prop where
  calls : calls =
    packets numRxStreams numRxSamples (fun j => (answers j).numSamplesReceived) k
  result : ∀ result, out = .ok result →
    ∑ j ∈ range k, (answers j).numSamplesReceived = numRxSamples ∧
      result = (List.range numRxStreams).map (received answers k)

/-- A download that leaves the loop has ended in one of the known ways. -/
theorem Receiving.of_leave {s : RecvLoop α}
    (hcounts : PartialCounts numRxSamples fun j => (answers j).numSamplesReceived)
    (h : Receiving zero numRxStreams numRxSamples answers i s)
    (hleave : recvIteration numRxStreams numRxSamples s (answers i) = .leave (out, calls)) :
    ∃ k, Downloaded numRxStreams numRxSamples answers out calls k := by
  rcases Nat.lt_or_ge (∑ j ∈ range i, (answers j).numSamplesReceived) numRxSamples with
    hlt | hge
  · rw [h.iteration_of_lt hlt] at hleave
    cases herror : (answers i).strerror with
    | none =>
        rw [herror] at hleave
        cases hleave
    | some strerror =>
        rw [herror] at hleave
        cases hleave
        exact ⟨i + 1, h.afterRecv.calls, fun result hok => nomatch hok⟩
  · rw [h.iteration_of_ge hge] at hleave
    split at hleave
    · cases hleave
      exact ⟨i, h.calls, fun result hok => nomatch hok⟩
    · cases hleave
      have hsum : ∑ j ∈ range i, (answers j).numSamplesReceived = numRxSamples :=
        Nat.le_antisymm (hcounts.sum_le i) hge
      refine ⟨i, h.calls, fun result hok => ⟨hsum, ?_⟩⟩
      obtain rfl := Except.ok.inj hok
      rw [h.result, hsum, Nat.sub_self]
      simp

/-- **The calls of a loop that leaves**, and what it returns if it does not throw:
the chunks of each channel, one behind the other. -/
theorem recvLoop_calls
    (hcounts : PartialCounts numRxSamples fun j => (answers j).numSamplesReceived)
    (h : Loop.run (recvIteration numRxStreams numRxSamples) answers fuel 0
      ⟨0, List.replicate numRxStreams (List.replicate numRxSamples zero), false, []⟩ =
        some (out, calls)) :
    ∃ k, Downloaded numRxStreams numRxSamples answers out calls k := by
  refine Loop.run_spec (I := Receiving zero numRxStreams numRxSamples answers)
    (P := fun r => ∃ k, Downloaded numRxStreams numRxSamples answers r.1 r.2 k)
    ?_ (fun i s r hs hleave => hs.of_leave hcounts hleave) receiving_start h
  intro i s s' hs hgoOn
  obtain ⟨-, -, rfl⟩ := hs.of_goOn hgoOn
  exact hs.afterRecv

end

/-! ## What is transferred -/

section

variable {α : Type}

/-- The samples of a channel that the calls hand over to the streamer. -/
def handedOver (txSignal : MimoSignal α) (calls : List PacketCall) (c : ℕ) : List α :=
  calls.flatMap fun call => match call.buffers[c]? with
    | none => []
    | some p => (((txSignal[p.channel]?).getD []).drop p.offset).take call.transferred

/-- The calls hand over the samples up to where the next call starts. -/
theorem handedOver_packets {txSignal : MimoSignal α} {signal : List α}
    {numStreams numSamples c : ℕ} {counts : ℕ → ℕ} (hc : c < numStreams)
    (hsignal : txSignal[c]? = some signal) (k : ℕ) :
    handedOver txSignal (packets numStreams numSamples counts k) c =
      signal.take (∑ j ∈ range k, counts j) := by
  induction k with
  | zero => rfl
  | succ k ih =>
      have hbuffer : (packet numStreams numSamples counts k).buffers[c]? =
          some ⟨c, ∑ j ∈ range k, counts j⟩ := by
        simp [packet, buffersAt, hc]
      rw [packets_succ, handedOver, List.flatMap_append, sum_range_succ, List.take_add]
      congr 1
      rw [List.flatMap_singleton, hbuffer]
      show (((txSignal[c]?).getD []).drop _).take _ = _
      rw [hsignal]
      rfl

/-- Every call reads its samples inside the signals. -/
def ReadsInside (txSignal : MimoSignal α) (call : PacketCall) : Prop :=
  ∀ p ∈ call.buffers, ∃ signal, txSignal[p.channel]? = some signal ∧
    p.offset + call.requested ≤ signal.length

/-- A packet reads inside the signals. -/
theorem readsInside_packet {txSignal : MimoSignal α} {numSamples k : ℕ} {counts : ℕ → ℕ}
    (hlength : ∀ signal ∈ txSignal, signal.length = numSamples)
    (hcounts : PartialCounts numSamples counts) :
    ReadsInside txSignal (packet txSignal.length numSamples counts k) := by
  intro p hp
  obtain ⟨hchannel, -⟩ := offset_of_mem_packet hp
  refine ⟨txSignal[p.channel], List.getElem?_eq_getElem hchannel, ?_⟩
  rw [hlength _ (List.getElem_mem hchannel)]
  exact packet_end_le hcounts hp

/-- **An upload of signals of one length.** -/
theorem uploadSamples_exact {txSignal : MimoSignal α} {numTxStreams numSamples fuel : ℕ}
    {counts : ℕ → ℕ} {calls : List PacketCall}
    (hlength : ∀ signal ∈ txSignal, signal.length = numSamples)
    (hcounts : PartialCounts numSamples counts)
    (h : uploadSamples txSignal numTxStreams counts fuel = some (.ok calls)) :
    (∀ call ∈ calls, ReadsInside txSignal call) ∧
      ∀ c signal, txSignal[c]? = some signal → handedOver txSignal calls c = signal := by
  unfold uploadSamples at h
  split at h
  · cases h
  · rename_i hcount
    rw [not_not] at hcount
    subst hcount
    cases hfirst : firstSignal txSignal with
    | error e =>
        rw [hfirst] at h
        cases h
    | ok first =>
        rw [hfirst, Option.map_eq_some_iff] at h
        obtain ⟨_, hrun, hcalls⟩ := h
        obtain rfl := Except.ok.inj hcalls
        rw [hlength first (mem_of_firstSignal hfirst)] at hrun
        obtain ⟨k, hsum, rfl⟩ := sendLoop_calls hcounts hrun
        constructor
        · intro call hcall
          obtain ⟨i, -, rfl⟩ := List.mem_map.mp hcall
          exact readsInside_packet hlength hcounts
        · intro c signal hsignal
          obtain ⟨hc, -⟩ := List.getElem?_eq_some_iff.mp hsignal
          rw [handedOver_packets hc hsignal, hsum]
          exact List.take_of_length_le (hlength signal (List.mem_of_getElem? hsignal)).le

/-- Call `k` of a download asks for no more than a packet and than the samples
that are left, and for no samples behind the end of a buffer. -/
def AsksInside (numRxStreams numRxSamples : ℕ) (calls : List PacketCall) : Prop :=
  ∀ k call, calls[k]? = some call →
    call.requested ≤ numRxSamples - ((calls.take k).map PacketCall.transferred).sum ∧
      call.requested ≤ PACKET_SIZE ∧
      ∀ p ∈ call.buffers, p.channel < numRxStreams ∧
        p.offset + call.requested ≤ numRxSamples

theorem packets_take {numStreams numSamples : ℕ} {counts : ℕ → ℕ} {k n : ℕ} (h : k ≤ n) :
    (packets numStreams numSamples counts n).take k = packets numStreams numSamples counts k := by
  rw [packets, ← List.map_take, List.take_range, Nat.min_eq_left h]
  rfl

theorem sum_transferred (numStreams numSamples : ℕ) (counts : ℕ → ℕ) (k : ℕ) :
    ((packets numStreams numSamples counts k).map PacketCall.transferred).sum =
      ∑ j ∈ range k, counts j := by
  induction k with
  | zero => rfl
  | succ k ih =>
      rw [packets_succ, List.map_append, List.sum_append, ih, sum_range_succ]
      simp [packet]

/-- No call asks for more than is left. -/
theorem asksInside_packets {numStreams numSamples : ℕ} {counts : ℕ → ℕ}
    (hcounts : PartialCounts numSamples counts) (n : ℕ) :
    AsksInside numStreams numSamples (packets numStreams numSamples counts n) := by
  intro k call hcall
  obtain ⟨hk, -⟩ := List.getElem?_eq_some_iff.mp hcall
  rw [packets_length] at hk
  rw [packets, List.getElem?_map, List.getElem?_range hk] at hcall
  obtain rfl := Option.some.inj hcall
  rw [packets_take hk.le, sum_transferred]
  refine ⟨min_le_left _ _, min_le_right _ _, fun p hp => ?_⟩
  exact ⟨(offset_of_mem_packet hp).1, packet_end_le hcounts hp⟩

/-- **A download** that leaves its loop. -/
theorem downloadSamples_exact {zero : α} {numRxStreams numRxSamples fuel : ℕ}
    {answers : ℕ → RecvResult α} {out : Except Fault (MimoSignal α)} {calls : List PacketCall}
    (hcounts : PartialCounts numRxSamples fun j => (answers j).numSamplesReceived)
    (h : downloadSamples zero numRxStreams numRxSamples answers fuel = some (out, calls)) :
    AsksInside numRxStreams numRxSamples calls ∧
      ∀ result, out = .ok result → result.length = numRxStreams ∧
        ∀ c signal, result[c]? = some signal →
          signal = received answers calls.length c ∧ signal.length = numRxSamples := by
  obtain ⟨k, hcalls, hresult⟩ : ∃ k, Downloaded numRxStreams numRxSamples answers out calls k := by
    unfold downloadSamples at h
    simp only at h
    split at h
    · rename_i hzero
      cases h
      refine ⟨0, rfl, fun result hok => ⟨by rw [hzero]; rfl, ?_⟩⟩
      obtain rfl := Except.ok.inj hok
      rw [hzero]
      show _ = (List.range numRxStreams).map fun c => received answers 0 c
      simp [received]
    · exact recvLoop_calls hcounts h
  subst hcalls
  refine ⟨asksInside_packets hcounts k, fun result hok => ?_⟩
  obtain ⟨hsum, rfl⟩ := hresult result hok
  refine ⟨by simp, fun c signal hsignal => ?_⟩
  obtain ⟨hc, rfl⟩ := List.getElem?_eq_some_iff.mp hsignal
  rw [List.getElem_map, packets_length, List.getElem_range]
  exact ⟨rfl, by rw [received_length, hsum]⟩

/-- The signals of an aligned config have the length of the first one. -/
theorem aligned_length {isnan : α → Bool} {zero : α} {conf config : TxStreamingConfig α}
    {maxSamples numTxStreams : ℕ}
    (hvalid : assertValidTxSignal isnan conf.samples maxSamples numTxStreams = .ok ())
    (haligned : conf.alignToWordSize zero = .ok config) :
    ∀ signal ∈ config.samples, signal.length = (config.samples.headD []).length := by
  obtain ⟨first, hfirst, -, -⟩ := assertValidTxSignal_eq_ok hvalid
  obtain rfl := (TxStreamingConfig.alignToWordSize_eq_ok_iff hfirst).mp haligned
  have hresized : ∀ signal ∈ resizeSignal zero conf.samples
      (nextMultipleOfWordSize (UInt64.ofNat first.length)),
      signal.length = (nextMultipleOfWordSize (UInt64.ofNat first.length)).toNat := by
    intro signal hsignal
    obtain ⟨antSignal, -, rfl⟩ := List.mem_map.mp hsignal
    exact resize_length _ _ _
  intro signal hsignal
  cases hsamples : resizeSignal zero conf.samples
      (nextMultipleOfWordSize (UInt64.ofNat first.length)) with
  | nil =>
      rw [hsamples] at hsignal
      cases hsignal
  | cons head rest =>
      have hhead := hresized head (by rw [hsamples]; exact List.mem_cons_self)
      exact (hresized signal hsignal).trans hhead.symm

/-- **Exact transfers.**  An upload of an accepted, word-aligned signal that leaves
its loop has handed over the samples of every channel once and in their order,
and has read nothing behind them.  A download that leaves its loop has never asked
for more than a packet or than what was left, so that every write stayed inside
the buffers; if it does not throw it returns, for every channel, the received
chunks one behind the other, and they have the requested length. -/
theorem transfers_exact {isnan : α → Bool} {zero : α} {conf config : TxStreamingConfig α}
    {maxSamples numTxStreams : ℕ} {samplesSent : ℕ → ℕ}
    (hvalid : assertValidTxSignal isnan conf.samples maxSamples numTxStreams = .ok ())
    (haligned : conf.alignToWordSize zero = .ok config)
    (hsent : PartialCounts (config.samples.headD []).length samplesSent)
    (numRxStreams : ℕ) {numRxSamples : ℕ} {answers : ℕ → RecvResult α}
    (hreceived : PartialCounts numRxSamples fun i => (answers i).numSamplesReceived) (fuel : ℕ) :
    (∀ calls, uploadSamples config.samples numTxStreams samplesSent fuel = some (.ok calls) →
      (∀ call ∈ calls, ReadsInside config.samples call) ∧
        ∀ c signal, config.samples[c]? = some signal →
          handedOver config.samples calls c = signal) ∧
    ∀ out calls, downloadSamples zero numRxStreams numRxSamples answers fuel = some (out, calls) →
      AsksInside numRxStreams numRxSamples calls ∧
        ∀ result, out = .ok result → result.length = numRxStreams ∧
          ∀ c signal, result[c]? = some signal →
            signal = received answers calls.length c ∧ signal.length = numRxSamples :=
  ⟨fun _ h => uploadSamples_exact (aligned_length hvalid haligned) hsent h,
    fun _ _ h => downloadSamples_exact hreceived h⟩

/-- Two antennas with three samples each. -/
def exampleSignal : TxStreamingConfig ℕ := ⟨[[1, 2, 3], [4, 5, 6]], 0, 1⟩

/-- The same signals, filled up to words. -/
def exampleAligned : TxStreamingConfig ℕ :=
  ⟨[[1, 2, 3, 0, 0, 0, 0, 0], [4, 5, 6, 0, 0, 0, 0, 0]], 0, 1⟩

/-- Eight samples in two packets. -/
def exampleCounts : ℕ → ℕ
  | 0 => 3
  | 1 => 5
  | _ => 0

/-- Two `recv`s, the second one with the end of the burst. -/
def exampleAnswers (i : ℕ) : RecvResult ℕ :=
  ⟨exampleCounts i, fun c j => 100 * c + 10 * i + j, none, i == 1⟩

theorem partialCounts_example : PartialCounts 8 exampleCounts := by
  intro i
  match i with
  | 0 => decide
  | 1 => decide
  | _ + 2 => exact Nat.zero_le _

/-- Eight samples for each antenna in two packets, in both directions. -/
theorem transfers_exact_example :
    (∃ calls, uploadSamples exampleAligned.samples 2 exampleCounts 3 = some (.ok calls) ∧
      handedOver exampleAligned.samples calls 1 = [4, 5, 6, 0, 0, 0, 0, 0]) ∧
    ∃ result calls, downloadSamples 0 2 8 exampleAnswers 3 = some (.ok result, calls) ∧
      AsksInside 2 8 calls ∧ result.length = 2 := by
  have hvalid : assertValidTxSignal (fun _ => false) exampleSignal.samples
      200000 2 = .ok () := by decide
  have haligned : exampleSignal.alignToWordSize 0 = .ok exampleAligned := by decide +kernel
  have hreceived : PartialCounts 8 fun i => (exampleAnswers i).numSamplesReceived :=
    partialCounts_example
  obtain ⟨hupload, hdownload⟩ :=
    transfers_exact hvalid haligned partialCounts_example 2 hreceived 3
  obtain ⟨hasks, hresult⟩ := hdownload _ _ rfl
  exact ⟨⟨_, rfl, (hupload _ rfl).2 1 _ rfl⟩, _, _, rfl, hasks, (hresult _ rfl).1⟩

end

/-! ## The loops and the replay block

`sendPackets` and `recvPackets` of `FullDuplexGraph` say what the loops do to the
replay block and get from it.  A loop that leaves is such a sequence of packets. -/

section

variable {α : Type} (F : SampleFormat α)

/-- The loop of `upload` from iteration `i` on delivers its calls one after the
other to the replay block. -/
theorem sendPackets_of_sendLoop {txSignal : MimoSignal α} {numTxStreams numSamples i fuel : ℕ}
    {counts : ℕ → ℕ} {calls : List PacketCall} {s : SendLoop}
    (hcounts : PartialCounts numSamples counts)
    (hs : Sending numTxStreams numSamples counts i s)
    (h : Loop.run (sendIteration numTxStreams numSamples) counts fuel i s = some calls)
    (g : FullDuplexGraph) :
    ∃ d, sendPackets F txSignal numSamples ((List.range' i d).map counts)
        (∑ j ∈ range i, counts j) g =
      .ok () ((List.range' i d).foldl
        (fun g k => send F txSignal (∑ j ∈ range k, counts j) (counts k) g) g) := by
  induction fuel generalizing i s g with
  | zero => cases h
  | succ fuel ih =>
      rcases Nat.lt_or_ge (∑ j ∈ range i, counts j) numSamples with hlt | hge
      · obtain ⟨s', hgoOn, hs'⟩ := hs.goOn hlt
        rw [Loop.run_succ_of_goOn hgoOn] at h
        obtain ⟨d, hd⟩ := ih hs' h (send F txSignal (∑ j ∈ range i, counts j) (counts i) g)
        refine ⟨d + 1, ?_⟩
        rw [List.range'_succ, List.map_cons, List.foldl_cons, sendPackets, if_pos hlt,
          Nat.min_eq_left (hcounts i), bind_of_ok (modify_apply _ _), ← sum_range_succ]
        exact hd
      · refine ⟨0, ?_⟩
        show sendPackets F txSignal numSamples [] _ g = _
        rw [sendPackets, if_neg (Nat.not_lt.mpr hge)]
        rfl

/-- What the streamer of a download gets is what the replay block plays. -/
def Plays (h : ReplayHardware) (answers : ℕ → RecvResult α) : Prop :=
  ∀ i c, (answers i).chunk c =
    (h.memory.readCyclic 4 (h.playPorts c) (∑ j ∈ range i, (answers j).numSamplesReceived)
      (answers i).numSamplesReceived).map F.toHost

/-- What the loop looks at of a `recv`. -/
def RecvResult.answer (r : RecvResult α) : RecvAnswer :=
  ⟨r.numSamplesReceived, r.strerror, r.endOfBurst⟩

/-- The loop of `download` from iteration `i` on returns what the replay block
plays, or throws what `recvPackets` throws. -/
theorem recvPackets_of_recvLoop {h : ReplayHardware} {zero : α}
    {numRxStreams numRxSamples i fuel : ℕ} {answers : ℕ → RecvResult α} {s : RecvLoop α}
    {out : Except Fault (MimoSignal α)} {calls : List PacketCall}
    (hcounts : PartialCounts numRxSamples fun j => (answers j).numSamplesReceived)
    (hplays : Plays F h answers) (hs : Receiving zero numRxStreams numRxSamples answers i s)
    (hrun : Loop.run (recvIteration numRxStreams numRxSamples) answers fuel i s =
      some (out, calls)) :
    ∃ d, (recvPackets F h numRxSamples ((List.range' i d).map fun j => (answers j).answer)
        s.endOfBurst (∑ j ∈ range i, (answers j).numSamplesReceived) (received answers i)).map
          (fun buffers => (List.range numRxStreams).map buffers) = out := by
  induction fuel generalizing i s with
  | zero => cases hrun
  | succ fuel ih =>
      rcases Nat.lt_or_ge (∑ j ∈ range i, (answers j).numSamplesReceived) numRxSamples with
        hlt | hge
      · have hbody := hs.iteration_of_lt hlt
        cases herror : (answers i).strerror with
        | some strerror =>
            rw [herror] at hbody
            rw [Loop.run_succ_of_leave hbody] at hrun
            cases hrun
            refine ⟨1, ?_⟩
            rw [List.range'_one, List.map_singleton, recvPackets, if_pos hlt]
            simp only [RecvResult.answer, herror]
            rfl
        | none =>
            rw [herror] at hbody
            rw [Loop.run_succ_of_goOn hbody] at hrun
            obtain ⟨d, hd⟩ := ih hs.afterRecv hrun
            refine ⟨d + 1, ?_⟩
            have hcount : min (answers i).numSamplesReceived
                (min (numRxSamples - ∑ j ∈ range i, (answers j).numSamplesReceived) PACKET_SIZE) =
                (answers i).numSamplesReceived := Nat.min_eq_left (hcounts i)
            have hbuffers : (fun c => received answers i c ++
                (h.memory.readCyclic 4 (h.playPorts c)
                  (∑ j ∈ range i, (answers j).numSamplesReceived)
                  (answers i).numSamplesReceived).map F.toHost) = received answers (i + 1) := by
              funext c
              rw [received_succ, hplays i c]
            rw [List.range'_succ, List.map_cons, recvPackets, if_pos hlt]
            simp only [RecvResult.answer, herror, hcount, hbuffers]
            rw [← sum_range_succ fun j => (answers j).numSamplesReceived]
            exact hd
      · have hbody := hs.iteration_of_ge hge
        have hsum : ∑ j ∈ range i, (answers j).numSamplesReceived = numRxSamples :=
          Nat.le_antisymm (hcounts.sum_le i) hge
        refine ⟨0, ?_⟩
        show Except.map _ (recvPackets F h numRxSamples [] _ _ _) = _
        rw [recvPackets, if_neg (Nat.not_lt.mpr hge)]
        by_cases hburst : s.endOfBurst = false
        · rw [if_pos hburst] at hbody
          rw [Loop.run_succ_of_leave hbody] at hrun
          cases hrun
          rw [hburst]
          rfl
        · rw [if_neg hburst] at hbody
          rw [Loop.run_succ_of_leave hbody] at hrun
          cases hrun
          rw [Bool.not_eq_false] at hburst
          rw [hburst, hs.result, hsum, Nat.sub_self]
          simp [check, Except.map, bind, Except.bind, pure, Except.pure]

end

/-! ## Leaving the loops -/

/-- As long as samples are left, a later `send` accepts one of them. -/
def KeepsAccepting (numSamples : ℕ) (samplesSent : ℕ → ℕ) : Prop :=
  ∀ k, ∑ j ∈ range k, samplesSent j < numSamples → ∃ i, k ≤ i ∧ 0 < samplesSent i

section

variable {α : Type}

/-- While samples are left, a `recv` without samples reports an error. -/
def ReportsTimeouts (numRxSamples : ℕ) (answers : ℕ → RecvResult α) : Prop :=
  ∀ i, ∑ j ∈ range i, (answers j).numSamplesReceived < numRxSamples →
    (answers i).numSamplesReceived = 0 → (answers i).strerror ≠ none

/-- An upload gets through its loop, with all samples transferred, or throws. -/
def UploadEnds (txSignal : MimoSignal α) (samplesSent : ℕ → ℕ) : Prop :=
  ∃ fuel out, uploadSamples txSignal txSignal.length samplesSent fuel = some out ∧
    ∀ calls, out = .ok calls →
      (calls.map PacketCall.transferred).sum = (txSignal.headD []).length

/-- A download gets through its loop, with all samples transferred, or throws. -/
def DownloadEnds (zero : α) (numRxStreams numRxSamples : ℕ) (answers : ℕ → RecvResult α) : Prop :=
  ∃ fuel out calls, downloadSamples zero numRxStreams numRxSamples answers fuel =
      some (out, calls) ∧
    ∀ result, out = .ok result → (calls.map PacketCall.transferred).sum = numRxSamples

/-- The loop of `upload` leaves if the streamer keeps accepting. -/
theorem sendLoop_leaves {numTxStreams numSamples : ℕ} {counts : ℕ → ℕ}
    (haccepts : KeepsAccepting numSamples counts) :
    Loop.Leaves (sendIteration numTxStreams numSamples) counts 0 ⟨0, []⟩ := by
  refine Loop.leaves_of_progress (I := Sending numTxStreams numSamples counts)
    (fun s => numSamples - s.totalSamplesSent) (fun i => 0 < counts i) ?_ ?_ sending_start
  · intro i s s' hs hbody
    obtain ⟨hlt, hs'⟩ := hs.of_goOn hbody
    have htotal := hs.total
    have htotal' := hs'.total
    rw [sum_range_succ] at htotal'
    refine ⟨hs', by omega, fun hpos => by omega⟩
  · intro i s s' hs hbody
    obtain ⟨hlt, -⟩ := hs.of_goOn hbody
    exact haccepts i hlt

/-- The loop of `upload` never leaves a streamer that accepts nothing any more. -/
theorem sendLoop_stuck {numTxStreams numSamples k : ℕ} {counts : ℕ → ℕ}
    (hleft : ∑ j ∈ range k, counts j < numSamples) (hstuck : ∀ i, k ≤ i → counts i = 0)
    (fuel : ℕ) :
    Loop.run (sendIteration numTxStreams numSamples) counts fuel 0 ⟨0, []⟩ = none := by
  refine Loop.run_eq_none (I := Sending numTxStreams numSamples counts) ?_ sending_start
  intro i s hs
  refine hs.goOn (lt_of_le_of_lt ?_ hleft)
  -- nothing is added to the total from call `k` on
  rcases Nat.le_total i k with hle | hle
  · exact sum_le_sum_of_subset (range_subset_range.mpr hle)
  · obtain ⟨d, rfl⟩ := Nat.exists_eq_add_of_le hle
    rw [sum_range_add]
    have hzero : ∑ j ∈ range d, counts (k + j) = 0 :=
      sum_eq_zero fun j _ => hstuck (k + j) (Nat.le_add_right k j)
    rw [hzero]
    exact Nat.le_refl _

theorem uploadSamples_of_length {txSignal : MimoSignal α} {head : List α} {rest : MimoSignal α}
    (h : txSignal = head :: rest) (counts : ℕ → ℕ) (fuel : ℕ) :
    uploadSamples txSignal txSignal.length counts fuel =
      (Loop.run (sendIteration txSignal.length head.length) counts fuel 0 ⟨0, []⟩).map .ok := by
  subst h
  rw [uploadSamples, if_neg (not_not_intro rfl)]
  rfl

/-- **An upload ends exactly if the streamer keeps accepting.** -/
theorem uploadEnds_iff {txSignal : MimoSignal α} {counts : ℕ → ℕ}
    (hcounts : PartialCounts (txSignal.headD []).length counts) :
    UploadEnds txSignal counts ↔ KeepsAccepting (txSignal.headD []).length counts := by
  cases hsignal : txSignal with
  | nil =>
      refine ⟨fun _ k hk => absurd hk (Nat.not_lt_zero _), fun _ => ?_⟩
      exact ⟨0, _, rfl, fun calls hok => nomatch hok⟩
  | cons head rest =>
      rw [hsignal] at hcounts
      rw [← hsignal, UploadEnds, hsignal, List.headD_cons]
      rw [List.headD_cons] at hcounts
      constructor
      · rintro ⟨fuel, out, hrun, -⟩ k hleft
        by_contra hstuck
        rw [uploadSamples_of_length rfl, sendLoop_stuck hleft
          (fun i hi => Nat.eq_zero_of_not_pos fun hpos => hstuck ⟨i, hi, hpos⟩)] at hrun
        cases hrun
      · intro haccepts
        obtain ⟨fuel, calls, hrun⟩ := sendLoop_leaves haccepts
        refine ⟨fuel, .ok calls, by rw [uploadSamples_of_length rfl, hrun]; rfl, ?_⟩
        intro calls' hok
        obtain rfl := Except.ok.inj hok
        obtain ⟨k, hsum, rfl⟩ := sendLoop_calls hcounts hrun
        rw [sum_transferred, hsum]

/-- **A download always ends**: every `recv` transfers a sample or throws. -/
theorem downloadEnds {zero : α} {numRxStreams numRxSamples : ℕ} {answers : ℕ → RecvResult α}
    (hcounts : PartialCounts numRxSamples fun j => (answers j).numSamplesReceived)
    (htimeouts : ReportsTimeouts numRxSamples answers) :
    DownloadEnds zero numRxStreams numRxSamples answers := by
  rcases Nat.eq_zero_or_pos numRxSamples with hzero | hpos
  · exact ⟨0, _, [], by rw [downloadSamples, if_pos hzero], fun _ _ => hzero.symm⟩
  have hleaves : Loop.Leaves (recvIteration numRxStreams numRxSamples) answers 0
      ⟨0, List.replicate numRxStreams (List.replicate numRxSamples zero), false, []⟩ := by
    refine Loop.leaves_of_progress (I := Receiving zero numRxStreams numRxSamples answers)
      (fun s => numRxSamples - s.totalSamplesReceived) (fun _ => True) ?_
      (fun i s s' _ _ => ⟨i, Nat.le_refl i, trivial⟩) receiving_start
    intro i s s' hs hgoOn
    obtain ⟨hlt, hnone, rfl⟩ := hs.of_goOn hgoOn
    have hreceived : (answers i).numSamplesReceived ≠ 0 :=
      fun hempty => htimeouts i hlt hempty hnone
    have htotal := hs.total
    have htotal' := hs.afterRecv.total
    rw [sum_range_succ] at htotal'
    refine ⟨hs.afterRecv, by omega, fun _ => by omega⟩
  obtain ⟨fuel, ⟨out, calls⟩, hrun⟩ := hleaves
  obtain ⟨k, rfl, hresult⟩ := recvLoop_calls hcounts hrun
  refine ⟨fuel, out, _, by rw [downloadSamples, if_neg hpos.ne']; exact hrun, ?_⟩
  intro result hok
  rw [sum_transferred, (hresult result hok).1]

/-- **The sample loops end exactly if `send` keeps accepting samples.**  For every
signal, every requested number of samples and every behaviour of the streamers,
where a `recv` without samples reports an error: both loops leave after finitely
many iterations, with all samples transferred or with an exception, if and only if
`send`, while samples are left, does not return `0` for ever. -/
theorem sampleLoops_end_iff {txSignal : MimoSignal α} {samplesSent : ℕ → ℕ}
    (hsent : PartialCounts (txSignal.headD []).length samplesSent) (zero : α)
    (numRxStreams : ℕ) {numRxSamples : ℕ} {answers : ℕ → RecvResult α}
    (hreceived : PartialCounts numRxSamples fun i => (answers i).numSamplesReceived)
    (htimeouts : ReportsTimeouts numRxSamples answers) :
    UploadEnds txSignal samplesSent ∧ DownloadEnds zero numRxStreams numRxSamples answers ↔
      KeepsAccepting (txSignal.headD []).length samplesSent := by
  rw [uploadEnds_iff hsent]
  exact and_iff_left (downloadEnds hreceived htimeouts)

/-- A streamer that accepts nothing, although a sample is left: no `send` makes
the upload end or throw. -/
theorem upload_stuck : PartialCounts 1 (fun _ => 0) ∧ ¬ UploadEnds [[()]] fun _ => 0 := by
  refine ⟨fun _ => Nat.zero_le _, ?_⟩
  rintro ⟨fuel, out, hrun, -⟩
  have hstuck : Loop.run (sendIteration 1 1) (fun _ => 0) fuel 0 ⟨0, []⟩ = none :=
    sendLoop_stuck Nat.one_pos (k := 0) (fun _ _ => rfl) fuel
  rw [uploadSamples_of_length rfl, show [()].length = 1 from rfl, show [[()]].length = 1 from rfl,
    hstuck] at hrun
  cases hrun

theorem sum_exampleCounts (k : ℕ) : ∑ j ∈ range (k + 2), exampleCounts j = 8 := by
  induction k with
  | zero => rfl
  | succ k ih => rw [sum_range_succ, ih]; rfl

/-- Both loops end after the two packets. -/
theorem sampleLoops_end_example :
    UploadEnds exampleAligned.samples exampleCounts ∧ DownloadEnds 0 2 8 exampleAnswers := by
  have hsent : PartialCounts (exampleAligned.samples.headD []).length exampleCounts :=
    partialCounts_example
  have htimeouts : ReportsTimeouts 8 exampleAnswers := by
    intro i hleft hempty
    match i with
    | 0 => cases hempty
    | 1 => cases hempty
    | i + 2 => exact absurd hleft (Nat.not_lt.mpr (sum_exampleCounts i).ge)
  refine (sampleLoops_end_iff hsent 0 2 partialCounts_example htimeouts).mpr ?_
  intro k hleft
  match k with
  | 0 => exact ⟨1, Nat.zero_le 1, by decide⟩
  | 1 => exact ⟨1, Nat.le_refl 1, by decide⟩
  | k + 2 => exact absurd hleft (Nat.not_lt.mpr (sum_exampleCounts k).ge)

end

end FullDuplexGraph

end UsrpWrapper
