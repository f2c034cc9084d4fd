import UsrpWrapper.ReplayMemorySafety
import UsrpWrapper.Lib.ByteStore
import Mathlib.Logic.Function.Basic

/-!
# The replay block

The replay block of the FPGA is no code of the repository.  This file states the
behaviour the wrapper relies on: `record` directs the next words of a port to a
region, from its start on and not beyond its end; a restart begins the region
again; a play reads its region cyclically; and the memory keeps what was written.

`Holding` says that the slots of the recorded blocks contain given words, and
`Recording` that the ports are writing the slots of one block.  A word that
arrives extends the one and keeps the other (`Recording.store`, `Holding.store`).
-/

namespace UsrpWrapper

open Lib Lib.Store Lib.Command

/-! ## The hardware -/

/-- A sample in the memory and on the wire: 16 bits for each of I and Q. -/
abbrev Wire := Word 4 UInt8

/-- A port that records: its region, and the bytes it has written of it. -/
structure RecordPort where
  region : Region
  position : ℕ

/-- The replay block: its memory, and the regions its ports record to and play from. -/
structure ReplayHardware where
  memory : Store UInt8
  recordPorts : ℕ → RecordPort
  playPorts : ℕ → Region

namespace ReplayHardware

/-- A call on the replay block. -/
def command (c : ReplayCommand) (h : ReplayHardware) : ReplayHardware :=
  match c with
  | .record offset size port => { h with
      recordPorts := Function.update h.recordPorts port ⟨⟨offset.toNat, size.toNat⟩, 0⟩ }
  | .recordRestart port => { h with
      recordPorts := Function.update h.recordPorts port ⟨(h.recordPorts port).region, 0⟩ }
  | .configPlay offset size port => { h with
      playPorts := Function.update h.playPorts port ⟨offset.toNat, size.toNat⟩ }

/-- Calls one after the other. -/
def commands (cs : List ReplayCommand) (h : ReplayHardware) : ReplayHardware :=
  cs.foldl (fun h c => command c h) h

/-- A word arrives at a port; it is dropped when the region is full. -/
def store (port : ℕ) (w : Wire) (h : ReplayHardware) : ReplayHardware :=
  let p := h.recordPorts port
  if p.position + 4 ≤ p.region.size then
    { h with
      memory := h.memory.write (p.region.offset + p.position) w
      recordPorts := Function.update h.recordPorts port ⟨p.region, p.position + 4⟩ }
  else h

/-- Word `i` of a play. -/
def playWord (h : ReplayHardware) (port i : ℕ) : Wire :=
  h.memory.cyclicWord 4 (h.playPorts port) i

/-! ## Calls -/

theorem commands_append (cs ds : List ReplayCommand) (h : ReplayHardware) :
    h.commands (cs ++ ds) = (h.commands cs).commands ds := by
  simp [commands]

/-- No call writes to the memory. -/
theorem memory_commands (cs : List ReplayCommand) (h : ReplayHardware) :
    (h.commands cs).memory = h.memory := by
  induction cs generalizing h with
  | nil => rfl
  | cons c cs ih =>
      show ((command c h).commands cs).memory = h.memory
      rw [ih]
      cases c <;> rfl

/-- What the calls of a loop over the streams leave in the ports, if each of them sets
its own one. -/
theorem ports_commands_range {τ : Type} (ports : ReplayHardware → ℕ → τ) {value : ℕ → τ}
    {call : ℕ → ReplayCommand}
    (hcall : ∀ i h, ports (command (call i) h) = Function.update (ports h) i (value i))
    (n : ℕ) (h : ReplayHardware) {s : ℕ} (hs : s < n) :
    ports (h.commands ((List.range n).map call)) s = value s := by
  induction n with
  | zero => cases hs
  | succ n ih =>
      rw [List.range_succ, List.map_append, commands_append]
      show ports (command (call n) _) s = _
      rw [hcall]
      by_cases heq : s = n
      · rw [heq, Function.update_self]
      · rw [Function.update_of_ne heq]
        exact ih (by omega)

/-- Configured record ports start at the beginning of their regions. -/
theorem recordPorts_records (off : ℕ → UInt64) (size : UInt64) (n : ℕ) (h : ReplayHardware) {s : ℕ}
    (hs : s < n) :
    (h.commands ((List.range n).map fun s => .record (off s) size s)).recordPorts s =
      ⟨⟨(off s).toNat, size.toNat⟩, 0⟩ := by
  have hcall (i : ℕ) (h : ReplayHardware) : (command (.record (off i) size i) h).recordPorts =
      Function.update h.recordPorts i ⟨⟨(off i).toNat, size.toNat⟩, 0⟩ := rfl
  exact ports_commands_range recordPorts hcall n h hs

/-- Restarts keep a port that has not written anything. -/
theorem recordPorts_restarts (ports : List ℕ) {h : ReplayHardware} {s : ℕ}
    (hpos : (h.recordPorts s).position = 0) :
    (h.commands (ports.map .recordRestart)).recordPorts s = h.recordPorts s := by
  induction ports generalizing h with
  | nil => rfl
  | cons p ports ih =>
      have hstep : (command (.recordRestart p) h).recordPorts s = h.recordPorts s := by
        show Function.update _ p _ s = _
        by_cases heq : s = p
        · subst heq
          rw [Function.update_self, ← hpos]
        · rw [Function.update_of_ne heq]
      show ((command (.recordRestart p) h).commands _).recordPorts s = _
      rw [ih (by rw [hstep]; exact hpos), hstep]

/-- Configured play ports play their regions. -/
theorem playPorts_plays (off : ℕ → UInt64) (size : UInt64) (n : ℕ) (h : ReplayHardware) {s : ℕ}
    (hs : s < n) :
    (h.commands ((List.range n).map fun s => .configPlay (off s) size s)).playPorts s =
      ⟨(off s).toNat, size.toNat⟩ := by
  have hcall (i : ℕ) (h : ReplayHardware) : (command (.configPlay (off i) size i) h).playPorts =
      Function.update h.playPorts i ⟨(off i).toNat, size.toNat⟩ := rfl
  exact ports_commands_range playPorts hcall n h hs

/-- Plays leave the record ports alone, and the other calls the play ports. -/
theorem recordPorts_commands {cs : List ReplayCommand}
    (hcs : ∀ c ∈ cs, c.playRegion.isSome = true) (h : ReplayHardware) :
    (h.commands cs).recordPorts = h.recordPorts := by
  induction cs generalizing h with
  | nil => rfl
  | cons c cs ih =>
      have hc := hcs c List.mem_cons_self
      show ((command c h).commands cs).recordPorts = _
      rw [ih fun c' hc' => hcs c' (List.mem_cons_of_mem c hc')]
      cases c with
      | configPlay offset size port => rfl
      | record offset size port => cases hc
      | recordRestart port => cases hc

/-- Calls that play nothing leave the play ports alone. -/
theorem playPorts_commands {cs : List ReplayCommand}
    (hcs : ∀ c ∈ cs, c.playRegion = none) (h : ReplayHardware) :
    (h.commands cs).playPorts = h.playPorts := by
  induction cs generalizing h with
  | nil => rfl
  | cons c cs ih =>
      have hc := hcs c List.mem_cons_self
      show ((command c h).commands cs).playPorts = _
      rw [ih fun c' hc' => hcs c' (List.mem_cons_of_mem c hc')]
      cases c with
      | configPlay offset size port => cases hc
      | record offset size port => rfl
      | recordRestart port => rfl

/-! ## Words that arrive -/

@[simp] theorem playPorts_store (port : ℕ) (w : Wire) (h : ReplayHardware) :
    (h.store port w).playPorts = h.playPorts := by
  simp only [store]
  split <;> rfl

theorem recordPorts_store_of_ne {port s : ℕ} (hne : s ≠ port) (w : Wire) (h : ReplayHardware) :
    (h.store port w).recordPorts s = h.recordPorts s := by
  simp only [store]
  split
  · exact Function.update_of_ne hne _ _
  · rfl

theorem region_store (port s : ℕ) (w : Wire) (h : ReplayHardware) :
    ((h.store port w).recordPorts s).region = (h.recordPorts s).region := by
  simp only [store]
  split
  · by_cases heq : s = port
    · subst heq
      simp only [Function.update_self]
    · simp only [Function.update_of_ne heq]
  · rfl

/-- A word is written inside the region of its port. -/
theorem agreeOn_store {port : ℕ} {w : Wire} {h : ReplayHardware} {r : Region}
    (hdisjoint : Disjoint (h.recordPorts port).region.addresses r.addresses) :
    Store.AgreeOn h.memory (h.store port w).memory r := by
  simp only [store]
  split
  · rename_i hroom
    refine agreeOn_write (Set.disjoint_of_subset_left ?_ hdisjoint)
    refine Region.Inside.addresses_subset ⟨Nat.le_add_right _ _, ?_⟩
    show (h.recordPorts port).region.offset + (h.recordPorts port).position + 4 ≤ _
    omega
  · exact agreeOn_refl _ _

end ReplayHardware

/-! ## Recorded contents -/

namespace ReplayBlockConfig

open BlockOffsetTracker

/-- The first blocks of a direction contain these words, for each block and
stream. -/
structure Holding (r : ReplayBlockConfig) (d : Direction) (h : ReplayHardware)
    (contents : List (ℕ → List Wire)) : Prop where
  slot : ∀ i content block s, contents[i]? = some content →
    (r.blocks d).replayBlocks[i]? = some block → s < (r.numStreams d).toNat →
      (content s).length = block.exactTotal ∧
        Holds h.memory (r.slotRegion d i block s).offset (content s)

/-- The ports record block `i`, and have stored the words `current`. -/
structure Recording (r : ReplayBlockConfig) (d : Direction) (h : ReplayHardware) (i : ℕ)
    (block : ReplayBlock) (current : ℕ → List Wire) : Prop where
  port : ∀ s < (r.numStreams d).toNat,
    h.recordPorts s = ⟨r.slotRegion d i block s, (current s).length * 4⟩
  length_le : ∀ s < (r.numStreams d).toNat, (current s).length ≤ block.exactTotal
  holds : ∀ s < (r.numStreams d).toNat,
    Holds h.memory (r.slotRegion d i block s).offset (current s)

theorem holding_nil (r : ReplayBlockConfig) (d : Direction) (h : ReplayHardware) :
    Holding r d h [] :=
  ⟨fun _ _ _ _ hcontent => nomatch hcontent⟩

/-- The contents only depend on the memory in the slots. -/
theorem Holding.frame {r : ReplayBlockConfig} {d : Direction} {h h' : ReplayHardware}
    {contents : List (ℕ → List Wire)} (hh : Holding r d h contents)
    (hagree : ∀ i block s, i < contents.length →
      (r.blocks d).replayBlocks[i]? = some block → s < (r.numStreams d).toNat →
        Store.AgreeOn h.memory h'.memory (r.slotRegion d i block s)) :
    Holding r d h' contents := by
  refine ⟨fun i content block s hcontent hblock hs => ?_⟩
  obtain ⟨hlen, hholds⟩ := hh.slot i content block s hcontent hblock hs
  obtain ⟨hi, -⟩ := List.getElem?_eq_some_iff.mp hcontent
  refine ⟨hlen, hholds.frame ?_⟩
  rw [hlen]
  exact hagree i block s hi hblock hs

/-- A change outside of the buffer of a direction keeps its contents. -/
theorem Holding.frame_buffer {r : ReplayBlockConfig} {d : Direction} {h h' : ReplayHardware}
    {contents : List (ℕ → List Wire)} (hh : Holding r d h contents) (hfits : r.DirectionFits d)
    (hagree : Store.AgreeOn h.memory h'.memory (buffer r.memSize.toNat d)) :
    Holding r d h' contents :=
  hh.frame fun _ _ _ _ hblock hs => hagree.mono (slotRegion_inside hfits hblock hs)

/-- Contents and recordings depend on their direction and the memory only. -/
theorem AgreeOn.slotRegion_eq {r r' : ReplayBlockConfig} {d : Direction} (h : AgreeOn d r r')
    (i : ℕ) (block : ReplayBlock) (s : ℕ) :
    r'.slotRegion d i block s = r.slotRegion d i block s := by
  rw [slotRegion, slotRegion, h.memSize, h.blocks]

theorem AgreeOn.directionFits {r r' : ReplayBlockConfig} {d : Direction} (h : AgreeOn d r r')
    (hfits : r.DirectionFits d) : r'.DirectionFits d := by
  show LayoutOk _ _ _
  rw [← h.blocks, ← h.streams, ← h.memSize]
  exact hfits

/-- What is held depends on the half and on the memory. -/
theorem Holding.congr {r r' : ReplayBlockConfig} {d : Direction} {h h' : ReplayHardware}
    {contents : List (ℕ → List Wire)} (hh : Holding r d h contents) (hagree : AgreeOn d r r')
    (hmemory : h'.memory = h.memory) : Holding r' d h' contents := by
  refine ⟨fun i content block s hcontent hblock hs => ?_⟩
  rw [← hagree.blocks] at hblock
  rw [← hagree.streams] at hs
  rw [hagree.slotRegion_eq, hmemory]
  exact hh.slot i content block s hcontent hblock hs

theorem Recording.congr {r r' : ReplayBlockConfig} {d : Direction} {h h' : ReplayHardware} {i : ℕ}
    {block : ReplayBlock} {current : ℕ → List Wire} (hrec : Recording r d h i block current)
    (hagree : AgreeOn d r r') (hmemory : h'.memory = h.memory)
    (hports : h'.recordPorts = h.recordPorts) : Recording r' d h' i block current := by
  refine ⟨fun s hs => ?_, fun s hs => ?_, fun s hs => ?_⟩ <;> rw [← hagree.streams] at hs
  · rw [hagree.slotRegion_eq, hports]
    exact hrec.port s hs
  · exact hrec.length_le s hs
  · rw [hagree.slotRegion_eq, hmemory]
    exact hrec.holds s hs

/-- Only the words of the streams there are matter. -/
theorem Recording.of_eq {r : ReplayBlockConfig} {d : Direction} {h : ReplayHardware} {i : ℕ}
    {block : ReplayBlock} {current current' : ℕ → List Wire}
    (hrec : Recording r d h i block current)
    (heq : ∀ s < (r.numStreams d).toNat, current' s = current s) :
    Recording r d h i block current' := by
  refine ⟨fun s hs => ?_, fun s hs => ?_, fun s hs => ?_⟩ <;> rw [heq s hs]
  · exact hrec.port s hs
  · exact hrec.length_le s hs
  · exact hrec.holds s hs

/-- The contents stay where they are when more is recorded. -/
theorem Holding.extends {r r' : ReplayBlockConfig} {d : Direction} {h : ReplayHardware}
    {contents : List (ℕ → List Wire)} (hh : Holding r d h contents) (hext : Extends r r')
    (hlen : contents.length ≤ (r.blocks d).replayBlocks.length) : Holding r' d h contents := by
  refine ⟨fun i content block s hcontent hblock hs => ?_⟩
  obtain ⟨hi, -⟩ := List.getElem?_eq_some_iff.mp hcontent
  have hget := List.getElem?_eq_getElem (l := (r.blocks d).replayBlocks) (i := i) (by omega)
  obtain rfl : block = (r.blocks d).replayBlocks[i] :=
    Option.some.inj (hblock.symm.trans (hext.getElem? hget))
  rw [hext.slotRegion_eq hget]
  rw [hext.streams d] at hs
  exact hh.slot i content _ s hcontent hget hs

/-- **A word that arrives is appended to its slot.** -/
theorem Recording.store {r : ReplayBlockConfig} {d : Direction} {h : ReplayHardware} {i s : ℕ}
    {block : ReplayBlock} {current : ℕ → List Wire} (hrec : Recording r d h i block current)
    (hfits : r.DirectionFits d) (hblock : (r.blocks d).replayBlocks[i]? = some block)
    (hs : s < (r.numStreams d).toNat) (hroom : (current s).length < block.exactTotal) (w : Wire) :
    Recording r d (h.store s w) i block (Function.update current s (current s ++ [w])) := by
  have hport := hrec.port s hs
  have hstore : h.store s w = { h with
      memory := h.memory.write ((r.slotRegion d i block s).offset + (current s).length * 4) w
      recordPorts := Function.update h.recordPorts s
        ⟨r.slotRegion d i block s, (current s).length * 4 + 4⟩ } := by
    rw [ReplayHardware.store, hport]
    refine if_pos ?_
    show (current s).length * 4 + 4 ≤ block.exactTotal * 4
    omega
  refine ⟨fun p hp => ?_, fun p hp => ?_, fun p hp => ?_⟩
  · by_cases heq : p = s
    · subst heq
      rw [hstore, Function.update_self, List.length_append, List.length_singleton, Nat.add_mul]
      exact Function.update_self _ _ _
    · rw [ReplayHardware.recordPorts_store_of_ne heq, Function.update_of_ne heq]
      exact hrec.port p hp
  · by_cases heq : p = s
    · subst heq
      rw [Function.update_self, List.length_append]
      exact hroom
    · rw [Function.update_of_ne heq]
      exact hrec.length_le p hp
  · by_cases heq : p = s
    · subst heq
      rw [hstore, Function.update_self]
      exact (hrec.holds p hp).write_end w
    · rw [Function.update_of_ne heq]
      refine (hrec.holds p hp).frame (ReplayHardware.agreeOn_store ?_)
      have hdisjoint := slotRegion_disjoint hfits hblock hblock hs hp fun hsame => heq hsame.2.symm
      have hinside : Region.Inside
          ⟨(r.slotRegion d i block p).offset, (current p).length * 4⟩
          (r.slotRegion d i block p) :=
        ⟨le_refl _, Nat.add_le_add_left (Nat.mul_le_mul_right 4 (hrec.length_le p hp)) _⟩
      rw [hport]
      exact Set.disjoint_of_subset_right hinside.addresses_subset hdisjoint

/-- A word that arrives for one block leaves the contents of the earlier ones
alone. -/
theorem Holding.store {r : ReplayBlockConfig} {d : Direction} {h : ReplayHardware} {i s : ℕ}
    {block : ReplayBlock} {contents : List (ℕ → List Wire)} {current : ℕ → List Wire}
    (hh : Holding r d h contents) (hrec : Recording r d h i block current)
    (hfits : r.DirectionFits d) (hblock : (r.blocks d).replayBlocks[i]? = some block)
    (hs : s < (r.numStreams d).toNat) (hi : contents.length ≤ i) (w : Wire) :
    Holding r d (h.store s w) contents := by
  refine hh.frame fun i' block' s' hi' hblock' hs' => ReplayHardware.agreeOn_store ?_
  rw [hrec.port s hs]
  refine slotRegion_disjoint hfits hblock hblock' hs hs' fun hsame => ?_
  obtain ⟨rfl, -⟩ := hsame
  omega

/-- **Several words that arrive at one port.** -/
theorem Recording.storeAll {r : ReplayBlockConfig} {d : Direction} {h : ReplayHardware} {s : ℕ}
    {block : ReplayBlock} {contents : List (ℕ → List Wire)} {current : ℕ → List Wire}
    (hh : Holding r d h contents) (hrec : Recording r d h contents.length block current)
    (hfits : r.DirectionFits d) (hblock : (r.blocks d).replayBlocks[contents.length]? = some block)
    (hs : s < (r.numStreams d).toNat) (ws : List Wire)
    (hroom : (current s).length + ws.length ≤ block.exactTotal) :
    Holding r d (ws.foldl (fun h w => h.store s w) h) contents ∧
      Recording r d (ws.foldl (fun h w => h.store s w) h) contents.length block
        (Function.update current s (current s ++ ws)) := by
  induction ws generalizing h current with
  | nil =>
      rw [List.append_nil, Function.update_eq_self]
      exact ⟨hh, hrec⟩
  | cons w ws ih =>
      rw [List.length_cons] at hroom
      have hstored := hrec.store hfits hblock hs (by omega) w
      have hkept := hh.store hrec hfits hblock hs (le_refl _) w
      obtain ⟨hh', hrec'⟩ := ih hkept hstored (by
        rw [Function.update_self, List.length_append, List.length_singleton]
        omega)
      rw [Function.update_self, Function.update_idem, List.append_assoc] at hrec'
      exact ⟨hh', hrec'⟩

/-- A block whose slots are full is one more recorded content. -/
theorem Holding.concat {r : ReplayBlockConfig} {d : Direction} {h : ReplayHardware}
    {block : ReplayBlock} {contents : List (ℕ → List Wire)} {current : ℕ → List Wire}
    (hh : Holding r d h contents) (hrec : Recording r d h contents.length block current)
    (hblock : (r.blocks d).replayBlocks[contents.length]? = some block)
    (hfull : ∀ s < (r.numStreams d).toNat, (current s).length = block.exactTotal) :
    Holding r d h (contents ++ [current]) := by
  refine ⟨fun i content block' s hcontent hblock' hs => ?_⟩
  rw [List.getElem?_append] at hcontent
  split at hcontent
  · exact hh.slot i content block' s hcontent hblock' hs
  · rename_i hi
    obtain ⟨hlt, hget⟩ := List.getElem?_eq_some_iff.mp hcontent
    rw [List.length_singleton] at hlt
    obtain rfl : i = contents.length := by omega
    obtain rfl : block = block' := Option.some.inj (hblock.symm.trans hblock')
    obtain rfl : current = content := by simpa using hget
    exact ⟨hfull s hs, hrec.holds s hs⟩

/-! ## Record and replay calls on the hardware -/

/-- The calls between two states of the configuration reach the hardware. -/
def issuedSince (r r' : ReplayBlockConfig) : List ReplayCommand :=
  r'.commands.drop r.commands.length

/-- What a recording issues: the regions of the ports, and restarts. -/
theorem issuedSince_recorded {r r' : ReplayBlockConfig} {d : Direction} {block : ReplayBlock}
    (h : Recorded r d block r') : ∃ ports : List ℕ, issuedSince r r' =
      r.recordCommands d block (numBytes block) ++ ports.map .recordRestart := by
  obtain ⟨-, ports, rfl⟩ := h
  refine ⟨ports, ?_⟩
  rw [issuedSince, recorded, commands_issueAll, commands_issueAll, commands_setBlocks,
    List.append_assoc, List.drop_left]

theorem issuedSince_played {r r' : ReplayBlockConfig} {d : Direction} {n : UInt64} {i j : ℕ}
    {block : ReplayBlock} (h : Played r d n i j block r') :
    issuedSince r r' = r.playCommands d i j block (n * SAMPLE_SIZE) := by
  obtain ⟨-, -, rfl⟩ := h
  rw [issuedSince, commands_issueAll, commands_setBlocks, List.drop_left]

/-- The ports after a record call, whether or not its layout fits. -/
theorem recordPorts_of_recorded {r r' : ReplayBlockConfig} {d : Direction} {block : ReplayBlock}
    (h : Recorded r d block r') (hw : ReplayHardware) {s : ℕ} (hs : s < (r.numStreams d).toNat) :
    (hw.commands (issuedSince r r')).recordPorts s =
      ⟨⟨(r.bufferOffset d + offsetOf (withBlock (r.blocks d) block)
        (r.blocks d).replayBlocks.length 0 block s).toNat, (numBytes block).toNat⟩, 0⟩ := by
  obtain ⟨ports, hissued⟩ := issuedSince_recorded h
  have hrecord := ReplayHardware.recordPorts_records
    (fun s => r.bufferOffset d +
      offsetOf (withBlock (r.blocks d) block) (r.blocks d).replayBlocks.length 0 block s)
    (numBytes block) _ hw hs
  rw [hissued, ReplayHardware.commands_append,
    ReplayHardware.recordPorts_restarts ports (by rw [recordCommands, streamCommands, hrecord])]
  exact hrecord

/-- **A record call directs the ports to the slots of the new block.** -/
theorem recording_of_recorded {r r' : ReplayBlockConfig} {d : Direction} {block : ReplayBlock}
    (h : Recorded r d block r') (hfits : r'.DirectionFits d) (hw : ReplayHardware) :
    Recording r' d (hw.commands (issuedSince r r')) (r.blocks d).replayBlocks.length block
      fun _ => [] := by
  have hstreams := h.extends.streams d
  refine ⟨fun s hs => ?_, fun s hs => Nat.zero_le _, fun s hs => holds_nil _ _⟩
  rw [hstreams] at hs
  have hregion := recordRegion_recordCommands h hfits hs
  rw [ReplayCommand.recordRegion, Option.some.injEq, Prod.mk.injEq] at hregion
  rw [recordPorts_of_recorded h hw hs, hregion.1]
  rfl

/-- A replay call directs the plays to the selected repetition. -/
theorem playPorts_of_played {r r' : ReplayBlockConfig} {d : Direction} {n : UInt64} {i j : ℕ}
    {block : ReplayBlock} (h : Played r d n i j block r') (hfits : r.DirectionFits d)
    (hw : ReplayHardware) {s : ℕ} (hs : s < (r.numStreams d).toNat) :
    (hw.commands (issuedSince r r')).playPorts s =
      ⟨(r.slotRegion d i block s).offset + j * block.repetitionPeriod.toNat * 4,
        (n * SAMPLE_SIZE).toNat⟩ := by
  have hj : j ≤ block.repetitions.toNat := by
    have hrepetition := h.1.repetition
    have hle := intOfSize_le block.repetitions
    generalize intOfSize block.repetitions = reps at hrepetition hle
    omega
  have hoffset := toNat_offsetOf (j := j) hfits h.1.block_eq hs
    (by rw [ReplayBlock.exactTotal, Nat.mul_comm]; exact Nat.mul_le_mul_left _ hj)
  rw [issuedSince_played h, ← hoffset]
  exact ReplayHardware.playPorts_plays
    (fun s => r.bufferOffset d + offsetOf (r.blocks d) i j block s) (n * SAMPLE_SIZE) _ hw hs

/-! ## The other direction -/

/-- The tracker of a direction, the stream counts and the memory are as before,
and the calls issued since are of one kind. -/
structure SideKept (d : Direction) (kind : ReplayCommand → Prop) (r r' : ReplayBlockConfig) :
    Prop where
  blocks : r'.blocks d = r.blocks d
  streams : ∀ d', r'.numStreams d' = r.numStreams d'
  memSize : r'.memSize = r.memSize
  commands : ∃ cs, r'.commands = r.commands ++ cs ∧ ∀ c ∈ cs, kind c

theorem SideKept.agreeOn {d : Direction} {kind : ReplayCommand → Prop} {r r' : ReplayBlockConfig}
    (h : SideKept d kind r r') : AgreeOn d r r' :=
  ⟨h.memSize.symm, (h.streams d).symm, h.blocks.symm⟩

theorem sideKept_refl (d : Direction) (kind : ReplayCommand → Prop) (r : ReplayBlockConfig) :
    SideKept d kind r r :=
  ⟨rfl, fun _ => rfl, rfl, [], by simp, fun _ hc => nomatch hc⟩

/-- The calls of a computation that keeps a side. -/
theorem SideKept.issued {d : Direction} {kind : ReplayCommand → Prop} {r r' : ReplayBlockConfig}
    (h : SideKept d kind r r') : ∀ c ∈ issuedSince r r', kind c := by
  obtain ⟨cs, hcs, hkind⟩ := h.commands
  rw [issuedSince, hcs, List.drop_left]
  exact hkind

section

variable {d d' : Direction} {kind : ReplayCommand → Prop} {r : ReplayBlockConfig}

theorem preserves_issue {c : ReplayCommand} (hc : kind c) :
    Preserves (ε := Fault) (SideKept d kind r) (modify (issue c)) := by
  refine Preserves.modify fun s hs => ⟨?_, ?_, hs.memSize, ?_⟩
  · rw [← hs.blocks]
    cases d <;> rfl
  · intro d'
    rw [← hs.streams d']
    cases d' <;> rfl
  · obtain ⟨cs, hcs, hkind⟩ := hs.commands
    refine ⟨cs ++ [c], by rw [issue, hcs, List.append_assoc], fun c' hc' => ?_⟩
    rcases List.mem_append.mp hc' with hold | hnew
    · exact hkind c' hold
    · rw [List.mem_singleton.mp hnew]
      exact hc

theorem preserves_onTracker (hne : d ≠ d') (x : TrackerM Unit) :
    Preserves (SideKept d kind r) (onField (fun r => r.blocks d') (setBlocks d') x) := by
  refine Preserves.onField_of_put fun s t hs => ⟨?_, ?_, ?_, ?_⟩
  · rw [blocks_setBlocks_of_ne hne]
    exact hs.blocks
  · intro d''
    rw [numStreams_setBlocks]
    exact hs.streams d''
  · rw [memSize_setBlocks]
    exact hs.memSize
  · rw [commands_setBlocks]
    exact hs.commands

/-- The loop over the streams of the other direction keeps a side. -/
theorem preserves_issueForStreams {offset : BlockOffsetTracker → UInt64 → Except Fault UInt64}
    {command : UInt64 → ℕ → ReplayCommand} (hkind : ∀ off s, kind (command off s)) :
    Preserves (SideKept d kind r) (issueForStreams d' offset command) := by
  refine Preserves.get.bind fun _ => Preserves.forM fun s _ => ?_
  refine (Preserves.reads _).bind fun off => ?_
  intro r' hr'
  exact preserves_issue (hkind _ _) r' hr'

theorem preserves_clearRounds (hkind : ∀ port, kind (.recordRestart port))
    (answers : ReplayAnswers) (rounds : List ℕ) :
    Preserves (SideKept d kind r) (clearRounds answers rounds) := by
  induction rounds with
  | nil => exact Preserves.throw _
  | cons t rounds ih =>
      unfold clearRounds
      split
      · exact (Preserves.forM fun c _ => preserves_issue (hkind c)).bind fun _ => ih
      · exact Preserves.pure _

/-- A record call of one direction keeps the other one, and plays nothing. -/
theorem preserves_recordBlock (hne : d ≠ d') (numSamples reps period numBytes : UInt64)
    (answers : ReplayAnswers) :
    Preserves (SideKept d (fun c => c.playRegion = none) r)
      (recordBlock d' numSamples reps period numBytes answers) := by
  refine (preserves_onTracker hne _).bind fun _ => ?_
  refine Preserves.bind ?_ fun _ => ?_
  · exact preserves_issueForStreams fun _ _ => rfl
  · exact preserves_clearRounds (fun _ => rfl) answers _

/-- A replay call of one direction keeps the other one, and only plays. -/
theorem preserves_playBlock (hne : d ≠ d') (numSamples : UInt64) :
    Preserves (SideKept d (fun c => c.playRegion.isSome = true) r) (playBlock d' numSamples) := by
  refine (preserves_onTracker hne _).bind fun _ => ?_
  exact preserves_issueForStreams fun _ _ => rfl

end

end ReplayBlockConfig

end UsrpWrapper
