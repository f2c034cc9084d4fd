import UsrpWrapper.Lib.Layout
import Mathlib.Data.List.Basic

/-!
# Words in a byte store

A `Store` has one byte at every address, and a `Word` is a fixed number `k` of
bytes.  Words are written and read at byte addresses, which need not be multiples
of `k`.

* `write` changes the addresses of its word only, and `read` depends on them only.
* `Holds m a ws`: the words `ws` stand one behind the other from address `a` on.
  It survives every change outside of its region (`Holds.frame`) and grows by a
  write at its end (`Holds.write_end`).
* A window of held words is read back by `readSeq` (`Holds.readSeq_window`), and a
  cyclic reader of the whole region sees them over and over (`Holds.cyclic`).
-/

namespace UsrpWrapper.Lib

variable {β : Type} {k : ℕ}

/-- A byte at every address. -/
abbrev Store (β : Type) := ℕ → β

/-- A word of `k` bytes. -/
abbrev Word (k : ℕ) (β : Type) := Fin k → β

namespace Store

/-! ## Single words -/

/-- Write a word at an address. -/
def write (m : Store β) (a : ℕ) (w : Word k β) : Store β := fun x =>
  if h : a ≤ x ∧ x < a + k then w ⟨x - a, by omega⟩ else m x

/-- Read the word at an address. -/
def read (k : ℕ) (m : Store β) (a : ℕ) : Word k β := fun i => m (a + i)

theorem read_write (m : Store β) (a : ℕ) (w : Word k β) : (m.write a w).read k a = w := by
  funext i
  rw [read, write, dif_pos ⟨Nat.le_add_right a i, by omega⟩]
  congr 1
  ext
  simp

/-- A write leaves the other addresses alone. -/
theorem write_of_not_mem {m : Store β} {a x : ℕ} {w : Word k β}
    (h : x ∉ Region.addresses ⟨a, k⟩) : m.write a w x = m x := by
  rw [write, dif_neg]
  rw [Region.mem_addresses] at h
  exact h

/-- Two stores agree on a region. -/
def AgreeOn (m m' : Store β) (r : Region) : Prop := ∀ x ∈ r.addresses, m' x = m x

/-- Stores that agree on a region agree inside it. -/
theorem AgreeOn.mono {m m' : Store β} {r q : Region} (h : AgreeOn m m' q) (hr : r.Inside q) :
    AgreeOn m m' r :=
  fun x hx => h x (hr.addresses_subset hx)

theorem agreeOn_refl (m : Store β) (r : Region) : AgreeOn m m r := fun _ _ => rfl

/-- A write outside of a region. -/
theorem agreeOn_write {m : Store β} {a : ℕ} {w : Word k β} {r : Region}
    (h : Disjoint (Region.addresses ⟨a, k⟩) r.addresses) : AgreeOn m (m.write a w) r :=
  fun _ hx => write_of_not_mem fun hmem => Set.disjoint_left.mp h hmem hx

/-- Reading a word looks at its bytes only. -/
theorem read_congr {m m' : Store β} {a : ℕ} (h : AgreeOn m m' ⟨a, k⟩) :
    m'.read k a = m.read k a := by
  funext i
  exact h _ (Region.mem_addresses.mpr ⟨Nat.le_add_right a i, by simp⟩)

/-! ## Sequences of words -/

/-- `n` words, one behind the other. -/
def readSeq (k : ℕ) (m : Store β) (a n : ℕ) : List (Word k β) :=
  (List.range n).map fun i => m.read k (a + i * k)

@[simp] theorem readSeq_length (m : Store β) (a n : ℕ) : (m.readSeq k a n).length = n := by
  simp [readSeq]

theorem readSeq_succ (m : Store β) (a n : ℕ) :
    m.readSeq k a (n + 1) = m.readSeq k a n ++ [m.read k (a + n * k)] := by
  simp [readSeq, List.range_succ]

/-- Reading several words looks at their bytes only. -/
theorem readSeq_congr {m m' : Store β} {a n : ℕ} (h : AgreeOn m m' ⟨a, n * k⟩) :
    m'.readSeq k a n = m.readSeq k a n := by
  refine List.map_congr_left fun i hi => read_congr (h.mono ⟨Nat.le_add_right a _, ?_⟩)
  have hle : (i + 1) * k ≤ n * k := Nat.mul_le_mul_right k (List.mem_range.mp hi)
  rw [Nat.succ_mul] at hle
  show a + i * k + k ≤ a + n * k
  omega

/-- The words stand one behind the other from the address on. -/
def Holds (m : Store β) (a : ℕ) (ws : List (Word k β)) : Prop := m.readSeq k a ws.length = ws

theorem holds_nil (m : Store β) (a : ℕ) : Holds m a ([] : List (Word k β)) := rfl

/-- Changes outside of the region of the words do not matter. -/
theorem Holds.frame {m m' : Store β} {a : ℕ} {ws : List (Word k β)} (h : Holds m a ws)
    (hagree : AgreeOn m m' ⟨a, ws.length * k⟩) : Holds m' a ws := by
  rw [Holds, readSeq_congr hagree]
  exact h

/-- A write behind the last word. -/
theorem Holds.write_end {m : Store β} {a : ℕ} {ws : List (Word k β)} (h : Holds m a ws)
    (w : Word k β) : Holds (m.write (a + ws.length * k) w) a (ws ++ [w]) := by
  have hfront : Holds (m.write (a + ws.length * k) w) a ws :=
    h.frame (agreeOn_write (Region.disjoint_of_le (le_refl (a + ws.length * k))).symm)
  rw [Holds, List.length_append, List.length_singleton, readSeq_succ, read_write]
  rw [Holds] at hfront
  rw [hfront]

theorem Holds.read {m : Store β} {a i : ℕ} {ws : List (Word k β)} (h : Holds m a ws)
    (hi : i < ws.length) : m.read k (a + i * k) = ws[i] := by
  have hget : (m.readSeq k a ws.length)[i]? = some (m.read k (a + i * k)) := by
    simp [readSeq, hi]
  rw [h, List.getElem?_eq_getElem hi] at hget
  exact (Option.some.inj hget).symm

/-- A window of the words is read back from where it starts. -/
theorem Holds.readSeq_window {m : Store β} {a j n : ℕ} {ws : List (Word k β)} (h : Holds m a ws)
    (hend : j + n ≤ ws.length) : m.readSeq k (a + j * k) n = (ws.drop j).take n := by
  refine List.ext_getElem ?_ fun i hi hi' => ?_
  · rw [readSeq_length, List.length_take, List.length_drop]
    omega
  · rw [readSeq_length] at hi
    have hread := h.read (i := j + i) (by omega)
    rw [Nat.add_mul, ← Nat.add_assoc] at hread
    simp [readSeq, hread]

/-! ## Cyclic readers -/

/-- Word `i` of a reader that starts again at the end of its region. -/
def cyclicWord (k : ℕ) (m : Store β) (r : Region) (i : ℕ) : Word k β :=
  m.read k (r.offset + i * k % r.size)

/-- `n` words of such a reader, from word `first` on. -/
def readCyclic (k : ℕ) (m : Store β) (r : Region) (first n : ℕ) : List (Word k β) :=
  (List.range n).map fun i => m.cyclicWord k r (first + i)

/-- Reading on continues where the first part stopped. -/
theorem readCyclic_add (m : Store β) (r : Region) (first n n' : ℕ) :
    m.readCyclic k r first (n + n') =
      m.readCyclic k r first n ++ m.readCyclic k r (first + n) n' := by
  rw [readCyclic, readCyclic, readCyclic, List.range_add, List.map_append, List.map_map]
  congr 1
  refine List.map_congr_left fun i _ => ?_
  show m.cyclicWord k r (first + (n + i)) = m.cyclicWord k r (first + n + i)
  rw [Nat.add_assoc]

/-- Up to the end of its region the reader reads straight on. -/
theorem readCyclic_of_le {m : Store β} {a size n : ℕ} (hk : 0 < k) (h : n * k ≤ size) :
    m.readCyclic k ⟨a, size⟩ 0 n = m.readSeq k a n := by
  refine List.map_congr_left fun i hi => ?_
  have hlt : i * k < n * k := Nat.mul_lt_mul_of_pos_right (List.mem_range.mp hi) hk
  rw [Nat.zero_add, cyclicWord, Nat.mod_eq_of_lt (lt_of_lt_of_le hlt h)]

/-- A reader of the whole region sees the words again and again. -/
theorem Holds.cyclic {m : Store β} {a : ℕ} {ws : List (Word k β)} (h : Holds m a ws)
    (count : ℕ) : m.readCyclic k ⟨a, ws.length * k⟩ 0 (ws.length * count) =
      (List.replicate count ws).flatten := by
  induction count with
  | zero => rfl
  | succ count ih =>
      rw [Nat.mul_succ, readCyclic_add, ih, List.replicate_succ', List.flatten_append,
        List.flatten_singleton, Nat.zero_add]
      congr 1
      -- the last round reads the addresses of the first one
      refine Eq.trans (List.map_congr_left fun i hi => ?_) h
      have hi : i < ws.length := List.mem_range.mp hi
      have hmod : (ws.length * count + i) * k % (ws.length * k) = i * k := by
        rw [Nat.add_mul, Nat.mul_right_comm, Nat.mul_add_mod]
        rcases Nat.eq_zero_or_pos k with rfl | hk
        · simp
        · exact Nat.mod_eq_of_lt (Nat.mul_lt_mul_of_pos_right hi hk)
      rw [cyclicWord, hmod]

/-- The words such a reader sees, one by one. -/
theorem Holds.cyclicWord {m : Store β} {a : ℕ} {ws : List (Word k β)} (h : Holds m a ws)
    {count i : ℕ} (hi : i < ws.length * count) :
    (List.replicate count ws).flatten[i]? = some (m.cyclicWord k ⟨a, ws.length * k⟩ i) := by
  rw [← h.cyclic count, readCyclic, List.getElem?_map, List.getElem?_range hi, Option.map_some,
    Nat.zero_add]

end Store

end UsrpWrapper.Lib
