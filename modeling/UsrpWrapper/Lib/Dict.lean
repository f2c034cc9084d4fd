import Mathlib.Data.List.AList

/-!
# Dictionaries

A dictionary is an association list without repeated keys, in the order in which the
keys were inserted.
-/

namespace UsrpWrapper.Lib

/-- An association list without repeated keys, the oldest key first. -/
abbrev Dict (κ ν : Type) := AList fun _ : κ => ν

namespace Dict

variable {κ ν τ : Type} {d : Dict κ ν} {k : κ} {v : ν}

/-- The values, the oldest key first. -/
def values (d : Dict κ ν) : List ν := d.entries.map Sigma.snd

theorem nodupKeys_append (h : k ∉ d) : (d.entries ++ [Sigma.mk k v]).NodupKeys := by
  have hsingleton : (d.entries ++ [Sigma.mk k v]).keys = d.keys ++ [k] := List.map_append
  rw [List.NodupKeys, hsingleton, List.nodup_append]
  refine ⟨d.keys_nodup, List.nodup_singleton k, fun k₁ h₁ k₂ h₂ heq => h ?_⟩
  rw [AList.mem_keys, ← List.mem_singleton.mp h₂, ← heq]
  exact h₁

variable [DecidableEq κ]

/-- `d[k] = v`: a new key comes last, and a key that is there keeps its place. -/
def set (k : κ) (v : ν) (d : Dict κ ν) : Dict κ ν :=
  if h : k ∈ d then d.replace k v else ⟨d.entries ++ [⟨k, v⟩], nodupKeys_append h⟩

theorem entries_set_of_notMem (h : k ∉ d) : (set k v d).entries = d.entries ++ [⟨k, v⟩] := by
  rw [set, dif_neg h]

theorem values_set_of_notMem (h : k ∉ d) : (set k v d).values = d.values ++ [v] := by
  rw [values, entries_set_of_notMem h, List.map_append]
  rfl

/-- Replacing a value by one that looks the same. -/
theorem map_entries_set {f : (Σ _ : κ, ν) → τ} {old : ν} (hold : d.lookup k = some old)
    (hf : f ⟨k, v⟩ = f ⟨k, old⟩) : (set k v d).entries.map f = d.entries.map f := by
  have hmem : k ∈ d := AList.lookup_isSome.mp (by rw [hold]; rfl)
  rw [set, dif_pos hmem]
  obtain ⟨entries, hnodup⟩ := d
  have hin : ⟨k, old⟩ ∈ entries := AList.mem_lookup_iff.mp hold
  clear hold hmem
  show (List.kreplace k v entries).map f = entries.map f
  induction entries with
  | nil => exact nomatch hin
  | cons e entries ih =>
      obtain ⟨k', v'⟩ := e
      obtain ⟨hfresh, hrest⟩ := List.nodupKeys_cons.mp hnodup
      rcases List.mem_cons.mp hin with heq | htail
      · cases heq
        have hreplace : List.kreplace k v (⟨k, old⟩ :: entries) = ⟨k, v⟩ :: entries :=
          List.lookmap_cons_some _ _ (if_pos rfl)
        rw [hreplace, List.map_cons, List.map_cons, hf]
      · have hkey := List.mem_keys_of_mem htail
        have hne : k ≠ k' := by
          rintro rfl
          exact hfresh hkey
        have hreplace : List.kreplace k v (⟨k', v'⟩ :: entries) =
            ⟨k', v'⟩ :: List.kreplace k v entries := List.lookmap_cons_none _ _ (if_neg hne)
        rw [hreplace, List.map_cons, List.map_cons, ih hrest htail]

/-- Replacing a value by one with the same image. -/
theorem map_values_set {f : ν → τ} {old : ν} (hold : d.lookup k = some old) (hf : f v = f old) :
    (set k v d).values.map f = d.values.map f := by
  simp only [values, List.map_map]
  exact map_entries_set hold hf

/-- The value of an entry is found under its key. -/
theorem lookup_of_mem (h : ⟨k, v⟩ ∈ d.entries) : d.lookup k = some v := AList.mem_lookup_iff.mpr h

end Dict

end UsrpWrapper.Lib
