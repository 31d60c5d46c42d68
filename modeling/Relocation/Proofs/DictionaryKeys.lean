import Mathlib.Data.Set.Card
import Relocation.Proofs.DictionaryLookup

/-! The keys of a dictionary are all different, so its size is the number of keys with a value. -/

namespace Relocation.Dictionary

variable {α : Type}

theorem keys_nodup (d : Dictionary α) : d.keys.Nodup := by
  have hsorted : d.keys.Pairwise (· < ·) := List.pairwise_map.mpr d.sorted
  refine hsorted.imp ?_
  rintro a b hlt rfl
  exact String.lt_irrefl _ hlt

theorem mem_keys_iff {d : Dictionary α} {k : String} : k ∈ d.keys ↔ (d.get? k).isSome := by
  rw [keys, List.mem_map, Option.isSome_iff_exists]
  constructor
  · rintro ⟨⟨k, v⟩, hm, rfl⟩
    exact ⟨v, mem_entries_iff.mp hm⟩
  · rintro ⟨v, hv⟩
    exact ⟨(k, v), mem_entries_iff.mpr hv, rfl⟩

theorem mem_keys_ofList_iff {l : List (String × α)} {k : String} :
    k ∈ (ofList l).keys ↔ k ∈ l.map (·.1) := by
  rw [mem_keys_iff, Option.isSome_iff_exists, List.mem_map]
  constructor
  · rintro ⟨v, hv⟩
    exact ⟨(k, v), mem_of_get?_ofList hv, rfl⟩
  · rintro ⟨⟨k, v⟩, he, rfl⟩
    exact exists_get?_ofList he

theorem setOf_isSome_get? (d : Dictionary α) :
    {k | (d.get? k).isSome} = (d.keys.toFinset : Set String) := by
  ext k
  simp [mem_keys_iff]

theorem finite_setOf_isSome_get? (d : Dictionary α) : {k | (d.get? k).isSome}.Finite := by
  rw [setOf_isSome_get?]
  exact Finset.finite_toSet _

theorem size_eq_ncard (d : Dictionary α) : d.size = {k | (d.get? k).isSome}.ncard := by
  have hlength : d.keys.length = d.size := List.length_map ..
  rw [setOf_isSome_get?, Set.ncard_coe_finset, List.toFinset_card_of_nodup d.keys_nodup, hlength]

end Relocation.Dictionary
