import Mathlib.Data.List.Sort
import Relocation.Dictionary

/-! What is looked up in a dictionary after an entry was put in, taken out or merged in. -/

namespace Relocation.Dictionary

variable {α : Type}

@[simp] theorem get?_empty (k : String) : (∅ : Dictionary α).get? k = none := rfl

theorem find?_put (k k' : String) (v : α) (l : List (String × α)) :
    (put k v l).find? (fun e => e.1 = k') =
      if k' = k then some (k, v) else l.find? (fun e => e.1 = k') := by
  induction l with
  | nil => by_cases h : k' = k <;> simp [put, h, eq_comm]
  | cons e l ih =>
    obtain ⟨k₁, v₁⟩ := e
    unfold put
    split
    · by_cases h : k' = k
      · simp [h]
      · simp [h, Ne.symm h]
    · split
      · next h₁ =>
        subst h₁
        by_cases h : k' = k
        · simp [h]
        · simp [h, Ne.symm h]
      · next h₁ =>
        by_cases h : k₁ = k'
        · subst h
          simp [Ne.symm h₁]
        · simp [h, ih]

@[simp] theorem get?_insert (d : Dictionary α) (k k' : String) (v : α) :
    (d.insert k v).get? k' = if k' = k then some v else d.get? k' := by
  simp only [get?, insert, find?_put]
  split <;> rfl

theorem find?_tail_of_sorted {e : String × α} {l : List (String × α)}
    (h : (e :: l).Pairwise (fun a b => a.1 < b.1)) : l.find? (fun a => a.1 = e.1) = none := by
  apply List.find?_eq_none.mpr
  intro a ha he
  have hlt : e.1 < a.1 := List.rel_of_pairwise_cons h ha
  rw [of_decide_eq_true he] at hlt
  exact String.lt_irrefl _ hlt

/-- The keys are in order, so an entry that is filtered out hides no later one. -/
theorem find?_filter_of_sorted {l : List (String × α)} (h : l.Pairwise (fun a b => a.1 < b.1))
    (p : String → α → Bool) (k : String) :
    (l.filter (fun e => p e.1 e.2)).find? (fun e => e.1 = k) =
      (l.find? (fun e => e.1 = k)).filter (fun e => p e.1 e.2) := by
  induction l with
  | nil => rfl
  | cons e l ih =>
    have hl := ih h.of_cons
    by_cases hk : e.1 = k
    · subst hk
      rw [find?_tail_of_sorted h] at hl
      cases hp : p e.1 e.2 with
      | true => simp [hp, Option.filter]
      | false =>
        rw [List.filter_cons_of_neg (by simp [hp]), hl]
        simp [hp, Option.filter]
    · have hs : (e :: l).find? (fun e => e.1 = k) = l.find? (fun e => e.1 = k) :=
        List.find?_cons_of_neg (by simp [hk])
      rw [hs, ← hl]
      cases hp : p e.1 e.2 with
      | true => rw [List.filter_cons_of_pos (by simp [hp]), List.find?_cons_of_neg (by simp [hk])]
      | false => rw [List.filter_cons_of_neg (by simp [hp])]

@[simp] theorem get?_filter (d : Dictionary α) (p : String → α → Bool) (k : String) :
    (d.filter p).get? k = (d.get? k).filter (p k) := by
  simp only [get?, filter, find?_filter_of_sorted d.sorted]
  cases h : d.entries.find? (fun e => e.1 = k) with
  | none => rfl
  | some e =>
    have hk : e.1 = k := by simpa using List.find?_some h
    cases hp : p e.1 e.2 <;> simp [Option.filter, hp, ← hk]

@[simp] theorem get?_erase (d : Dictionary α) (k k' : String) :
    (d.erase k).get? k' = if k' = k then none else d.get? k' := by
  rw [erase, get?_filter]
  by_cases h : k' = k <;> cases d.get? k' <;> simp [Option.filter, h]

theorem find?_of_mem_sorted {l : List (String × α)} (h : l.Pairwise (fun a b => a.1 < b.1))
    {k : String} {v : α} (hm : (k, v) ∈ l) : l.find? (fun e => e.1 = k) = some (k, v) := by
  induction l with
  | nil => cases hm
  | cons e l ih =>
    rcases List.mem_cons.mp hm with rfl | hm
    · simp
    · have hlt : e.1 < k := List.rel_of_pairwise_cons h hm
      have hne : e.1 ≠ k := fun he => String.lt_irrefl k (he ▸ hlt)
      rw [List.find?_cons_of_neg (by simpa using hne)]
      exact ih h.of_cons hm

theorem mem_entries_iff {d : Dictionary α} {k : String} {v : α} :
    (k, v) ∈ d.entries ↔ d.get? k = some v := by
  constructor
  · intro hm
    rw [get?, find?_of_mem_sorted d.sorted hm]
    rfl
  · intro h
    obtain ⟨e, he, hv⟩ := Option.map_eq_some_iff.mp h
    have hk : e.1 = k := by simpa using List.find?_some he
    have hm := List.mem_of_find?_eq_some he
    rwa [← hk, ← hv]

/-- Two dictionaries with the same look-ups are equal. -/
theorem ext_get? {d e : Dictionary α} (h : ∀ k, d.get? k = e.get? k) : d = e := by
  have hnodup : ∀ f : Dictionary α, f.entries.Nodup := by
    intro f
    refine f.sorted.imp ?_
    rintro a b hlt rfl
    exact String.lt_irrefl _ hlt
  have hmem : ∀ a, a ∈ d.entries ↔ a ∈ e.entries := by
    rintro ⟨k, v⟩
    rw [mem_entries_iff, mem_entries_iff, h]
  have hperm := (List.perm_ext_iff_of_nodup (hnodup d) (hnodup e)).mpr hmem
  refine ext (hperm.eq_of_pairwise ?_ d.sorted e.sorted)
  intro a b _ _ hab hba
  exact absurd (String.lt_trans hab hba) (String.lt_irrefl _)

/-- The entries under some of the keys. -/
def restrict (d : Dictionary α) (names : List String) : Dictionary α :=
  d.filter fun name _ => names.contains name

@[simp] theorem get?_restrict (d : Dictionary α) (names : List String) (k : String) :
    (d.restrict names).get? k = if k ∈ names then d.get? k else none := by
  rw [restrict, get?_filter]
  by_cases h : k ∈ names <;> cases d.get? k <;> simp [Option.filter, h]

theorem contains_eq_true_iff {d : Dictionary α} {k : String} :
    d.contains k = true ↔ ∃ v, d.get? k = some v :=
  Option.isSome_iff_exists

theorem get?_insertAll (d : Dictionary α) (l : List (String × α)) (k : String) :
    (d.insertAll l).get? k = ((l.reverse.find? (fun e => e.1 = k)).map (·.2)).or (d.get? k) := by
  unfold insertAll
  induction l generalizing d with
  | nil => rfl
  | cons e l ih =>
    rw [List.foldl_cons, ih, get?_insert, List.reverse_cons, List.find?_append]
    cases l.reverse.find? (fun e => e.1 = k) with
    | some e' => simp
    | none =>
      by_cases h : e.1 = k
      · simp [h]
      · simp [h, Ne.symm h]

theorem get?_ofList (l : List (String × α)) (k : String) :
    (ofList l).get? k = (l.reverse.find? (fun e => e.1 = k)).map (·.2) := by
  have h := get?_insertAll (∅ : Dictionary α) l k
  rwa [get?_empty, Option.or_none] at h

section

variable {l : List (String × α)} {k : String} {v : α}

theorem mem_of_get?_ofList (h : (ofList l).get? k = some v) : (k, v) ∈ l := by
  rw [get?_ofList] at h
  obtain ⟨e, he, rfl⟩ := Option.map_eq_some_iff.mp h
  have hk : e.1 = k := by simpa using List.find?_some he
  exact hk ▸ List.mem_reverse.mp (List.mem_of_find?_eq_some he)

theorem exists_get?_ofList (h : (k, v) ∈ l) : ∃ v', (ofList l).get? k = some v' := by
  rw [get?_ofList, ← Option.isSome_iff_exists, Option.isSome_map, List.find?_isSome]
  exact ⟨(k, v), List.mem_reverse.mpr h, by simp⟩

/-- No entry is lost exactly if those with one key have one value. -/
theorem get?_ofList_eq_iff_agree : (∀ e ∈ l, (ofList l).get? e.1 = some e.2) ↔
    ∀ e ∈ l, ∀ e' ∈ l, e.1 = e'.1 → e.2 = e'.2 := by
  constructor
  · intro h e he e' he' hk
    have hv := h e he
    rw [hk, h e' he'] at hv
    exact (Option.some.inj hv).symm
  · intro h e he
    obtain ⟨v, hv⟩ := exists_get?_ofList he
    rw [hv, h e he (e.1, v) (mem_of_get?_ofList hv) rfl]

end

theorem find?_reverse_of_sorted {l : List (String × α)} (h : l.Pairwise (fun a b => a.1 < b.1))
    (k : String) : l.reverse.find? (fun e => e.1 = k) = l.find? (fun e => e.1 = k) := by
  induction l with
  | nil => rfl
  | cons e l ih =>
    rw [List.reverse_cons, List.find?_append, ih h.of_cons]
    by_cases hk : e.1 = k
    · subst hk
      simp [find?_tail_of_sorted h]
    · simp [hk]

@[simp] theorem get?_merge (d e : Dictionary α) (k : String) :
    (d.merge e).get? k = (e.get? k).or (d.get? k) := by
  rw [merge, get?_insertAll, find?_reverse_of_sorted e.sorted]
  rfl

theorem length_put_of_absent (k : String) (v : α) {l : List (String × α)}
    (h : l.find? (fun e => e.1 = k) = none) : (put k v l).length = l.length + 1 := by
  induction l with
  | nil => rfl
  | cons e l ih =>
    have hne : e.1 ≠ k := fun he => by simp [he] at h
    have hl : l.find? (fun e => e.1 = k) = none := by simpa [hne] using h
    unfold put
    split
    · rfl
    · rw [if_neg (Ne.symm hne), List.length_cons, ih hl, List.length_cons]

theorem size_insert_of_absent {d : Dictionary α} {k : String} (v : α) (h : d.get? k = none) :
    (d.insert k v).size = d.size + 1 :=
  length_put_of_absent k v (by simpa [get?] using h)

end Relocation.Dictionary
