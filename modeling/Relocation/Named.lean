/-! Finite types whose values are known by name. -/

namespace Relocation

/-- A type with a list of all its values and a name for each, no two alike. The name that a value
has in documents may be told in another way, but is the same. -/
class Named (α : Type) where
  all : List α
  name : α → String
  written : α → String := name
  mem_all : ∀ a, a ∈ all
  names_nodup : (all.map name).Nodup
  written_eq_name : ∀ a, written a = name a := by intro _; rfl

namespace Named

variable {α : Type} [Named α]

/-- The value that has this name in documents. -/
def ofName? (s : String) : Option α := (all : List α).find? (fun a => written a = s)

theorem eq_of_name_eq {a b : α} (h : name a = name b) : a = b := by
  have key : ∀ l : List α, (l.map name).Nodup → a ∈ l → b ∈ l → a = b := by
    intro l
    induction l with
    | nil => intro _ ha; cases ha
    | cons c l ih =>
      intro hn ha hb
      rw [List.map_cons, List.nodup_cons] at hn
      rcases List.mem_cons.mp ha with ea | hal <;> rcases List.mem_cons.mp hb with eb | hbl
      · exact ea.trans eb.symm
      · subst ea
        exact (hn.1 (List.mem_map.mpr ⟨b, hbl, h.symm⟩)).elim
      · subst eb
        exact (hn.1 (List.mem_map.mpr ⟨a, hal, h⟩)).elim
      · exact ih hn.2 hal hbl
  exact key all names_nodup (mem_all a) (mem_all b)

theorem ofName?_eq_some_iff {s : String} {a : α} : ofName? s = some a ↔ name a = s := by
  constructor
  · intro h
    simpa [written_eq_name] using List.find?_some h
  · intro h
    subst h
    simp only [ofName?, written_eq_name]
    cases hf : (all : List α).find? (fun b => name b = name a) with
    | none =>
      have := List.find?_eq_none.mp hf a (mem_all a)
      simp at this
    | some b =>
      have hb : name b = name a := by simpa using List.find?_some hf
      rw [eq_of_name_eq hb]

/-- The names of all values, each with the value that it is read as. -/
def nameTable : List (String × α) := all.map fun a => (name a, a)

theorem lookup_nameTable (s : String) : (nameTable : List (String × α)).lookup s = ofName? s := by
  have hlist : ∀ l : List α, (l.map fun a => (name a, a)).lookup s =
      l.find? fun a => name a = s := by
    intro l
    induction l with
    | nil => rfl
    | cons a l ih =>
      by_cases ha : name a = s
      · simp [ha]
      · have hs : (s == name a) = false := by simpa using Ne.symm ha
        simp [List.lookup_cons, hs, ih, ha]
  simpa only [nameTable, ofName?, written_eq_name] using hlist all

end Named

end Relocation
