import Relocation.Wizard.Pattern

/-! Cutting a path at its slashes undoes putting its parts together, as long as no part holds a
slash itself. -/

namespace Relocation

namespace Text

theorem cut_of_not_mem {sep : Char} {cs : List Char} (h : sep ∉ cs) : cut sep cs = [cs] := by
  induction cs with
  | nil => rfl
  | cons c cs ih =>
    have hc : c ≠ sep := fun e => h (e ▸ List.mem_cons_self)
    have ht := ih fun hm => h (List.mem_cons_of_mem _ hm)
    simp [cut, hc, ht]

theorem cut_append_sep {sep : Char} {cs : List Char} (rest : List Char) (h : sep ∉ cs) :
    cut sep (cs ++ sep :: rest) = cs :: cut sep rest := by
  induction cs with
  | nil => simp [cut]
  | cons c cs ih =>
    have hc : c ≠ sep := fun e => h (e ▸ List.mem_cons_self)
    have ht := ih fun hm => h (List.mem_cons_of_mem _ hm)
    simp [cut, hc, ht]

theorem cut_ne_nil (sep : Char) (cs : List Char) : cut sep cs ≠ [] := by
  cases cs with
  | nil => simp [cut]
  | cons c cs =>
    unfold cut
    split
    · simp
    · split <;> simp

theorem cut_append_singleton (sep : Char) (cs : List Char) :
    cut sep (cs ++ [sep]) = cut sep cs ++ [[]] := by
  induction cs with
  | nil => simp [cut]
  | cons c cs ih =>
    by_cases hc : c = sep
    · simp [cut, hc, ih]
    · obtain ⟨piece, pieces, hp⟩ := List.exists_cons_of_ne_nil (cut_ne_nil sep cs)
      simp [cut, hc, ih, hp]

end Text

namespace Wizard

/-- A text that stands between two slashes of a path. -/
def IsPart (t : String) : Prop := t ≠ "" ∧ '/' ∉ t.toList

instance (t : String) : Decidable (IsPart t) := inferInstanceAs (Decidable (_ ∧ _))

namespace Pattern

theorem toList_joinParts {parts : List String} (h : parts ≠ []) :
    (joinParts parts).toList = parts.flatMap fun part => '/' :: part.toList := by
  cases parts with
  | nil => exact absurd rfl h
  | cons part parts => simp [joinParts, String.toList_join, List.flatMap_map]

theorem cut_flatMap_slash {parts : List String} (h : ∀ part ∈ parts, '/' ∉ part.toList) :
    Text.cut '/' (parts.flatMap fun part => '/' :: part.toList) =
      [] :: parts.map String.toList := by
  induction parts with
  | nil => rfl
  | cons part parts ih =>
    have ht := ih fun p hp => h p (List.mem_cons_of_mem _ hp)
    have hp : '/' ∉ part.toList := h part List.mem_cons_self
    rw [List.flatMap_cons, List.map_cons, List.cons_append, Text.cut, if_pos rfl]
    cases parts with
    | nil => simp [Text.cut_of_not_mem hp]
    | cons q qs =>
      rw [List.flatMap_cons, List.cons_append, Text.cut_append_sep _ hp]
      rw [List.flatMap_cons, List.cons_append, Text.cut, if_pos rfl] at ht
      rw [(List.cons.inj ht).2]

theorem cut_joinParts {parts : List String} (hne : parts ≠ [])
    (h : ∀ part ∈ parts, IsPart part) :
    (Text.cut '/' (joinParts parts).toList).map String.ofList = "" :: parts := by
  rw [toList_joinParts hne, cut_flatMap_slash fun part hp => (h part hp).2]
  simp [Function.comp_def]

theorem pathParts_joinParts {parts : List String} (h : ∀ part ∈ parts, IsPart part) :
    pathParts (joinParts parts) = parts := by
  by_cases hne : parts = []
  · subst hne
    decide
  · have hkeep : (parts.map String.toList).filter (· ≠ []) = parts.map String.toList := by
      apply List.filter_eq_self.mpr
      intro cs hcs
      obtain ⟨part, hp, rfl⟩ := List.mem_map.mp hcs
      simpa using (h part hp).1
    rw [pathParts, toList_joinParts hne, cut_flatMap_slash fun part hp => (h part hp).2,
      List.filter_cons_of_neg (by simp), hkeep]
    simp [Function.comp_def]

end Pattern

end Wizard

end Relocation
