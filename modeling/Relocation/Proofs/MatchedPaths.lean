import Relocation.Proofs.DictionaryKeys
import Relocation.Proofs.PatternFilling

/-! Filling in a pattern with what it took from a path. The path that comes of it has the parts of
the first one, unless a name that stands twice in the pattern took two different parts. -/

namespace Relocation.Wizard

/-- A slash, then the parts of the path with a single slash between them. -/
def normalPath (path : String) : String := "/" ++ String.intercalate "/" (pathParts path)

theorem Pattern.joinParts_eq (parts : List String) :
    joinParts parts = "/" ++ String.intercalate "/" parts := by
  induction parts with
  | nil => rfl
  | cons part parts ih =>
    cases parts with
    | nil => simp [joinParts]
    | cons next parts =>
      have hrest : joinParts (part :: next :: parts) =
          "/" ++ part ++ joinParts (next :: parts) := by simp [joinParts]
      rw [hrest, ih, String.intercalate_cons_cons, String.append_assoc, String.append_assoc]

theorem normalPath_eq (path : String) : normalPath path = Pattern.joinParts (pathParts path) :=
  (Pattern.joinParts_eq _).symm

@[simp] theorem pathParts_normalPath (path : String) :
    pathParts (normalPath path) = pathParts path := by
  rw [normalPath_eq, Pattern.pathParts_joinParts fun _ => isPart_of_mem_pathParts]

namespace Pattern

section

variable {params : Dictionary String} {segments : List Segment} {parts : List String}
  {bindings : List (String × String)}

theorem Binds.mem_iff (h : Binds segments parts bindings) {name part : String} :
    (name, part) ∈ bindings ↔
      ∃ i : Nat, segments[i]? = some (Segment.parameter name) ∧ parts[i]? = some part := by
  induction h with
  | nil => simp
  | literal s _ ih =>
    rw [← Nat.or_exists_add_one, ih]
    simp
  | parameter own value _ ih =>
    rw [← Nat.or_exists_add_one, List.mem_cons, ih]
    simp [eq_comm]

theorem Binds.length_eq (h : Binds segments parts bindings) : segments.length = parts.length := by
  induction h with
  | nil => rfl
  | literal s _ ih => simp [ih]
  | parameter name part _ ih => simp [ih]

/-- To fill in with what was taken gives the same parts exactly if none of them was lost. -/
theorem Binds.fills_iff (h : Binds segments parts bindings) (hne : ∀ part ∈ parts, part ≠ "") :
    List.Forall₂ (Segment.Fills params) segments parts ↔
      ∀ e ∈ bindings, params.get? e.1 = some e.2 := by
  induction h with
  | nil => simp
  | literal s _ ih =>
    rw [List.forall₂_cons, ih fun part hp => hne part (List.mem_cons_of_mem _ hp)]
    exact and_iff_right (.literal s)
  | parameter name part _ ih =>
    have hpart : part ≠ "" := hne part List.mem_cons_self
    have hhead : Segment.Fills params (.parameter name) part ↔ params.get? name = some part := by
      constructor
      · rintro ⟨⟩
        assumption
      · exact fun hv => .parameter hv hpart
    rw [List.forall₂_cons, List.forall_mem_cons, hhead,
      ih fun part hp => hne part (List.mem_cons_of_mem _ hp)]

end

variable {p : Pattern} {path : String} {taken : Dictionary String}
  {bindings : List (String × String)}

/-- Wherever a name stands in the pattern, the path has the same part. -/
def RepeatsAgree (p : Pattern) (path : String) : Prop :=
  ∀ (i j : Nat) (name : String), p.segments[i]? = some (.parameter name) →
    p.segments[j]? = some (.parameter name) → (pathParts path)[i]? = (pathParts path)[j]?

theorem repeatsAgree_iff (h : Binds p.segments (pathParts path) bindings) :
    RepeatsAgree p path ↔ ∀ e ∈ bindings, ∀ e' ∈ bindings, e.1 = e'.1 → e.2 = e'.2 := by
  constructor
  · rintro hagree ⟨name, part⟩ he ⟨_, part'⟩ he' rfl
    obtain ⟨i, hi, hpi⟩ := h.mem_iff.mp he
    obtain ⟨j, hj, hpj⟩ := h.mem_iff.mp he'
    have hij := hagree i j name hi hj
    rw [hpi, hpj] at hij
    exact Option.some.inj hij
  · intro hagree i j name hi hj
    have hpart : ∀ k : Nat, p.segments[k]? = some (.parameter name) →
        ∃ part, (pathParts path)[k]? = some part := by
      intro k hk
      obtain ⟨hlt, -⟩ := List.getElem?_eq_some_iff.mp hk
      exact ⟨_, List.getElem?_eq_getElem (h.length_eq ▸ hlt)⟩
    obtain ⟨part, hpi⟩ := hpart i hi
    obtain ⟨part', hpj⟩ := hpart j hj
    have he : part = part' :=
      hagree _ (h.mem_iff.mpr ⟨i, hi, hpi⟩) _ (h.mem_iff.mpr ⟨j, hj, hpj⟩) rfl
    rw [hpi, hpj, he]

theorem repeatsAgree_of_nodup (h : Binds p.segments (pathParts path) bindings)
    (hn : p.parameterNames.Nodup) : RepeatsAgree p path := by
  have hnames : (bindings.map (·.1)).Nodup := h.names ▸ hn
  refine (repeatsAgree_iff h).mpr fun e he e' he' hk => ?_
  rw [List.inj_on_of_nodup_map hnames he he' hk]

theorem mem_keys_of_match? (h : p.match? path = some taken) (name : String) :
    name ∈ taken.keys ↔ name ∈ p.parameterNames := by
  obtain ⟨bindings, hb, rfl⟩ := match?_eq_some_iff.mp h
  rw [Dictionary.mem_keys_ofList_iff, hb.names, parameterNames]

theorem restrict_of_match? (h : p.match? path = some taken) :
    taken.restrict p.parameterNames = taken := by
  refine Dictionary.ext_get? fun name => ?_
  rw [Dictionary.get?_restrict]
  split
  · rfl
  · next hname =>
    rw [← mem_keys_of_match? h, Dictionary.mem_keys_iff] at hname
    exact (Option.not_isSome_iff_eq_none.mp hname).symm

/-- What a pattern took is enough to fill it in, and it takes the same again. -/
theorem exists_fill_of_match? (h : p.match? path = some taken) :
    ∃ filled, p.fill taken = .ok filled ∧ p.match? filled = some taken := by
  have hknown : ∀ name ∈ p.parameterNames, ∃ value, taken.get? name = some value ∧ value ≠ "" := by
    intro name hname
    have hkey := (mem_keys_of_match? h name).mpr hname
    obtain ⟨value, hv⟩ := Option.isSome_iff_exists.mp (Dictionary.mem_keys_iff.mp hkey)
    exact ⟨value, hv, (isPart_of_match? h hv).1⟩
  obtain ⟨filled, hfill⟩ := exists_fill_of_known hknown
  have hslash : ∀ value ∈ p.substituted taken, '/' ∉ value.toList := by
    intro value hv
    obtain ⟨name, -, hg⟩ := List.mem_filterMap.mp hv
    exact (isPart_of_match? h hg).2
  refine ⟨filled, hfill, ?_⟩
  rw [(match?_eq_some_restrict_iff hfill).mpr hslash, restrict_of_match? h]

theorem fill_eq_normalPath_iff (h : p.match? path = some taken) :
    p.fill taken = .ok (normalPath path) ↔
      List.Forall₂ (Segment.Fills taken) p.segments (pathParts path) := by
  rw [fill_eq_ok_iff]
  constructor
  · rintro ⟨parts, hf, he⟩
    have hparts := isPart_of_fills (fun _ hm => isPart_of_literal_mem hm)
      (fun _ _ hv => (isPart_of_match? h hv).2) hf
    have hsame : pathParts path = parts := by
      rw [← pathParts_normalPath, he, pathParts_joinParts hparts]
    exact hsame ▸ hf
  · exact fun hf => ⟨_, hf, normalPath_eq path⟩

theorem fill_eq_normalPath_iff_repeatsAgree (h : p.match? path = some taken) :
    p.fill taken = .ok (normalPath path) ↔ RepeatsAgree p path := by
  obtain ⟨bindings, hb, rfl⟩ := match?_eq_some_iff.mp h
  have hne : ∀ part ∈ pathParts path, part ≠ "" := fun _ hm => (isPart_of_mem_pathParts hm).1
  rw [fill_eq_normalPath_iff h, hb.fills_iff hne, Dictionary.get?_ofList_eq_iff_agree,
    repeatsAgree_iff hb]

/-- What a pattern took from a path, beside the path that it makes of it. -/
structure UndoneByFilling (p : Pattern) (path : String) (taken : Dictionary String) : Prop where
  names : ∀ name, name ∈ taken.keys ↔ name ∈ p.parameterNames
  values : ∀ value ∈ taken.values, value ≠ "" ∧ '/' ∉ value.toList
  filled : ∃ filled, p.fill taken = .ok filled ∧ p.match? filled = some taken ∧
    (filled = normalPath path ↔ RepeatsAgree p path)
  distinct : p.parameterNames.Nodup → p.fill taken = .ok (normalPath path)

/-- Filling in what was taken from a path gives the path again, but for slashes, exactly if no name
took two different parts. Slashes that are doubled or at an end do not count for a match. -/
theorem filling_undoes_matching (p : Pattern) (path : String) :
    (∀ taken, p.match? path = some taken → UndoneByFilling p path taken) ∧
      ∀ path', pathParts path' = pathParts path → p.match? path' = p.match? path := by
  constructor
  · intro taken h
    obtain ⟨filled, hfill, hagain⟩ := exists_fill_of_match? h
    have hnormal := fill_eq_normalPath_iff_repeatsAgree h
    have hfilled : filled = normalPath path ↔ RepeatsAgree p path := by
      rw [← hnormal, hfill, Except.ok.injEq]
    refine
      { names := mem_keys_of_match? h
        values := fun value hv => ?_
        filled := ⟨filled, hfill, hagain, hfilled⟩
        distinct := fun hn => ?_ }
    · obtain ⟨⟨name, _⟩, he, rfl⟩ := List.mem_map.mp hv
      exact isPart_of_match? h (Dictionary.mem_entries_iff.mp he)
    · obtain ⟨bindings, hb, -⟩ := match?_eq_some_iff.mp h
      exact hnormal.mpr (repeatsAgree_of_nodup hb hn)
  · intro path' hparts
    rw [match?, match?, hparts]

/-- Of the two parts under one name the last one is taken, so the first one is lost. -/
theorem filling_undoes_matching_of_repeated_name :
    let p : Pattern := ⟨"/\x7bx\x7d/to/\x7bx\x7d"⟩
    let taken : Dictionary String := .ofList [("x", "b")]
    p.match? "/a//to/b/" = some taken ∧ p.fill taken = .ok "/b/to/b" ∧
      UndoneByFilling p "/a//to/b/" taken ∧ ¬ RepeatsAgree p "/a//to/b/" := by
  intro p taken
  have hmatch : p.match? "/a//to/b/" = some taken := by decide +kernel
  have hfill : p.fill taken = .ok "/b/to/b" := by decide +kernel
  have hundone := (filling_undoes_matching p "/a//to/b/").1 taken hmatch
  refine ⟨hmatch, hfill, hundone, fun hagree => ?_⟩
  obtain ⟨filled, hf, -, hiff⟩ := hundone.filled
  have hnormal : filled = normalPath "/a//to/b/" := hiff.mpr hagree
  rw [hfill, hnormal] at hf
  exact absurd hf (by decide +kernel)

end Pattern

end Relocation.Wizard
