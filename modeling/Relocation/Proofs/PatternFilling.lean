import Relocation.Proofs.DictionaryLookup
import Relocation.Proofs.Outcomes
import Relocation.Proofs.PathParts

/-! Filling in a pattern, and matching the path that comes of it. A pattern matches what it was
filled in to, with the values that were filled in, where these hold no slash. -/

namespace Relocation

namespace Text

theorem not_mem_of_mem_cut {sep : Char} {cs piece : List Char} (h : piece ∈ cut sep cs) :
    sep ∉ piece := by
  induction cs generalizing piece with
  | nil => simp_all [cut]
  | cons c cs ih =>
    unfold cut at h
    split at h
    · rcases List.mem_cons.mp h with rfl | h
      · simp
      · exact ih h
    · next hc =>
      split at h
      · simp [List.mem_singleton.mp h, Ne.symm hc]
      · next p ps he =>
        rcases List.mem_cons.mp h with rfl | h
        · have hp : sep ∉ p := ih (he ▸ List.mem_cons_self)
          simp [hp, Ne.symm hc]
        · exact ih (he ▸ List.mem_cons_of_mem _ h)

end Text

namespace Wizard

theorem isPart_of_mem_pathParts {path part : String} (h : part ∈ pathParts path) : IsPart part := by
  obtain ⟨cs, hcs, rfl⟩ := List.mem_map.mp h
  obtain ⟨hm, hne⟩ := List.mem_filter.mp hcs
  refine ⟨fun he => ?_, ?_⟩
  · have hnil : cs = [] := by simpa using congrArg String.toList he
    simp [hnil] at hne
  · simpa using Text.not_mem_of_mem_cut hm

theorem Segment.eq_of_ofPart {part s : String} (h : Segment.ofPart part = .literal s) :
    part = s := by
  unfold Segment.ofPart at h
  split at h
  · split at h
    · cases h
    · exact Segment.literal.inj h
  · exact Segment.literal.inj h

/-- What a segment becomes when it is filled in. -/
inductive Segment.Fills (params : Dictionary String) : Segment → String → Prop
  | literal (s : String) : Fills params (.literal s) s
  | parameter {name value : String} (h : params.get? name = some value) (hne : value ≠ "") :
      Fills params (.parameter name) value

/-- There is no text to fill the parameter in with. -/
def IsUnbound (params : Dictionary String) (name : String) : Prop :=
  params.get? name = none ∨ params.get? name = some ""

instance (params : Dictionary String) (name : String) : Decidable (IsUnbound params name) :=
  inferInstanceAs (Decidable (_ ∨ _))

namespace Pattern

variable {p : Pattern} {params : Dictionary String}

theorem fillSegment_eq_ok_iff {segment : Segment} {part : String} :
    p.fillSegment params segment = .ok part ↔ Segment.Fills params segment part := by
  cases segment with
  | literal s =>
    constructor
    · intro h
      have he : s = part := by simpa [fillSegment] using h
      exact he ▸ .literal s
    · intro h
      cases h
      rfl
  | parameter name =>
    constructor
    · intro h
      simp only [fillSegment] at h
      split at h
      · next value hv =>
        split at h
        · cases h
        · next hne => cases h; exact .parameter hv hne
      · cases h
    · intro h
      cases h with
      | parameter h hne => simp [fillSegment, h, hne]

theorem fill_eq_ok_iff {path : String} :
    p.fill params = .ok path ↔
      ∃ parts, List.Forall₂ (Segment.Fills params) p.segments parts ∧ path = joinParts parts := by
  have hm : ∀ parts, p.segments.mapM (p.fillSegment params) = .ok parts ↔
      List.Forall₂ (Segment.Fills params) p.segments parts := by
    intro parts
    simp only [mapM_eq_ok_iff, fillSegment_eq_ok_iff]
  unfold fill
  cases h : p.segments.mapM (p.fillSegment params) with
  | error e =>
    refine ⟨nofun, fun ⟨parts, hf, _⟩ => ?_⟩
    rw [(hm parts).mpr hf] at h
    cases h
  | ok parts =>
    constructor
    · intro he
      cases he
      exact ⟨parts, (hm parts).mp h, rfl⟩
    · rintro ⟨parts', hf, rfl⟩
      rw [(hm parts').mpr hf] at h
      cases h
      rfl

theorem fillSegment_parameter (p : Pattern) (params : Dictionary String) (name : String) :
    (IsUnbound params name ∧
        p.fillSegment params (.parameter name) = .error (.unboundParameter p.raw name)) ∨
      (¬ IsUnbound params name ∧ ∃ value, p.fillSegment params (.parameter name) = .ok value) := by
  cases hv : params.get? name with
  | none => exact .inl ⟨.inl hv, by simp [fillSegment, hv]⟩
  | some value =>
    by_cases hempty : value = ""
    · exact .inl ⟨.inr (hempty ▸ hv), by simp [fillSegment, hv, hempty]⟩
    · exact .inr ⟨by simp [IsUnbound, hv, hempty], value, by simp [fillSegment, hv, hempty]⟩

/-- Segments are filled in from left to right, so the first parameter without a value is named. -/
theorem mapM_fillSegment_eq_error_iff {segments : List Segment} {v : Violation} :
    segments.mapM (p.fillSegment params) = .error v ↔ ∃ name,
      (segments.filterMap Segment.parameterName?).find? (IsUnbound params ·) = some name ∧
        v = .unboundParameter p.raw name := by
  induction segments with
  | nil => simp [pure, Except.pure]
  | cons segment segments ih =>
    have hrest : ∀ part, p.fillSegment params segment = .ok part →
        ((segment :: segments).mapM (p.fillSegment params) = .error v ↔
          segments.mapM (p.fillSegment params) = .error v) := by
      intro part hpart
      rw [List.mapM_cons, hpart, except_ok_bind, except_bind_eq_error_iff]
      simp [pure, Except.pure]
    cases segment with
    | literal s => exact (hrest s rfl).trans ih
    | parameter name =>
      rcases fillSegment_parameter p params name with ⟨hunbound, herror⟩ | ⟨hbound, value, hok⟩
      · rw [List.mapM_cons, herror]
        simp [Segment.parameterName?, hunbound, bind, Except.bind, eq_comm]
      · rw [hrest value hok, ih]
        simp [Segment.parameterName?, hbound]

theorem fill_eq_error_iff {v : Violation} : p.fill params = .error v ↔ ∃ name,
    p.parameterNames.find? (IsUnbound params ·) = some name ∧
      v = .unboundParameter p.raw name := by
  rw [parameterNames, ← mapM_fillSegment_eq_error_iff, fill]
  cases p.segments.mapM (p.fillSegment params) <;> simp

theorem exists_fill_eq_error_iff : (∃ v, p.fill params = .error v) ↔
    ∃ name ∈ p.parameterNames, IsUnbound params name := by
  simp only [fill_eq_error_iff]
  constructor
  · rintro ⟨v, name, hfind, -⟩
    exact ⟨name, List.mem_of_find?_eq_some hfind, by simpa using List.find?_some hfind⟩
  · rintro ⟨name, hname, hunbound⟩
    have hsome : (p.parameterNames.find? (IsUnbound params ·)).isSome = true :=
      List.find?_isSome.mpr ⟨name, hname, by simpa using hunbound⟩
    obtain ⟨first, hfirst⟩ := Option.isSome_iff_exists.mp hsome
    exact ⟨_, first, hfirst, rfl⟩

/-- All that filling in needs is a value for every parameter. -/
theorem exists_fill_of_known
    (h : ∀ name ∈ p.parameterNames, ∃ value, params.get? name = some value ∧ value ≠ "") :
    ∃ path, p.fill params = .ok path := by
  cases hfill : p.fill params with
  | ok path => exact ⟨path, rfl⟩
  | error v =>
    obtain ⟨name, hname, hunbound⟩ := exists_fill_eq_error_iff.mp ⟨v, hfill⟩
    obtain ⟨value, hv, hne⟩ := h name hname
    simp [IsUnbound, hv, hne] at hunbound

theorem ne_empty_of_fill {path : String} (h : p.fill params = .ok path) : path ≠ "" := by
  obtain ⟨parts, -, rfl⟩ := fill_eq_ok_iff.mp h
  intro he
  cases parts with
  | nil => simp [joinParts] at he
  | cons part parts =>
    have hl := toList_joinParts (List.cons_ne_nil part parts)
    simp [he] at hl

theorem isPart_of_fills {segments : List Segment} {parts : List String}
    (hs : ∀ s, .literal s ∈ segments → IsPart s)
    (hv : ∀ name value, params.get? name = some value → '/' ∉ value.toList)
    (h : List.Forall₂ (Segment.Fills params) segments parts) : ∀ part ∈ parts, IsPart part := by
  induction h with
  | nil => simp
  | @cons segment part segments parts hf _ ih =>
    have htail := ih fun s hm => hs s (List.mem_cons_of_mem _ hm)
    have hhead : IsPart part := by
      cases hf with
      | literal s => exact hs _ List.mem_cons_self
      | parameter hg hne => exact ⟨hne, hv _ _ hg⟩
    exact List.forall_mem_cons.mpr ⟨hhead, htail⟩

theorem isPart_of_literal_mem {s : String} (h : .literal s ∈ p.segments) : IsPart s := by
  obtain ⟨part, hp, he⟩ := List.mem_map.mp h
  exact Segment.eq_of_ofPart he ▸ isPart_of_mem_pathParts hp

/-- Literals stand for themselves, and each parameter is bound to the part at its place. -/
inductive Binds : List Segment → List String → List (String × String) → Prop
  | nil : Binds [] [] []
  | literal {segments : List Segment} {parts : List String} {bindings : List (String × String)}
      (s : String) (h : Binds segments parts bindings) :
      Binds (.literal s :: segments) (s :: parts) bindings
  | parameter {segments : List Segment} {parts : List String} {bindings : List (String × String)}
      (name part : String) (h : Binds segments parts bindings) :
      Binds (.parameter name :: segments) (part :: parts) ((name, part) :: bindings)

theorem bindings?_eq_some_iff {segments : List Segment} {parts : List String}
    {bindings : List (String × String)} :
    bindings? segments parts = some bindings ↔ Binds segments parts bindings := by
  constructor
  · intro h
    induction segments generalizing parts bindings with
    | nil =>
      cases parts with
      | nil => cases h; exact .nil
      | cons part parts => cases h
    | cons segment segments ih =>
      cases parts with
      | nil => cases segment <;> cases h
      | cons part parts =>
        cases segment with
        | literal s =>
          by_cases hs : s = part
          · subst hs
            rw [bindings?, if_pos rfl] at h
            exact .literal s (ih h)
          · rw [bindings?, if_neg hs] at h
            cases h
        | parameter name =>
          obtain ⟨rest, hr, rfl⟩ := Option.map_eq_some_iff.mp h
          exact .parameter name part (ih hr)
  · intro h
    induction h with
    | nil => rfl
    | literal s _ ih => rw [bindings?, if_pos rfl, ih]
    | parameter name part _ ih => rw [bindings?, ih, Option.map_some]

theorem match?_eq_some_iff {path : String} {taken : Dictionary String} :
    p.match? path = some taken ↔
      ∃ bindings, Binds p.segments (pathParts path) bindings ∧ .ofList bindings = taken := by
  simp only [match?, Option.map_eq_some_iff, bindings?_eq_some_iff]

theorem Binds.names {segments : List Segment} {parts : List String}
    {bindings : List (String × String)} (h : Binds segments parts bindings) :
    bindings.map (·.1) = segments.filterMap Segment.parameterName? := by
  induction h with
  | nil => rfl
  | literal s _ ih => exact ih
  | parameter name part _ ih => simp [Segment.parameterName?, ih]

theorem Binds.mem {segments : List Segment} {parts : List String}
    {bindings : List (String × String)} (h : Binds segments parts bindings) :
    ∀ e ∈ bindings, e.2 ∈ parts := by
  induction h with
  | nil => simp
  | literal s _ ih => exact fun e he => List.mem_cons_of_mem _ (ih e he)
  | parameter name part _ ih =>
    refine List.forall_mem_cons.mpr ⟨List.mem_cons_self, fun e he => ?_⟩
    exact List.mem_cons_of_mem _ (ih e he)

theorem binds_of_fills {segments : List Segment} {parts : List String}
    (h : List.Forall₂ (Segment.Fills params) segments parts) :
    ∃ bindings, Binds segments parts bindings ∧
      ∀ e ∈ bindings, params.get? e.1 = some e.2 := by
  induction h with
  | nil => exact ⟨[], .nil, by simp⟩
  | @cons segment part segments parts hf _ ih =>
    obtain ⟨bindings, hb, hg⟩ := ih
    cases hf with
    | literal => exact ⟨bindings, .literal _ hb, hg⟩
    | @parameter name _ hv _ =>
      exact ⟨(name, part) :: bindings, .parameter name part hb, List.forall_mem_cons.mpr ⟨hv, hg⟩⟩

theorem get?_ofList_of_agree {bindings : List (String × String)}
    (h : ∀ e ∈ bindings, params.get? e.1 = some e.2) (name : String) :
    (Dictionary.ofList bindings).get? name =
      if name ∈ bindings.map (·.1) then params.get? name else none := by
  cases hv : (Dictionary.ofList bindings).get? name with
  | none =>
    have hno : name ∉ bindings.map (·.1) := by
      intro hm
      obtain ⟨e, he, rfl⟩ := List.mem_map.mp hm
      obtain ⟨value, hvalue⟩ := Dictionary.exists_get?_ofList he
      rw [hv] at hvalue
      cases hvalue
    rw [if_neg hno]
  | some value =>
    have he : (name, value) ∈ bindings := Dictionary.mem_of_get?_ofList hv
    rw [if_pos (List.mem_map.mpr ⟨_, he, rfl⟩), h _ he]

/-- A pattern that was filled in with values without slashes matches, and takes these values. -/
theorem match?_joinParts_of_fills {parts : List String}
    (hv : ∀ name value, params.get? name = some value → '/' ∉ value.toList)
    (h : List.Forall₂ (Segment.Fills params) p.segments parts) :
    ∃ taken, p.match? (joinParts parts) = some taken ∧
      ∀ name, taken.get? name = if name ∈ p.parameterNames then params.get? name else none := by
  have hparts := isPart_of_fills (fun _ hm => isPart_of_literal_mem hm) hv h
  obtain ⟨bindings, hb, hg⟩ := binds_of_fills h
  have hmatch : p.match? (joinParts parts) = some (.ofList bindings) :=
    match?_eq_some_iff.mpr ⟨bindings, (pathParts_joinParts hparts).symm ▸ hb, rfl⟩
  refine ⟨.ofList bindings, hmatch, fun name => ?_⟩
  rw [get?_ofList_of_agree hg, hb.names, parameterNames]

/-- Whatever a pattern takes from a path is one of the parts between its slashes. -/
theorem isPart_of_match? {path name value : String} (h : p.match? path = some params)
    (hv : params.get? name = some value) : IsPart value := by
  obtain ⟨bindings, hb, rfl⟩ := match?_eq_some_iff.mp h
  exact isPart_of_mem_pathParts (hb.mem _ (Dictionary.mem_of_get?_ofList hv))

theorem fills_restrict {segments : List Segment} {parts names : List String}
    (hn : ∀ name ∈ segments.filterMap Segment.parameterName?, name ∈ names)
    (h : List.Forall₂ (Segment.Fills params) segments parts) :
    List.Forall₂ (Segment.Fills (params.restrict names)) segments parts := by
  induction h with
  | nil => exact .nil
  | @cons segment part segments parts hf _ ih =>
    cases hf with
    | literal => exact .cons (.literal _) (ih fun name hm => hn name hm)
    | @parameter name value hv hne =>
      have hname : name ∈ names := hn name (by simp [Segment.parameterName?])
      refine .cons (.parameter (by simp [hname, hv]) hne) (ih fun n hm => hn n ?_)
      simp [Segment.parameterName?, hm]

theorem fill_restrict {path : String} (h : p.fill params = .ok path) :
    p.fill (params.restrict p.parameterNames) = .ok path := by
  obtain ⟨parts, hf, rfl⟩ := fill_eq_ok_iff.mp h
  exact fill_eq_ok_iff.mpr ⟨parts, fills_restrict (fun _ hn => hn) hf, rfl⟩

/-- The values that a pattern is filled in with. -/
def substituted (p : Pattern) (params : Dictionary String) : List String :=
  p.parameterNames.filterMap params.get?

theorem no_slash_restrict (h : ∀ value ∈ p.substituted params, '/' ∉ value.toList) (name : String)
    (value : String) (hv : (params.restrict p.parameterNames).get? name = some value) :
    '/' ∉ value.toList := by
  rw [Dictionary.get?_restrict] at hv
  split at hv
  · next hn => exact h value (List.mem_filterMap.mpr ⟨name, hn, hv⟩)
  · cases hv

/-- Matching gives back what a pattern was filled in with exactly if no value holds a slash. -/
theorem match?_eq_some_restrict_iff {path : String} (h : p.fill params = .ok path) :
    p.match? path = some (params.restrict p.parameterNames) ↔
      ∀ value ∈ p.substituted params, '/' ∉ value.toList := by
  constructor
  · intro hm value hv
    obtain ⟨name, hn, hg⟩ := List.mem_filterMap.mp hv
    exact (isPart_of_match? hm (by rw [Dictionary.get?_restrict, if_pos hn, hg])).2
  · intro hv
    obtain ⟨parts, hf, rfl⟩ := fill_eq_ok_iff.mp h
    obtain ⟨taken, hm, ht⟩ :=
      match?_joinParts_of_fills (no_slash_restrict hv) (fills_restrict (fun _ hn => hn) hf)
    have htaken : taken = params.restrict p.parameterNames := by
      refine Dictionary.ext_get? fun name => ?_
      rw [ht, Dictionary.get?_restrict]
      split <;> rfl
    rw [hm, htaken]

theorem get?_of_match?_of_no_parameter {path : String} (hn : p.parameterNames = [])
    (h : p.match? path = some params) (name : String) : params.get? name = none := by
  obtain ⟨bindings, hb, rfl⟩ := match?_eq_some_iff.mp h
  have hnil : bindings.map (·.1) = [] := hb.names.trans hn
  rw [List.map_eq_nil_iff.mp hnil]
  rfl

theorem fill_congr {params' : Dictionary String} (h : ∀ name, params.get? name = params'.get? name)
    : p.fill params = p.fill params' := by
  have hs : p.fillSegment params = p.fillSegment params' := by
    funext segment
    cases segment with
    | literal s => rfl
    | parameter name => simp only [fillSegment, h name]
  rw [fill, fill, hs]

/-- Filling in fails exactly where a parameter is missing or empty, and names the first such one.
What it makes is matched with the values that were put in exactly if none of them holds a slash. -/
theorem matching_undoes_filling (p : Pattern) (params : Dictionary String) :
    ((∃ v, p.fill params = .error v) ↔ ∃ name ∈ p.parameterNames, IsUnbound params name) ∧
      (∀ v, p.fill params = .error v ↔ ∃ name,
        p.parameterNames.find? (IsUnbound params ·) = some name ∧
          v = .unboundParameter p.raw name) ∧
      ∀ path, p.fill params = .ok path →
        (p.match? path = some (params.restrict p.parameterNames) ↔
          ∀ value ∈ p.substituted params, '/' ∉ value.toList) :=
  ⟨exists_fill_eq_error_iff, fun _ => fill_eq_error_iff, fun _ => match?_eq_some_restrict_iff⟩

/-- A slash at the end of a value is lost between the parts. -/
theorem matching_undoes_filling_of_last_slash :
    let p : Pattern := ⟨"//a/\x7bx\x7d/\x7by\x7db/\x7bx\x7d/"⟩
    let params : Dictionary String := .ofList [("x", "b/"), ("z", "c")]
    p.fill params = .ok "/a/b//\x7by\x7db/b/" ∧
      p.match? "/a/b//\x7by\x7db/b/" ≠ some (params.restrict p.parameterNames) := by
  intro p params
  have hfill : p.fill params = .ok "/a/b//\x7by\x7db/b/" := by decide +kernel
  refine ⟨hfill, fun hmatch => ?_⟩
  have hslash := ((matching_undoes_filling p params).2.2 _ hfill).mp hmatch "b/" (by decide +kernel)
  exact hslash (by decide)

end Pattern

end Wizard

end Relocation
