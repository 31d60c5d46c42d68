import Mathlib.Algebra.Order.BigOperators.Group.List
import Mathlib.Algebra.Order.Group.Nat
import Relocation.Proofs.RouteLookups
import Relocation.Proofs.StandardPages

/-! Patterns that match the same paths. What a pattern matches depends on its shape alone: where its
literals are and which ones. Whether a flow repeats a path is told from the raw texts, of which
several may have one shape. -/

namespace Relocation.Wizard

/-- The text that a segment stands for, whatever the path. -/
def Segment.literal? : Segment → Option String
  | .literal s => some s
  | .parameter _ => none

namespace Pattern

variable {p q : Pattern} {path part : String}

/-- The two patterns match the same paths. -/
def Equivalent (p q : Pattern) : Prop :=
  ∀ path, (p.match? path).isSome = true ↔ (q.match? path).isSome = true

/-- The segments of a pattern without the names of its parameters. -/
def shape (p : Pattern) : List (Option String) := p.segments.map Segment.literal?

theorem isSome_bindings?_iff {segments : List Segment} {parts : List String} :
    (bindings? segments parts).isSome = true ↔
      List.Forall₂ (fun l? part => ∀ s ∈ l?, s = part) (segments.map Segment.literal?) parts := by
  induction segments generalizing parts with
  | nil => cases parts <;> simp [bindings?]
  | cons segment segments ih =>
    cases parts with
    | nil => cases segment <;> simp [bindings?]
    | cons part parts =>
      rw [List.map_cons, List.forall₂_cons, ← ih]
      cases segment with
      | literal s => by_cases h : s = part <;> simp [bindings?, Segment.literal?, h]
      | parameter name => simp [bindings?, Segment.literal?]

theorem isSome_match?_iff : (p.match? path).isSome = true ↔
    List.Forall₂ (fun l? part => ∀ s ∈ l?, s = part) p.shape (pathParts path) := by
  rw [match?, Option.isSome_map, isSome_bindings?_iff, shape]

theorem isPart_of_mem_shape {s : String} (h : some s ∈ p.shape) : IsPart s := by
  obtain ⟨segment, hm, hs⟩ := List.mem_map.mp h
  cases segment with
  | literal t => exact Option.some.inj hs ▸ isPart_of_literal_mem hm
  | parameter name => cases hs

/-- A path of the pattern, with the same part at the place of every parameter. -/
def samplePath (p : Pattern) (part : String) : String := joinParts (p.shape.map (·.getD part))

theorem pathParts_samplePath (p : Pattern) (h : IsPart part) :
    pathParts (p.samplePath part) = p.shape.map (·.getD part) := by
  refine pathParts_joinParts fun t ht => ?_
  obtain ⟨l?, hl, rfl⟩ := List.mem_map.mp ht
  cases l? with
  | none => exact h
  | some s => exact isPart_of_mem_shape hl

theorem isSome_match?_samplePath (p : Pattern) (h : IsPart part) :
    (p.match? (p.samplePath part)).isSome = true := by
  rw [isSome_match?_iff, pathParts_samplePath p h, List.forall₂_map_right_iff]
  exact List.forall₂_same.mpr fun l? _ s hs => by simp [Option.mem_def.mp hs]

/-- A sample path with a part that is no literal of `p` shows where the literals of `p` are. -/
theorem shape_of_match?_samplePath (h : IsPart part) (hfresh : some part ∉ p.shape)
    (hm : (p.match? (q.samplePath part)).isSome = true) :
    List.Forall₂ (fun l? m? => ∀ s ∈ l?, m? = some s) p.shape q.shape := by
  rw [isSome_match?_iff, pathParts_samplePath q h, List.forall₂_map_right_iff,
    List.forall₂_iff_zip] at hm
  obtain ⟨hlength, hzip⟩ := hm
  refine List.forall₂_iff_zip.mpr ⟨hlength, fun {l? m?} hlm s hs => ?_⟩
  have hpart : s = m?.getD part := hzip hlm s hs
  cases m? with
  | some t => exact congrArg some hpart.symm
  | none =>
    obtain rfl : s = part := hpart
    have hl : some s ∈ p.shape := Option.mem_def.mp hs ▸ (List.of_mem_zip hlm).1
    exact absurd hl hfresh

theorem exists_fresh_part (l : List (Option String)) : ∃ part, IsPart part ∧ some part ∉ l := by
  -- A part that is longer than all texts in the list together.
  let n := (l.map fun t? => (t?.getD "").length).sum + 1
  refine ⟨String.ofList (List.replicate n 'x'), ⟨by simp [n], by simp⟩, fun hm => ?_⟩
  have hle := List.le_sum_of_mem (List.mem_map_of_mem (f := fun t? => (t?.getD "").length) hm)
  simp [n] at hle

theorem eq_of_forall₂_mutual {l m : List (Option String)}
    (h : List.Forall₂ (fun l? m? => ∀ s ∈ l?, m? = some s) l m)
    (h' : List.Forall₂ (fun m? l? => ∀ s ∈ m?, l? = some s) m l) : l = m := by
  induction h with
  | nil => rfl
  | @cons l? m? l m hlm _ ih =>
    obtain ⟨hml, ht⟩ := List.forall₂_cons.mp h'
    have hhead : l? = m? := by
      cases l? with
      | some s => exact (hlm s rfl).symm
      | none =>
        cases m? with
        | none => rfl
        | some t => exact hml t rfl
    rw [hhead, ih ht]

/-- Patterns match the same paths exactly if they have the same shape. -/
theorem equivalent_iff_shape_eq : p.Equivalent q ↔ p.shape = q.shape := by
  constructor
  · intro h
    obtain ⟨part, hpart, hfresh⟩ := exists_fresh_part (p.shape ++ q.shape)
    rw [List.mem_append, not_or] at hfresh
    have hpq := (h _).mpr (q.isSome_match?_samplePath hpart)
    have hqp := (h _).mp (p.isSome_match?_samplePath hpart)
    exact eq_of_forall₂_mutual (shape_of_match?_samplePath hpart hfresh.1 hpq)
      (shape_of_match?_samplePath hpart hfresh.2 hqp)
  · intro h path
    rw [isSome_match?_iff, isSome_match?_iff, h]

end Pattern

/-! Raw texts -/

theorem pathParts_append_slash (cs : List Char) :
    pathParts (String.ofList (cs ++ ['/'])) = pathParts (String.ofList cs) := by
  simp [pathParts, Text.cut_append_singleton]

theorem pathParts_dropWhile_slash (cs : List Char) :
    pathParts (String.ofList (cs.dropWhile (· = '/')).reverse) =
      pathParts (String.ofList cs.reverse) := by
  induction cs with
  | nil => rfl
  | cons c cs ih =>
    by_cases hc : c = '/'
    · subst hc
      rw [List.dropWhile_cons_of_pos (by simp), ih, List.reverse_cons, pathParts_append_slash]
    · rw [List.dropWhile_cons_of_neg (by simpa using hc)]

theorem Page.pathParts_trimmedPath (page : Page) :
    pathParts page.trimmedPath = pathParts page.path.raw := by
  have h := pathParts_dropWhile_slash page.path.raw.toList.reverse
  rwa [List.reverse_reverse, String.ofList_toList] at h

theorem Page.equivalent_of_trimmedPath_eq {p q : Page} (h : p.trimmedPath = q.trimmedPath) :
    p.path.Equivalent q.path := by
  have hparts : pathParts p.path.raw = pathParts q.path.raw := by
    rw [← p.pathParts_trimmedPath, h, q.pathParts_trimmedPath]
  rw [Pattern.equivalent_iff_shape_eq, Pattern.shape, Pattern.shape, Pattern.segments, hparts,
    Pattern.segments]

/-! The check of a flow -/

theorem exists_of_duplicate?_path {earlier pages : List Page} {raw : String}
    (h : duplicate? earlier pages = some (.duplicatePath raw)) :
    ∃ before page after, pages = before ++ page :: after ∧ page.path.raw = raw ∧
      ∃ p ∈ earlier ++ before, p.trimmedPath = page.trimmedPath := by
  induction pages generalizing earlier with
  | nil => cases h
  | cons page pages ih =>
    unfold duplicate? at h
    split at h
    · cases h
    · split at h
      · next hpath =>
        obtain ⟨p, hp, he⟩ := List.mem_map.mp hpath
        refine ⟨[], page, pages, rfl, ?_, p, by simpa using hp, he⟩
        simpa using h
      · obtain ⟨before, q, after, rfl, hraw, p, hp, he⟩ := ih h
        exact ⟨page :: before, q, after, rfl, hraw, p, by simpa using hp, he⟩

theorem Flow.ofPages_eq_error_iff {pages : List Page} {v : Violation} :
    Flow.ofPages pages = .error v ↔ duplicate? [] pages = some v := by
  unfold Flow.ofPages
  split <;> simp_all

/-- A page behind one with an equivalent pattern is never found. -/
theorem Flow.pageAt?_ne_of_equivalent {flow : Flow} {before after : List Page} {p page : Page}
    (hpages : flow.pages = before ++ page :: after) (hp : p ∈ before)
    (he : p.path.Equivalent page.path) (path : String) (params : Dictionary String) :
    flow.pageAt? path ≠ some (page, params) := by
  intro h
  obtain ⟨before', after', hsplit, hbefore, hmatch⟩ := Flow.pageAt?_eq_some_iff.mp h
  have hn : (before ++ page :: after).Nodup := hpages ▸ flow.keys_nodup.of_map
  have hno : page ∉ before ∧ page ∉ after := by
    simpa using (List.nodup_cons.mp (List.nodup_middle.mp hn)).1
  obtain ⟨rfl, -, -⟩ :=
    (List.append_cons_inj_of_notMem hno.1 hno.2).mp (hpages.symm.trans hsplit)
  have hmatched : (p.path.match? path).isSome = true :=
    (he path).mpr (Option.isSome_iff_exists.mpr ⟨params, hmatch⟩)
  rw [hbefore p hp] at hmatched
  cases hmatched

/-- No two of the pages match the same paths. -/
def PatternsApart (pages : List Page) : Prop :=
  pages.Pairwise fun p q => ¬ p.path.Equivalent q.path

theorem patternsApart_iff_nodup {pages : List Page} :
    PatternsApart pages ↔ (pages.map fun p => p.path.shape).Nodup := by
  simp only [PatternsApart, Pattern.equivalent_iff_shape_eq, List.Nodup, List.pairwise_map, ne_eq]

/-- Pages that are refused for a path do have equivalent patterns. Accepted pages may have them as
well: they are apart exactly if no two have the same shape. -/
theorem duplicate_check_agrees_iff_shapes_differ (pages : List Page) :
    (∀ raw, Flow.ofPages pages = .error (.duplicatePath raw) → ¬ PatternsApart pages) ∧
    ((∀ flow, Flow.ofPages pages = .ok flow → PatternsApart flow.pages) ↔
      (∃ v, Flow.ofPages pages = .error v) ∨ (pages.map fun p => p.path.shape).Nodup) := by
  constructor
  · intro raw h hapart
    obtain ⟨before, page, after, rfl, -, p, hp, he⟩ :=
      exists_of_duplicate?_path (Flow.ofPages_eq_error_iff.mp h)
    have hne := (List.pairwise_append.mp hapart).2.2 p hp page List.mem_cons_self
    exact hne (Page.equivalent_of_trimmedPath_eq he)
  · rw [← patternsApart_iff_nodup]
    cases h : Flow.ofPages pages with
    | error v => simp
    | ok flow =>
      have hpages := Flow.ofPages_eq_ok_iff.mp h
      simp [hpages]

/-- Two paths that differ in a doubled slash are both accepted, and the page at the second one is
never found. -/
theorem doubled_slash_is_no_duplicate :
    let first : Page := { key := .orders, path := ⟨"/orders"⟩ }
    let second : Page := { key := .uploadOrders, path := ⟨"//orders"⟩ }
    ∃ flow, Flow.ofPages [first, second] = .ok flow ∧ ¬ PatternsApart flow.pages ∧
      ∀ path params, flow.pageAt? path ≠ some (second, params) := by
  intro first second
  let flow : Flow := ⟨[first, second], by decide +kernel, by decide +kernel⟩
  have hequivalent : first.path.Equivalent second.path :=
    Pattern.equivalent_iff_shape_eq.mpr (by decide +kernel)
  have hapart : ¬ PatternsApart [first, second] :=
    fun h => List.rel_of_pairwise_cons h List.mem_cons_self hequivalent
  refine ⟨flow, Flow.ofPages_eq_ok_iff.mpr rfl, hapart, ?_⟩
  have hsplit : flow.pages = [first] ++ second :: [] := rfl
  exact Flow.pageAt?_ne_of_equivalent hsplit List.mem_cons_self hequivalent

end Relocation.Wizard
