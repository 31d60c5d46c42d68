import Relocation.Proofs.RouteLookups
import Relocation.Proofs.StandardPages

/-! Pages in another order. A page is found by going through the pages in their order, which decides
nothing as long as no path belongs to two of them. -/

namespace Relocation.Wizard

theorem findSome?_eq_of_perm {α β : Type} {f : α → Option β} {l l' : List α} (hp : l.Perm l')
    (h : l'.countP (fun a => (f a).isSome) ≤ 1) : l.findSome? f = l'.findSome? f := by
  have hlength : (l'.filterMap f).length ≤ 1 := by
    rwa [List.length_filterMap_eq_countP]
  have hfound : (l.filterMap f).Perm (l'.filterMap f) := hp.filterMap f
  rw [← List.head?_filterMap, ← List.head?_filterMap]
  cases hl : l'.filterMap f with
  | nil =>
    rw [hl] at hfound
    rw [List.perm_nil.mp hfound]
  | cons b rest =>
    have hrest : rest = [] := by simpa [hl] using hlength
    rw [hl, hrest] at hfound
    rw [List.perm_singleton.mp hfound, hrest]

theorem Pattern.overlap_of_match? {p q : Pattern} {path : String}
    (hp : (p.match? path).isSome = true) (hq : (q.match? path).isSome = true) :
    overlap p.segments q.segments = true := by
  obtain ⟨taken, ht⟩ := Option.isSome_iff_exists.mp hp
  obtain ⟨taken', ht'⟩ := Option.isSome_iff_exists.mp hq
  obtain ⟨bindings, hb, -⟩ := match?_eq_some_iff.mp ht
  obtain ⟨bindings', hb', -⟩ := match?_eq_some_iff.mp ht'
  exact overlap_of_binds hb hb'

/-- Of pages whose patterns are apart at most one is at a path. -/
theorem countP_match?_le_one {pages : List Page} (path : String)
    (h : pages.Pairwise fun p q => Pattern.overlap p.path.segments q.path.segments = false) :
    pages.countP (fun page => (page.path.match? path).isSome) ≤ 1 := by
  induction pages with
  | nil => simp
  | cons page pages ih =>
    obtain ⟨hpage, hpages⟩ := List.pairwise_cons.mp h
    by_cases hm : (page.path.match? path).isSome = true
    · have hrest : pages.countP (fun page => (page.path.match? path).isSome) = 0 := by
        refine List.countP_eq_zero.mpr fun other ho hmatch => ?_
        have hoverlap := Pattern.overlap_of_match? hm hmatch
        rw [hpage other ho] at hoverlap
        cases hoverlap
      simp [hm, hrest]
    · simpa [List.countP_cons, hm] using ih hpages

namespace Flow

variable {flow flow' : Flow} {pages : List Page} {path : String}

theorem pageAt?_of_perm (hp : flow.pages.Perm flow'.pages)
    (h : flow'.pages.countP (fun page => (page.path.match? path).isSome) ≤ 1) :
    flow.pageAt? path = flow'.pageAt? path := by
  refine findSome?_eq_of_perm hp ?_
  simpa only [Option.isSome_map] using h

/-- Pages that a flow has are accepted in every other order. -/
theorem exists_ofPages_of_perm (flow : Flow) (hp : pages.Perm flow.pages) :
    ∃ flow', ofPages pages = .ok flow' ∧ flow'.pages.Perm flow.pages := by
  let flow' : Flow :=
    { pages := pages
      keys_nodup := (hp.map Page.key).nodup_iff.mpr flow.keys_nodup
      paths_nodup := (hp.map Page.trimmedPath).nodup_iff.mpr flow.paths_nodup }
  exact ⟨flow', ofPages_eq_ok_iff.mpr rfl, hp⟩

end Flow

/-- What a path leads to, whichever pages stand around it. -/
def Route.landing (found : Route × Dictionary String) : PageKey × Bool × Dictionary String :=
  (found.1.key, found.1.isInFlow, found.2)

theorem Flow.landing_of_perm {flow flow' : Flow} {path : String}
    (hp : flow.pages.Perm flow'.pages)
    (h : flow'.pages.countP (fun page => (page.path.match? path).isSome) ≤ 1) (s : State) :
    (flow.resolve path s).map Route.landing = (flow'.resolve path s).map Route.landing := by
  rw [resolve, resolve, pageAt?_of_perm hp h, Option.map_map, Option.map_map]
  refine Option.map_congr fun found _ => ?_
  simp only [Function.comp_apply, Route.landing, isInFlow_routeOf]
  rfl

/-- At most one of the standard pages is at a path, so the path leads to the same place in whatever
order the pages are. -/
theorem standard_paths_are_unambiguous :
    (∀ path, standardPages.countP (fun page => (page.path.match? path).isSome) ≤ 1) ∧
      ∀ pages : List Page, pages.Perm standardPages →
        ∃ flow, Flow.ofPages pages = .ok flow ∧ ∀ path s,
          (flow.resolve path s).map Route.landing =
            (standardFlow.resolve path s).map Route.landing := by
  have hone := fun path => countP_match?_le_one path standardPages_apart
  refine ⟨hone, fun pages hp => ?_⟩
  obtain ⟨flow, hflow, hperm⟩ := standardFlow.exists_ofPages_of_perm hp
  exact ⟨flow, hflow, fun path s => Flow.landing_of_perm hperm (hone path) s⟩

theorem standard_paths_are_unambiguous_reversed :
    standardPages.reverse.Perm standardPages ∧
      ∃ flow, Flow.ofPages standardPages.reverse = .ok flow ∧
        (flow.resolve "//moves/m-1/" {}).map Route.landing =
          some (.moveType, true, .ofList [("move_id", "m-1")]) := by
  have hp : standardPages.reverse.Perm standardPages := List.reverse_perm _
  obtain ⟨flow, hflow, hlanding⟩ := standard_paths_are_unambiguous.2 _ hp
  refine ⟨hp, flow, hflow, ?_⟩
  rw [hlanding]
  decide +kernel

end Relocation.Wizard
