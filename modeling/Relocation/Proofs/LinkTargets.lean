import Relocation.Proofs.InFlowNavigation
import Relocation.Proofs.StandardPages

/-! Where the links between the pages lead. Nothing keeps a slash out of an id, and a link that was
filled in with one is cut into other parts than it was made of. -/

namespace Relocation.Wizard

open Pattern

variable {flow : Flow} {s : State} {page : Page} {params : Dictionary String} {path : String}

theorem Flow.resolve_fill_iff
    (ha : flow.pages.Pairwise fun p q => overlap p.path.segments q.path.segments = false)
    (hp : page ∈ flow.inFlowPages s) (h : page.path.fill params = .ok path) :
    flow.resolve path s =
        some (⟨page.key, page.path, some (flow.stop page s)⟩,
          params.restrict page.path.parameterNames) ↔
      ∀ value ∈ page.path.substituted params, '/' ∉ value.toList := by
  have hroute : flow.routeOf s page = ⟨page.key, page.path, some (flow.stop page s)⟩ := by
    rw [routeOf, if_pos (mem_inFlowPages.mp hp).2]
  rw [← match?_eq_some_restrict_iff h, ← hroute]
  constructor
  · intro hr
    obtain ⟨⟨found, taken⟩, hat, he⟩ := Option.map_eq_some_iff.mp hr
    obtain ⟨hfound, rfl⟩ := Prod.mk.inj he
    have hpath : found.path = page.path := congrArg Route.path hfound
    exact hpath ▸ (pageAt?_eq_some hat).2
  · intro hm
    have hv := no_slash_restrict ((match?_eq_some_restrict_iff h).mp hm)
    obtain ⟨taken, hat, -⟩ :=
      flow.pageAt?_of_fill ha (mem_inFlowPages.mp hp).1 hv (fill_restrict h)
    have htaken : some taken = some (params.restrict page.path.parameterNames) :=
      (pageAt?_eq_some hat).2.symm.trans hm
    rw [resolve, hat, Option.map_some, Option.some.inj htaken]

/-- The path was made for a page in flow, the neighbour. It leads to that page, with the parameters
it was made from, exactly if no value that was put into it holds a slash. -/
def IsExactLink (s : State) (neighbour? : Option PageKey) (params : Dictionary String)
    (path : String) : Prop :=
  ∃ page ∈ standardFlow.inFlowPages s, neighbour? = some page.key ∧
    (standardFlow.resolve path s =
        some (⟨page.key, page.path, some (standardFlow.stop page s)⟩,
          params.restrict page.path.parameterNames) ↔
      ∀ value ∈ page.path.substituted params, '/' ∉ value.toList)

theorem isExactLink_of_elim {neighbour? : Option Page}
    (hp : ∀ p ∈ neighbour?, p ∈ standardFlow.inFlowPages s)
    (h : (neighbour?.elim (.ok none) fun p => some <$> p.path.fill params) =
      (.ok (some path) : Except Violation (Option String))) :
    IsExactLink s (neighbour?.map Page.key) params path := by
  cases neighbour? with
  | none => cases h
  | some neighbour =>
    have hin := hp neighbour rfl
    obtain ⟨filled, hfill, he⟩ := except_map_eq_ok_iff.mp h
    obtain rfl := Option.some.inj he
    exact ⟨neighbour, hin, rfl, Flow.resolve_fill_iff standardPages_apart hin hfill⟩

/-- From any page in flow, with any parameters at hand, the link to the next page and the link to
the previous one lead there exactly if no value that was put into them holds a slash. -/
theorem neighbour_links_exact_iff_no_slash (hp : page ∈ standardFlow.inFlowPages s)
    (extra : Dictionary String) :
    let stop := standardFlow.stop page s
    let params := s.pathParams.merge extra
    (∀ path, stop.nextPath extra = .ok (some path) →
      IsExactLink s stop.navigation.next params path) ∧
    ∀ path, stop.previousPath extra = .ok (some path) →
      IsExactLink s stop.navigation.previous params path := by
  intro stop params
  obtain ⟨before, rest, hsplit⟩ := List.append_of_mem hp
  have hnavigation := Flow.navigation_stop hsplit
  constructor
  · intro path h
    rw [Flow.nextPath_stop hsplit] at h
    rw [hnavigation]
    refine isExactLink_of_elim (fun p hm => ?_) h
    have hrest : p ∈ rest := List.mem_of_mem_head? hm
    simp [hsplit, hrest]
  · intro path h
    rw [Flow.previousPath_stop hsplit] at h
    rw [hnavigation]
    refine isExactLink_of_elim (fun p hm => ?_) h
    have hbefore : p ∈ before := List.mem_of_mem_getLast? hm
    simp [hsplit, hbefore]

theorem neighbour_links_exact_iff_no_slash_of_review_id :
    let s : State := { moveId := some "a/review" }
    let page : Page :=
      { key := .ordersTransition, path := ⟨"/orders/transition"⟩, view := .transition
        onSubmit := .createMoveIfMissing }
    page ∈ standardFlow.inFlowPages s ∧
      (standardFlow.stop page s).nextPath ∅ = .ok (some "/moves/a/review") ∧
      (standardFlow.stop page s).navigation.next = some .moveType ∧
      IsExactLink s (some .moveType) (s.pathParams.merge ∅) "/moves/a/review" := by
  intro s page
  have hp : page ∈ standardFlow.inFlowPages s := by decide +kernel
  have hnext : (standardFlow.stop page s).nextPath ∅ = .ok (some "/moves/a/review") := by
    decide +kernel
  have hkey : (standardFlow.stop page s).navigation.next = some .moveType := by decide +kernel
  refine ⟨hp, hnext, hkey, ?_⟩
  exact hkey ▸ (neighbour_links_exact_iff_no_slash hp ∅).1 _ hnext

end Relocation.Wizard
