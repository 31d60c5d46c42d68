import Relocation.Proofs.InFlowNavigation
import Relocation.Wizard.StandardFlow

/-! Routes are listed, looked up by key and found by path. Each way leads to the same routes, and of
the state only the move type decides which of them are in flow. -/

namespace Relocation.Wizard

namespace Flow

variable {flow : Flow} {pages : List Page} {s s' : State} {page : Page} {key : PageKey}
  {r : Route} {path : String} {params : Dictionary String}

theorem ofPages_eq_ok_iff : ofPages pages = .ok flow ↔ flow.pages = pages := by
  have hno : flow.pages = pages → duplicate? [] pages = none := by
    rintro rfl
    exact (duplicate?_eq_none_iff (by simp) (by simp)).mpr ⟨flow.keys_nodup, flow.paths_nodup⟩
  unfold ofPages
  constructor
  · intro h
    split at h
    · cases h
    · exact congrArg Flow.pages (Except.ok.inj h).symm
  · intro h
    split
    · next hd =>
      rw [hno h] at hd
      cases hd
    · subst h
      rfl

theorem eq_of_key_eq {p q : Page} (hp : p ∈ flow.pages) (hq : q ∈ flow.pages)
    (h : p.key = q.key) : p = q :=
  List.inj_on_of_nodup_map flow.keys_nodup hp hq h

theorem mem_routes_iff : r ∈ flow.routes s ↔ ∃ page ∈ flow.pages, flow.routeOf s page = r :=
  List.mem_map

theorem isInFlow_routeOf (flow : Flow) (s : State) (page : Page) :
    (flow.routeOf s page).isInFlow = page.isInFlow s := by
  cases h : page.isInFlow s <;> simp [routeOf, Route.isInFlow, h]

theorem mem_inFlow_iff (h : page ∈ flow.pages) :
    page.key ∈ flow.inFlow s ↔ page.isInFlow s = true := by
  constructor
  · intro hk
    obtain ⟨other, ho, he⟩ := List.mem_map.mp hk
    obtain ⟨hin, hcond⟩ := mem_inFlowPages.mp ho
    exact eq_of_key_eq hin h he ▸ hcond
  · exact fun hcond => List.mem_map_of_mem (mem_inFlowPages.mpr ⟨h, hcond⟩)

theorem inFlow_sublist (flow : Flow) (s : State) :
    (flow.inFlow s).Sublist (flow.pages.map Page.key) :=
  (flow.inFlowPages_sublist s).map Page.key

theorem page?_eq_some_iff : flow.page? key = some page ↔ page ∈ flow.pages ∧ page.key = key := by
  constructor
  · intro h
    exact ⟨List.mem_of_find?_eq_some h, by simpa using List.find?_some h⟩
  · rintro ⟨hp, rfl⟩
    exact page?_of_mem hp

theorem page?_eq_none_iff : flow.page? key = none ↔ key ∉ flow.pages.map Page.key := by
  simp [page?, List.find?_eq_none]

theorem route?_eq_some_iff :
    flow.route? key s = some r ↔ r ∈ flow.routes s ∧ r.key = key := by
  rw [route?, Option.map_eq_some_iff, mem_routes_iff]
  constructor
  · rintro ⟨page, hp, rfl⟩
    obtain ⟨hm, rfl⟩ := page?_eq_some_iff.mp hp
    exact ⟨⟨page, hm, rfl⟩, rfl⟩
  · rintro ⟨⟨page, hm, rfl⟩, rfl⟩
    exact ⟨page, page?_eq_some_iff.mpr ⟨hm, rfl⟩, rfl⟩

theorem pageAt?_eq_some_iff : flow.pageAt? path = some (page, params) ↔
    ∃ before after, flow.pages = before ++ page :: after ∧
      (∀ p ∈ before, p.path.match? path = none) ∧ page.path.match? path = some params := by
  rw [pageAt?, List.findSome?_eq_some_iff]
  constructor
  · rintro ⟨before, own, after, hsplit, hown, hbefore⟩
    obtain ⟨taken, ht, he⟩ := Option.map_eq_some_iff.mp hown
    obtain ⟨rfl, rfl⟩ := Prod.mk.inj he
    exact ⟨before, after, hsplit, fun p hp => by simpa using hbefore p hp, ht⟩
  · rintro ⟨before, after, hsplit, hbefore, hown⟩
    exact ⟨before, page, after, hsplit, by simp [hown], fun p hp => by simp [hbefore p hp]⟩

theorem getElem?_routes {before after : List Page} (h : flow.pages = before ++ page :: after) :
    (flow.routes s)[before.length]? = some (flow.routeOf s page) := by
  simp [routes, h]

theorem resolve_eq_some_iff : flow.resolve path s = some (r, params) ↔
    ∃ before page after, flow.pages = before ++ page :: after ∧
      (∀ p ∈ before, p.path.match? path = none) ∧ page.path.match? path = some params ∧
      (flow.routes s)[before.length]? = some r := by
  rw [resolve, Option.map_eq_some_iff]
  constructor
  · rintro ⟨⟨page, taken⟩, hat, he⟩
    obtain ⟨rfl, rfl⟩ := Prod.mk.inj he
    obtain ⟨before, after, hsplit, hbefore, hown⟩ := pageAt?_eq_some_iff.mp hat
    exact ⟨before, page, after, hsplit, hbefore, hown, getElem?_routes hsplit⟩
  · rintro ⟨before, page, after, hsplit, hbefore, hown, hr⟩
    have hroute := (getElem?_routes (s := s) hsplit).symm.trans hr
    refine ⟨(page, params), pageAt?_eq_some_iff.mpr ⟨before, after, hsplit, hbefore, hown⟩, ?_⟩
    exact congrArg (·, params) (Option.some.inj hroute)

theorem stop?_eq_some {stop : Stop} (hr : r ∈ flow.routes s) (h : r.stop? = some stop) :
    ∃ page ∈ flow.inFlowPages s, page.key = r.key ∧ stop = flow.stop page s := by
  obtain ⟨page, hp, rfl⟩ := mem_routes_iff.mp hr
  cases hin : page.isInFlow s with
  | false => simp [routeOf, hin] at h
  | true =>
    have hpage := mem_inFlowPages.mpr ⟨hp, hin⟩
    rw [stop?_routeOf hpage] at h
    exact ⟨page, hpage, rfl, (Option.some.inj h).symm⟩

theorem isInFlow_routes_congr (h : s'.moveType = s.moveType) :
    (flow.routes s').map Route.isInFlow = (flow.routes s).map Route.isInFlow := by
  simp only [routes, List.map_map]
  refine List.map_congr_left fun page _ => ?_
  rw [Function.comp_apply, Function.comp_apply, isInFlow_routeOf, isInFlow_routeOf]
  exact Condition.holds_congr h page.condition

end Flow

/-- The routes of a flow with these pages in a state, whichever way one comes to them. -/
structure RoutesAgree (pages : List Page) (flow : Flow) (s : State) : Prop where
  listed : (flow.routes s).map (fun r => (r.key, r.path)) = pages.map fun p => (p.key, p.path)
  byKey : ∀ key r, flow.route? key s = some r ↔ r ∈ flow.routes s ∧ r.key = key
  undeclared : ∀ key, flow.route? key s = none ↔ key ∉ pages.map Page.key
  byPath : ∀ path r params, flow.resolve path s = some (r, params) ↔
    ∃ before page after, pages = before ++ page :: after ∧
      (∀ p ∈ before, p.path.match? path = none) ∧ page.path.match? path = some params ∧
      (flow.routes s)[before.length]? = some r
  inFlow_iff : ∀ r ∈ flow.routes s, r.isInFlow = true ↔ r.key ∈ flow.inFlow s
  inFlow_nodup : (flow.inFlow s).Nodup
  inFlow_sublist : (flow.inFlow s).Sublist (pages.map Page.key)
  carried : ∀ r ∈ flow.routes s, ∀ stop, r.stop? = some stop →
    stop.page.key = r.key ∧ stop.pages = flow.inFlow s ∧ r.key ∈ stop.pages
  sameType : ∀ s' : State, s'.moveType = s.moveType →
    flow.inFlow s' = flow.inFlow s ∧
      (flow.routes s').map Route.isInFlow = (flow.routes s).map Route.isInFlow

/-- Whatever pages a flow was made of, all ways to its routes agree. -/
theorem routes_agree {pages : List Page} {flow : Flow} (h : Flow.ofPages pages = .ok flow)
    (s : State) : RoutesAgree pages flow s := by
  obtain rfl : flow.pages = pages := Flow.ofPages_eq_ok_iff.mp h
  have hinFlow : ∀ r ∈ flow.routes s, r.isInFlow = true ↔ r.key ∈ flow.inFlow s := by
    intro r hr
    obtain ⟨page, hp, rfl⟩ := Flow.mem_routes_iff.mp hr
    rw [Flow.isInFlow_routeOf]
    exact (Flow.mem_inFlow_iff hp).symm
  refine
    { listed := by simp [Flow.routes, Flow.routeOf]
      byKey := fun key r => Flow.route?_eq_some_iff
      undeclared := fun key => by rw [Flow.route?, Option.map_eq_none_iff, Flow.page?_eq_none_iff]
      byPath := fun path r params => Flow.resolve_eq_some_iff
      inFlow_iff := hinFlow
      inFlow_nodup := flow.inFlow_nodup s
      inFlow_sublist := flow.inFlow_sublist s
      carried := fun r hr stop hstop => ?_
      sameType := fun s' htype => ?_ }
  · obtain ⟨page, hp, hkey, rfl⟩ := Flow.stop?_eq_some hr hstop
    have hin : r.key ∈ flow.inFlow s := hkey ▸ List.mem_map_of_mem hp
    exact ⟨hkey, rfl, hin⟩
  · refine ⟨?_, Flow.isInFlow_routes_congr htype⟩
    rw [Flow.inFlow, Flow.inFlow, Flow.inFlowPages_congr htype]

theorem routes_agree_of_standardPages :
    Flow.ofPages standardPages = .ok standardFlow ∧
      RoutesAgree standardPages standardFlow { moveType := some .ppm } := by
  have h : Flow.ofPages standardPages = .ok standardFlow := Flow.ofPages_eq_ok_iff.mpr rfl
  exact ⟨h, routes_agree h _⟩

end Relocation.Wizard
