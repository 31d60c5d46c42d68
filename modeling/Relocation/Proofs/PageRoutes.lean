import Relocation.Proofs.RouteSearch
import Relocation.Proofs.StandardPages
import Relocation.Web.Router

/-! The routes of the web application on the standard flow: the segments of the fixed routes, and
those of each page with and without a slash at the end. -/

namespace Relocation.Web

open Http Wizard Pattern

theorem dropWhile_slash_reverse {parts : List String} (h : ∀ part ∈ parts, IsPart part) :
    (parts.flatMap fun part => '/' :: part.toList).reverse.dropWhile (· = '/') =
      (parts.flatMap fun part => '/' :: part.toList).reverse := by
  rcases List.eq_nil_or_concat parts with rfl | ⟨before, last, rfl⟩
  · rfl
  · obtain ⟨hne, hs⟩ := h last (by simp)
    obtain ⟨c, cs, hc⟩ : ∃ c cs, last.toList.reverse = c :: cs :=
      List.exists_cons_of_ne_nil (by simpa using hne)
    have hcs : c ≠ '/' := by
      rintro rfl
      exact hs (List.mem_reverse.mp (hc ▸ List.mem_cons_self))
    simp [hc, hcs]

theorem trimmedPath_of_eq_joinParts {page : Page} {parts : List String} (hne : parts ≠ [])
    (h : ∀ part ∈ parts, IsPart part) (hp : page.path = ⟨joinParts parts⟩) :
    page.trimmedPath = joinParts parts := by
  rw [Page.trimmedPath, hp, toList_joinParts hne, dropWhile_slash_reverse h, List.reverse_reverse,
    ← toList_joinParts hne, String.ofList_toList]

theorem pageRoutes_of_eq_joinParts {page : Page} {parts : List String} (hne : parts ≠ [])
    (h : ∀ part ∈ parts, IsPart part) (hp : page.path = ⟨joinParts parts⟩) :
    pageRoutes page = [joinParts parts, joinParts parts ++ "/"] := by
  have ht := trimmedPath_of_eq_joinParts hne h hp
  have hnil : joinParts parts ≠ "" := by
    intro he
    have hl := congrArg String.toList he
    rw [toList_joinParts hne] at hl
    cases parts <;> simp at hl hne
  simp [pageRoutes, ht, hnil]

theorem segments_route_joinParts {parts : List String} (hne : parts ≠ [])
    (h : ∀ part ∈ parts, IsPart part) :
    Routes.segments (joinParts parts) = .literal "" :: parts.map Segment.ofPart := by
  have hc := cut_joinParts hne h
  have hm : Routes.segments (joinParts parts) =
      ((Text.cut '/' (joinParts parts).toList).map String.ofList).map Segment.ofPart := by
    rw [Routes.segments, List.map_map]
    rfl
  rw [hm, hc, List.map_cons]
  rfl

theorem segments_route_append_slash (route : String) :
    Routes.segments (route ++ "/") = Routes.segments route ++ [.literal ""] := by
  have hs : (route ++ "/").toList = route.toList ++ ['/'] := by simp
  rw [Routes.segments, hs, Text.cut_append_singleton, List.map_append]
  rfl

theorem head_of_mem_fixedRoutes : ∀ route ∈ fixedRoutes, ∃ s ∈ ["api", "health"],
    ∃ segments, Routes.segments route.1 = .literal "" :: .literal s :: segments := by
  simp [fixedRoutes, Routes.segments, Text.cut, Segment.ofPart]

theorem routes_standardFlow :
    routes standardFlow = (fixedRoutes.map fun e => (Routes.segments e.1, e.2)) ++
      standardSegments.flatMap fun e =>
        [(.literal "" :: e.2, .page), (.literal "" :: e.2 ++ [.literal ""], .page)] := by
  have hne : ∀ e ∈ standardParts, e.2 ≠ [] := by decide
  have hp : standardFlow.pages.flatMap pageRoutes =
      standardParts.flatMap fun e => [joinParts e.2, joinParts e.2 ++ "/"] := by
    have hroutes : standardFlow.pages.flatMap pageRoutes =
        standardFlow.patterns.flatMap fun e => pageRoutes { key := e.1, path := e.2 } := by
      rw [Flow.patterns, List.flatMap_map]
      rfl
    rw [hroutes, standardFlow_patterns, List.flatMap_map]
    exact List.flatMap_congr fun e he =>
      pageRoutes_of_eq_joinParts (hne e he) (isPart_of_mem_standardParts e he) rfl
  rw [routes, hp, standardSegments, List.map_append, List.map_map, List.map_flatMap,
    List.flatMap_map]
  refine congrArg _ (List.flatMap_congr fun e he => ?_)
  have hs := segments_route_joinParts (hne e he) (isPart_of_mem_standardParts e he)
  simp [segments_route_append_slash, hs]

theorem endpoint?_sessions : endpoint? standardFlow "/api/v1/sessions" = some (.sessions, []) := by
  rw [endpoint?, routes_standardFlow]
  decide +kernel

theorem endpoint?_ordersTransition :
    endpoint? standardFlow "/orders/transition" = some (.page, []) := by
  rw [endpoint?, routes_standardFlow]
  decide +kernel

end Relocation.Web
