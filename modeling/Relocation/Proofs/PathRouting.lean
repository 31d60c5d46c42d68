import Relocation.Proofs.EquivalentPatterns
import Relocation.Proofs.PageRoutes

/-! Two ways to the page for a path. The routes of the application take the segments of the path one
by one; the patterns of the flow leave out the empty ones. They agree where no parameter is empty,
and none of the fixed routes comes in between. -/

namespace Relocation

open Http Wizard

theorem Text.getLast?_of_cut {sep : Char} {cs : List Char} (hne : cs ≠ [])
    (h : (cut sep cs).getLast? = some []) : cs.getLast? = some sep := by
  induction cs with
  | nil => exact absurd rfl hne
  | cons c cs ih =>
    obtain ⟨piece, pieces, hp⟩ := List.exists_cons_of_ne_nil (cut_ne_nil sep cs)
    by_cases hcs : cs = []
    · subst hcs
      by_cases hc : c = sep
      · rw [hc, List.getLast?_singleton]
      · simp [cut, hc] at h
    · have hrest : (cut sep cs).getLast? = some [] := by
        by_cases hc : c = sep
        · simpa [cut, hc, hp] using h
        · cases pieces <;> simp_all [cut]
      rw [List.getLast?_cons, ih hcs hrest, Option.getD_some]

namespace Http.Routes

variable {segments : List Segment} {parts taken : List String}

theorem binds_of_takes (h : Takes segments parts taken) :
    ∃ bindings, Pattern.Binds segments parts bindings ∧ bindings.map Prod.snd = taken := by
  induction h with
  | done => exact ⟨[], .nil, rfl⟩
  | literal s _ ih =>
    obtain ⟨bindings, hb, rfl⟩ := ih
    exact ⟨bindings, .literal s hb, rfl⟩
  | @parameter segments parts taken name part _ _ ih =>
    obtain ⟨bindings, hb, rfl⟩ := ih
    exact ⟨(name, part) :: bindings, .parameter name part hb, rfl⟩

theorem takes_of_binds {bindings : List (String × String)}
    (h : Pattern.Binds segments parts bindings) (hlast : parts.getLast? ≠ some "") :
    Takes segments parts (bindings.map Prod.snd) := by
  induction h with
  | nil => exact .done
  | @literal segments parts bindings s h ih =>
    refine .literal s (ih fun he => hlast ?_)
    rw [List.getLast?_cons, he, Option.getD_some]
  | @parameter segments parts bindings name part h ih =>
    refine .parameter name (fun hp hnil => hlast ?_) (ih fun he => hlast ?_)
    · rw [hp, hnil, List.getLast?_singleton]
    · rw [List.getLast?_cons, he, Option.getD_some]

/-- An empty part at the end is taken by an empty literal only. -/
theorem getLast?_ne_of_takes (h : Takes segments parts taken) (hs : .literal "" ∉ segments) :
    parts.getLast? ≠ some "" := by
  induction h with
  | done => simp
  | @literal segments parts taken s _ ih =>
    obtain ⟨hne, hs⟩ := not_or.mp (mt List.mem_cons.mpr hs)
    have hlast := ih hs
    cases parts with
    | nil => simpa [eq_comm] using hne
    | cons part parts => rwa [List.getLast?_cons_cons]
  | @parameter segments parts taken name part hp _ ih =>
    have hlast := ih fun hm => hs (List.mem_cons_of_mem _ hm)
    cases parts with
    | nil => simpa using fun he => hp he rfl
    | cons part parts => rwa [List.getLast?_cons_cons]

/-- Before a slash at the end, a parameter takes whatever part there is. -/
theorem takes_append_slash_iff : Takes (segments ++ [.literal ""]) parts taken ↔
    ∃ front bindings, parts = front ++ [""] ∧ Pattern.Binds segments front bindings ∧
      bindings.map Prod.snd = taken := by
  constructor
  · intro h
    induction segments generalizing parts taken with
    | nil =>
      rcases h with _ | ⟨_, h⟩
      obtain ⟨rfl, rfl⟩ := takes_nil_iff.mp h
      exact ⟨[], [], rfl, .nil, rfl⟩
    | cons segment segments ih =>
      cases h with
      | literal s h =>
        obtain ⟨front, bindings, rfl, hb, rfl⟩ := ih h
        exact ⟨s :: front, bindings, rfl, .literal s hb, rfl⟩
      | @parameter _ _ _ name part _ h =>
        obtain ⟨front, bindings, rfl, hb, rfl⟩ := ih h
        exact ⟨part :: front, (name, part) :: bindings, rfl, .parameter name part hb, rfl⟩
  · rintro ⟨front, bindings, rfl, hb, rfl⟩
    induction hb with
    | nil => exact .literal "" .done
    | literal s _ ih => exact .literal s ih
    | parameter name part _ ih => exact .parameter name (by simp) ih

end Http.Routes

namespace Web

open Pattern Routes

/-- All segments of a path, the empty ones included. -/
def rawParts (path : String) : List String := (Text.cut '/' path.toList).map String.ofList

/-- The segments behind the first slash; an empty one at the end does not count. -/
def innerParts (path : String) : List String :=
  let parts := (rawParts path).tail
  if parts.getLast? = some "" then parts.dropLast else parts

/-- No segment is empty, but for one at the end. -/
def IsPlainPath (path : String) : Prop := "" ∉ innerParts path

instance (path : String) : Decidable (IsPlainPath path) := inferInstanceAs (Decidable (_ ∉ _))

/-- The routes of the standard flow lead from this path to the pages. -/
def ReachesPages (path : String) : Prop :=
  ∃ taken, endpoint? standardFlow path = some (.page, taken)

section

variable {path : String}

theorem pathParts_eq_filter (path : String) : pathParts path = (rawParts path).filter (· ≠ "") := by
  rw [pathParts, rawParts, List.filter_map]
  congr 1
  refine List.filter_congr fun cs _ => ?_
  simp [String.ofList_eq_empty_iff]

theorem rawParts_cases (h : path.toList.head? = some '/') :
    (rawParts path = "" :: innerParts path ∧ (innerParts path).getLast? ≠ some "") ∨
      rawParts path = "" :: (innerParts path ++ [""]) := by
  obtain ⟨cs, hcs⟩ := List.head?_eq_some_iff.mp h
  have hraw : rawParts path = "" :: (Text.cut '/' cs).map String.ofList := by
    simp [rawParts, hcs, Text.cut]
  by_cases hlast : ((Text.cut '/' cs).map String.ofList).getLast? = some ""
  · refine .inr ?_
    simp only [innerParts, hraw, List.tail_cons, if_pos hlast]
    rw [List.dropLast_append_getLast? "" hlast]
  · refine .inl ?_
    simp only [innerParts, hraw, List.tail_cons, if_neg hlast]
    exact ⟨trivial, hlast⟩

theorem pathParts_eq_filter_innerParts (h : path.toList.head? = some '/') :
    pathParts path = (innerParts path).filter (· ≠ "") := by
  rw [pathParts_eq_filter]
  rcases rawParts_cases h with ⟨hraw, -⟩ | hraw <;> simp [hraw]

theorem innerParts_append_slash (h : path.toList.head? = some '/')
    (hlast : path.toList.getLast? ≠ some '/') : innerParts (path ++ "/") = innerParts path := by
  have hslash : rawParts (path ++ "/") = rawParts path ++ [""] := by
    simp [rawParts, Text.cut_append_singleton]
  have hne : path.toList ≠ [] := fun he => by simp [he] at h
  rcases rawParts_cases h with ⟨hraw, -⟩ | hraw
  · rw [innerParts, hslash, hraw]
    simp
  · refine absurd (Text.getLast?_of_cut hne ?_) hlast
    have hend : (rawParts path).getLast? = some "" := by
      rw [hraw, ← List.cons_append, List.getLast?_concat]
    simpa [rawParts, List.getLast?_map, String.ofList_eq_empty_iff] using hend

/-- Whether the segments of a page take a path does not depend on a slash at its end. -/
theorem takes_route_iff (h : path.toList.head? = some '/') {segments : List Segment}
    {taken : List String} (hs : .literal "" ∉ segments) :
    (Takes (.literal "" :: segments) (rawParts path) taken ∨
      Takes (.literal "" :: (segments ++ [.literal ""])) (rawParts path) taken) ↔
    ∃ bindings, Binds segments (innerParts path) bindings ∧ bindings.map Prod.snd = taken := by
  rcases rawParts_cases h with ⟨hraw, hlast⟩ | hraw
  · rw [hraw, takes_literal_iff, takes_literal_iff, takes_append_slash_iff]
    constructor
    · rintro (⟨-, ht⟩ | ⟨-, front, -, he, -⟩)
      · exact binds_of_takes ht
      · exact absurd (by rw [he, List.getLast?_concat]) hlast
    · rintro ⟨bindings, hb, rfl⟩
      exact .inl ⟨rfl, takes_of_binds hb hlast⟩
  · rw [hraw, takes_literal_iff, takes_literal_iff, takes_append_slash_iff]
    constructor
    · rintro (⟨-, ht⟩ | ⟨-, front, bindings, he, hb, rfl⟩)
      · exact absurd (List.getLast?_concat ..) (getLast?_ne_of_takes ht hs)
      · obtain rfl := List.append_cancel_right he
        exact ⟨bindings, hb, rfl⟩
    · rintro ⟨bindings, hb, rfl⟩
      exact .inr ⟨rfl, _, bindings, rfl, hb, rfl⟩

end

theorem mem_routes_standardFlow {segments : List Segment} {e : Endpoint} :
    (segments, e) ∈ routes standardFlow ↔
      (∃ route, (route, e) ∈ fixedRoutes ∧ Routes.segments route = segments) ∨
      e = .page ∧ ∃ page ∈ standardPages, segments = .literal "" :: page.path.segments ∨
        segments = .literal "" :: (page.path.segments ++ [.literal ""]) := by
  have hpages : ∀ own : List Segment, (∃ key, (key, own) ∈ standardSegments) ↔
      ∃ page ∈ standardPages, page.path.segments = own := by
    intro own
    rw [← standardPages_segments]
    simp
  rw [routes_standardFlow, List.mem_append]
  refine or_congr (by simp [and_comm]) ?_
  rw [List.mem_flatMap]
  constructor
  · rintro ⟨⟨key, own⟩, hown, he⟩
    obtain ⟨page, hp, rfl⟩ := (hpages own).mp ⟨key, hown⟩
    simp only [List.mem_cons, Prod.mk.injEq, List.not_mem_nil, or_false] at he
    exact ⟨he.elim And.right And.right, page, hp, he.imp And.left And.left⟩
  · rintro ⟨rfl, page, hp, he⟩
    refine ⟨_, segments_mem_of_mem_standardPages hp, ?_⟩
    simpa using he

section

variable {path : String} {page : Page}

theorem literal_ne_empty {p : Pattern} : .literal "" ∉ p.segments :=
  fun h => (isPart_of_literal_mem h).1 rfl

theorem head_pathParts_of_fixed {route : String × Endpoint} {taken : List String}
    (hm : route ∈ fixedRoutes) (ht : Takes (Routes.segments route.1) (rawParts path) taken) :
    ∃ s ∈ ["api", "health"], (pathParts path).head? = some s := by
  obtain ⟨s, hs, segments, he⟩ := head_of_mem_fixedRoutes route hm
  have hne : s ≠ "" := by
    rintro rfl
    simp at hs
  rw [he] at ht
  rw [pathParts_eq_filter]
  generalize rawParts path = parts at ht
  obtain _ | ⟨_, _ | ⟨_, ht⟩⟩ := ht
  exact ⟨s, hs, by simp [hne]⟩

theorem head_of_binds_page {parts : List String} {bindings : List (String × String)}
    (hp : page ∈ standardPages) (hb : Binds page.path.segments parts bindings) :
    ∃ s, s ≠ "api" ∧ s ≠ "health" ∧ (parts.filter (· ≠ "")).head? = some s := by
  obtain ⟨s, segments, hs, hapi, hhealth⟩ := head_of_mem_standardPages hp
  have hne : s ≠ "" := fun he => literal_ne_empty (p := page.path) (by simp [hs, he])
  rw [hs] at hb
  cases hb
  exact ⟨s, hapi, hhealth, by simp [hne]⟩

/-- What leads to a page does not lead to one of the fixed routes. -/
theorem endpoint_eq_page_of_head {s : String} (hs : (pathParts path).head? = some s)
    (hapi : s ≠ "api") (hhealth : s ≠ "health") {segments : List Segment} {e : Endpoint}
    {taken : List String} (hm : (segments, e) ∈ routes standardFlow)
    (ht : Takes segments (rawParts path) taken) : e = .page := by
  rcases mem_routes_standardFlow.mp hm with ⟨route, hfixed, rfl⟩ | ⟨he, -⟩
  · obtain ⟨w, hw, hhead⟩ := head_pathParts_of_fixed hfixed ht
    obtain rfl := Option.some.inj (hs.symm.trans hhead)
    simp [hapi, hhealth] at hw
  · exact he

/-- A path leads to the pages if the segments of one of them stand for the segments of the path. -/
theorem reachesPages_iff (h : path.toList.head? = some '/') : ReachesPages path ↔
    ∃ page ∈ standardPages, ∃ bindings, Binds page.path.segments (innerParts path) bindings := by
  constructor
  · rintro ⟨taken, hroute⟩
    obtain ⟨segments, hm, ht⟩ := takes_of_route? hroute
    rcases mem_routes_standardFlow.mp hm with ⟨route, hfixed, -⟩ | ⟨-, page, hp, he⟩
    · simp [fixedRoutes] at hfixed
    · have htaken := he.imp (· ▸ ht) (· ▸ ht)
      obtain ⟨bindings, hb, -⟩ := (takes_route_iff h literal_ne_empty).mp htaken
      exact ⟨page, hp, bindings, hb⟩
  · rintro ⟨page, hp, bindings, hb⟩
    obtain ⟨s, hapi, hhealth, hs⟩ := head_of_binds_page hp hb
    rw [← pathParts_eq_filter_innerParts h] at hs
    obtain ⟨segments, hm, ht⟩ : ∃ segments, (segments, Endpoint.page) ∈ routes standardFlow ∧
        Takes segments (rawParts path) (bindings.map Prod.snd) := by
      rcases (takes_route_iff h literal_ne_empty).mpr ⟨bindings, hb, rfl⟩ with ht | ht
      · exact ⟨_, mem_routes_standardFlow.mpr (.inr ⟨rfl, page, hp, .inl rfl⟩), ht⟩
      · exact ⟨_, mem_routes_standardFlow.mpr (.inr ⟨rfl, page, hp, .inr rfl⟩), ht⟩
    exact route?_eq_some_of_takes hm ht fun _ _ _ hm' ht' =>
      endpoint_eq_page_of_head hs hapi hhealth hm' ht'

theorem innerParts_joinParts {parts : List String} (hne : parts ≠ [])
    (h : ∀ part ∈ parts, IsPart part) : innerParts (joinParts parts) = parts := by
  have hlast : parts.getLast? ≠ some "" := fun he => (h "" (List.mem_of_getLast? he)).1 rfl
  rw [innerParts, rawParts, cut_joinParts hne h]
  exact if_neg hlast

/-- A path that a page's pattern was filled in to leads to the pages. -/
theorem endpoint?_of_fill {params : Dictionary String} (hp : page ∈ standardPages)
    (hv : ∀ name value, params.get? name = some value → '/' ∉ value.toList)
    (h : page.path.fill params = .ok path) : ReachesPages path := by
  obtain ⟨parts, hf, rfl⟩ := fill_eq_ok_iff.mp h
  have hparts := isPart_of_fills (fun _ hm => isPart_of_literal_mem hm) hv hf
  obtain ⟨part, more, rfl⟩ : ∃ part more, parts = part :: more := by
    obtain ⟨s, segments, hs, -⟩ := head_of_mem_standardPages hp
    rw [hs] at hf
    cases hf
    exact ⟨_, _, rfl⟩
  have hne : part :: more ≠ [] := List.cons_ne_nil part more
  have hslash : (joinParts (part :: more)).toList.head? = some '/' := by
    rw [toList_joinParts hne, List.flatMap_cons, List.cons_append, List.head?_cons]
  obtain ⟨bindings, hb, -⟩ := binds_of_fills hf
  rw [← innerParts_joinParts hne hparts] at hb
  exact (reachesPages_iff hslash).mpr ⟨page, hp, bindings, hb⟩

theorem isSome_resolve_iff {s : State} : (standardFlow.resolve path s).isSome = true ↔
    ∃ page ∈ standardPages, ∃ bindings, Binds page.path.segments (pathParts path) bindings := by
  rw [Flow.resolve, Option.isSome_map, Flow.pageAt?, List.findSome?_isSome_iff]
  simp only [Option.isSome_map, match?, Option.isSome_iff_exists, bindings?_eq_some_iff]
  rfl

theorem eq_page_of_resolve {s : State} (h : (standardFlow.resolve path s).isSome = true)
    {e : Endpoint} {taken : List String} (hroute : endpoint? standardFlow path = some (e, taken)) :
    e = .page := by
  obtain ⟨page, hp, bindings, hb⟩ := isSome_resolve_iff.mp h
  obtain ⟨w, hapi, hhealth, hw⟩ := head_of_binds_page hp hb
  have hkeep : (pathParts path).filter (· ≠ "") = pathParts path := by
    rw [pathParts_eq_filter, List.filter_filter]
    simp
  rw [hkeep] at hw
  obtain ⟨segments, hm, ht⟩ := takes_of_route? hroute
  exact endpoint_eq_page_of_head hw hapi hhealth hm ht

/-! Empty segments -/

/-- A parameter of a page stands for an empty segment of the path. -/
def TakesBlank (path : String) : Prop :=
  ∃ page ∈ standardPages, ∃ bindings,
    Binds page.path.segments (innerParts path) bindings ∧ "" ∈ bindings.map Prod.snd

theorem mem_map_snd_of_binds {segments : List Segment} {parts : List String}
    {bindings : List (String × String)} (hb : Binds segments parts bindings)
    (hs : .literal "" ∉ segments) : "" ∈ bindings.map Prod.snd ↔ "" ∈ parts := by
  induction hb with
  | nil => simp
  | literal s _ ih =>
    obtain ⟨hne, hs⟩ := not_or.mp (mt List.mem_cons.mpr hs)
    have hs' : "" ≠ s := by simpa using hne
    rw [ih hs, List.mem_cons, or_iff_right hs']
  | parameter name part _ ih =>
    have ht := ih fun hm => hs (List.mem_cons_of_mem _ hm)
    rw [List.map_cons, List.mem_cons, List.mem_cons, ht]

theorem reachesPages_iff_resolve_or_blank (h : path.toList.head? = some '/') (s : State) :
    ReachesPages path ↔
      IsPlainPath path ∧ (standardFlow.resolve path s).isSome = true ∨ TakesBlank path := by
  rw [reachesPages_iff h, isSome_resolve_iff]
  by_cases hplain : IsPlainPath path
  · have hparts : pathParts path = innerParts path := by
      rw [pathParts_eq_filter_innerParts h, List.filter_eq_self]
      intro part hm
      simpa using fun he : part = "" => hplain (he ▸ hm)
    rw [hparts, and_iff_right hplain, or_iff_left]
    rintro ⟨page, -, bindings, hb, hm⟩
    exact hplain ((mem_map_snd_of_binds hb literal_ne_empty).mp hm)
  · rw [or_iff_right fun hand => hplain hand.1]
    constructor
    · rintro ⟨page, hp, bindings, hb⟩
      have hm := (mem_map_snd_of_binds hb literal_ne_empty).mpr (not_not.mp hplain)
      exact ⟨page, hp, bindings, hb, hm⟩
    · rintro ⟨page, hp, bindings, hb, -⟩
      exact ⟨page, hp, bindings, hb⟩

theorem not_isPlainPath_of_takesBlank (h : TakesBlank path) : ¬ IsPlainPath path := by
  obtain ⟨page, -, bindings, hb, hm⟩ := h
  exact not_not.mpr ((mem_map_snd_of_binds hb literal_ne_empty).mp hm)

theorem filter_eq_literals_of_binds {segments : List Segment} {parts : List String}
    {bindings : List (String × String)} (hb : Binds segments parts bindings)
    (hs : .literal "" ∉ segments) (hall : ∀ b ∈ bindings, b.2 = "") :
    parts.filter (· ≠ "") = segments.filterMap Segment.literal? := by
  induction hb with
  | nil => rfl
  | literal s _ ih =>
    obtain ⟨hne, hs⟩ := not_or.mp (mt List.mem_cons.mpr hs)
    have hs' : s ≠ "" := by simpa [eq_comm] using hne
    have ht := ih hs hall
    simpa [hs', Segment.literal?] using ht
  | parameter name part _ ih =>
    have hpart : part = "" := hall _ List.mem_cons_self
    have ht := ih (fun hm => hs (List.mem_cons_of_mem _ hm))
      fun b hb => hall b (List.mem_cons_of_mem _ hb)
    rw [List.filter_cons_of_neg (by simp [hpart]), List.filterMap_cons_none (by rfl), ht]

/-- A standard page has one parameter at most, so nothing is left but its literals. -/
theorem pathParts_eq_literals_of_blank {bindings : List (String × String)}
    (h : path.toList.head? = some '/') (hp : page ∈ standardPages)
    (hb : Binds page.path.segments (innerParts path) bindings)
    (hm : "" ∈ bindings.map Prod.snd) :
    page.path.parameterNames ≠ [] ∧
      pathParts path = page.path.segments.filterMap Segment.literal? := by
  have hone : ∀ e ∈ standardSegments, (e.2.filterMap Segment.parameterName?).length ≤ 1 := by
    decide +kernel
  have hlength := hone _ (segments_mem_of_mem_standardPages hp)
  obtain ⟨b, hmem, hblank⟩ := List.mem_map.mp hm
  rw [← hb.names, List.length_map] at hlength
  obtain rfl : bindings = [b] := by
    obtain ⟨c, rfl⟩ := List.length_eq_one_iff.mp
      (Nat.le_antisymm hlength (List.length_pos_of_mem hmem))
    rw [List.mem_singleton.mp hmem]
  refine ⟨by rw [parameterNames, ← hb.names]; simp, ?_⟩
  rw [pathParts_eq_filter_innerParts h]
  exact filter_eq_literals_of_binds hb literal_ne_empty (by simpa using hblank)

/-- Without its empty segment the path is short of the page it was routed for. What is left of it is
a path of the page to choose a move type on, or of none. -/
theorem key_eq_moveType_of_takesBlank (h : path.toList.head? = some '/') (hblank : TakesBlank path)
    {s : State} {r : Route} {params : Dictionary String}
    (hr : standardFlow.resolve path s = some (r, params)) : r.key = .moveType := by
  have hdecided : ∀ e ∈ standardSegments, e.2.filterMap Segment.parameterName? ≠ [] →
      ∀ e' ∈ standardSegments, (bindings? e'.2 (e.2.filterMap Segment.literal?)).isSome = true →
        e'.1 = .moveType := by
    decide +kernel
  obtain ⟨page, hp, bindings, hb, hm⟩ := hblank
  obtain ⟨hnames, hparts⟩ := pathParts_eq_literals_of_blank h hp hb hm
  obtain ⟨⟨found, taken⟩, hat, he⟩ := Option.map_eq_some_iff.mp hr
  obtain ⟨rfl, rfl⟩ := Prod.mk.inj he
  obtain ⟨hfound, hmatch⟩ := Flow.pageAt?_eq_some hat
  have hsome := Option.isSome_of_eq_some hmatch
  rw [match?, Option.isSome_map, hparts] at hsome
  exact hdecided _ (segments_mem_of_mem_standardPages hp) hnames _
    (segments_mem_of_mem_standardPages hfound) hsome

end

end Web

end Relocation
