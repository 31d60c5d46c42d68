import Relocation.Proofs.DictionaryLookup
import Relocation.Proofs.Outcomes
import Relocation.Wizard.Flow

/-! Going from page to page in a flow: the next page is the one behind in the list of pages in
flow, and its path is filled in from the state and the parameters at hand. -/

namespace Relocation.Wizard

theorem find?_key_of_nodup {α β : Type} [DecidableEq β] {key : α → β} {l : List α} {a : α}
    (hn : (l.map key).Nodup) (ha : a ∈ l) : l.find? (fun b => key b = key a) = some a := by
  obtain ⟨before, after, rfl⟩ := List.append_of_mem ha
  rw [List.map_append, List.nodup_append] at hn
  have hb : before.find? (fun b => key b = key a) = none := by
    refine List.find?_eq_none.mpr fun b hb => ?_
    simpa using hn.2.2 _ (List.mem_map_of_mem hb) (key a) (by simp)
  rw [List.find?_append, hb, Option.none_or, List.find?_cons_of_pos (by simp)]

theorem findIdx?_eq_none_of_notMem {α : Type} [DecidableEq α] {a : α} {l : List α} (h : a ∉ l) :
    l.findIdx? (· = a) = none := by
  rw [List.findIdx?_eq_none_iff]
  intro b hb
  simpa using fun he : b = a => h (he ▸ hb)

theorem Navigation.locate_split {key : PageKey} {before : List PageKey} (after : List PageKey)
    (h : key ∉ before) :
    locate key (before ++ key :: after) =
      { current := key, position := some before.length
        total := before.length + after.length + 1
        previous := before.getLast?, next := after.head? } := by
  have hp : (before ++ key :: after).findIdx? (· = key) = some before.length := by
    simp [List.findIdx?_append, findIdx?_eq_none_of_notMem h, List.findIdx?_cons]
  have hprev : (if before = [] then none
      else (before ++ key :: after)[before.length - 1]?) = before.getLast? := by
    rcases List.eq_nil_or_concat before with rfl | ⟨front, last, rfl⟩
    · rfl
    · simp
  have hnext : (before ++ key :: after)[before.length + 1]? = after.head? := by
    rw [List.getElem?_append_right (by omega)]
    simp [List.head?_eq_getElem?]
  simp [locate, hp, hprev, hnext, Nat.add_assoc]

theorem Condition.holds_congr {s s' : State} (h : s.moveType = s'.moveType) (c : Condition) :
    c.holds s = c.holds s' := by
  cases c <;> simp [holds, h]

namespace Flow

variable {flow : Flow} {s s' : State} {page : Page}

theorem page?_of_mem (h : page ∈ flow.pages) : flow.page? page.key = some page :=
  find?_key_of_nodup flow.keys_nodup h

theorem find?_patterns_of_mem (h : page ∈ flow.pages) :
    flow.patterns.find? (fun e => e.1 = page.key) = some (page.key, page.path) := by
  have hn : (flow.patterns.map (·.1)).Nodup := by
    simpa [patterns, Function.comp_def] using flow.keys_nodup
  have hm : (page.key, page.path) ∈ flow.patterns := List.mem_map_of_mem h
  exact find?_key_of_nodup hn hm

theorem inFlowPages_sublist (flow : Flow) (s : State) :
    (flow.inFlowPages s).Sublist flow.pages :=
  List.filter_sublist

theorem inFlow_nodup (flow : Flow) (s : State) : (flow.inFlow s).Nodup :=
  flow.keys_nodup.sublist ((flow.inFlowPages_sublist s).map Page.key)

theorem mem_inFlowPages : page ∈ flow.inFlowPages s ↔ page ∈ flow.pages ∧ page.isInFlow s = true :=
  List.mem_filter

/-- Of the state only the move type decides which pages are in flow. -/
theorem inFlowPages_congr (h : s.moveType = s'.moveType) :
    flow.inFlowPages s = flow.inFlowPages s' := by
  have hf : (Page.isInFlow · s) = (Page.isInFlow · s') :=
    funext fun page => Condition.holds_congr h page.condition
  rw [inFlowPages, inFlowPages, hf]

@[simp] theorem inFlowPages_withMove (flow : Flow) (s : State) (id : MoveId) :
    flow.inFlowPages (s.withMove id) = flow.inFlowPages s :=
  inFlowPages_congr rfl

theorem pageAt?_eq_some {path : String} {params : Dictionary String}
    (h : flow.pageAt? path = some (page, params)) :
    page ∈ flow.pages ∧ page.path.match? path = some params := by
  obtain ⟨own, ho, hm⟩ := List.exists_of_findSome?_eq_some h
  obtain ⟨taken, ht, he⟩ := Option.map_eq_some_iff.mp hm
  obtain ⟨rfl, rfl⟩ := Prod.mk.inj he
  exact ⟨ho, ht⟩

theorem route?_of_mem (h : page ∈ flow.pages) :
    flow.route? page.key s = some (flow.routeOf s page) := by
  rw [route?, page?_of_mem h, Option.map_some]

theorem stop?_routeOf (h : page ∈ flow.inFlowPages s) :
    (flow.routeOf s page).stop? = some (flow.stop page s) := by
  rw [routeOf, if_pos (mem_inFlowPages.mp h).2]

variable {before rest : List Page}

theorem notMem_of_inFlow_split {key : PageKey} {front back : List PageKey}
    (h : flow.inFlow s = front ++ key :: back) : key ∉ front := by
  have hd := flow.inFlow_nodup s
  rw [h, List.nodup_append] at hd
  exact fun hm => hd.2.2 _ hm _ List.mem_cons_self rfl

theorem locate_inFlow {key : PageKey} {front back : List PageKey}
    (h : flow.inFlow s = front ++ key :: back) :
    Navigation.locate key (flow.inFlow s) =
      { current := key, position := some front.length
        total := front.length + back.length + 1
        previous := front.getLast?, next := back.head? } := by
  rw [h, Navigation.locate_split back (notMem_of_inFlow_split h)]

theorem navigation_stop (h : flow.inFlowPages s = before ++ page :: rest) :
    (flow.stop page s).navigation =
      { current := page.key, position := some before.length
        total := before.length + rest.length + 1
        previous := before.getLast?.map Page.key, next := rest.head?.map Page.key } := by
  have hk : flow.inFlow s = before.map Page.key ++ page.key :: rest.map Page.key := by
    rw [inFlow, h, List.map_append, List.map_cons]
  simpa [Stop.navigation, stop] using locate_inFlow hk

theorem neighbourPath_stop {neighbour : Page} (h : neighbour ∈ flow.pages)
    (extra : Dictionary String) :
    (flow.stop page s).neighbourPath (some neighbour.key) extra =
      some <$> neighbour.path.fill (s.pathParams.merge extra) := by
  have hf : (flow.stop page s).patterns.find? (fun e => e.1 = neighbour.key) =
      some (neighbour.key, neighbour.path) := find?_patterns_of_mem h
  simp only [Stop.neighbourPath, hf]
  rfl

theorem nextPath_stop (h : flow.inFlowPages s = before ++ page :: rest)
    (extra : Dictionary String) :
    (flow.stop page s).nextPath extra =
      rest.head?.elim (.ok none) fun next =>
        some <$> next.path.fill (s.pathParams.merge extra) := by
  rw [Stop.nextPath, navigation_stop h]
  cases rest with
  | nil => rfl
  | cons next rest =>
    have hm : next ∈ flow.inFlowPages s := by simp [h]
    exact neighbourPath_stop (mem_inFlowPages.mp hm).1 extra

/-- Only the last page has no next one. -/
theorem nextPath_cases (hp : page ∈ flow.inFlowPages s) (extra : Dictionary String) :
    ((flow.inFlowPages s).getLast? = some page ∧ (flow.stop page s).navigation.isLast = true ∧
      (flow.stop page s).nextPath extra = .ok none) ∨
    ((flow.inFlowPages s).getLast? ≠ some page ∧ (flow.stop page s).navigation.isLast = false ∧
      ∃ next : Page, (flow.stop page s).nextPath extra =
        some <$> next.path.fill (s.pathParams.merge extra)) := by
  obtain ⟨before, rest, h⟩ := List.append_of_mem hp
  rw [nextPath_stop h, navigation_stop h]
  cases rest with
  | nil => exact .inl ⟨by simp [h], rfl, rfl⟩
  | cons next rest =>
    have hn := flow.inFlow_nodup s
    rw [inFlow, h, List.map_append, List.map_cons, List.nodup_append, List.nodup_cons] at hn
    refine .inr ⟨fun he => ?_, rfl, next, rfl⟩
    have hm : page ∈ next :: rest :=
      List.mem_of_mem_getLast? (by simpa [h, List.getLast?_append] using he)
    exact hn.2.1.1 (List.mem_map_of_mem hm)

theorem getLast?_eq_some_iff_nextPath (hp : page ∈ flow.inFlowPages s)
    (extra : Dictionary String) :
    (flow.inFlowPages s).getLast? = some page ↔ (flow.stop page s).nextPath extra = .ok none := by
  rcases nextPath_cases hp extra with ⟨hlast, -, hn⟩ | ⟨hlast, -, next, hn⟩
  · exact iff_of_true hlast hn
  · refine iff_of_false hlast fun he => ?_
    obtain ⟨path, -, hnone⟩ := except_map_eq_ok_iff.mp (hn.symm.trans he)
    cases hnone

theorem previousPath_stop (h : flow.inFlowPages s = before ++ page :: rest)
    (extra : Dictionary String) :
    (flow.stop page s).previousPath extra =
      before.getLast?.elim (.ok none) fun previous =>
        some <$> previous.path.fill (s.pathParams.merge extra) := by
  rw [Stop.previousPath, navigation_stop h]
  rcases List.eq_nil_or_concat before with rfl | ⟨front, previous, rfl⟩
  · rfl
  · have hm : previous ∈ flow.inFlowPages s := by simp [h]
    simpa using neighbourPath_stop (mem_inFlowPages.mp hm).1 extra

end Flow

theorem State.get?_pathParams (s : State) (name : String) :
    s.pathParams.get? name =
      if name = "service_member_id" then s.serviceMemberId
      else if name = "move_id" then s.moveId else none := by
  rw [pathParams, Dictionary.get?_ofList]
  cases s.serviceMemberId <;> cases s.moveId <;>
    by_cases hm : name = "service_member_id" <;> by_cases hv : name = "move_id" <;>
    simp [hm, hv, eq_comm]

end Relocation.Wizard
