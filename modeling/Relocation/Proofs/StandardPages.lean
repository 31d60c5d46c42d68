import Relocation.Proofs.PatternFilling
import Relocation.Wizard.StandardFlow

/-! The paths of the standard pages. No path is one of two of them, so each page is the one found
at a path that its own pattern was filled in to. -/

namespace Relocation.Wizard

def Segment.agrees : Segment → Segment → Bool
  | .literal s, .literal t => s = t
  | _, _ => true

namespace Pattern

def overlap : List Segment → List Segment → Bool
  | [], [] => true
  | a :: as, b :: bs => a.agrees b && overlap as bs
  | _, _ => false

/-- Patterns that take the parts of one path have no different literals at any place. -/
theorem overlap_of_binds {segments others : List Segment} {parts : List String}
    {bindings bindings' : List (String × String)} (h : Binds segments parts bindings)
    (h' : Binds others parts bindings') : overlap segments others = true := by
  induction h generalizing others bindings' with
  | nil =>
    cases h'
    rfl
  | literal s _ ih =>
    cases h' with
    | literal _ h' => simp [overlap, Segment.agrees, ih h']
    | parameter name part h' => simp [overlap, Segment.agrees, ih h']
  | parameter name part _ ih =>
    cases h' with
    | literal s h' => simp [overlap, Segment.agrees, ih h']
    | parameter name part h' => simp [overlap, Segment.agrees, ih h']

theorem match?_eq_none_of_apart {p q : Pattern} {params : Dictionary String} {parts : List String}
    (hv : ∀ name value, params.get? name = some value → '/' ∉ value.toList)
    (ha : overlap p.segments q.segments = false)
    (h : List.Forall₂ (Segment.Fills params) q.segments parts) :
    p.match? (joinParts parts) = none := by
  have hparts := isPart_of_fills (fun _ hm => isPart_of_literal_mem hm) hv h
  obtain ⟨bindings, hb, -⟩ := binds_of_fills h
  cases hm : p.match? (joinParts parts) with
  | none => rfl
  | some taken =>
    obtain ⟨bindings', hb', -⟩ := match?_eq_some_iff.mp hm
    rw [pathParts_joinParts hparts] at hb'
    have ht := overlap_of_binds hb' hb
    rw [ha] at ht
    cases ht

theorem segments_joinParts {parts : List String} (h : ∀ part ∈ parts, IsPart part) :
    (Pattern.mk (joinParts parts)).segments = parts.map Segment.ofPart := by
  rw [segments, pathParts_joinParts h]

end Pattern

open Pattern

/-- Where the patterns of a flow are apart, a filled-in path leads to the page it was made for. -/
theorem Flow.pageAt?_of_fill (flow : Flow) {page : Page} {params : Dictionary String}
    {path : String}
    (ha : flow.pages.Pairwise fun p q => overlap p.path.segments q.path.segments = false)
    (hp : page ∈ flow.pages)
    (hv : ∀ name value, params.get? name = some value → '/' ∉ value.toList)
    (h : page.path.fill params = .ok path) :
    ∃ taken, flow.pageAt? path = some (page, taken) ∧
      ∀ name, taken.get? name =
        if name ∈ page.path.parameterNames then params.get? name else none := by
  obtain ⟨parts, hf, rfl⟩ := fill_eq_ok_iff.mp h
  obtain ⟨taken, hm, ht⟩ := match?_joinParts_of_fills hv hf
  obtain ⟨before, after, he⟩ := List.append_of_mem hp
  refine ⟨taken, ?_, ht⟩
  refine List.findSome?_eq_some_iff.mpr ⟨before, page, after, he, by simp [hm], fun q hq => ?_⟩
  rw [he] at ha
  have hqa := (List.pairwise_append.mp ha).2.2 q hq page List.mem_cons_self
  simp [match?_eq_none_of_apart hv hqa hf]

def memberParts (leaf : String) : List String :=
  ["service-member", "\x7bservice_member_id\x7d", leaf]

def moveParts (leaf : String) : List String := ["moves", "\x7bmove_id\x7d", leaf]

theorem memberPath_eq (leaf : String) : memberPath leaf = ⟨joinParts (memberParts leaf)⟩ := by
  refine congrArg Pattern.mk (String.toList_inj.mp ?_)
  rw [toList_joinParts (by simp [memberParts])]
  simp [memberParts]

theorem movePath_eq {whole leaf : String} (h : whole = "/" ++ leaf) :
    movePath whole = ⟨joinParts (moveParts leaf)⟩ := by
  subst h
  refine congrArg Pattern.mk (String.toList_inj.mp ?_)
  rw [toList_joinParts (by simp [moveParts])]
  simp [moveParts]

def standardParts : List (PageKey × List String) := [
  (.serviceMemberCreate, memberParts "create"),
  (.serviceMemberName, memberParts "name"),
  (.contactInfo, memberParts "contact-info"),
  (.dutyStation, memberParts "duty-station"),
  (.residenceAddress, memberParts "residence-address"),
  (.backupMailingAddress, memberParts "backup-mailing-address"),
  (.backupContacts, memberParts "backup-contacts"),
  (.serviceMemberTransition, memberParts "transition"),
  (.orders, ["orders"]),
  (.uploadOrders, ["orders", "upload"]),
  (.ordersTransition, ["orders", "transition"]),
  (.moveType, ["moves", "\x7bmove_id\x7d"]),
  (.hhgSchedule, moveParts "schedule"),
  (.hhgAddress, moveParts "address"),
  (.ppmTransition, moveParts "ppm-transition"),
  (.ppmStart, moveParts "ppm-start"),
  (.ppmSize, moveParts "ppm-size"),
  (.ppmIncentive, moveParts "ppm-incentive"),
  (.review, moveParts "review"),
  (.agreement, moveParts "agreement")]

theorem isPart_of_mem_standardParts : ∀ e ∈ standardParts, ∀ part ∈ e.2, IsPart part := by
  decide +kernel

theorem standardFlow_patterns :
    standardFlow.patterns = standardParts.map fun e => (e.1, ⟨joinParts e.2⟩) := by
  have hs := @movePath_eq "/schedule" "schedule" rfl
  have ha := @movePath_eq "/address" "address" rfl
  have ht := @movePath_eq "/ppm-transition" "ppm-transition" rfl
  have hp := @movePath_eq "/ppm-start" "ppm-start" rfl
  have hz := @movePath_eq "/ppm-size" "ppm-size" rfl
  have hi := @movePath_eq "/ppm-incentive" "ppm-incentive" rfl
  have hr := @movePath_eq "/review" "review" rfl
  have hg := @movePath_eq "/agreement" "agreement" rfl
  have hm : movePath "" = ⟨joinParts ["moves", "\x7bmove_id\x7d"]⟩ := rfl
  have ho : (⟨"/orders"⟩ : Pattern) = ⟨joinParts ["orders"]⟩ := rfl
  have hu : (⟨"/orders/upload"⟩ : Pattern) = ⟨joinParts ["orders", "upload"]⟩ := rfl
  have hx : (⟨"/orders/transition"⟩ : Pattern) = ⟨joinParts ["orders", "transition"]⟩ := rfl
  simp only [Flow.patterns, standardFlow, standardPages, standardParts, List.map_cons,
    List.map_nil, memberPath_eq, hs, ha, ht, hp, hz, hi, hr, hg, hm, ho, hu, hx]

def standardSegments : List (PageKey × List Segment) :=
  standardParts.map fun e => (e.1, e.2.map Segment.ofPart)

theorem standardPages_segments :
    standardPages.map (fun p => (p.key, p.path.segments)) = standardSegments := by
  have hm : standardPages.map (fun p => (p.key, p.path.segments)) =
      standardFlow.patterns.map fun e => (e.1, e.2.segments) := by
    simp [Flow.patterns, standardFlow]
  rw [hm, standardFlow_patterns, List.map_map]
  refine List.map_congr_left fun e he => ?_
  rw [Function.comp_apply, segments_joinParts (isPart_of_mem_standardParts e he)]

variable {page : Page}

theorem segments_mem_of_mem_standardPages (h : page ∈ standardPages) :
    (page.key, page.path.segments) ∈ standardSegments :=
  standardPages_segments ▸ List.mem_map_of_mem h

theorem standardPages_apart :
    standardPages.Pairwise fun p q => overlap p.path.segments q.path.segments = false := by
  have hp : standardSegments.Pairwise fun a b => overlap a.2 b.2 = false := by decide +kernel
  rw [← standardPages_segments] at hp
  exact List.pairwise_map.mp hp

/-- The wizard can fill in every parameter of a standard page on its own. -/
theorem parameter_of_mem_standardPages (h : page ∈ standardPages) {name : String}
    (hn : name ∈ page.path.parameterNames) : name = "service_member_id" ∨ name = "move_id" := by
  have hp : ∀ e ∈ standardSegments, ∀ name ∈ e.2.filterMap Segment.parameterName?,
      name = "service_member_id" ∨ name = "move_id" := by decide +kernel
  exact hp _ (segments_mem_of_mem_standardPages h) name hn

/-- No page before the one that creates the move needs the move. -/
theorem standardPages_move_later :
    standardPages.Pairwise fun p q =>
      q.key = .ordersTransition → "move_id" ∉ p.path.parameterNames := by
  have hp : standardSegments.Pairwise fun a b =>
      b.1 = .ordersTransition → "move_id" ∉ a.2.filterMap Segment.parameterName? := by
    decide +kernel
  rw [← standardPages_segments] at hp
  exact List.pairwise_map.mp hp

theorem segments_ordersTransition (h : page ∈ standardPages) (hk : page.key = .ordersTransition) :
    page.path.segments = [.literal "orders", .literal "transition"] := by
  have hp : ∀ e ∈ standardSegments, e.1 = .ordersTransition →
      e.2 = [.literal "orders", .literal "transition"] := by decide +kernel
  exact hp _ (segments_mem_of_mem_standardPages h) hk

theorem parameterNames_ordersTransition (h : page ∈ standardPages)
    (hk : page.key = .ordersTransition) : page.path.parameterNames = [] := by
  rw [parameterNames, segments_ordersTransition h hk]
  rfl

theorem parameterNames_moveType (h : page ∈ standardPages) (hk : page.key = .moveType) :
    page.path.parameterNames = ["move_id"] := by
  have hp : ∀ e ∈ standardSegments, e.1 = .moveType →
      e.2.filterMap Segment.parameterName? = ["move_id"] := by decide +kernel
  exact hp _ (segments_mem_of_mem_standardPages h) hk

theorem head_of_mem_standardSegments : ∀ e ∈ standardSegments,
    ∃ s ∈ ["service-member", "orders", "moves"], e.2.head? = some (.literal s) := by
  decide +kernel

theorem head_of_mem_standardPages (h : page ∈ standardPages) :
    ∃ s segments, page.path.segments = .literal s :: segments ∧ s ≠ "api" ∧ s ≠ "health" := by
  obtain ⟨s, hs, hh⟩ := head_of_mem_standardSegments _ (segments_mem_of_mem_standardPages h)
  obtain ⟨segments, he⟩ := List.head?_eq_some_iff.mp hh
  refine ⟨s, segments, he, ?_, ?_⟩ <;> rintro rfl <;> simp at hs

theorem onSubmit_of_mem_standardPages (h : page ∈ standardPages) :
    page.onSubmit = .createMoveIfMissing ↔ page.key = .ordersTransition := by
  have hp : ∀ e ∈ standardPages.map fun p => (p.onSubmit, p.key),
      e.1 = .createMoveIfMissing ↔ e.2 = .ordersTransition := by decide +kernel
  exact hp _ (List.mem_map_of_mem h)

end Relocation.Wizard
