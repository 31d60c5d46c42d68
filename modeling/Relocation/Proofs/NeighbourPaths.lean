import Relocation.Proofs.LinkedPages
import Relocation.Proofs.PatternFilling
import Relocation.Wizard.StandardFlow

/-! The path to a neighbour of a page, in whatever list the neighbour is looked up. It is filled in
from the parameters of a caller and, where the caller has none of the name, from the state. -/

namespace Relocation.Wizard

/-- A value of the caller counts before what the wizard knows, even an empty one. -/
def State.valueAtHand? (s : State) (extra : Dictionary String) (name : String) : Option String :=
  match extra.get? name with
  | some value => some value
  | none =>
    if name = "service_member_id" then s.serviceMemberId
    else if name = "move_id" then s.moveId else none

theorem State.get?_merge_pathParams (s : State) (extra : Dictionary String) :
    (s.pathParams.merge extra).get? = s.valueAtHand? extra := by
  funext name
  rw [Dictionary.get?_merge, get?_pathParams, valueAtHand?]
  cases extra.get? name <;> rfl

/-- What stands for a segment in a path. -/
def Segment.text (value? : String → Option String) : Segment → String
  | .literal s => s
  | .parameter name => (value? name).getD ""

namespace Pattern

variable {p : Pattern} {params : Dictionary String} {path : String}

theorem fills_iff {segment : Segment} {part : String} : Segment.Fills params segment part ↔
    (∀ name ∈ segment.parameterName?, ¬ IsUnbound params name) ∧
      part = segment.text params.get? := by
  cases segment with
  | literal s =>
    constructor
    · rintro ⟨⟩
      exact ⟨nofun, rfl⟩
    · rintro ⟨-, rfl⟩
      exact .literal _
  | parameter name =>
    constructor
    · intro h
      cases h with
      | parameter hv hne => simp [Segment.parameterName?, IsUnbound, Segment.text, hv, hne]
    · rintro ⟨hbound, rfl⟩
      have hname : ¬ IsUnbound params name := hbound name rfl
      cases hv : params.get? name with
      | none => exact absurd (.inl hv) hname
      | some value =>
        have hne : value ≠ "" := fun he => hname (.inr (he ▸ hv))
        simpa [Segment.text, hv] using Segment.Fills.parameter hv hne

theorem forall₂_fills_iff {segments : List Segment} {parts : List String} :
    List.Forall₂ (Segment.Fills params) segments parts ↔
      (∀ name ∈ segments.filterMap Segment.parameterName?, ¬ IsUnbound params name) ∧
        parts = segments.map (Segment.text params.get?) := by
  induction segments generalizing parts with
  | nil => simp
  | cons segment segments ih =>
    have hnames : (∀ name ∈ (segment :: segments).filterMap Segment.parameterName?,
        ¬ IsUnbound params name) ↔ (∀ name ∈ segment.parameterName?, ¬ IsUnbound params name) ∧
          ∀ name ∈ segments.filterMap Segment.parameterName?, ¬ IsUnbound params name := by
      cases segment <;> simp [Segment.parameterName?]
    rw [List.forall₂_cons_left_iff, hnames, List.map_cons]
    simp only [ih, fills_iff]
    constructor
    · rintro ⟨part, rest, ⟨hhead, rfl⟩, ⟨htail, rfl⟩, rfl⟩
      exact ⟨⟨hhead, htail⟩, rfl⟩
    · rintro ⟨⟨hhead, htail⟩, rfl⟩
      exact ⟨_, _, ⟨hhead, rfl⟩, ⟨htail, rfl⟩, rfl⟩

theorem fill_eq_ok_iff_text : p.fill params = .ok path ↔
    (∀ name ∈ p.parameterNames, ¬ IsUnbound params name) ∧
      path = joinParts (p.segments.map (Segment.text params.get?)) := by
  rw [fill_eq_ok_iff]
  simp only [forall₂_fills_iff]
  constructor
  · rintro ⟨_, ⟨hbound, rfl⟩, rfl⟩
    exact ⟨hbound, rfl⟩
  · rintro ⟨hbound, rfl⟩
    exact ⟨_, ⟨hbound, rfl⟩, rfl⟩

end Pattern

/-- What comes of the path to a neighbour, in every case. -/
structure IsLinkOutcome (flow : Flow) (s : State) (extra : Dictionary String)
    (neighbour? : Option PageKey) (result : Except Violation (Option String)) : Prop where
  none_iff : result = .ok none ↔ neighbour? = none
  undeclared_iff : ∀ message, result = .error (.invariant message) ↔
    ∃ key, neighbour? = some key ∧ key ∉ flow.pages.map Page.key ∧
      message = s!"in-flow page `{key.name}` has no declared path"
  unbound_iff : ∀ raw name, result = .error (.unboundParameter raw name) ↔
    ∃ page ∈ flow.pages, neighbour? = some page.key ∧ raw = page.path.raw ∧
      page.path.parameterNames.find? (fun n =>
        s.valueAtHand? extra n = none ∨ s.valueAtHand? extra n = some "") = some name
  filled_iff : ∀ path, result = .ok (some path) ↔
    ∃ page ∈ flow.pages, neighbour? = some page.key ∧
      (∀ name ∈ page.path.parameterNames,
        s.valueAtHand? extra name ≠ none ∧ s.valueAtHand? extra name ≠ some "") ∧
      path = Pattern.joinParts (page.path.segments.map (Segment.text (s.valueAtHand? extra)))
  hidden : ∀ page ∈ flow.pages, neighbour? = some page.key →
    ∀ name ∈ page.path.parameterNames, extra.get? name = some "" →
      ∃ first, result = .error (.unboundParameter page.path.raw first)

namespace Flow

variable {flow : Flow} {s : State} {page neighbour : Page} {keys : List PageKey}
  {extra : Dictionary String} {key : PageKey}

theorem isLinkOutcome_none : IsLinkOutcome flow s extra none (.ok none) :=
  { none_iff := by simp
    undeclared_iff := by simp
    unbound_iff := by simp
    filled_iff := by simp
    hidden := fun page _ he => by cases he }

theorem isLinkOutcome_of_undeclared (h : key ∉ flow.pages.map Page.key) :
    IsLinkOutcome flow s extra (some key)
      (.error (.invariant s!"in-flow page `{key.name}` has no declared path")) := by
  have hno : ∀ page ∈ flow.pages, some key ≠ some page.key := by
    intro page hp he
    exact h (Option.some.inj he ▸ List.mem_map_of_mem hp)
  refine
    { none_iff := by simp
      undeclared_iff := fun message => ?_
      unbound_iff := fun raw name => ?_
      filled_iff := fun path => ?_
      hidden := fun page hp he => absurd he (hno page hp) }
  · constructor
    · intro he
      cases he
      exact ⟨key, rfl, h, rfl⟩
    · rintro ⟨_, he, -, rfl⟩
      rw [Option.some.inj he]
  · exact iff_of_false nofun fun ⟨page, hp, he, _⟩ => hno page hp he
  · exact iff_of_false nofun fun ⟨page, hp, he, _⟩ => hno page hp he

theorem exists_page_iff (h : neighbour ∈ flow.pages) {P : Page → Prop} :
    (∃ page ∈ flow.pages, some neighbour.key = some page.key ∧ P page) ↔ P neighbour := by
  constructor
  · rintro ⟨page, hp, he, hP⟩
    exact eq_of_key_eq h hp (Option.some.inj he) ▸ hP
  · exact fun hP => ⟨neighbour, h, rfl, hP⟩

theorem isLinkOutcome_of_declared (h : neighbour ∈ flow.pages) :
    IsLinkOutcome flow s extra (some neighbour.key)
      (some <$> neighbour.path.fill (s.pathParams.merge extra)) := by
  have hunbound : ∀ name, IsUnbound (s.pathParams.merge extra) name ↔
      s.valueAtHand? extra name = none ∨ s.valueAtHand? extra name = some "" := by
    intro name
    rw [IsUnbound, State.get?_merge_pathParams]
  have hbound : ∀ name, ¬ IsUnbound (s.pathParams.merge extra) name ↔
      s.valueAtHand? extra name ≠ none ∧ s.valueAtHand? extra name ≠ some "" :=
    fun name => (not_congr (hunbound name)).trans not_or
  refine
    { none_iff := iff_of_false (fun he => ?_) (Option.some_ne_none _)
      undeclared_iff := fun message => iff_of_false (fun he => ?_) ?_
      unbound_iff := fun raw name => ?_
      filled_iff := fun path => ?_
      hidden := fun page hp he name hname hempty => ?_ }
  · obtain ⟨path, -, hnone⟩ := except_map_eq_ok_iff.mp he
    cases hnone
  · obtain ⟨name, -, hv⟩ := Pattern.fill_eq_error_iff.mp (except_map_eq_error_iff.mp he)
    cases hv
  · rintro ⟨key, he, hno, -⟩
    exact hno (Option.some.inj he ▸ List.mem_map_of_mem h)
  · rw [except_map_eq_error_iff, Pattern.fill_eq_error_iff, exists_page_iff h]
    simp only [hunbound]
    constructor
    · rintro ⟨first, hfirst, hv⟩
      cases hv
      exact ⟨rfl, hfirst⟩
    · rintro ⟨rfl, hfirst⟩
      exact ⟨name, hfirst, rfl⟩
  · rw [exists_page_iff h, except_map_eq_ok_iff]
    simp only [Pattern.fill_eq_ok_iff_text, hbound, State.get?_merge_pathParams]
    constructor
    · rintro ⟨filled, hfill, he⟩
      exact Option.some.inj he ▸ hfill
    · exact fun hfill => ⟨path, hfill, rfl⟩
  · obtain rfl := eq_of_key_eq h hp (Option.some.inj he)
    have hhidden : IsUnbound (s.pathParams.merge extra) name := .inr (by simp [hempty])
    obtain ⟨v, hv⟩ := Pattern.exists_fill_eq_error_iff.mpr ⟨name, hname, hhidden⟩
    obtain ⟨first, -, rfl⟩ := Pattern.fill_eq_error_iff.mp hv
    exact ⟨first, except_map_eq_error_iff.mpr hv⟩

theorem find?_patterns_eq_none (h : key ∉ flow.pages.map Page.key) :
    flow.patterns.find? (fun e => e.1 = key) = none := by
  refine List.find?_eq_none.mpr fun e he => ?_
  obtain ⟨page, hp, rfl⟩ := List.mem_map.mp he
  simpa using fun hk : page.key = key => h (hk ▸ List.mem_map_of_mem hp)

/-- The list that a stop has does not matter to the path of a neighbour, only to which one it is. -/
theorem isLinkOutcome_neighbourPath (flow : Flow) (s : State) (page : Page) (keys : List PageKey)
    (neighbour? : Option PageKey) (extra : Dictionary String) :
    IsLinkOutcome flow s extra neighbour?
      ({ flow.stop page s with pages := keys }.neighbourPath neighbour? extra) := by
  have hsame : { flow.stop page s with pages := keys }.neighbourPath neighbour? extra =
      (flow.stop page s).neighbourPath neighbour? extra := rfl
  rw [hsame]
  cases neighbour? with
  | none => exact isLinkOutcome_none
  | some key =>
    by_cases hkey : key ∈ flow.pages.map Page.key
    · obtain ⟨neighbour, hp, rfl⟩ := List.mem_map.mp hkey
      rw [neighbourPath_stop hp]
      exact isLinkOutcome_of_declared hp
    · have hnone : (flow.stop page s).patterns.find? (fun e => e.1 = key) = none :=
        find?_patterns_eq_none hkey
      have herror : (flow.stop page s).neighbourPath (some key) extra =
          .error (.invariant s!"in-flow page `{key.name}` has no declared path") := by
        simp only [Stop.neighbourPath, hnone]
      rw [herror]
      exact isLinkOutcome_of_undeclared hkey

end Flow

theorem Navigation.mem_of_next {key k : PageKey} {keys : List PageKey}
    (h : (locate key keys).next = some k) : k ∈ keys := by
  obtain ⟨i, -, hi⟩ := next_locate_iff.mp h
  exact List.mem_of_getElem? hi

theorem Navigation.mem_of_previous {key k : PageKey} {keys : List PageKey}
    (h : (locate key keys).previous = some k) : k ∈ keys := by
  obtain ⟨i, -, hi⟩ := previous_locate_iff.mp h
  exact List.mem_of_getElem? hi

theorem IsLinkOutcome.ne_invariant {flow : Flow} {s : State} {extra : Dictionary String}
    {neighbour? : Option PageKey} {result : Except Violation (Option String)}
    (h : IsLinkOutcome flow s extra neighbour? result)
    (hin : ∀ key ∈ neighbour?, key ∈ flow.inFlow s) (message : String) :
    result ≠ .error (.invariant message) := by
  intro he
  obtain ⟨key, hkey, hno, -⟩ := (h.undeclared_iff message).mp he
  exact hno ((flow.inFlow_sublist s).mem (hin key hkey))

/-- The path to the next page and the one to the previous page come out as the neighbour in the list
and the values at hand for its parameters decide. In the list that a page has of its own every
neighbour has a path. -/
theorem neighbour_path_outcomes {flow : Flow} {s : State} {key : PageKey} {own : Stop}
    (h : flow.stop? key s = some own) (keys : List PageKey) (extra : Dictionary String) :
    let stop := { own with pages := keys }
    let found := Navigation.locate key keys
    IsLinkOutcome flow s extra found.next (stop.nextPath extra) ∧
      IsLinkOutcome flow s extra found.previous (stop.previousPath extra) ∧
      (keys = own.pages → ∀ message,
        stop.nextPath extra ≠ .error (.invariant message) ∧
          stop.previousPath extra ≠ .error (.invariant message)) := by
  intro stop found
  obtain ⟨page, -, rfl, rfl⟩ := Flow.stop?_eq_some_iff.mp h
  have hnext := flow.isLinkOutcome_neighbourPath s page keys found.next extra
  have hprevious := flow.isLinkOutcome_neighbourPath s page keys found.previous extra
  refine ⟨hnext, hprevious, ?_⟩
  rintro rfl message
  exact ⟨hnext.ne_invariant (fun _ => Navigation.mem_of_next) message,
    hprevious.ne_invariant (fun _ => Navigation.mem_of_previous) message⟩

/-- The caller has no move, so the one that the wizard knows is not put in. -/
theorem neighbour_path_outcomes_of_empty_value :
    let s : State := { moveId := some "m-1" }
    let page : Page :=
      { key := .ordersTransition, path := ⟨"/orders/transition"⟩, view := .transition
        onSubmit := .createMoveIfMissing }
    let own := standardFlow.stop page s
    let extra : Dictionary String := .ofList [("move_id", "")]
    standardFlow.stop? .ordersTransition s = some own ∧
      own.nextPath ∅ = .ok (some "/moves/m-1") ∧
      own.nextPath extra = .error (.unboundParameter "/moves/\x7bmove_id\x7d" "move_id") ∧
      ∀ message, own.nextPath extra ≠ .error (.invariant message) := by
  intro s page own extra
  have hown : standardFlow.stop? .ordersTransition s = some own := by decide +kernel
  refine ⟨hown, by decide +kernel, by decide +kernel, fun message => ?_⟩
  exact ((neighbour_path_outcomes hown own.pages extra).2.2 rfl message).1

end Relocation.Wizard
