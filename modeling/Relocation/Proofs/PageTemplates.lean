import Relocation.Proofs.PageAnswers

/-! What requests and states bring into the documents of the wizard. The text of a page is fixed by
what page it is, the pages in flow and which links it has. Only the values of attributes are put in,
and they stay values. -/

namespace Relocation.Web

open Wizard Html

/-- An attribute of a page that has its value from outside. -/
inductive Slot where
  | action
  | previous
  | next
deriving DecidableEq, Repr

def Slot.name : Slot → String
  | .action => "action"
  | .previous => "href"
  | .next => "data-next"

inductive Stretch where
  | fixed (text : String)
  | slot (slot : Slot)
deriving DecidableEq, Repr

namespace Stretch

def fill (value : Slot → String) : Stretch → String
  | fixed text => text
  | slot s => " " ++ s.name ++ "=\"" ++ escape (value s) ++ "\""

def slot? : Stretch → Option Slot
  | fixed _ => none
  | slot s => some s

end Stretch

/-- A document whose attributes are still open. -/
abbrev Template := List Stretch

namespace Template

def fill (value : Slot → String) (t : Template) : String := String.join (t.map (Stretch.fill value))

def slots (t : Template) : List Slot := t.filterMap Stretch.slot?

@[simp] theorem fill_nil (value : Slot → String) : fill value [] = "" := rfl

@[simp] theorem fill_cons (value : Slot → String) (stretch : Stretch) (t : Template) :
    fill value (stretch :: t) = stretch.fill value ++ fill value t := by
  simp [fill]

@[simp] theorem fill_append (value : Slot → String) (t t' : Template) :
    fill value (t ++ t') = fill value t ++ fill value t' := by
  simp [fill]

@[simp] theorem slots_append (t t' : Template) : slots (t ++ t') = slots t ++ slots t' :=
  List.filterMap_append ..

end Template

/-- All that the fixed text of a page depends on. -/
structure Face where
  key : PageKey
  view : View
  description : Option String
  step : Nat
  pages : List PageKey
  hasPrevious : Bool
  hasNext : Bool
deriving DecidableEq

namespace Face

/-- A page with this face that leads nowhere. -/
def content (f : Face) : PageContent where
  key := f.key
  view := f.view
  description := f.description
  step := f.step
  total := f.pages.length
  isLast := f.step = f.pages.length
  previousHref := none
  nextHref := none
  pages := f.pages
  path := ""

def previousTemplate (f : Face) : Template :=
  if f.hasPrevious then
    [.fixed "\n        <a class=\"prev\"", .slot .previous, .fixed ">Back</a>\n        "]
  else [.fixed (Html.render (previousParts none))]

def nextTemplate (f : Face) : Template :=
  if f.hasNext then
    [.fixed "\n        <button class=\"next\" type=\"submit\"", .slot .next,
      .fixed ">Next</button>\n        "]
  else [.fixed (Html.render (nextParts none f.content.isLast))]

def formTemplate (f : Face) : Template :=
  [.fixed "\n    <form method=\"post\"", .slot .action,
    .fixed ">\n      <nav class=\"wizard-buttons\">\n        "] ++ f.previousTemplate ++
    [.fixed "\n        "] ++ f.nextTemplate ++ [.fixed "\n      </nav>\n    </form>\n"]

def template (f : Face) : Template :=
  [.fixed (Html.render (headParts [.value (title f.key)] ++ f.content.headingParts ++
      f.content.noticeParts ++ [.markup "\n    "] ++ f.content.descriptionParts))] ++
    f.formTemplate ++
    [.fixed (Html.render (f.content.listParts ++ [.markup "  </main>\n</body>\n</html>\n"]))]

theorem slots_template (f : Face) : f.template.slots =
    .action :: ((if f.hasPrevious then [.previous] else []) ++
      if f.hasNext then [.next] else []) := by
  unfold template formTemplate previousTemplate nextTemplate
  cases f.hasPrevious <;> cases f.hasNext <;> rfl

end Face

namespace PageContent

def face (c : PageContent) : Face where
  key := c.key
  view := c.view
  description := c.description
  step := c.step
  pages := c.pages
  hasPrevious := (present? c.previousHref).isSome
  hasNext := (present? c.nextHref).isSome

def value (c : PageContent) : Slot → String
  | .action => c.path
  | .previous => c.previousHref.getD ""
  | .next => c.nextHref.getD ""

theorem render_previousParts (c : PageContent) :
    Html.render (previousParts (present? c.previousHref)) =
      c.face.previousTemplate.fill c.value := by
  cases h : present? c.previousHref with
  | none => simp [Face.previousTemplate, face, h, Stretch.fill]
  | some href =>
    have hvalue : c.value .previous = href := by
      simp [value, (Option.filter_eq_some_iff.mp h).1]
    have hopen : "\n        <a class=\"prev\" href=\"" =
        "\n        <a class=\"prev\"" ++ (" " ++ "href" ++ "=\"") := rfl
    have hclose : "\">Back</a>\n        " = "\"" ++ ">Back</a>\n        " := rfl
    simp only [previousParts, Face.previousTemplate, face, h, Option.isSome_some, if_true,
      render_cons, render_nil, Part.render, Template.fill_cons, Template.fill_nil, Stretch.fill,
      Slot.name, hvalue, hopen, hclose, String.append_assoc, String.append_empty]

theorem render_nextParts (c : PageContent) (hlast : c.isLast = c.face.content.isLast) :
    Html.render (nextParts (present? c.nextHref) c.isLast) =
      c.face.nextTemplate.fill c.value := by
  cases h : present? c.nextHref with
  | none => simp [Face.nextTemplate, face, h, Stretch.fill, hlast]
  | some href =>
    have hvalue : c.value .next = href := by
      simp [value, (Option.filter_eq_some_iff.mp h).1]
    have hopen : "\n        <button class=\"next\" type=\"submit\" data-next=\"" =
        "\n        <button class=\"next\" type=\"submit\"" ++ (" " ++ "data-next" ++ "=\"") := rfl
    have hclose : "\">Next</button>\n        " = "\"" ++ ">Next</button>\n        " := rfl
    simp only [nextParts, Face.nextTemplate, face, h, Option.isSome_some, if_true,
      render_cons, render_nil, Part.render, Template.fill_cons, Template.fill_nil, Stretch.fill,
      Slot.name, hvalue, hopen, hclose, String.append_assoc, String.append_empty]

theorem render_formParts (c : PageContent) (hlast : c.isLast = c.face.content.isLast) :
    Html.render c.formParts = c.face.formTemplate.fill c.value := by
  have hopen : "\n    <form method=\"post\" action=\"" =
      "\n    <form method=\"post\"" ++ (" " ++ "action" ++ "=\"") := rfl
  have hclose : "\">\n      <nav class=\"wizard-buttons\">\n        " =
      "\"" ++ ">\n      <nav class=\"wizard-buttons\">\n        " := rfl
  have hvalue : c.value .action = c.path := rfl
  simp only [formParts, Face.formTemplate, render_append, Template.fill_append,
    ← render_previousParts, ← render_nextParts c hlast, render_cons, render_nil, Part.render,
    Template.fill_cons, Template.fill_nil, Stretch.fill, Slot.name, hvalue, hopen, hclose,
    String.append_assoc, String.append_empty]

theorem render_eq_fill (c : PageContent) (htotal : c.total = c.pages.length)
    (hlast : c.isLast = c.face.content.isLast) : c.render = c.face.template.fill c.value := by
  have hheading : c.headingParts = c.face.content.headingParts := by
    simp only [headingParts, Face.content, face, htotal]
  simp only [render, parts, Face.template, render_append, Template.fill_append,
    ← render_formParts c hlast, Template.fill_cons, Template.fill_nil, Stretch.fill, hheading,
    String.append_assoc, String.append_empty]
  rfl

end PageContent

/-- What is put into a slot of the page at a stop, where there is something to put in. -/
def inserted? (stop : Stop) (path : String) (params : Dictionary String) : Slot → Option String
  | .action => some path
  | .previous => (stop.previousPath params).toOption.join
  | .next => (stop.nextPath params).toOption.join

def faceOf (flow : Flow) (s : State) (page : Page) (value? : Slot → Option String) : Face where
  key := page.key
  view := page.view
  description := page.description
  step := (flow.inFlow s).idxOf page.key + 1
  pages := flow.inFlow s
  hasPrevious := (value? .previous).isSome
  hasNext := (value? .next).isSome

theorem fst_link (direction : Direction) (href? : Except Violation (Option String)) :
    (link direction href?).1 = href?.toOption.join := by
  cases href? <;> rfl

theorem present?_join_neighbourPath (stop : Stop) (neighbour? : Option PageKey)
    (extra : Dictionary String) :
    present? (stop.neighbourPath neighbour? extra).toOption.join =
      (stop.neighbourPath neighbour? extra).toOption.join := by
  unfold Stop.neighbourPath
  split
  · rfl
  · split
    · rfl
    · next pattern _ =>
      cases hf : pattern.fill (stop.state.pathParams.merge extra) with
      | error v => rfl
      | ok href => simp [present?, Except.toOption, Pattern.ne_empty_of_fill hf]

section

variable {flow : Flow} {s s' : State} {page : Page}

theorem idxOf_inFlow {before rest : List Page}
    (h : flow.inFlowPages s = before ++ page :: rest) :
    (flow.inFlow s).idxOf page.key = before.length := by
  have hkeys : flow.inFlow s = before.map Page.key ++ page.key :: rest.map Page.key := by
    rw [Flow.inFlow, h, List.map_append, List.map_cons]
  rw [hkeys, List.idxOf_append_of_notMem (Flow.notMem_of_inFlow_split hkeys),
    List.idxOf_cons_self, List.length_map, Nat.add_zero]

theorem length_inFlow {before rest : List Page}
    (h : flow.inFlowPages s = before ++ page :: rest) :
    (flow.inFlow s).length = before.length + rest.length + 1 := by
  rw [Flow.inFlow, h, List.length_map, List.length_append, List.length_cons, Nat.add_assoc]

/-- The document of a page in flow is the template of its face with what its stop puts in. -/
theorem pageDocument_eq_fill (hp : page ∈ flow.inFlowPages s) (path : String)
    (params : Dictionary String) :
    let value? := inserted? (flow.stop page s) path params
    (pageDocument (flow.stop page s) path params).1 =
      (faceOf flow s page value?).template.fill fun slot => (value? slot).getD "" := by
  intro value?
  obtain ⟨before, rest, h⟩ := List.append_of_mem hp
  have hnavigation := Flow.navigation_stop h
  let c := pageContent (flow.stop page s) path (value? .previous) (value? .next)
  have hdocument : (pageDocument (flow.stop page s) path params).1 = c.render := by
    simp only [pageDocument, fst_link]
    rfl
  have hface : c.face = faceOf flow s page value? := by
    have hprevious : present? (value? .previous) = value? .previous :=
      present?_join_neighbourPath ..
    have hnext : present? (value? .next) = value? .next := present?_join_neighbourPath ..
    simp only [c, PageContent.face, pageContent, faceOf, hnavigation, hprevious, hnext,
      idxOf_inFlow h]
    rfl
  have htotal : c.total = c.pages.length := by
    have hpages : c.pages = flow.inFlow s := rfl
    rw [hpages, length_inFlow h]
    simp only [c, pageContent, hnavigation]
  -- That no page follows is the same as that the step is the total, as the page has one place.
  have hlast : c.isLast = c.face.content.isLast := by
    have hplace : (faceOf flow s page value?).content.isLast =
        decide (before.length + 1 = before.length + rest.length + 1) := by
      simp only [Face.content, faceOf, idxOf_inFlow h, length_inFlow h]
    rw [hface, hplace]
    simp only [c, pageContent, hnavigation, Navigation.isLast]
    cases rest <;> simp
  have hvalue : c.value = fun slot => (value? slot).getD "" := by
    funext slot
    cases slot <;> rfl
  rw [hdocument, c.render_eq_fill htotal hlast, hface, hvalue]

variable {value? value?' : Slot → Option String}

/-- Of a state only the move type shows in the face, but for whether there are links. -/
theorem faceOf_congr (h : s'.moveType = s.moveType)
    (hlinks : ∀ slot, (value?' slot).isSome = (value? slot).isSome) :
    faceOf flow s' page value?' = faceOf flow s page value? := by
  rw [faceOf, faceOf, Flow.inFlow, Flow.inFlow, Flow.inFlowPages_congr h, hlinks, hlinks]

theorem slots_faceOf (h : (value? .action).isSome) :
    (faceOf flow s page value?).template.slots =
      [Slot.action, .previous, .next].filter fun slot => (value? slot).isSome := by
  rw [Face.slots_template]
  cases hprevious : value? .previous <;> cases hnext : value? .next <;>
    simp [faceOf, hprevious, hnext, h]

end

/-- The document of a page in flow is fixed by its key, view, description, place, the pages in flow
and which links it has. The links and the path are put in as values of attributes, escaped. Without
the page in flow nothing is put in. -/
theorem page_document_varies_in_slots {flow : Flow} {s : State} {page : Page}
    (hp : page ∈ flow.inFlowPages s) (path : String) (params : Dictionary String) :
    let value? := inserted? (flow.stop page s) path params
    let face := faceOf flow s page value?
    routeDocument (flow.routeOf s page) path params =
        face.template.fill (fun slot => (value? slot).getD "") ∧
      face.template.slots =
        [Slot.action, .previous, .next].filter (fun slot => (value? slot).isSome) ∧
      (∀ slot value, value? slot = some value →
        IsEscaped (escape value).toList ∧ unescape (escape value).toList = value.toList) ∧
      (∀ (s' : State) (path' : String) (params' : Dictionary String), s'.moveType = s.moveType →
        (∀ slot, (inserted? (flow.stop page s') path' params' slot).isSome =
          (value? slot).isSome) →
        routeDocument (flow.routeOf s' page) path' params' =
          face.template.fill fun slot =>
            (inserted? (flow.stop page s') path' params' slot).getD "") ∧
      ∀ (flow' : Flow) (s' : State) (page' : Page) (path' : String) (params' : Dictionary String),
        page'.isInFlow s' = false →
          routeDocument (flow'.routeOf s' page') path' params' = missingContextDocument := by
  intro value? face
  have hdocument : ∀ {s' : State}, page ∈ flow.inFlowPages s' → ∀ path' params',
      routeDocument (flow.routeOf s' page) path' params' =
        (pageDocument (flow.stop page s') path' params').1 := fun hp' _ _ => by
    rw [routeDocument, Flow.stop?_routeOf hp']
    rfl
  refine ⟨?_, slots_faceOf rfl, fun _ value _ => ⟨isEscaped_escape value, unescape_escape value⟩,
    fun s' path' params' htype hlinks => ?_, fun flow' s' page' path' params' hout => ?_⟩
  · rw [hdocument hp, pageDocument_eq_fill hp]
  · have hp' : page ∈ flow.inFlowPages s' := Flow.inFlowPages_congr htype ▸ hp
    rw [hdocument hp', pageDocument_eq_fill hp', faceOf_congr htype hlinks]
  · simp [routeDocument, Flow.routeOf, hout]

/-- An id of a move that would close the attribute that it stands in. -/
theorem page_document_varies_in_slots_with_hostile_id :
    let page : Page :=
      { key := .ordersTransition, path := ⟨"/orders/transition"⟩, view := .transition,
        onSubmit := .createMoveIfMissing }
    let s : State := { moveId := some "\"><script>" }
    let value? := inserted? (standardFlow.stop page s) "/orders/transition" ∅
    page ∈ standardFlow.inFlowPages s ∧ value? .next = some "/moves/\"><script>" ∧
      IsEscaped (escape "/moves/\"><script>").toList ∧
      routeDocument (standardFlow.routeOf s page) "/orders/transition" ∅ =
        (faceOf standardFlow s page value?).template.fill fun slot => (value? slot).getD "" := by
  intro page s value?
  have hp : page ∈ standardFlow.inFlowPages s := by decide +kernel
  have hnext : value? .next = some "/moves/\"><script>" := by decide +kernel
  obtain ⟨hfill, -, hescaped, -, -⟩ :=
    page_document_varies_in_slots hp "/orders/transition" ∅
  exact ⟨hp, hnext, (hescaped .next _ hnext).1, hfill⟩

end Relocation.Web
