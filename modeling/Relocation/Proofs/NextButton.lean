import Relocation.Proofs.HtmlTags
import Relocation.Http.Message
import Relocation.Web.PageDocument

/-! The button that a page is left with. It is found in the document by its tag, and there it can
be told whether the page has a link to go on to, is the last one, or is neither. -/

namespace Relocation.Web

open Http Wizard Html

inductive NextButton where
  | link (href : String)
  | complete
  | plain
deriving DecidableEq, Repr

namespace NextButton

def start : String := "button class=\"next\""

/-- The opening tag with what is written on the button. -/
def tag : NextButton → String
  | .link href => start ++ " type=\"submit\" data-next=\"" ++ escape href ++ "\">Next"
  | .complete => start ++ " type=\"submit\">Complete"
  | .plain => start ++ " type=\"submit\">Next"

theorem tag_injective : Function.Injective tag := by
  intro b b' h
  have hl := congrArg String.toList h
  cases b <;> cases b' <;>
    simp only [tag, String.toList_append, List.append_assoc, List.append_right_inj] at hl
  case link.link href href' =>
    rw [escape_injective (String.toList_inj.mp (List.append_cancel_right hl))]
  all_goals simp_all

theorem start_isPrefix_tag (b : NextButton) : start.toList <+: b.tag.toList := by
  cases b <;> simp [tag, List.append_assoc]

theorem not_lt_mem_tag (b : NextButton) : '<' ∉ b.tag.toList := by
  cases b with
  | link href => simp [tag, start, not_lt_mem_escape]
  | complete => simp [tag, start]
  | plain => simp [tag, start]

def of (href? : Option String) (isLast : Bool) : NextButton :=
  match href?, isLast with
  | some href, _ => .link href
  | none, true => .complete
  | none, false => .plain

theorem render_nextParts (href? : Option String) (isLast : Bool) :
    render (nextParts href? isLast) =
      "\n        " ++ "<" ++ (of href? isLast).tag ++ "<" ++ "/button>\n        " := by
  cases href? with
  | some href =>
    have hopen : "\n        <button class=\"next\" type=\"submit\" data-next=\"" =
        "\n        " ++ "<" ++ (start ++ " type=\"submit\" data-next=\"") := rfl
    have hclose : "\">Next</button>\n        " = "\">Next" ++ "<" ++ "/button>\n        " := rfl
    simp only [nextParts, of, tag, render_cons, render_nil, Part.render, hopen, hclose,
      String.append_assoc, String.append_empty]
  | none => cases isLast <;> rfl

end NextButton

theorem lacks_headParts {title : List Part} (h : Lacks NextButton.start title) :
    Lacks NextButton.start (headParts title) :=
  .append (.append (.literal (by decide +kernel) .nil) h) (.literal (by decide +kernel) .nil)

theorem lacks_previousParts (href? : Option String) :
    Lacks NextButton.start (previousParts href?) := by
  cases href? with
  | some href =>
    exact .literal (by decide +kernel) <| .value href <| .literal (by decide +kernel) .nil
  | none => exact .literal (by decide +kernel) .nil

namespace PageContent

def nextButton (c : PageContent) : NextButton := .of (present? c.nextHref) c.isLast

theorem lacks_headingParts (c : PageContent) : Lacks NextButton.start c.headingParts :=
  .literal (by decide +kernel) <| .value _ <| .literal (by decide +kernel) <| .value _ <|
    .literal (by decide +kernel) <| .value _ <| .literal (by decide +kernel) <| .value _ <|
    .literal (by decide +kernel) <| .value _ <| .literal (by decide +kernel) .nil

theorem lacks_noticeParts (c : PageContent) : Lacks NextButton.start c.noticeParts := by
  unfold noticeParts
  split
  · exact .literal (by decide +kernel) .nil
  · exact .nil

theorem lacks_descriptionParts (c : PageContent) :
    Lacks NextButton.start c.descriptionParts := by
  unfold descriptionParts
  split
  · exact .literal (by decide +kernel) (.value _ (.literal (by decide +kernel) .nil))
  · exact .nil

/-- What comes before the button. -/
def openingParts (c : PageContent) : List Part :=
  headParts [.value (title c.key)] ++ c.headingParts ++ c.noticeParts ++ [.markup "\n    "] ++
    c.descriptionParts ++
    [.markup "\n    <form method=\"post\" action=\"", .value c.path,
      .markup "\">\n      <nav class=\"wizard-buttons\">\n        "] ++
    previousParts (present? c.previousHref) ++ [.markup "\n        "]

theorem lacks_openingParts (c : PageContent) : Lacks NextButton.start c.openingParts := by
  have hhead : Lacks NextButton.start (headParts [.value (title c.key)]) :=
    lacks_headParts (.value _ .nil)
  have hform : Lacks NextButton.start [.markup "\n    <form method=\"post\" action=\"",
      .value c.path, .markup "\">\n      <nav class=\"wizard-buttons\">\n        "] :=
    .literal (by decide +kernel) (.value _ (.literal (by decide +kernel) .nil))
  have hgap : Lacks NextButton.start [.markup "\n    "] := .literal (by decide +kernel) .nil
  have hgap' : Lacks NextButton.start [.markup "\n        "] := .literal (by decide +kernel) .nil
  exact hhead.append c.lacks_headingParts |>.append c.lacks_noticeParts |>.append hgap
    |>.append c.lacks_descriptionParts |>.append hform
    |>.append (lacks_previousParts _) |>.append hgap'

theorem parts_eq (c : PageContent) :
    ∃ closing, c.parts = c.openingParts ++ nextParts (present? c.nextHref) c.isLast ++ closing :=
  ⟨[.markup "\n      </nav>\n    </form>\n"] ++ c.listParts ++
    [.markup "  </main>\n</body>\n</html>\n"], by simp [parts, openingParts, formParts]⟩

theorem render_eq (c : PageContent) :
    ∃ closing, c.render =
      Html.render c.openingParts ++ "\n        " ++ "<" ++ c.nextButton.tag ++ "<" ++ closing := by
  obtain ⟨closing, hparts⟩ := c.parts_eq
  refine ⟨"/button>\n        " ++ Html.render closing, ?_⟩
  rw [render, hparts, render_append, render_append, NextButton.render_nextParts, ← nextButton]
  simp only [String.append_assoc]

theorem tag?_render (c : PageContent) :
    tag? NextButton.start c.render = some c.nextButton.tag := by
  obtain ⟨closing, he⟩ := c.render_eq
  have hopening : LacksTag NextButton.start.toList
      (Html.render c.openingParts ++ "\n        ").toList := by
    rw [String.toList_append]
    exact c.lacks_openingParts.lacksTag_render.append (lacksTag_of_not_mem (by simp))
  rw [he]
  exact tag?_of_lacksTag hopening c.nextButton.start_isPrefix_tag c.nextButton.not_lt_mem_tag

end PageContent

theorem tag?_missingContextDocument : tag? NextButton.start missingContextDocument = none := by
  have hhead : Lacks NextButton.start (headParts [.markup "Missing context"]) :=
    lacks_headParts (.literal (by decide +kernel) .nil)
  refine tag?_eq_none_of_lacksTag (hhead.append ?_).lacksTag_render
  exact .literal (by decide +kernel) (.value _ (.literal (by decide +kernel) .nil))

theorem PageContent.render_ne_missingContextDocument (c : PageContent) :
    c.render ≠ missingContextDocument := by
  intro h
  have ht := c.tag?_render
  rw [h, tag?_missingContextDocument] at ht
  cases ht

/-- The content is a document in which the first button to go on is this one. -/
def ShowsNext (content : Content) (b : NextButton) : Prop :=
  ∃ html, content = .html html ∧ tag? NextButton.start html = some b.tag

theorem PageContent.showsNext_render_iff {c : PageContent} {b : NextButton} :
    ShowsNext (.html c.render) b ↔ b = c.nextButton := by
  constructor
  · rintro ⟨html, he, ht⟩
    cases he
    rw [c.tag?_render] at ht
    exact NextButton.tag_injective (Option.some.inj ht).symm
  · rintro rfl
    exact ⟨_, rfl, c.tag?_render⟩

end Relocation.Web
