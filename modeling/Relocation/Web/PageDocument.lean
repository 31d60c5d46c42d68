import Relocation.Failure
import Relocation.Html
import Relocation.Wizard.Navigation

/-! The HTML documents of the wizard: a page in flow, and what is shown in place of any other. -/

namespace Relocation.Web

open Wizard Html

structure PageContent where
  key : PageKey
  view : View
  description : Option String
  step : Nat
  total : Nat
  isLast : Bool
  previousHref : Option String
  nextHref : Option String
  pages : List PageKey
  path : String
deriving DecidableEq

def title (key : PageKey) : String :=
  match key.name.toList with
  | [] => ""
  | c :: cs => String.ofList (c.toUpper :: cs.map fun c => if c = '-' then ' ' else c)

def present? (s? : Option String) : Option String := s?.filter (· ≠ "")

def headParts (title : List Part) : List Part :=
  [.markup "<!DOCTYPE html>\n<html lang=\"en\">\n<head>\n  <meta charset=\"utf-8\">\n  <title>"] ++
    title ++ [.markup " | MyMove</title>\n</head>\n<body>\n"]

def previousParts : Option String → List Part
  | some href => [.markup "\n        <a class=\"prev\" href=\"", .value href,
      .markup "\">Back</a>\n        "]
  | none => [
      .markup "\n        <button class=\"prev\" type=\"button\" disabled>Back</button>\n        "]

/-- The button that submits the page; only the last page is completed. -/
def nextParts (href? : Option String) (isLast : Bool) : List Part :=
  match href?, isLast with
  | some href, _ => [
      .markup "\n        <button class=\"next\" type=\"submit\" data-next=\"", .value href,
      .markup "\">Next</button>\n        "]
  | none, true => [
      .markup "\n        <button class=\"next\" type=\"submit\">Complete</button>\n        "]
  | none, false => [
      .markup "\n        <button class=\"next\" type=\"submit\">Next</button>\n        "]

def listItem (current key : PageKey) : List Part :=
  let mark := if key = current then " class=\"current\"" else ""
  [.markup ("\n      <li" ++ mark ++ ">"), .value key.name, .markup "</li>\n      "]

namespace PageContent

def headingParts (c : PageContent) : List Part :=
  [.markup "  <main class=\"wizard\" data-page=\"", .value c.key.name, .markup "\" data-view=\"",
    .value (Named.name c.view), .markup "\">\n    <p class=\"wizard-progress\">Step ",
    .value (toString c.step), .markup " of ", .value (toString c.total), .markup "</p>\n    <h1>",
    .value (title c.key), .markup "</h1>\n    "]

def noticeParts (c : PageContent) : List Part :=
  if c.view = .placeholder then
    [.markup "\n    <p class=\"placeholder\">This page is coming soon.</p>\n    "]
  else []

def descriptionParts (c : PageContent) : List Part :=
  match present? c.description with
  | some text => [.markup "\n    <p class=\"description\">", .value text, .markup "</p>\n    "]
  | none => []

def formParts (c : PageContent) : List Part :=
  [.markup "\n    <form method=\"post\" action=\"", .value c.path,
    .markup "\">\n      <nav class=\"wizard-buttons\">\n        "] ++
  previousParts (present? c.previousHref) ++ [.markup "\n        "] ++
  nextParts (present? c.nextHref) c.isLast ++ [.markup "\n      </nav>\n    </form>\n"]

def listParts (c : PageContent) : List Part :=
  [.markup "    <ol class=\"wizard-pages\">\n      "] ++ c.pages.flatMap (listItem c.key) ++
    [.markup "\n    </ol>\n"]

def parts (c : PageContent) : List Part :=
  headParts [.value (title c.key)] ++ c.headingParts ++ c.noticeParts ++ [.markup "\n    "] ++
    c.descriptionParts ++ c.formParts ++ c.listParts ++ [.markup "  </main>\n</body>\n</html>\n"]

def render (c : PageContent) : String := Html.render c.parts

end PageContent

/-- The same for every page that is not in flow. -/
def missingContextDocument : String :=
  Html.render (headParts [.markup "Missing context"] ++
    [.markup "  <main class=\"wizard missing-context\">\n    <h1>Missing context</h1>\n    <p>",
      .value missingContextMessage,
      .markup "</p>\n    <a href=\"/\">Go to the home page</a>\n  </main>\n</body>\n</html>\n"])

end Relocation.Web
