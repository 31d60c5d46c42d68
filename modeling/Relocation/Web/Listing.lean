import Relocation.Http.Percent
import Relocation.Web.App

/-! The listing of the wizard's pages in flow, with the place of a page among them. -/

namespace Relocation.Web

open Http Wizard

/-- The page that a query asks about, if any; `none` where the query cannot be understood. -/
def currentPage? (query : String) : Option (Option PageKey) :=
  match (formFields query).filter (·.1 = some "current") with
  | [] => some none
  | [(_, value?)] => (value?.bind Named.ofName?).map some
  | _ => none

def listingJson (s : State) (page : Page) : Json := .object [
  ("key", .string page.key.name), ("pattern", .string page.path.raw),
  ("href", .ofOption (page.href? s)), ("view", .string (Named.name page.view)),
  ("description", .ofOption page.description)]

def navigationJson (n : Navigation) : Json := .object [
  ("current", .string n.current.name), ("position", n.position.elim .null (.number ·)),
  ("total", .number n.total), ("previous", .ofOption (n.previous.map PageKey.name)),
  ("next", .ofOption (n.next.map PageKey.name))]

def pagesJson (flow : Flow) (s : State) (current? : Option PageKey) : Json := .object [
  ("pages", .array ((flow.inFlowPages s).map (listingJson s))),
  ("navigation", current?.elim .null fun key => navigationJson (.locate key (flow.inFlow s)))]

def App.listPages (app : App) (o : Occasion) (r : Request) : Turn :=
  match currentPage? r.target.query with
  | none => app.reply 400 .explanation
  | some current? =>
    let (found, app) := app.caller o r
    app.reply 200 (.json (pagesJson app.flow (App.callerState found) current?))

end Relocation.Web
