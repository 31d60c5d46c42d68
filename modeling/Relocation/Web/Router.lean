import Relocation.Http.Routing
import Relocation.Web.Listing
import Relocation.Web.MoveApi
import Relocation.Web.Pages
import Relocation.Web.SessionApi

/-! One request after another: which endpoint a request is for, and the turn that it makes. -/

namespace Relocation.Web

open Http Wizard

inductive Endpoint where
  | sessions
  | session
  | listing
  | summary
  | health
  | page
deriving DecidableEq, Repr

/-- The methods that an endpoint knows; whatever answers `GET` also answers `HEAD`. -/
def Endpoint.methods : Endpoint → List String
  | .sessions => ["POST"]
  | .session => ["GET", "HEAD", "PUT", "DELETE"]
  | .listing => ["GET", "HEAD"]
  | .summary => ["GET", "HEAD"]
  | .health => ["GET", "HEAD"]
  | .page => ["GET", "HEAD", "POST"]

/-- The routes of a page: its path with and without a slash at the end. -/
def pageRoutes (page : Page) : List String :=
  if page.trimmedPath = "" then ["/"] else [page.trimmedPath, page.trimmedPath ++ "/"]

def fixedRoutes : List (String × Endpoint) := [
  ("/api/v1/sessions", .sessions),
  ("/api/v1/sessions/\x7bsession_id\x7d", .session),
  ("/api/v1/wizard/pages", .listing),
  ("/api/v1/moves/\x7bmove_id\x7d/summary", .summary),
  ("/health", .health)]

def routes (flow : Flow) : Routes Endpoint :=
  (fixedRoutes ++ (flow.pages.flatMap pageRoutes).map (·, Endpoint.page)).map
    fun (route, endpoint) => (Routes.segments route, endpoint)

def endpoint? (flow : Flow) (path : String) : Option (Endpoint × List String) :=
  (routes flow).route? ((Text.cut '/' path.toList).map String.ofList)

def emptied : Content → Content
  | .json _ => .json .null
  | .html _ => .html ""
  | content => content

namespace App

/-- A request on a resource that a part of the path names, escapes put in. -/
def withId (app : App) (taken : List String) (act : String → Turn) : Turn :=
  match decodePercent? (taken.headD "") with
  | none => app.reply 400 .explanation
  | some id => act id

def answer (app : App) (o : Occasion) (r : Request) (endpoint : Endpoint)
    (taken : List String) : Turn :=
  match endpoint with
  | .sessions => app.startSession o r
  | .session => app.withId taken fun id =>
    if r.method = "PUT" then app.replaceSession o r id
    else if r.method = "DELETE" then app.endSession o id
    else app.showSession o id
  | .listing => app.listPages o r
  | .summary => app.withId taken (app.summarize o)
  | .health => app.health o
  | .page => if r.method = "POST" then app.submitPage o r else app.showPage o r

def step (app : App) (o : Occasion) (r : Request) : Turn :=
  match endpoint? app.flow r.path with
  | none => app.reply 404 .nothing
  | some (endpoint, taken) =>
    if r.method ∈ endpoint.methods then
      let turn := app.answer o r endpoint taken
      if r.method = "HEAD" then
        { turn with response.content := emptied turn.response.content }
      else turn
    else app.reply 405 .nothing

end App

end Relocation.Web
