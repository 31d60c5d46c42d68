import Relocation.Web.App
import Relocation.Web.PageDocument

/-! The pages of the wizard: showing one, and submitting it. -/

namespace Relocation.Web

open Http Wizard

/-- A link to a neighbour, where the wizard knows enough to make one. -/
def link (direction : Direction) : Except Violation (Option String) → Option String × List LogEvent
  | .ok href? => (href?, [])
  | .error v => (none, [.linkUnbound direction v.message])

def pageContent (stop : Stop) (path : String) (previousHref nextHref : Option String) :
    PageContent :=
  let n := stop.navigation
  { key := stop.page.key
    view := stop.page.view
    description := stop.page.description
    step := n.position.elim 0 (· + 1)
    total := n.total
    isLast := n.isLast
    pages := stop.pages
    path, previousHref, nextHref }

def pageDocument (stop : Stop) (path : String) (params : Dictionary String) :
    String × List LogEvent :=
  let (previousHref, onPrevious) := link .previous (stop.previousPath params)
  let (nextHref, onNext) := link .next (stop.nextPath params)
  ((pageContent stop path previousHref nextHref).render, onPrevious ++ onNext)

namespace App

def resolve (app : App) (o : Occasion) (path : String) (s : State) :
    Option (Route × Dictionary String) × List LogEvent :=
  let context : Audit.Context := ⟨s.moveId, o.correlationId, "wizard"⟩
  let (found, events) := app.flow.resolveAudited path s context
  (found, events.map .audited)

def showPage (app : App) (o : Occasion) (r : Request) : Turn :=
  let (found, app) := app.caller o r
  match app.resolve o r.path (callerState found) with
  | (none, log) => app.reject o (.undeclaredPath r.path) log
  | (some (route, params), log) =>
    match route.stop? with
    | none => app.reply 200 (.html missingContextDocument) log
    | some stop =>
      let (document, onLinks) := pageDocument stop r.path params
      app.reply 200 (.html document) (log ++ onLinks)

def actionMembers : SubmitAction → List (String × Json)
  | .advance => [("action", .string "advance")]
  | .createMove id => [("action", .string "create_move"), ("orders_id", .string id)]

def submitJson (key : PageKey) (action : SubmitAction) (nextPath : Option String)
    (created : Option MoveId) : Json :=
  .object ([("page", .string key.name)] ++ actionMembers action ++
    [("next_path", .ofOption nextPath), ("move_id", .ofOption created)])

def goOn (app : App) (o : Occasion) (stop : Stop) (params : Dictionary String)
    (action : SubmitAction) (created : Option MoveId) (log : List LogEvent) : Turn :=
  match stop.nextPath params with
  | .error v => app.reject o (.failure (.violation v)) log
  | .ok nextPath => app.reply 200 (.json (submitJson stop.page.key action nextPath created)) log

/-- Puts a new state into the session of the caller, if there is one. -/
def keep (app : App) (o : Occasion) (id? : Option SessionId) (s : State) :
    Except SessionError App :=
  match id? with
  | none => .ok app
  | some id =>
    match app.sessions.replace o.now id s with
    | (.error e, _) => .error e
    | (.ok (), sessions) => .ok { app with sessions }

/-- Creates a move for orders, tells the session about it, and goes on from the page as it is
then. -/
def submitOrders (app : App) (o : Occasion) (found : Option (SessionId × State))
    (key : PageKey) (params : Dictionary String) (ordersId : OrdersId) (log : List LogEvent) :
    Turn :=
  match app.service.create o.moveId o.locator ordersId with
  | .error e => app.reject o (.failure (.store e)) log
  | .ok (record, service) =>
    let app := { app with service }
    let s := (callerState found).withMove record.id
    match app.keep o (found.map (·.1)) s with
    | .error e => app.reject o (.session e) log
    | .ok app =>
      let log := log ++ [.moveCreated o.correlationId record.id ordersId]
      match (app.flow.route? key s).bind Route.stop? with
      | none => app.reject o (.outOfFlow key) log
      | some stop => app.goOn o stop params (.createMove ordersId) (some record.id) log

def submitPage (app : App) (o : Occasion) (r : Request) : Turn :=
  let (found, app) := app.caller o r
  match app.resolve o r.path (callerState found) with
  | (none, log) => app.reject o (.undeclaredPath r.path) log
  | (some (route, params), log) =>
    match route.stop? with
    | none => app.reject o (.outOfFlow route.key) log
    | some stop =>
      match stop.submitAction with
      | .error v => app.reject o (.failure (.violation v)) log
      | .ok .advance => app.goOn o stop params .advance none log
      | .ok (.createMove ordersId) => app.submitOrders o found route.key params ordersId log

end App

end Relocation.Web
