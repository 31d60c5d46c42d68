import Relocation.Move.Wire
import Relocation.Summary.Plan
import Relocation.Web.App

/-! The summary of a stored move, and the health of the application. -/

namespace Relocation.Web

open Http

def legJson (leg : Summary.Leg) : Json := .object [
  ("status", .string leg.status), ("view", .string (Named.name leg.view)),
  ("headline", .string leg.view.headline), ("call_to_action", .ofOption leg.view.callToAction?)]

def planJson (p : Summary.Plan) : Json := .object [
  ("move_id", .string p.moveId), ("locator", .ofOption p.locator),
  ("move_status", .string (Named.name p.moveStatus)),
  ("move_type", p.moveType.elim .null Json.ofNamed),
  ("queue_status", .string p.queueStatus), ("edit_move_enabled", .bool p.editEnabled),
  ("hhg", p.hhg.elim .null legJson), ("ppm", p.ppm.elim .null legJson)]

def checkJson (status detail : String) : Json := .object [
  ("status", .string status), ("detail", .string detail)]

def healthJson (problem? : Option StoreError) (time : String) : Json :=
  let service := match problem? with
    | none => checkJson "ready" "data service reachable"
    | some e => checkJson "degraded" s!"data service check failed: {e.message}"
  .object [
    ("status", .string (if problem?.isNone then "ready" else "degraded")),
    ("service", checkJson "ready" "mymove-server runtime initialized"),
    ("data_service", service), ("checked_at", .string time)]

namespace App

/-- Only a move that is there leaves an audit event. -/
def summarize (app : App) (o : Occasion) (id : MoveId) : Turn :=
  match app.service.fetch id with
  | .error e => app.reject o (.failure (.store e))
  | .ok record =>
    let context : Audit.Context := ⟨some id, o.correlationId, "summary"⟩
    let (plan, events) := Summary.planAudited record o.today context
    let log := events.map .audited
    match plan with
    | .error v => app.reject o (.failure (.violation v)) log
    | .ok plan => app.reply 200 (.json (planJson plan)) log

def health (app : App) (o : Occasion) : Turn :=
  let problem? := app.service.problem?
  app.reply (if problem?.isNone then 200 else 503) (.json (healthJson problem? o.time))

end App

end Relocation.Web
