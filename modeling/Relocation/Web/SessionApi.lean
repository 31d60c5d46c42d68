import Relocation.Move.Wire
import Relocation.Web.App

/-! The sessions as resources: starting one from a state, reading, replacing and ending it. -/

namespace Relocation.Web

open Http Wizard

/-- The state that a body gives, or the status of a refusal. A body is a text here, so what becomes
of one that is no UTF-8 is left out, as is the limit of two megabytes on its length. -/
def stateBody (r : Request) : Except Nat State :=
  if r.hasJson then
    match Json.decode State.decoder r.body with
    | .ok s => .ok s
    | .error .mismatch => .error 422
    | .error _ => .error 400
  else .error 415

def sessionJson (flow : Flow) (id : SessionId) (s : State) : Json := .object [
  ("session_id", .string id), ("state", s.toJson),
  ("pages", Json.strings ((flow.inFlow s).map PageKey.name))]

namespace App

def startSession (app : App) (o : Occasion) (r : Request) : Turn :=
  match stateBody r with
  | .error status => app.reply status .explanation
  | .ok s =>
    match app.sessions.create o.now o.sessionId s with
    | (.error e, sessions) => { app with sessions }.reject o (.session e)
    | (.ok id, sessions) =>
      { app with sessions }.reply 201 (.json (sessionJson app.flow id s))
        [.sessionStarted o.correlationId id]

def showSession (app : App) (o : Occasion) (id : SessionId) : Turn :=
  match app.visit o id with
  | (none, app) => app.reject o (.session (.notFound id))
  | (some s, app) => app.reply 200 (.json (sessionJson app.flow id s))

/-- The body is looked at before the session. -/
def replaceSession (app : App) (o : Occasion) (r : Request) (id : SessionId) : Turn :=
  match stateBody r with
  | .error status => app.reply status .explanation
  | .ok s =>
    match app.sessions.replace o.now id s with
    | (.error e, sessions) => { app with sessions }.reject o (.session e)
    | (.ok (), sessions) => { app with sessions }.reply 200 (.json (sessionJson app.flow id s))

def endSession (app : App) (o : Occasion) (id : SessionId) : Turn :=
  match app.sessions.remove id with
  | (.error e, sessions) => { app with sessions }.reject o (.session e)
  | (.ok (), sessions) =>
    { app with sessions }.reply 204 .nothing [.sessionEnded o.correlationId id]

end App

end Relocation.Web
