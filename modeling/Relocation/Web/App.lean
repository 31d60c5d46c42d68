import Relocation.Failure
import Relocation.Http.Message
import Relocation.Move.Store
import Relocation.Web.Log
import Relocation.Wizard.Flow
import Relocation.Wizard.Sessions

/-! The web application as a value, what a request finds it on, and how requests are rejected. -/

namespace Relocation.Web

open Http Wizard

inductive MoveService where
  | store (moves : MoveStore)
  | offline (reason : String)
deriving DecidableEq

namespace MoveService

def fetch (service : MoveService) (id : MoveId) : Except StoreError MoveRecord :=
  match service with
  | .store moves => moves.fetch id
  | .offline reason => .error (.unavailable reason)

def create (service : MoveService) (id : MoveId) (locator : String) (ordersId : OrdersId) :
    Except StoreError (MoveRecord × MoveService) :=
  match service with
  | .store moves =>
    let (record, moves) := moves.create id locator ordersId
    .ok (record, .store moves)
  | .offline reason => .error (.unavailable reason)

def problem? : MoveService → Option StoreError
  | .store _ => none
  | .offline reason => some (.unavailable reason)

def moves : MoveService → MoveStore
  | .store moves => moves
  | .offline _ => .ofRecords []

end MoveService

structure App where
  flow : Flow
  sessionHeader : String
  sessions : Sessions
  service : MoveService

/-- What a request comes upon: the time, and ids that were not used before. -/
structure Occasion where
  now : Nat
  today : Date
  time : String
  correlationId : String
  sessionId : SessionId
  moveId : MoveId
  locator : String

structure Turn where
  app : App
  response : Response
  log : List LogEvent := []

inductive Refusal where
  | failure (f : Failure)
  | session (e : SessionError)
  | undeclaredPath (path : String)
  | outOfFlow (key : PageKey)
deriving DecidableEq

namespace Refusal

def message : Refusal → String
  | .failure f => f.message
  | .session e => e.message
  | .undeclaredPath path => s!"no wizard page is declared at `{path}`"
  | .outOfFlow key => s!"page `{key.name}` is not in flow for this wizard session"

def rejection (r : Refusal) : Rejection :=
  match r with
  | .failure f => f.rejection
  | .session (.notFound _) => { kind := .notFound, message := r.message }
  | .session (.limitReached _) => { kind := .unavailable, message := r.message }
  | .undeclaredPath _ => { kind := .notFound, message := r.message }
  | .outOfFlow _ => { kind := .conflict, message := r.message }

end Refusal

def rejectionStatus : RejectionKind → Nat
  | .badRequest => 400
  | .notFound => 404
  | .conflict => 409
  | .unavailable => 503
  | .internal => 500

/-- Only an internal error is logged as a failure of the application. -/
def rejectionEvent (r : Rejection) : LogEvent :=
  if r.kind = .internal then .requestFailed r.correlationId r.message
  else .requestRejected r.correlationId r.display

def rejectionResponse (r : Rejection) : Response where
  status := rejectionStatus r.kind
  content := .json (.object [("error", .string r.kind.userMessage),
    ("correlation_id", .string r.correlationId)])

namespace App

/-- Leaves the application as it is. -/
def reply (app : App) (status : Nat) (content : Content) (log : List LogEvent := []) : Turn :=
  { app, response := { status, content }, log }

def reject (app : App) (o : Occasion) (refusal : Refusal) (log : List LogEvent := []) : Turn :=
  let r := { refusal.rejection with correlationId := o.correlationId }
  { app, response := rejectionResponse r, log := log ++ [rejectionEvent r] }

def namedSession? (app : App) (r : Request) : Option SessionId :=
  ((r.header? app.sessionHeader).map Text.trim).filter (· ≠ "")

/-- The state under a session id, which is touched by this. -/
def visit (app : App) (o : Occasion) (id : SessionId) : Option State × App :=
  let (state?, sessions) := app.sessions.get o.now id
  (state?, { app with sessions })

/-- The session that a request is made in, with its state: the one it names, if that is live. -/
def caller (app : App) (o : Occasion) (r : Request) : Option (SessionId × State) × App :=
  match app.namedSession? r with
  | none => (none, app)
  | some id =>
    let (state?, app) := app.visit o id
    (state?.map (id, ·), app)

/-- Whoever has no session is taken to have an empty state. -/
def callerState (found : Option (SessionId × State)) : State := found.elim {} (·.2)

end App

end Relocation.Web
