import Relocation.Audit
import Relocation.Json.Value
import Relocation.Text.Quoted

/-! The log of the application: what happened, as events with named fields. -/

namespace Relocation.Web

inductive Level where
  | debug
  | info
  | warning
  | error
deriving DecidableEq, Repr

instance : Named Level where
  all := [.debug, .info, .warning, .error]
  name
    | .debug => "DEBUG"
    | .info => "INFO"
    | .warning => "WARN"
    | .error => "ERROR"
  mem_all a := by cases a <;> decide
  names_nodup := by decide

inductive Direction where
  | previous
  | next
deriving DecidableEq, Repr

instance : Named Direction where
  all := [.previous, .next]
  name
    | .previous => "previous"
    | .next => "next"
  mem_all a := by cases a <;> decide
  names_nodup := by decide

inductive LogEvent where
  | starting
  | fixturesLoaded (path : String) (moves : Nat)
  | wizardReady (pages : Nat)
  | audited (event : Audit.Event)
  | requestFailed (correlationId : String) (message : String)
  | requestRejected (correlationId : String) (message : String)
  | linkUnbound (direction : Direction) (reason : String)
  | moveCreated (correlationId : String) (moveId : MoveId) (ordersId : OrdersId)
  | sessionStarted (correlationId : String) (sessionId : String)
  | sessionEnded (correlationId : String) (sessionId : String)
deriving DecidableEq

namespace LogEvent

def level : LogEvent → Level
  | .requestFailed .. => .error
  | .requestRejected .. => .warning
  | .linkUnbound .. => .debug
  | _ => .info

def message : LogEvent → String
  | .starting => "starting application bootstrap"
  | .fixturesLoaded .. => "move fixtures loaded"
  | .wizardReady _ => "wizard flow table registered"
  | .audited _ => "audit event recorded"
  | .requestFailed .. => "wizard request failed"
  | .requestRejected .. => "wizard request rejected"
  | .linkUnbound .. => "neighbour page needs context this session does not have yet"
  | .moveCreated .. => "created move for current orders"
  | .sessionStarted .. => "wizard session started"
  | .sessionEnded .. => "wizard session ended"

/-- The fields that every event of a start has. -/
def startFields (name : String) : List (String × Json) :=
  [("event_name", .string name), ("correlation_id", .string "bootstrap"),
    ("move_id", .string "unknown")]

def auditFields (e : Audit.Event) : List (String × Json) :=
  [("event_name", .string e.eventType), ("correlation_id", .string e.correlationId),
    ("move_id", .string (e.moveId.getD "unknown")), ("actor", .string e.actor),
    ("category", .string (Named.name e.category)), ("outcome", .string (Named.name e.outcome)),
    ("metadata", .string (Text.quoteEntries e.metadata.entries))]

def fields : LogEvent → List (String × Json)
  | .starting => startFields "system.bootstrap.start"
  | .fixturesLoaded path moves => startFields "system.bootstrap.fixtures_loaded" ++
      [("fixtures_path", .string path), ("moves", .number moves)]
  | .wizardReady pages => startFields "system.bootstrap.wizard_ready" ++ [("pages", .number pages)]
  | .audited event => auditFields event
  | .requestFailed id message => [("event_name", .string "wizard.request.failed"),
      ("correlation_id", .string id), ("error", .string message)]
  | .requestRejected id message => [("event_name", .string "wizard.request.rejected"),
      ("correlation_id", .string id), ("error", .string message)]
  | .linkUnbound direction reason => [("event_name", .string "wizard.link.unbound"),
      ("direction", .string (Named.name direction)), ("error", .string reason)]
  | .moveCreated id moveId ordersId => [("event_name", .string "wizard.move.created"),
      ("correlation_id", .string id), ("move_id", .string moveId), ("orders_id", .string ordersId)]
  | .sessionStarted id sessionId => [("event_name", .string "wizard.session.created"),
      ("correlation_id", .string id), ("session_id", .string sessionId)]
  | .sessionEnded id sessionId => [("event_name", .string "wizard.session.ended"),
      ("correlation_id", .string id), ("session_id", .string sessionId)]

def toJson (e : LogEvent) : Json :=
  .object (e.fields ++ [("message", .string e.message), ("level", .string (Named.name e.level))])

end LogEvent

end Relocation.Web
