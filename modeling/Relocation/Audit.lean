import Relocation.Dictionary
import Relocation.Move.Record

/-! Audit events: who did what, under which request, and how it ended. -/

namespace Relocation.Audit

inductive Category where
  | wizard
  | summary
deriving DecidableEq, Repr

instance : Named Category where
  all := [.wizard, .summary]
  name
    | .wizard => "Wizard"
    | .summary => "Summary"
  mem_all a := by cases a <;> decide
  names_nodup := by decide

inductive Outcome where
  | success
  | rejected
  | failed
deriving DecidableEq, Repr

instance : Named Outcome where
  all := [.success, .rejected, .failed]
  name
    | .success => "Success"
    | .rejected => "Rejected"
    | .failed => "Failed"
  mem_all a := by cases a <;> decide
  names_nodup := by decide

structure Context where
  moveId : Option MoveId
  correlationId : String
  actor : String
deriving DecidableEq

structure Event where
  moveId : Option MoveId
  correlationId : String
  eventType : String
  category : Category
  actor : String
  outcome : Outcome
  metadata : Dictionary String
deriving DecidableEq

/-- An event in a context; of two values under one metadata key the last stays. -/
def Context.event (c : Context) (eventType : String) (category : Category) (outcome : Outcome)
    (metadata : List (String × String)) : Event where
  moveId := c.moveId
  correlationId := c.correlationId
  eventType := eventType
  category := category
  actor := c.actor
  outcome := outcome
  metadata := .ofList metadata

end Relocation.Audit
