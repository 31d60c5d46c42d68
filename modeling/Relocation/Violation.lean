import Relocation.Move.Status
import Relocation.Wizard.PageKey

/-! The rules of the domain that data or a flow of pages can violate, and what is said about
each violation. -/

namespace Relocation

open Wizard

inductive Violation where
  | unknownStatus (kind : StatusKind) (value : String)
  | duplicatePage (key : PageKey)
  | duplicatePath (path : String)
  | unboundParameter (pattern : String) (parameter : String)
  | missingOrders (key : PageKey)
  | invariant (message : String)
deriving DecidableEq, Repr

def Violation.message : Violation → String
  | .unknownStatus kind value => s!"unknown {Named.name kind} status `{value}`"
  | .duplicatePage key => s!"page `{key.name}` is declared more than once in the flow table"
  | .duplicatePath path => s!"path `{path}` is declared more than once in the flow table"
  | .unboundParameter pattern parameter => s!"path `{pattern}` needs a value for `{parameter}`"
  | .missingOrders key =>
    s!"page `{key.name}` creates a move but the wizard state has no current orders"
  | .invariant message => s!"domain invariant violation: {message}"

/-- A status is read by its exact text in a table. -/
def readStatus {α : Type} (kind : StatusKind) (texts : List (String × α)) (s : String) :
    Except Violation α :=
  (texts.lookup s).elim (.error (.unknownStatus kind s)) .ok

namespace MoveStatus

def texts : List (String × MoveStatus) := [
  ("DRAFT", .draft), ("SUBMITTED", .submitted), ("APPROVED", .approved),
  ("COMPLETED", .completed), ("CANCELED", .canceled)]

theorem texts_eq : texts = Named.nameTable := rfl

def read : String → Except Violation MoveStatus := readStatus .move texts

end MoveStatus

namespace PpmStatus

def texts : List (String × PpmStatus) := [
  ("DRAFT", .draft), ("SUBMITTED", .submitted), ("APPROVED", .approved),
  ("PAYMENT_REQUESTED", .paymentRequested), ("COMPLETED", .completed), ("CANCELED", .canceled)]

theorem texts_eq : texts = Named.nameTable := rfl

def read : String → Except Violation PpmStatus := readStatus .ppm texts

end PpmStatus

namespace ShipmentStatus

def texts : List (String × ShipmentStatus) := [
  ("DRAFT", .draft), ("SUBMITTED", .submitted), ("AWARDED", .awarded), ("ACCEPTED", .accepted),
  ("APPROVED", .approved), ("IN_TRANSIT", .inTransit), ("DELIVERED", .delivered),
  ("COMPLETED", .completed)]

theorem texts_eq : texts = Named.nameTable := rfl

def read : String → Except Violation ShipmentStatus := readStatus .shipment texts

end ShipmentStatus

end Relocation
