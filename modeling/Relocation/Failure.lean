import Relocation.Move.Store
import Relocation.Violation

/-! Failures of the application, and the rejections that callers see for them. -/

namespace Relocation

inductive Failure where
  | violation (v : Violation)
  | store (e : StoreError)
  | configuration (message : String)
deriving DecidableEq, Repr

def Failure.message : Failure → String
  | .violation v => v.message
  | .store e => e.message
  | .configuration message => s!"configuration failure: {message}"

inductive RejectionKind where
  | badRequest
  | notFound
  | conflict
  | unavailable
  | internal
deriving DecidableEq, Repr

/-- A rejected request: the message is for the log, the user is told the general text of the
kind. -/
structure Rejection where
  kind : RejectionKind
  message : String
  correlationId : String := "unassigned"
deriving DecidableEq, Repr

/-- What is said to a user who is on a page that the wizard has no context for. -/
def missingContextMessage : String :=
  "You are trying to load a page that the system does not have context for. " ++
    "Please go to the home page and try again."

namespace RejectionKind

def userMessage : RejectionKind → String
  | .badRequest => "The request could not be processed. Check inputs and try again."
  | .notFound => "The requested move could not be found."
  | .conflict => missingContextMessage
  | .unavailable => "The service is temporarily unavailable. Please retry shortly."
  | .internal => "An unexpected internal error occurred."

def label : RejectionKind → String
  | .badRequest => "bad request"
  | .notFound => "not found"
  | .conflict => "conflict"
  | .unavailable => "service unavailable"
  | .internal => "internal error"

end RejectionKind

def Rejection.display (r : Rejection) : String := s!"{r.kind.label}: {r.message}"

/-- A corrupt status is never the caller's fault. -/
def Violation.rejectionKind : Violation → RejectionKind
  | .unknownStatus .. => .internal
  | .duplicatePage _ => .internal
  | .duplicatePath _ => .internal
  | .unboundParameter .. => .badRequest
  | .missingOrders _ => .conflict
  | .invariant _ => .badRequest

def StoreError.rejectionKind : StoreError → RejectionKind
  | .moveNotFound _ => .notFound
  | .unavailable _ => .unavailable
  | .fixture _ => .unavailable

def Failure.rejection : Failure → Rejection
  | .violation v => { kind := v.rejectionKind, message := v.message }
  | .store e => { kind := e.rejectionKind, message := e.message }
  | .configuration message => { kind := .internal, message }

end Relocation
