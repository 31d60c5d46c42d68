import Relocation.Named
import Relocation.Text

/-! Statuses of a move and of its two legs: the personally procured move (PPM) and the shipment
of household goods (HHG). In documents they are written by their titles, in capitals. -/

namespace Relocation

inductive StatusKind where
  | move
  | ppm
  | shipment
deriving DecidableEq, Repr

instance : Named StatusKind where
  all := [.move, .ppm, .shipment]
  name
    | .move => "move"
    | .ppm => "ppm"
    | .shipment => "shipment"
  mem_all a := by cases a <;> decide
  names_nodup := by decide

inductive MoveStatus where
  | draft
  | submitted
  | approved
  | completed
  | canceled
deriving DecidableEq, Repr

def MoveStatus.title : MoveStatus → String
  | .draft => "Draft"
  | .submitted => "Submitted"
  | .approved => "Approved"
  | .completed => "Completed"
  | .canceled => "Canceled"

instance : Named MoveStatus where
  all := [.draft, .submitted, .approved, .completed, .canceled]
  name
    | .draft => "DRAFT"
    | .submitted => "SUBMITTED"
    | .approved => "APPROVED"
    | .completed => "COMPLETED"
    | .canceled => "CANCELED"
  written a := Text.upperSnakeCase a.title
  mem_all a := by cases a <;> decide
  names_nodup := by decide
  written_eq_name a := by cases a <;> decide

inductive PpmStatus where
  | draft
  | submitted
  | approved
  | paymentRequested
  | completed
  | canceled
deriving DecidableEq, Repr

def PpmStatus.title : PpmStatus → String
  | .draft => "Draft"
  | .submitted => "Submitted"
  | .approved => "Approved"
  | .paymentRequested => "PaymentRequested"
  | .completed => "Completed"
  | .canceled => "Canceled"

instance : Named PpmStatus where
  all := [.draft, .submitted, .approved, .paymentRequested, .completed, .canceled]
  name
    | .draft => "DRAFT"
    | .submitted => "SUBMITTED"
    | .approved => "APPROVED"
    | .paymentRequested => "PAYMENT_REQUESTED"
    | .completed => "COMPLETED"
    | .canceled => "CANCELED"
  written a := Text.upperSnakeCase a.title
  mem_all a := by cases a <;> decide
  names_nodup := by decide
  written_eq_name a := by cases a <;> decide

/-- The PPM status that a move status stands for where the move has no other leg. -/
def MoveStatus.toPpm : MoveStatus → PpmStatus
  | .draft => .draft
  | .submitted => .submitted
  | .approved => .approved
  | .completed => .completed
  | .canceled => .canceled

/-- A shipment cannot be canceled on its own. -/
inductive ShipmentStatus where
  | draft
  | submitted
  | awarded
  | accepted
  | approved
  | inTransit
  | delivered
  | completed
deriving DecidableEq, Repr

def ShipmentStatus.title : ShipmentStatus → String
  | .draft => "Draft"
  | .submitted => "Submitted"
  | .awarded => "Awarded"
  | .accepted => "Accepted"
  | .approved => "Approved"
  | .inTransit => "InTransit"
  | .delivered => "Delivered"
  | .completed => "Completed"

instance : Named ShipmentStatus where
  all := [.draft, .submitted, .awarded, .accepted, .approved, .inTransit, .delivered, .completed]
  name
    | .draft => "DRAFT"
    | .submitted => "SUBMITTED"
    | .awarded => "AWARDED"
    | .accepted => "ACCEPTED"
    | .approved => "APPROVED"
    | .inTransit => "IN_TRANSIT"
    | .delivered => "DELIVERED"
    | .completed => "COMPLETED"
  written a := Text.upperSnakeCase a.title
  mem_all a := by cases a <;> decide
  names_nodup := by decide
  written_eq_name a := by cases a <;> decide

/-- Every shipment past its draft is active. -/
def ShipmentStatus.isActive (s : ShipmentStatus) : Bool := s ≠ .draft

end Relocation
