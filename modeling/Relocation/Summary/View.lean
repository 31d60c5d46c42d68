import Relocation.Json.Decoder
import Relocation.Move.Record

/-! The views that a move summary shows for a leg of a move, with their texts. -/

namespace Relocation.Summary

inductive View where
  | canceledMove
  | ppmDraft
  | ppmSubmitted
  | ppmApproved
  | ppmInProgress
  | ppmPaymentRequested
  | ppmCompleted
  | hhgDraft
  | hhgSubmitted
  | hhgApproved
  | hhgInTransit
  | hhgDelivered
deriving DecidableEq, Repr

instance : Named View where
  all := [.canceledMove, .ppmDraft, .ppmSubmitted, .ppmApproved, .ppmInProgress,
    .ppmPaymentRequested, .ppmCompleted, .hhgDraft, .hhgSubmitted, .hhgApproved, .hhgInTransit,
    .hhgDelivered]
  name
    | .canceledMove => "canceled_move"
    | .ppmDraft => "ppm_draft"
    | .ppmSubmitted => "ppm_submitted"
    | .ppmApproved => "ppm_approved"
    | .ppmInProgress => "ppm_in_progress"
    | .ppmPaymentRequested => "ppm_payment_requested"
    | .ppmCompleted => "ppm_completed"
    | .hhgDraft => "hhg_draft"
    | .hhgSubmitted => "hhg_submitted"
    | .hhgApproved => "hhg_approved"
    | .hhgInTransit => "hhg_in_transit"
    | .hhgDelivered => "hhg_delivered"
  mem_all a := by cases a <;> decide
  names_nodup := by decide +kernel

/-- The status that the household goods leg is shown with. Only a whole move is canceled. -/
inductive HhgStatus where
  | canceled
  | shipment (status : ShipmentStatus)
deriving DecidableEq, Repr

namespace HhgStatus

def name : HhgStatus → String
  | .canceled => "CANCELED"
  | .shipment status => Named.name status

def ofName? (s : String) : Option HhgStatus :=
  if s = "CANCELED" then some .canceled else (Named.ofName? s).map .shipment

/-- A status is first taken in as a whole, with at most 127 brackets open; whatever does not match
is only a mismatch then. -/
def decoder : Json.Decoder HhgStatus := fun doc => do
  doc.takeIn 127
  (Json.named ofName? doc).mapError fun _ => .mismatch

end HhgStatus

namespace View

/-- An approved PPM is in progress from its planned date on. -/
def ofPpm (status : PpmStatus) (underWay : Bool) : View :=
  match status with
  | .draft => .ppmDraft
  | .submitted => .ppmSubmitted
  | .approved => if underWay then .ppmInProgress else .ppmApproved
  | .paymentRequested => .ppmPaymentRequested
  | .completed => .ppmCompleted
  | .canceled => .canceledMove

def ofHhg : HhgStatus → View
  | .canceled => .canceledMove
  | .shipment .draft => .hhgDraft
  | .shipment .submitted => .hhgSubmitted
  | .shipment .awarded => .hhgSubmitted
  | .shipment .accepted => .hhgSubmitted
  | .shipment .approved => .hhgApproved
  | .shipment .inTransit => .hhgInTransit
  | .shipment .delivered => .hhgDelivered
  | .shipment .completed => .hhgDelivered

def headline : View → String
  | .canceledMove => "New move"
  | .ppmDraft | .hhgDraft => "Next Step: Finish setting up your move"
  | .ppmSubmitted | .hhgSubmitted => "Next Step: Awaiting approval"
  | .ppmApproved | .hhgApproved => "Next step: Get ready to move"
  | .ppmInProgress => "Next step: Request Payment"
  | .ppmPaymentRequested => "Next step: Wait for your payment"
  | .ppmCompleted => "Your PPM is complete"
  | .hhgInTransit => "Your belongings are on the way"
  | .hhgDelivered => "Your shipment has been delivered"

def callToAction? : View → Option String
  | .canceledMove => some "Start here"
  | .ppmDraft | .hhgDraft => some "Continue Move Setup"
  | .ppmSubmitted => some "Find Weight Scales"
  | .ppmApproved | .ppmInProgress => some "Request Payment"
  | _ => none

end View

end Relocation.Summary
