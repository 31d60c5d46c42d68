import Relocation.Audit
import Relocation.Summary.View

/-! The summary of a move: which legs it shows, with which status and view, and where an office
queue lists the move. -/

namespace Relocation.Summary

/-- Every move but a pure PPM shows its household goods. -/
def showsHhg (t? : Option MoveType) : Bool := t? ≠ some .ppm

def showsPpm (t? : Option MoveType) : Bool := t? = some .ppm || t? = some .hhgPpm

/-- The PPM of a move with both legs has its own life. Of any other move the move's status
counts, but while the move is approved, a PPM not past its submission is shown as submitted. -/
def effectivePpmStatus (move : MoveStatus) (ppm : PpmStatus) (t? : Option MoveType) : PpmStatus :=
  if t? = some .hhgPpm then ppm
  else if move = .approved ∧ (ppm = .submitted ∨ ppm = .draft) then .submitted
  else move.toPpm

/-- A shipment that is absent or not active counts as a draft. -/
def effectiveHhgStatus (move : MoveStatus) (shipment? : Option ShipmentRecord) : HhgStatus :=
  if move = .canceled then .canceled
  else .shipment ((shipment?.bind ShipmentRecord.activeStatus?).getD .draft)

/-- A PPM that waits for its payment comes before the move's own status. -/
def queueStatus (move : MoveStatus) (ppm? : Option PpmStatus) : String :=
  if ppm? = some .paymentRequested then Named.name PpmStatus.paymentRequested
  else Named.name move

structure Leg where
  status : String
  view : View
deriving DecidableEq

structure Plan where
  moveId : MoveId
  locator : Option String
  moveStatus : MoveStatus
  moveType : Option MoveType
  queueStatus : String
  hhg : Option Leg
  ppm : Option Leg
  editEnabled : Bool
deriving DecidableEq

def hhgLeg (record : MoveRecord) (move : MoveStatus) : Leg :=
  let status := effectiveHhgStatus move record.primaryShipment?
  ⟨status.name, .ofHhg status⟩

def ppmLeg (record : MoveRecord) (move : MoveStatus) (ppm : PpmStatus) (today : Date) : Leg :=
  let status := effectivePpmStatus move ppm record.moveType
  ⟨Named.name status, .ofPpm status (record.ppm.any (·.isUnderWay today))⟩

/-- The status of the PPM where the summary shows one; without a PPM record it is a draft. -/
def shownPpmStatus (record : MoveRecord) : Except Violation (Option PpmStatus) :=
  if showsPpm record.moveType then
    some <$> record.ppm.elim (.ok .draft) PpmRecord.readStatus
  else .ok none

def plan (record : MoveRecord) (today : Date) : Except Violation Plan := do
  let move ← record.readStatus
  let ppm? ← shownPpmStatus record
  return {
    moveId := record.id
    locator := record.locator
    moveStatus := move
    moveType := record.moveType
    queueStatus := queueStatus move ppm?
    hhg := if showsHhg record.moveType then some (hhgLeg record move) else none
    ppm := ppm?.map fun ppm => ppmLeg record move ppm today
    editEnabled := move ≠ .draft }

def planAll (today : Date) : List MoveRecord → Except (MoveId × Violation) (List Plan)
  | [] => .ok []
  | record :: records => do
    let first ← (plan record today).mapError (record.id, ·)
    return first :: (← planAll today records)

def legStatus (leg? : Option Leg) : String := leg?.elim "hidden" Leg.status

def planEvent (c : Audit.Context) : Except Violation Plan → Audit.Event
  | .ok plan => c.event "summary.dispatched" .summary .success
      [("move_status", Named.name plan.moveStatus), ("queue_status", plan.queueStatus),
        ("hhg", legStatus plan.hhg), ("ppm", legStatus plan.ppm)]
  | .error violation => c.event "summary.unknown_status" .summary .failed
      [("error", violation.message)]

/-- Plans a summary; every attempt leaves one event. -/
def planAudited (record : MoveRecord) (today : Date) (c : Audit.Context) :
    Except Violation Plan × List Audit.Event :=
  let result := plan record today
  (result, [planEvent c result])

@[simp]
theorem planAudited_fst (record : MoveRecord) (today : Date) (c : Audit.Context) :
    (planAudited record today c).1 = plan record today :=
  rfl

@[simp]
theorem planAudited_snd (record : MoveRecord) (today : Date) (c : Audit.Context) :
    (planAudited record today c).2 = [planEvent c (plan record today)] :=
  rfl

end Relocation.Summary
