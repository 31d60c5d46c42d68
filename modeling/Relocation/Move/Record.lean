import Relocation.Date
import Relocation.Violation

/-! Moves as they are stored. Statuses stay raw texts until someone reads them, so that a corrupt
status only matters to who needs it. -/

namespace Relocation

inductive MoveType where
  | hhg
  | ppm
  | hhgPpm
deriving DecidableEq, Repr

instance : Named MoveType where
  all := [.hhg, .ppm, .hhgPpm]
  name
    | .hhg => "HHG"
    | .ppm => "PPM"
    | .hhgPpm => "HHG_PPM"
  written
    | .hhg => "HHG"
    | .ppm => "PPM"
    | .hhgPpm => "HHG_PPM"
  mem_all a := by cases a <;> decide
  names_nodup := by decide
  written_eq_name t := by cases t <;> rfl

namespace MoveType

abbrev name (t : MoveType) : String := Named.name t

/-- In documents both legs together may also be called a combo. -/
def ofName? (s : String) : Option MoveType :=
  if s = "COMBO" then some .hhgPpm else Named.ofName? s

def texts : List (String × MoveType) := [
  ("HHG", .hhg), ("PPM", .ppm), ("HHG_PPM", .hhgPpm), ("COMBO", .hhgPpm)]

/-- Reads a move type that a person typed: blank characters around it and letter case do not
count. -/
def read (s : String) : Except Violation MoveType :=
  let name := Text.upper (Text.trim s)
  (texts.lookup name).elim
    (.error (.invariant s!"unsupported move type `{name}` (expected HHG|PPM|HHG_PPM)")) .ok

end MoveType

abbrev MoveId := String

abbrev OrdersId := String

structure PpmRecord where
  id : String
  status : Option String
  plannedDate : Option Date
deriving DecidableEq

namespace PpmRecord

/-- A PPM without a status has not been submitted yet. -/
def readStatus (r : PpmRecord) : Except Violation PpmStatus :=
  r.status.elim (.ok .draft) PpmStatus.read

/-- A PPM is under way from its planned date on; without one there is nothing to wait for. -/
def isUnderWay (r : PpmRecord) (today : Date) : Bool :=
  r.plannedDate.all (· ≤ today)

end PpmRecord

structure ShipmentRecord where
  id : String
  status : Option String
deriving DecidableEq

/-- The status of an active shipment; a draft and a status that cannot be read are none. -/
def ShipmentRecord.activeStatus? (r : ShipmentRecord) : Option ShipmentStatus :=
  (r.status.bind fun s => (ShipmentStatus.read s).toOption).filter ShipmentStatus.isActive

structure MoveRecord where
  id : MoveId
  ordersId : OrdersId
  locator : Option String
  status : String
  moveType : Option MoveType
  ppm : Option PpmRecord
  shipments : List ShipmentRecord
deriving DecidableEq

namespace MoveRecord

def draft (id : MoveId) (ordersId : OrdersId) (locator : String) : MoveRecord where
  id := id
  ordersId := ordersId
  locator := some locator
  status := Named.name MoveStatus.draft
  moveType := none
  ppm := none
  shipments := []

def readStatus (r : MoveRecord) : Except Violation MoveStatus := MoveStatus.read r.status

def primaryShipment? (r : MoveRecord) : Option ShipmentRecord := r.shipments.head?

end MoveRecord

end Relocation
