import Relocation.Json.Decoder
import Relocation.Move.Record
import Relocation.Wizard.State

/-! The JSON forms of moves and wizard states: how they are written, and how they are read back by
field name or as the array of their fields. -/

namespace Relocation

open Json (Decoder RecordField)

def Json.ofNamed {α : Type} [Named α] (a : α) : Json := .string (Named.written a)

def MoveType.decoder : Decoder MoveType := Json.named MoveType.ofName?

namespace Date

def toJson (d : Date) : Json := .string d.render

def decoder : Decoder Date := fun doc => do
  (read? (← Json.text doc)).elim (throw .mismatch) pure

end Date

namespace PpmRecord

def toJson (r : PpmRecord) : Json := .object [
  ("id", .string r.id), ("status", .ofOption r.status),
  ("planned_move_date", r.plannedDate.elim .null Date.toJson)]

structure Draft where
  id : Option String := none
  status : Option (Option String) := none
  plannedDate : Option (Option Date) := none

def fields : List (RecordField Draft) := [
  .of "id" (·.id) ({ · with id := some · }) Json.text,
  .of "status" (·.status) ({ · with status := some · }) (Json.optional Json.text),
  .of "planned_move_date" (·.plannedDate) ({ · with plannedDate := some · })
    (Json.optional Date.decoder)]

/-- Only the id has no default. -/
def Draft.build? (d : Draft) : Option PpmRecord :=
  d.id.map fun id => ⟨id, d.status.getD none, d.plannedDate.getD none⟩

def decoder : Decoder PpmRecord := Json.record fields {} Draft.build?

end PpmRecord

namespace ShipmentRecord

def toJson (r : ShipmentRecord) : Json := .object [
  ("id", .string r.id), ("status", .ofOption r.status)]

structure Draft where
  id : Option String := none
  status : Option (Option String) := none

def fields : List (RecordField Draft) := [
  .of "id" (·.id) ({ · with id := some · }) Json.text,
  .of "status" (·.status) ({ · with status := some · }) (Json.optional Json.text)]

def Draft.build? (d : Draft) : Option ShipmentRecord :=
  d.id.map fun id => ⟨id, d.status.getD none⟩

def decoder : Decoder ShipmentRecord := Json.record fields {} Draft.build?

end ShipmentRecord

namespace MoveRecord

def toJson (r : MoveRecord) : Json := .object [
  ("id", .string r.id), ("orders_id", .string r.ordersId), ("locator", .ofOption r.locator),
  ("status", .string r.status), ("selected_move_type", r.moveType.elim .null Json.ofNamed),
  ("ppm", r.ppm.elim .null PpmRecord.toJson),
  ("shipments", .array (r.shipments.map ShipmentRecord.toJson))]

structure Draft where
  id : Option MoveId := none
  ordersId : Option OrdersId := none
  locator : Option (Option String) := none
  status : Option String := none
  moveType : Option (Option MoveType) := none
  ppm : Option (Option PpmRecord) := none
  shipments : Option (List ShipmentRecord) := none

def fields : List (RecordField Draft) := [
  .of "id" (·.id) ({ · with id := some · }) Json.text,
  .of "orders_id" (·.ordersId) ({ · with ordersId := some · }) Json.text,
  .of "locator" (·.locator) ({ · with locator := some · }) (Json.optional Json.text),
  .of "status" (·.status) ({ · with status := some · }) Json.text,
  .of "selected_move_type" (·.moveType) ({ · with moveType := some · })
    (Json.optional MoveType.decoder),
  .of "ppm" (·.ppm) ({ · with ppm := some · }) (Json.optional PpmRecord.decoder),
  .of "shipments" (·.shipments) ({ · with shipments := some · }) (Json.list ShipmentRecord.decoder)]

/-- Id, orders id and status have no default. -/
def Draft.build? (d : Draft) : Option MoveRecord := do
  let id ← d.id
  let ordersId ← d.ordersId
  let status ← d.status
  return {
    id, ordersId, status
    locator := d.locator.getD none
    moveType := d.moveType.getD none
    ppm := d.ppm.getD none
    shipments := d.shipments.getD [] }

def decoder : Decoder MoveRecord := Json.record fields {} Draft.build?

end MoveRecord

namespace Wizard.State

def toJson (s : State) : Json := .object [
  ("service_member_id", .ofOption s.serviceMemberId),
  ("selected_move_type", s.moveType.elim .null Json.ofNamed), ("has_move", .bool s.hasMove),
  ("move_id", .ofOption s.moveId), ("current_orders_id", .ofOption s.ordersId)]

structure Draft where
  serviceMemberId : Option (Option String) := none
  moveType : Option (Option MoveType) := none
  hasMove : Option Bool := none
  moveId : Option (Option MoveId) := none
  ordersId : Option (Option OrdersId) := none

def fields : List (RecordField Draft) := [
  .of "service_member_id" (·.serviceMemberId) ({ · with serviceMemberId := some · })
    (Json.optional Json.text),
  .of "selected_move_type" (·.moveType) ({ · with moveType := some · })
    (Json.optional MoveType.decoder),
  .of "has_move" (·.hasMove) ({ · with hasMove := some · }) Json.flag,
  .of "move_id" (·.moveId) ({ · with moveId := some · }) (Json.optional Json.text),
  .of "current_orders_id" (·.ordersId) ({ · with ordersId := some · }) (Json.optional Json.text)]

/-- Every field has a default. -/
def Draft.build (d : Draft) : State where
  serviceMemberId := d.serviceMemberId.getD none
  moveType := d.moveType.getD none
  hasMove := d.hasMove.getD false
  moveId := d.moveId.getD none
  ordersId := d.ordersId.getD none

def decoder : Decoder State := Json.record fields {} (fun d => some d.build)

end Wizard.State

end Relocation
