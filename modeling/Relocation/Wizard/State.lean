import Relocation.Dictionary
import Relocation.Move.Record

/-! What the wizard knows about a service member's move. -/

namespace Relocation.Wizard

structure State where
  serviceMemberId : Option String := none
  moveType : Option MoveType := none
  hasMove : Bool := false
  moveId : Option MoveId := none
  ordersId : Option OrdersId := none
deriving DecidableEq, Inhabited

namespace State

def forServiceMember (id : String) : State := { serviceMemberId := some id }

def withMoveType (s : State) (t : MoveType) : State := { s with moveType := some t }

def withOrders (s : State) (id : OrdersId) : State := { s with ordersId := some id }

def withMove (s : State) (id : MoveId) : State := { s with moveId := some id, hasMove := true }

/-- The path parameters that the wizard can fill in on its own. -/
def pathParams (s : State) : Dictionary String :=
  let known := [("service_member_id", s.serviceMemberId), ("move_id", s.moveId)]
  .ofList (known.filterMap fun (name, value?) => value?.map (name, ·))

end State

end Relocation.Wizard
