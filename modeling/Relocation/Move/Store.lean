import Relocation.Dictionary
import Relocation.Move.Record

/-! The store of moves, by id. -/

namespace Relocation

inductive StoreError where
  | moveNotFound (id : MoveId)
  | unavailable (reason : String)
  | fixture (reason : String)
deriving DecidableEq, Repr

def StoreError.message : StoreError → String
  | .moveNotFound id => s!"move `{id}` was not found"
  | .unavailable reason => s!"data service unavailable: {reason}"
  | .fixture reason => s!"could not load move fixtures: {reason}"

/-- Moves under their ids; each listing is in the order of the ids. -/
structure MoveStore where
  moves : Dictionary MoveRecord
deriving DecidableEq, Inhabited

namespace MoveStore

/-- Of two records with one id the last stays. -/
def ofRecords (records : List MoveRecord) : MoveStore :=
  ⟨.ofList (records.map fun r => (r.id, r))⟩

def fetch (store : MoveStore) (id : MoveId) : Except StoreError MoveRecord :=
  (store.moves.get? id).elim (.error (.moveNotFound id)) .ok

def create (store : MoveStore) (id : MoveId) (locator : String) (ordersId : OrdersId) :
    MoveRecord × MoveStore :=
  let record := MoveRecord.draft id ordersId locator
  (record, ⟨store.moves.insert id record⟩)

def records (store : MoveStore) : List MoveRecord := store.moves.values

def size (store : MoveStore) : Nat := store.moves.size

def isEmpty (store : MoveStore) : Bool := store.moves.isEmpty

end MoveStore

end Relocation
