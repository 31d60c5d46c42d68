import Relocation.Files
import Relocation.Move.Store
import Relocation.Move.Wire

/-! Move stores read from a fixture file: the JSON array of their records. -/

namespace Relocation.MoveStore

/-- Stands for what a reader of JSON has to say about a text that it could not read, with the line
and column: that wording is left out. -/
def unreadDetail : String := "<detail>"

def ofFixture (files : Files) (path : String) : Except StoreError MoveStore :=
  match (files.look path).read with
  | .error e => .error (.fixture s!"could not read `{path}`: {e.message}")
  | .ok content =>
    match Json.decode (Json.list MoveRecord.decoder) content with
    | .error _ => .error (.fixture s!"could not parse `{path}`: {unreadDetail}")
    | .ok records => .ok (ofRecords records)

end Relocation.MoveStore
