import Relocation.Command.Flow
import Relocation.Move.Fixture
import Relocation.Settings.Load
import Relocation.Summary.Plan

/-! The command that prints the summaries of the moves in a fixture file. -/

namespace Relocation.Command

structure SummaryArguments where
  fixture : Option String := none
  moveId : Option MoveId := none
deriving DecidableEq

inductive SummaryError where
  | missingFixture
  | settings (e : SettingsError)
  | fixture (e : StoreError)
  | unknownMove (e : StoreError)
  | unknownStatus (id : MoveId) (v : Violation)
deriving DecidableEq

namespace SummaryError

def fault : SummaryError → Fault
  | .missingFixture => .missingFixture
  | .settings _ => .invalidSettings
  | .fixture _ => .unloadedFixture
  | .unknownMove _ => .unknownMove
  | .unknownStatus .. => .unknownStatus

def message : SummaryError → String
  | .missingFixture => "no move fixtures to read; pass --fixture or set data.fixtures_path"
  | .settings e => s!"configuration issue: {e.message}"
  | .fixture e => e.message
  | .unknownMove e => e.message
  | .unknownStatus id v => s!"move `{id}`: {v.message}"

end SummaryError

def fixturePath (w : Surroundings) (a : SummaryArguments) : Except SummaryError String :=
  match a.fixture with
  | some path => .ok path
  | none => do
    let settings ← (Settings.load w.files w.environment {}).mapError .settings
    settings.fixturesPath.elim (throw .missingFixture) pure

def chosenRecords (store : MoveStore) : Option MoveId → Except SummaryError (List MoveRecord)
  | some id => (store.fetch id).mapError .unknownMove |>.map ([·])
  | none => .ok store.records

def legLine (label : String) (leg : Summary.Leg) : String :=
  s!"    {label}: {leg.status} -> {Named.name leg.view} \"{leg.view.headline}\""

def planLines (p : Summary.Plan) : List String :=
  let locator := p.locator.getD "-"
  let status := Named.name p.moveStatus
  let edit := if p.editEnabled then "enabled" else "disabled"
  (s!"- {p.moveId} [{locator}] status={status} type={typeName p.moveType} " ++
      s!"edit_move={edit} queue={p.queueStatus}") ::
    ((p.hhg.map (legLine "hhg")).toList ++ (p.ppm.map (legLine "ppm")).toList)

def summaryLines (w : Surroundings) (a : SummaryArguments) : Except SummaryError (List String) := do
  let path ← fixturePath w a
  let store ← (MoveStore.ofFixture w.files path).mapError .fixture
  let records ← chosenRecords store a.moveId
  let plans ← (Summary.planAll w.today records).mapError fun (id, v) => .unknownStatus id v
  return s!"move summaries from `{path}`:" :: plans.flatMap planLines

def summary (w : Surroundings) (a : SummaryArguments) : Report :=
  match summaryLines w a with
  | .ok lines => { command := "summary", message := Text.joinLines lines }
  | .error e => { command := "summary", fault := some e.fault, message := e.message }

end Relocation.Command
