import Relocation.Move.Fixture
import Relocation.Settings.Load
import Relocation.Web.App
import Relocation.Wizard.StandardFlow

/-! Starting the application from its settings. -/

namespace Relocation.Web

open Wizard

inductive StartError where
  | settings (e : SettingsError)
  | fixtures (e : StoreError)
deriving DecidableEq

def StartError.message : StartError → String
  | .settings e => e.message
  | .fixtures e => s!"move fixtures could not be loaded: {e.message}"

def App.assemble (settings : Settings) (flow : Flow) (service : MoveService) : App where
  flow := flow
  sessionHeader := settings.sessionHeader
  sessions := .new settings.maxSessions settings.idleSeconds
  service := service

def fixtureMoves (files : Files) (settings : Settings) : Except StoreError MoveStore :=
  settings.fixturesPath.elim (.ok (.ofRecords [])) (MoveStore.ofFixture files)

def startLog (settings : Settings) (moves : MoveStore) (flow : Flow) : List LogEvent :=
  [.starting] ++ (settings.fixturesPath.map fun path => .fixturesLoaded path moves.size).toList ++
    [.wizardReady flow.pages.length]

/-- The application with the standard flow, and what is logged on the way. -/
def start (files : Files) (env : Environment) (request : Settings.Request) :
    Except StartError (App × List LogEvent) := do
  let settings ← (Settings.load files env request).mapError .settings
  let moves ← (fixtureMoves files settings).mapError .fixtures
  return (.assemble settings standardFlow (.store moves), startLog settings moves standardFlow)

end Relocation.Web
