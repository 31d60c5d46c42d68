import Relocation.Command.Report
import Relocation.Move.Fixture
import Relocation.Settings.Load
import Relocation.Summary.Plan
import Relocation.Wizard.StandardFlow

/-! The command that checks whether settings, flow and move fixtures are fit for use. -/

namespace Relocation.Command

inductive CheckStatus where
  | pass
  | fail
  | skipped
deriving DecidableEq, Repr

instance : Named CheckStatus where
  all := [.pass, .fail, .skipped]
  name
    | .pass => "pass"
    | .fail => "fail"
    | .skipped => "skipped"
  mem_all a := by cases a <;> decide
  names_nodup := by decide

def CheckStatus.marker : CheckStatus → String
  | .pass => "ok"
  | .fail => "fail"
  | .skipped => "skip"

structure Check where
  name : String
  status : CheckStatus
  details : String
deriving DecidableEq

def settingsCheck (loaded : Except SettingsError Settings) : Check where
  name := "config_validation"
  status := if loaded.isOk then .pass else .fail
  details := match loaded with
    | .ok _ => "configuration loaded and validated"
    | .error e => e.message

/-- A flow has no duplicates to find. -/
def flowCheck (flow : Wizard.Flow) : Check where
  name := "flow_table_integrity"
  status := .pass
  details := s!"{flow.pages.length} pages with unique keys and paths"

def fixtureFindings (w : Surroundings) (path : String) : CheckStatus × String :=
  match MoveStore.ofFixture w.files path with
  | .error e => (.fail, e.message)
  | .ok store =>
    match Summary.planAll w.today store.records with
    | .error (id, v) => (.fail, s!"move `{id}` cannot be summarized: {v.message}")
    | .ok plans => (.pass, s!"{plans.length} moves loaded from `{path}`")

def fixtureCheck (w : Surroundings) (loaded : Except SettingsError Settings) : Check :=
  let (status, details) := match loaded with
    | .error _ => (.skipped, "skipped because configuration did not load")
    | .ok settings =>
      settings.fixturesPath.elim (.skipped, "no data.fixtures_path configured") (fixtureFindings w)
  { name := "move_fixtures", status, details }

def checks (w : Surroundings) : List Check :=
  let loaded := Settings.load w.files w.environment {}
  [settingsCheck loaded, flowCheck Wizard.standardFlow, fixtureCheck w loaded]

/-- Skipped checks do not count. -/
def overall (checks : List Check) : CheckStatus :=
  if checks.any (·.status = .fail) then .fail else .pass

def verdict (checks : List Check) : String :=
  if overall checks = .fail then "doctor: one or more readiness checks failed"
  else "doctor: all readiness checks passed"

def checkLine (c : Check) : String := s!"- [{c.status.marker}] {c.name}: {c.details}"

def checksText (checks : List Check) : String :=
  Text.joinLines (verdict checks :: checks.map checkLine)

def Check.toJson (c : Check) : Json := .object [
  ("name", .string c.name), ("status", .string (Named.name c.status)),
  ("details", .string c.details)]

def checksJson (checks : List Check) : Json := .object [
  ("overall_status", .string (Named.name (overall checks))), ("summary", .string (verdict checks)),
  ("checks", .array (checks.map Check.toJson))]

def doctor (w : Surroundings) (asJson : Bool) : Outcome :=
  let checks := checks w
  { exitCode := if overall checks = .fail then 1 else 0
    output := if asJson then (checksJson checks).renderIndented else checksText checks }

end Relocation.Command
