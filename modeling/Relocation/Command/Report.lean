import Relocation.Files
import Relocation.Environment
import Relocation.Date
import Relocation.Json.Value
import Relocation.Named

/-! What every command works on and reports: an outcome is an exit code with an output, and most
commands report one line of JSON. -/

namespace Relocation.Command

structure Surroundings where
  files : Files
  environment : Environment
  today : Date

structure Outcome where
  exitCode : Nat
  output : String
deriving DecidableEq

/-- Why a command fails. Three faults are left out, since nothing that a command is given leads to
them: `runtime_init`, where the system cannot start what a look-up runs on, `data_service`, where
moves that were read from a file are offline, and `flow_table`, where the standard flow is
refused. -/
inductive Fault where
  | missingFixture
  | invalidSettings
  | unloadedFixture
  | unknownMove
  | unknownStatus
deriving DecidableEq, Repr

instance : Named Fault where
  all := [.missingFixture, .invalidSettings, .unloadedFixture, .unknownMove, .unknownStatus]
  name
    | .missingFixture => "missing_fixture"
    | .invalidSettings => "config_validation"
    | .unloadedFixture => "fixture_load"
    | .unknownMove => "move_not_found"
    | .unknownStatus => "unknown_status"
  mem_all a := by cases a <;> decide
  names_nodup := by decide

def Fault.exitCode : Fault → Nat
  | .missingFixture => 2
  | .invalidSettings => 2
  | .unloadedFixture => 4
  | .unknownMove => 5
  | .unknownStatus => 6

structure Report where
  command : String
  fault : Option Fault := none
  message : String
deriving DecidableEq

namespace Report

def exitCode (r : Report) : Nat := r.fault.elim 0 Fault.exitCode

def status (r : Report) : String := if r.fault.isSome then "error" else "ok"

def toJson (r : Report) : Json := .object [
  ("command", .string r.command), ("status", .string r.status),
  ("error_class", .ofOption (r.fault.map Named.name)), ("message", .string r.message)]

def outcome (r : Report) : Outcome := ⟨r.exitCode, r.toJson.render⟩

end Report

end Relocation.Command
