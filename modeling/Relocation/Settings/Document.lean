import Relocation.Settings.Record
import Relocation.Toml.Value

/-! The patch that a settings document gives. Keys that mean nothing here are passed over; a
section or value of a wrong type makes the whole document malformed. -/

namespace Relocation.Patch

def text? : Toml → Option String
  | .string s => some s
  | _ => none

/-- An integer that is not negative and fits into `bits` bits. -/
def count? (bits : Nat) : Toml → Option Nat
  | .integer n => if 0 ≤ n ∧ n.toNat < Nat.pow 2 bits then some n.toNat else none
  | _ => none

def isEmptyValue : Toml → Bool
  | .array [] => true
  | .table [] => true
  | _ => false

/-- A format is its name, or a table with that one key and nothing in it. -/
def format? : Toml → Option LogFormat
  | .string s => Named.ofName? s
  | .table [(name, t)] => if isEmptyValue t then Named.ofName? name else none
  | _ => none

/-- The values of a section under these keys, absent ones included. A section may also be written
as the array of its values; a date says nothing. -/
def sectionValues? (keys : List String) : Option Toml → Option (List (Option Toml))
  | none => some (keys.map fun _ => none)
  | some (.table entries) => some (keys.map (Toml.table entries).get?)
  | some (.array items) =>
    if keys.length ≤ items.length then some ((items.take keys.length).map some) else none
  | some (.datetime _) => some (keys.map fun _ => none)
  | some _ => none

def reading {α : Type} (read : Toml → Option α) : Option Toml → Option (Option α)
  | none => some none
  | some t => (read t).map some

def server? (p : Patch) : List (Option Toml) → Option Patch
  | [address, tcpPort, seconds] => do
    return { p with
      bindAddress := ← reading text? address
      tcpPort := ← reading (count? 16) tcpPort
      shutdownSeconds := ← reading (count? 64) seconds }
  | _ => none

def data? (p : Patch) : List (Option Toml) → Option Patch
  | [path] => do return { p with fixturesPath := ← reading text? path }
  | _ => none

def wizard? (p : Patch) : List (Option Toml) → Option Patch
  | [header, most, seconds] => do
    return { p with
      sessionHeader := ← reading text? header
      maxSessions := ← reading (count? 64) most
      idleSeconds := ← reading (count? 64) seconds }
  | _ => none

def logging? (p : Patch) : List (Option Toml) → Option Patch
  | [level, format] => do
    return { p with logLevel := ← reading text? level, logFormat := ← reading format? format }
  | _ => none

def ofToml? (t : Toml) : Option Patch := do
  let p ← server? {}
    (← sectionValues? ["bind_address", "port", "graceful_shutdown_secs"] (t.get? "server"))
  let p ← data? p (← sectionValues? ["fixtures_path"] (t.get? "data"))
  let p ← wizard? p
    (← sectionValues? ["session_header", "max_sessions", "session_idle_secs"] (t.get? "wizard"))
  logging? p (← sectionValues? ["level", "format"] (t.get? "logging"))

end Relocation.Patch
