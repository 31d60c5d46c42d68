import Relocation.Settings.Document
import Relocation.Settings.Interpolation
import Relocation.Toml.Reader

/-! Loading settings: defaults, then the settings file, then the environment, then what the caller
insists on. The result is checked as a whole. -/

namespace Relocation

namespace Patch

def number (env : Environment) (bits : Nat) (setting : Setting) :
    Except SettingsError (Option Nat) :=
  match setting.variableNames.findSome? fun name => (env.given? name).map (name, ·) with
  | none => .ok none
  | some (name, value) =>
    ((Text.readUnsigned? value).filter (· < Nat.pow 2 bits)).elim
      (.error (.invalidVariable name value)) (.ok <| some ·)

def format (env : Environment) : Except SettingsError (Option LogFormat) :=
  match env.firstGiven? Setting.logFormat.variableNames with
  | none => .ok none
  | some value => ((LogFormat.read value).mapError .invalid).map some

def ofEnvironment (env : Environment) : Except SettingsError Patch := do
  let tcpPort ← number env 16 .tcpPort
  let shutdownSeconds ← number env 64 .shutdownSeconds
  let maxSessions ← number env 64 .maxSessions
  let idleSeconds ← number env 64 .idleSeconds
  let logFormat ← format env
  return {
    tcpPort, shutdownSeconds, maxSessions, idleSeconds, logFormat
    bindAddress := env.firstGiven? Setting.bindAddress.variableNames
    fixturesPath := env.firstGiven? Setting.fixturesPath.variableNames
    sessionHeader := env.firstGiven? Setting.sessionHeader.variableNames
    logLevel := env.firstGiven? Setting.logLevel.variableNames }

def ofFile (files : Files) (env : Environment) (path : String) : Except SettingsError Patch := do
  let raw ← (files.look path).read.mapError (.unreadable path)
  let content ← Interpolation.interpolate env raw
  ((Toml.read? content).bind ofToml?).elim (throw (.malformed path)) pure

end Patch

namespace Settings

def logLevels : List String := ["trace", "debug", "info", "warn", "error"]

def isHeaderChar (c : Char) : Bool := c.isLower || c.isDigit || c = '-'

/-- What the settings have to satisfy, and what is wrong where they do not. -/
def checks (files : Files) (s : Settings) : List (Bool × Defect) := [
  (!Text.isBlankText s.bindAddress, .bindAddress),
  (0 < s.tcpPort, .tcpPort),
  (0 < s.shutdownSeconds && s.shutdownSeconds ≤ 300, .shutdownSeconds),
  (s.fixturesPath.all fun path => (files.look path).isFile, .fixturesPath (s.fixturesPath.getD "")),
  (s.sessionHeader ≠ "" && s.sessionHeader.toList.all isHeaderChar, .sessionHeader),
  (0 < s.maxSessions, .maxSessions),
  (0 < s.idleSeconds, .idleSeconds),
  (Text.lower (Text.trim s.logLevel) ∈ logLevels, .logLevel)]

def defect? (files : Files) (s : Settings) : Option Defect :=
  ((s.checks files).find? fun check => !check.1).map (·.2)

def fileName : String := "mymove.toml"

def usualPaths : List String := [fileName, "config/" ++ fileName]

def detect (files : Files) : Option String :=
  usualPaths.find? fun path => (files.look path).exists?

/-- How to load settings: from which file, whether there has to be one, and what is insisted
on. -/
structure Request where
  path : Option String := none
  isFileRequired : Bool := false
  overrides : Patch := {}

/-- The file to read. One that was asked for and does not exist is not replaced by another. -/
def Request.file? (r : Request) (files : Files) : Option String :=
  match r.path with
  | some path => if (files.look path).exists? then some path else none
  | none => detect files

/-- What the settings file says; without a file nothing, where none is required. -/
def Request.filePatch (r : Request) (files : Files) (env : Environment) :
    Except SettingsError Patch :=
  match r.file? files with
  | some path => Patch.ofFile files env path
  | none => if r.isFileRequired then .error (.missingFile (r.path.getD fileName)) else .ok {}

def merged (files : Files) (env : Environment) (r : Request) : Except SettingsError Settings := do
  let fromFile ← r.filePatch files env
  let fromEnvironment ← Patch.ofEnvironment env
  return (({} : Settings).apply fromFile).apply fromEnvironment |>.apply r.overrides

def load (files : Files) (env : Environment) (r : Request) : Except SettingsError Settings := do
  let s ← merged files env r
  (s.defect? files).elim (pure s) (throw <| .invalid ·)

end Settings

end Relocation
