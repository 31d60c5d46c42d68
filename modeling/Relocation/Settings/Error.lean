import Relocation.Files
import Relocation.Settings.Record

/-! What can be wrong with settings and with the sources they are read from. -/

namespace Relocation

inductive Defect where
  | bindAddress
  | tcpPort
  | shutdownSeconds
  | fixturesPath (path : String)
  | sessionHeader
  | maxSessions
  | idleSeconds
  | logLevel
  | logFormat (name : String)
deriving DecidableEq, Repr

def Defect.message : Defect → String
  | .bindAddress => "server.bind_address must not be empty"
  | .tcpPort => "server.port must be greater than zero"
  | .shutdownSeconds => "server.graceful_shutdown_secs must be in range 1..=300"
  | .fixturesPath path => s!"data.fixtures_path `{path}` does not point to a readable file"
  | .sessionHeader =>
    "wizard.session_header must be a lowercase HTTP header name (a-z, 0-9, `-`)"
  | .maxSessions => "wizard.max_sessions must be greater than zero"
  | .idleSeconds => "wizard.session_idle_secs must be greater than zero"
  | .logLevel => "logging.level must be one of trace|debug|info|warn|error"
  | .logFormat name => s!"unsupported log format `{name}` (expected compact|pretty|json)"

inductive SettingsError where
  | unreadable (path : String) (error : ReadError)
  | malformed (path : String)
  | missingFile (path : String)
  | unsetVariable (name : String)
  | unclosedVariable
  | invalidVariable (name value : String)
  | invalid (defect : Defect)
deriving DecidableEq, Repr

/-- What a reader of settings files has to say about a malformed one is not kept. -/
def SettingsError.message : SettingsError → String
  | .unreadable path error => s!"could not read config file `{path}`: {error.message}"
  | .malformed path => s!"could not parse config file `{path}`: <detail>"
  | .missingFile path => s!"required config file was not found: `{path}`"
  | .unsetVariable name => s!"environment variable interpolation failed for `{name}`"
  | .unclosedVariable => "unterminated environment interpolation expression"
  | .invalidVariable name value => s!"invalid environment override for `{name}`: `{value}`"
  | .invalid defect => s!"configuration validation failed: {defect.message}"

def LogFormat.texts : List (String × LogFormat) := [
  ("compact", .compact), ("pretty", .pretty), ("json", .json)]

theorem LogFormat.texts_eq : texts = Named.nameTable := rfl

/-- Reads a log format that a person typed: blank characters around it and letter case do not
count. -/
def LogFormat.read (s : String) : Except Defect LogFormat :=
  let name := Text.lower (Text.trim s)
  (texts.lookup name).elim (.error (.logFormat name)) .ok

end Relocation
