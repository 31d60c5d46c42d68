import Relocation.Named
import Relocation.Text

/-! The settings of the application, and patches: settings of which some are left open. -/

namespace Relocation

inductive LogFormat where
  | compact
  | pretty
  | json
deriving DecidableEq, Repr

def LogFormat.title : LogFormat → String
  | .compact => "Compact"
  | .pretty => "Pretty"
  | .json => "Json"

/-- In documents a format is written by its title, as words in lower case. -/
instance : Named LogFormat where
  all := [.compact, .pretty, .json]
  name
    | .compact => "compact"
    | .pretty => "pretty"
    | .json => "json"
  written f := Text.snakeCase f.title
  mem_all a := by cases a <;> decide
  names_nodup := by decide
  written_eq_name f := by cases f <;> decide

structure Settings where
  bindAddress : String := "127.0.0.1"
  tcpPort : Nat := 8080
  shutdownSeconds : Nat := 15
  fixturesPath : Option String := none
  sessionHeader : String := "x-wizard-session"
  maxSessions : Nat := 10000
  idleSeconds : Nat := 1800
  logLevel : String := "info"
  logFormat : LogFormat := .compact
deriving DecidableEq

structure Patch where
  bindAddress : Option String := none
  tcpPort : Option Nat := none
  shutdownSeconds : Option Nat := none
  fixturesPath : Option String := none
  sessionHeader : Option String := none
  maxSessions : Option Nat := none
  idleSeconds : Option Nat := none
  logLevel : Option String := none
  logFormat : Option LogFormat := none
deriving DecidableEq

def Settings.apply (s : Settings) (p : Patch) : Settings where
  bindAddress := p.bindAddress.getD s.bindAddress
  tcpPort := p.tcpPort.getD s.tcpPort
  shutdownSeconds := p.shutdownSeconds.getD s.shutdownSeconds
  fixturesPath := p.fixturesPath <|> s.fixturesPath
  sessionHeader := p.sessionHeader.getD s.sessionHeader
  maxSessions := p.maxSessions.getD s.maxSessions
  idleSeconds := p.idleSeconds.getD s.idleSeconds
  logLevel := p.logLevel.getD s.logLevel
  logFormat := p.logFormat.getD s.logFormat

inductive Setting where
  | bindAddress
  | tcpPort
  | shutdownSeconds
  | fixturesPath
  | sessionHeader
  | maxSessions
  | idleSeconds
  | logLevel
  | logFormat
deriving DecidableEq, Repr

/-- The name of a setting is its place in a settings file: section, dot and key. -/
instance : Named Setting where
  all := [.bindAddress, .tcpPort, .shutdownSeconds, .fixturesPath, .sessionHeader, .maxSessions,
    .idleSeconds, .logLevel, .logFormat]
  name
    | .bindAddress => "server.bind_address"
    | .tcpPort => "server.port"
    | .shutdownSeconds => "server.graceful_shutdown_secs"
    | .fixturesPath => "data.fixtures_path"
    | .sessionHeader => "wizard.session_header"
    | .maxSessions => "wizard.max_sessions"
    | .idleSeconds => "wizard.session_idle_secs"
    | .logLevel => "logging.level"
    | .logFormat => "logging.format"
  mem_all a := by cases a <;> decide
  names_nodup := by decide

namespace Setting

def place (s : Setting) : List String := (Text.cut '.' (Named.name s).toList).map String.ofList

/-- The environment variables that give a setting; the first that says something counts. -/
def variableNames : Setting → List String
  | .bindAddress => ["MYMOVE_SERVER_BIND_ADDRESS"]
  | .tcpPort => ["MYMOVE_SERVER_PORT"]
  | .shutdownSeconds => ["MYMOVE_SERVER_GRACEFUL_SHUTDOWN_SECS"]
  | .fixturesPath => ["MYMOVE_DATA_FIXTURES_PATH"]
  | .sessionHeader => ["MYMOVE_WIZARD_SESSION_HEADER"]
  | .maxSessions => ["MYMOVE_WIZARD_MAX_SESSIONS"]
  | .idleSeconds => ["MYMOVE_WIZARD_SESSION_IDLE_SECS"]
  | .logLevel => ["MYMOVE_LOGGING_LEVEL", "MYMOVE_LOG_LEVEL"]
  | .logFormat => ["MYMOVE_LOGGING_FORMAT", "MYMOVE_LOG_FORMAT"]

def shown (settings : Settings) : Setting → String
  | .bindAddress => settings.bindAddress
  | .tcpPort => toString settings.tcpPort
  | .shutdownSeconds => toString settings.shutdownSeconds
  | .fixturesPath => settings.fixturesPath.getD "<unset>"
  | .sessionHeader => settings.sessionHeader
  | .maxSessions => toString settings.maxSessions
  | .idleSeconds => toString settings.idleSeconds
  | .logLevel => settings.logLevel
  | .logFormat => settings.logFormat.title

end Setting

end Relocation
