import Relocation.Command.Report
import Relocation.Settings.Load

/-! The command that prints every setting with the source that it comes from. -/

namespace Relocation.Command

inductive Source where
  | environment (name : String)
  | file (path : String)
  | default
deriving DecidableEq, Repr

def Source.text : Source → String
  | .environment name => s!"env ({name})"
  | .file path => s!"file ({path})"
  | .default => "default"

def rawTable? (w : Surroundings) (path : String) : Option Toml :=
  (w.files.look path).read.toOption.bind Toml.read?

/-- A variable comes before the file, the file before the default. -/
def source (w : Surroundings) (setting : Setting) : Source :=
  match setting.variableNames.find? w.environment.isSet with
  | some name => .environment name
  | none =>
    match Settings.detect w.files with
    | none => .default
    | some path =>
      if ((rawTable? w path).bind (Toml.getPath? setting.place)).isSome then .file path
      else .default

def settingLine (w : Surroundings) (settings : Settings) (setting : Setting) : String :=
  s!"- {Named.name setting} = {setting.shown settings} (source: {(source w setting).text})"

def configurationLines (w : Surroundings) (settings : Settings) : List String :=
  "effective config (source precedence: env > file > default):" ::
    (Named.all : List Setting).map (settingLine w settings)

def configuration (w : Surroundings) : Report :=
  match Settings.load w.files w.environment {} with
  | .ok settings =>
    { command := "config", message := Text.joinLines (configurationLines w settings) }
  | .error e =>
    { command := "config", fault := some .invalidSettings
      message := s!"config validation failed: {e.message}" }

end Relocation.Command
