import Relocation.Command.Line
import Std.Time

/-! The program: it looks at the files and variables that a command line may need, and prints what
the command has to say. -/

namespace Relocation.Program

def lookAt (path : String) : IO Entry := do
  try
    return .ofBytes (← IO.FS.readBinFile path)
  catch
    | .inappropriateType _ 21 _ => return .directory
    | .inappropriateType .. => return .notDirectory
    | _ => return .missing

def lookAtAll (paths : List String) : IO (Dictionary Entry) := do
  return .ofList (← paths.mapM fun path => return (path, ← lookAt path))

def filesOf (entries : Dictionary Entry) : Files := ⟨fun path => (entries.get? path).getD .missing⟩

def readEnvironment (files : Files) : IO Environment := do
  let file := (Settings.detect files).bind fun path => (files.look path).read.toOption
  let names := (Named.all : List Setting).flatMap Setting.variableNames ++
    (file.elim [] Interpolation.names)
  let values ← names.mapM fun name => return (← IO.getEnv name).map (name, ·)
  return ⟨.ofList (values.filterMap id)⟩

def fixture? (words : List String) : Option String :=
  match Command.Invocation.read? words with
  | some (.summary a) => a.fixture
  | _ => none

def currentDate : IO Date := do
  let now ← Std.Time.PlainDate.now
  match Date.of? now.year.toInt now.month.toNat now.day.toNat with
  | some date => return date
  | none => throw (.userError "the date is out of range")

def surroundings (words : List String) : IO Command.Surroundings := do
  let entries ← lookAtAll (Settings.usualPaths ++ (fixture? words).toList)
  let environment ← readEnvironment (filesOf entries)
  let settings := Settings.merged (filesOf entries) environment {}
  let fixtures ← lookAtAll (settings.toOption.bind Settings.fixturesPath).toList
  return { files := filesOf (entries.merge fixtures), environment, today := ← currentDate }

def usage : String :=
  "usage: flow [--service-member-id ID] [--move-type TYPE] [--move-id ID] [--orders-id ID] " ++
  "[--page PAGE]\n" ++
  "       summary [--fixture FILE] [--move-id ID]\n" ++
  "       config\n" ++
  "       doctor [--json]"

end Relocation.Program

open Relocation in
def main (words : List String) : IO UInt32 := do
  let (exitCode, output) := Command.runLine (← Program.surroundings words) words
  IO.print output
  if (Command.Invocation.read? words).isNone then
    IO.eprintln Program.usage
  return exitCode.toUInt32
