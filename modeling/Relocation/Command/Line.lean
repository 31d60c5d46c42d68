import Relocation.Command.Configuration
import Relocation.Command.Doctor
import Relocation.Command.Summaries

/-! Command lines: the name of a command and its options. Options of a command are written
`--name value` or `--name=value`, each at most once; `--` may end the line. -/

namespace Relocation.Command

structure Options where
  values : List (String × String) := []
  flags : List String := []

namespace Options

def isGiven (o : Options) (name : String) : Bool :=
  o.values.any (·.1 = name) || o.flags.contains name

def value? (o : Options) (name : String) : Option String :=
  (o.values.find? (·.1 = name)).map (·.2)

end Options

structure Grammar where
  valued : List String := []
  flags : List String := []

/-- A word that stands for itself: no option and no end of options. A lone `-` does. -/
def isPlainWord (word : String) : Bool :=
  match word.toList with
  | '-' :: _ :: _ => false
  | _ => true

def readOptions (g : Grammar) (o : Options) : List String → Option Options
  | [] => some o
  | "--" :: words => if words.isEmpty then some o else none
  | word :: words =>
    match word.toList with
    | '-' :: '-' :: cs =>
      let (name, value?) := Text.cutFirst '=' cs
      let name := String.ofList name
      if o.isGiven name then none
      else match value? with
        | some value =>
          if g.valued.contains name then
            readOptions g { o with values := (name, String.ofList value) :: o.values } words
          else none
        | none =>
          if g.flags.contains name then
            readOptions g { o with flags := name :: o.flags } words
          else if g.valued.contains name then
            match words with
            | value :: words =>
              if isPlainWord value then
                readOptions g { o with values := (name, value) :: o.values } words
              else none
            | [] => none
          else none
    | _ => none

def optionally {α : Type} (value? : Option String) (read : String → Option α) :
    Option (Option α) :=
  match value? with
  | none => some none
  | some value => (read value).map some

inductive Invocation where
  | flow (a : FlowArguments)
  | summary (a : SummaryArguments)
  | configuration
  | doctor (asJson : Bool)
deriving DecidableEq

namespace Invocation

def flowGrammar : Grammar where
  valued := ["service-member-id", "move-type", "move-id", "orders-id", "page"]

def ofFlowOptions? (o : Options) : Option Invocation := do
  let moveType ← optionally (o.value? "move-type") fun s => (MoveType.read s).toOption
  let page ← optionally (o.value? "page") Wizard.PageKey.read?
  return .flow {
    moveType, page
    serviceMemberId := o.value? "service-member-id"
    moveId := o.value? "move-id"
    ordersId := o.value? "orders-id" }

def summaryGrammar : Grammar where
  valued := ["fixture", "move-id"]

def ofSummaryOptions? (o : Options) : Option Invocation := do
  let fixture ← optionally (o.value? "fixture") fun s => if s = "" then none else some s
  return .summary { fixture, moveId := o.value? "move-id" }

def doctorGrammar : Grammar where
  flags := ["json"]

def read? : List String → Option Invocation
  | "flow" :: words => (readOptions flowGrammar {} words).bind ofFlowOptions?
  | "summary" :: words => (readOptions summaryGrammar {} words).bind ofSummaryOptions?
  | "config" :: words => (readOptions {} {} words).map fun _ => .configuration
  | "doctor" :: words =>
    (readOptions doctorGrammar {} words).map fun o => .doctor (o.isGiven "json")
  | _ => none

def run (w : Surroundings) : Invocation → Outcome
  | .flow a => (Command.flow a).outcome
  | .summary a => (Command.summary w a).outcome
  | .configuration => (Command.configuration w).outcome
  | .doctor asJson => Command.doctor w asJson

end Invocation

def runLine (w : Surroundings) (words : List String) : Nat × String :=
  match Invocation.read? words with
  | none => (2, "")
  | some invocation =>
    let outcome := invocation.run w
    (outcome.exitCode, outcome.output ++ "\n")

end Relocation.Command
