import Relocation.Command.Report
import Relocation.Wizard.StandardFlow

/-! The command that lists the pages in flow for a state, and describes one of them. -/

namespace Relocation.Command

open Wizard

structure FlowArguments where
  serviceMemberId : Option String := none
  moveType : Option MoveType := none
  moveId : Option MoveId := none
  ordersId : Option OrdersId := none
  page : Option PageKey := none
deriving DecidableEq

namespace FlowArguments

def state (a : FlowArguments) : State :=
  let s : State := { serviceMemberId := a.serviceMemberId, moveType := a.moveType }
  let s := a.ordersId.elim s s.withOrders
  a.moveId.elim s s.withMove

end FlowArguments

def typeName (t? : Option MoveType) : String := t?.elim "<unset>" MoveType.name

/-- A page by number, with its path or, while that needs more context, its pattern. -/
def pageLine (s : State) (number : Nat) (page : Page) : String :=
  let number := Text.padLeft ' ' 2 (toString number)
  let path := (page.href? s).getD page.path.raw
  s!"  {number}. {page.key.name} {path}"

def pageLines (s : State) (pages : List Page) : List String :=
  pages.mapIdx fun i page => pageLine s (i + 1) page

def neighbourLine (label : String) (neighbour? : Option PageKey)
    (path : Except Violation (Option String)) : String :=
  match neighbour? with
  | none => s!"  {label}: <none>"
  | some key =>
    let path := path.toOption.join.getD "<needs more context>"
    s!"  {label}: {key.name} {path}"

def submitText : Except Violation SubmitAction → String
  | .ok .advance => "advance"
  | .ok (.createMove id) => s!"create move for orders {id}"
  | .error v => s!"blocked ({v.message})"

def stopLines (stop : Stop) : List String :=
  let key := stop.page.key.name
  let n := stop.navigation
  let step := n.position.elim 0 (· + 1)
  let params := stop.state.pathParams
  [s!"page {key}: in flow (step {step} of {n.total})",
    neighbourLine "previous" n.previous (stop.previousPath params),
    neighbourLine "next" n.next (stop.nextPath params),
    s!"  submit: {submitText stop.submitAction}"]

def describePage (flow : Wizard.Flow) (key : PageKey) (s : State) : List String :=
  match flow.route? key s with
  | none => [s!"page {key.name}: not declared in the flow table"]
  | some route =>
    route.stop?.elim [s!"page {key.name}: missing context (not in flow for this state)"] stopLines

def flowLines (flow : Wizard.Flow) (a : FlowArguments) : List String :=
  let s := a.state
  let pages := flow.inFlowPages s
  let total := flow.pages.length
  s!"in-flow pages for move type {typeName s.moveType} ({pages.length} of {total}):" ::
    (pageLines s pages ++ a.page.elim [] fun key => describePage flow key s)

def flow (a : FlowArguments) : Report where
  command := "flow"
  message := Text.joinLines (flowLines standardFlow a)

end Relocation.Command
