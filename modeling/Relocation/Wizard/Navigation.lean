import Relocation.Wizard.Page

/-! The way from page to page: the neighbours of a page in a list, and the stop that an in-flow
page makes on the way. -/

namespace Relocation.Wizard

structure Navigation where
  current : PageKey
  position : Option Nat
  total : Nat
  previous : Option PageKey
  next : Option PageKey
deriving DecidableEq, Repr

namespace Navigation

/-- The first place of a page in a list, and its neighbours there. -/
def locate (current : PageKey) (pages : List PageKey) : Navigation :=
  let position := pages.findIdx? (· = current)
  { current, position
    total := pages.length
    previous := position.bind fun i => if i = 0 then none else pages[i - 1]?
    next := position.bind fun i => pages[i + 1]? }

def isFirst (n : Navigation) : Bool := n.position.isSome && n.previous.isNone

def isLast (n : Navigation) : Bool := n.position.isSome && n.next.isNone

end Navigation

inductive SubmitAction where
  | advance
  | createMove (ordersId : OrdersId)
deriving DecidableEq, Repr

/-- A page in flow together with all that it needs to be shown and left: the pages in flow, the
patterns of all declared pages and the state. -/
structure Stop where
  page : Page
  pages : List PageKey
  patterns : List (PageKey × Pattern)
  state : State
deriving DecidableEq

namespace Stop

def navigation (stop : Stop) : Navigation := .locate stop.page.key stop.pages

/-- The path of a neighbour, filled in from the state; the parameters in `extra` win. -/
def neighbourPath (stop : Stop) (neighbour? : Option PageKey) (extra : Dictionary String) :
    Except Violation (Option String) :=
  match neighbour? with
  | none => .ok none
  | some key =>
    match stop.patterns.find? (fun e => e.1 = key) with
    | none => .error (.invariant s!"in-flow page `{key.name}` has no declared path")
    | some (_, pattern) => some <$> pattern.fill (stop.state.pathParams.merge extra)

def nextPath (stop : Stop) (extra : Dictionary String) : Except Violation (Option String) :=
  stop.neighbourPath stop.navigation.next extra

def previousPath (stop : Stop) (extra : Dictionary String) : Except Violation (Option String) :=
  stop.neighbourPath stop.navigation.previous extra

/-- A page that creates a move needs orders, unless the wizard already has its move. -/
def submitAction (stop : Stop) : Except Violation SubmitAction :=
  match stop.page.onSubmit with
  | .advance => .ok .advance
  | .createMoveIfMissing =>
    if stop.state.hasMove then .ok .advance
    else match stop.state.ordersId with
      | some id => .ok (.createMove id)
      | none => .error (.missingOrders stop.page.key)

end Stop

end Relocation.Wizard
