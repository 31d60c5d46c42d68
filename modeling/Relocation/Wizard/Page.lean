import Relocation.Wizard.Pattern
import Relocation.Wizard.State

/-! Pages of a wizard: where they are, when they take part, and what a submit does. -/

namespace Relocation.Wizard

inductive Condition where
  | always
  | hasHhg
  | hasPpm
  | isCombo
  | ppmOnly
deriving DecidableEq, Repr

instance : Named Condition where
  all := [.always, .hasHhg, .hasPpm, .isCombo, .ppmOnly]
  name
    | .always => "always"
    | .hasHhg => "has_hhg"
    | .hasPpm => "has_ppm"
    | .isCombo => "is_combo"
    | .ppmOnly => "ppm_only"
  mem_all a := by cases a <;> decide
  names_nodup := by decide

/-- A condition on the move type fails while none is selected. -/
def Condition.holds : Condition → State → Bool
  | .always, _ => true
  | .hasHhg, s => s.moveType.any (· ≠ .ppm)
  | .hasPpm, s => s.moveType.any (· ≠ .hhg)
  | .isCombo, s => s.moveType = some .hhgPpm
  | .ppmOnly, s => s.moveType = some .ppm

/-- A form, a page to read and go on from, or one that only shows its title so far. -/
inductive View where
  | form
  | transition
  | placeholder
deriving DecidableEq, Repr

instance : Named View where
  all := [.form, .transition, .placeholder]
  name
    | .form => "form"
    | .transition => "transition"
    | .placeholder => "placeholder"
  mem_all a := by cases a <;> decide
  names_nodup := by decide

inductive OnSubmit where
  | advance
  | createMoveIfMissing
deriving DecidableEq, Repr

instance : Named OnSubmit where
  all := [.advance, .createMoveIfMissing]
  name
    | .advance => "advance"
    | .createMoveIfMissing => "create_move_if_missing"
  mem_all a := by cases a <;> decide
  names_nodup := by decide

structure Page where
  key : PageKey
  path : Pattern
  condition : Condition := .always
  view : View := .form
  description : Option String := none
  onSubmit : OnSubmit := .advance
deriving DecidableEq, Repr

namespace Page

def isInFlow (page : Page) (s : State) : Bool := page.condition.holds s

/-- The path of the page once the wizard knows all that it needs. -/
def href? (page : Page) (s : State) : Option String := (page.path.fill s.pathParams).toOption

def trimmedPath (page : Page) : String :=
  String.ofList (page.path.raw.toList.reverse.dropWhile (· = '/')).reverse

end Page

end Relocation.Wizard
