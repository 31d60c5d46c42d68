import Relocation.Dictionary
import Relocation.Text

/-! Environment variables. -/

namespace Relocation

/-- The variables by their names. A value that is no UTF-8 is left out: read as a text it counts as
not set, and only who asks whether the variable is there would notice it. -/
structure Environment where
  bindings : Dictionary String

namespace Environment

/-- A name that could not be one is never set. -/
def isName (name : String) : Bool :=
  name ≠ "" && name.toList.all fun c => c ≠ '=' && c ≠ '\x00'

def value? (env : Environment) (name : String) : Option String :=
  if isName name then env.bindings.get? name else none

def isSet (env : Environment) (name : String) : Bool := (env.value? name).isSome

/-- A value that says something: a blank one counts as not set. -/
def given? (env : Environment) (name : String) : Option String :=
  (env.value? name).filter fun v => !Text.isBlankText v

def firstGiven? (env : Environment) (names : List String) : Option String :=
  names.findSome? env.given?

end Environment

end Relocation
