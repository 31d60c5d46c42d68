import Relocation.Http.MediaType
import Relocation.Http.Target
import Relocation.Json.Value

/-! Requests and responses. -/

namespace Relocation.Http

/-- Header names are in lower case. -/
structure Request where
  method : String
  target : Target
  headers : List (String × String) := []
  body : String := ""
deriving DecidableEq

def isValueChar (c : Char) : Bool := c = '\t' || (0x1F < c.toNat && c.toNat ≠ 0x7F)

namespace Request

def of? (method target : String) (headers : List (String × String)) (body : String) :
    Option Request := do
  let target ← Target.read? target
  if isToken method.toList && headers.all fun (name, value) =>
      isToken name.toList && value.toList.all isValueChar then
    return {
      method, target, body
      headers := headers.map fun (name, value) => (Text.lower name, value) }
  else none

def path (r : Request) : String := r.target.path

/-- The first value of a header, where it is printable ASCII. -/
def header? (r : Request) (name : String) : Option String :=
  ((r.headers.find? (·.1 = name)).map (·.2)).filter fun value =>
    value.toList.all fun c => c.toNat < 0x7F

def hasJson (r : Request) : Bool :=
  ((r.header? "content-type").bind MediaType.read?).any MediaType.isJson

end Request

/-- What a response holds. The words that explain a malformed request are free, so they are not
kept. -/
inductive Content where
  | nothing
  | explanation
  | json (value : Json)
  | html (text : String)
deriving Inhabited

structure Response where
  status : Nat
  content : Content := .nothing

end Relocation.Http
