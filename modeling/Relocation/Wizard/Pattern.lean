import Relocation.Dictionary
import Relocation.Violation

/-! Path patterns: parts between slashes, each a literal or a parameter in braces. A pattern
matches paths and is filled in to make one. -/

namespace Relocation.Wizard

/-- The parts of a path that are not empty. -/
def pathParts (path : String) : List String :=
  ((Text.cut '/' path.toList).filter (· ≠ [])).map String.ofList

inductive Segment where
  | literal (s : String)
  | parameter (name : String)
deriving DecidableEq, Repr

/-- A part that starts with an opening and ends with a closing brace is a parameter. -/
def Segment.ofPart (part : String) : Segment :=
  match part.toList with
  | '{' :: rest =>
    if rest.getLast? = some '}' then .parameter (String.ofList rest.dropLast) else .literal part
  | _ => .literal part

def Segment.parameterName? : Segment → Option String
  | .literal _ => none
  | .parameter name => some name

structure Pattern where
  raw : String
deriving DecidableEq, Repr

namespace Pattern

def segments (p : Pattern) : List Segment := (pathParts p.raw).map .ofPart

def parameterNames (p : Pattern) : List String := p.segments.filterMap Segment.parameterName?

def bindings? : List Segment → List String → Option (List (String × String))
  | [], [] => some []
  | .literal s :: segments, part :: parts => if s = part then bindings? segments parts else none
  | .parameter name :: segments, part :: parts =>
    (bindings? segments parts).map ((name, part) :: ·)
  | _, _ => none

/-- The parameters of a path that matches; empty parts of the path do not count, and of two
parameters with one name the last decides. -/
def match? (p : Pattern) (path : String) : Option (Dictionary String) :=
  (bindings? p.segments (pathParts path)).map .ofList

/-- The text that a segment is filled in with: a value that is not empty. -/
def fillSegment (p : Pattern) (params : Dictionary String) : Segment → Except Violation String
  | .literal s => .ok s
  | .parameter name =>
    match params.get? name with
    | some value => if value = "" then .error (.unboundParameter p.raw name) else .ok value
    | none => .error (.unboundParameter p.raw name)

/-- A path with a slash before each part; without parts it is the slash alone. -/
def joinParts : List String → String
  | [] => "/"
  | parts => String.join (parts.map ("/" ++ ·))

def fill (p : Pattern) (params : Dictionary String) : Except Violation String :=
  joinParts <$> p.segments.mapM (p.fillSegment params)

end Pattern

end Relocation.Wizard
