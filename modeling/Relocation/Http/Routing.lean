import Relocation.Wizard.Pattern

/-! Finding the route for a path: each segment of a route takes one part of the path, and a
literal comes before a parameter. -/

namespace Relocation.Http

open Wizard (Segment)

/-- The segments of a route that is left, and where it leads. -/
abbrev Routes (α : Type) := List (List Segment × α)

namespace Routes

variable {α : Type}

/-- The segments of a route text; a slash at the end makes an empty one. -/
def segments (route : String) : List Segment :=
  (Text.cut '/' route.toList).map fun part => .ofPart (String.ofList part)

def afterLiteral (part : String) (routes : Routes α) : Routes α :=
  routes.filterMap fun (segments, a) =>
    match segments with
    | .literal s :: rest => if s = part then some (rest, a) else none
    | _ => none

def afterParameter (routes : Routes α) : Routes α :=
  routes.filterMap fun (segments, a) =>
    match segments with
    | .parameter _ :: rest => some (rest, a)
    | _ => none

/-- The route for the parts of a path, with what its parameters take. The last part is not taken
by a parameter if it is empty. -/
def route? (routes : Routes α) : List String → Option (α × List String)
  | [] => (List.find? (·.1.isEmpty) routes).map fun route => (route.2, [])
  | part :: parts =>
    if routes.isEmpty then none
    else match route? (afterLiteral part routes) parts with
      | some found => some found
      | none =>
        if part = "" ∧ parts = [] then none
        else (route? (afterParameter routes) parts).map fun (a, taken) => (a, part :: taken)

end Routes

end Relocation.Http
