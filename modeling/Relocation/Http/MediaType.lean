import Relocation.Text

/-! Media types: a type and a subtype with a slash between them, then parameters, each after a
semicolon. A subtype may have a suffix after its last `+`. -/

namespace Relocation.Http

def isTokenChar (c : Char) : Bool := c.isAlphanum || "!#$%&'*+-.^_`|~".toList.contains c

def isToken (cs : List Char) : Bool := cs ≠ [] && cs.all isTokenChar

def isQuotedChar (c : Char) : Bool := 0x1F < c.toNat && c.toNat ≠ 0x7F

/-- What follows a quoted value: nothing, or a semicolon and then more. -/
def afterQuoted? (cs : List Char) : Option (List Char) :=
  match cs.dropWhile (· = ' ') with
  | [] => some []
  | ';' :: rest => some rest
  | _ => none

/-- Whether a text is a list of parameters with semicolons between them. A quoted value has at
least one character, which may be a quote itself; only the last value may be empty. -/
def areParameters : Nat → List Char → Bool
  | 0, _ => false
  | fuel + 1, cs =>
    let cs := cs.dropWhile (· = ' ')
    let name := cs.takeWhile isTokenChar
    match cs.dropWhile isTokenChar with
    | [] => name.isEmpty
    | '=' :: '"' :: first :: cs =>
      match Text.cutFirst '"' cs with
      | (_, none) => false
      | (value, some rest) =>
        name ≠ [] && isQuotedChar first && value.all isQuotedChar &&
          (afterQuoted? rest).any (areParameters fuel)
    | '=' :: cs =>
      match Text.cutFirst ';' cs with
      | (value, none) => name ≠ [] && value.all isTokenChar
      | (value, some rest) => name ≠ [] && isToken value && areParameters fuel rest
    | _ => false

structure MediaType where
  type : List Char
  subtype : List Char
  suffix : Option (List Char)
deriving DecidableEq

namespace MediaType

/-- Subtype and suffix; a `+` in front does not start a suffix. -/
def cutSuffix (cs : List Char) : List Char × Option (List Char) :=
  let suffix := (cs.reverse.takeWhile (· ≠ '+')).reverse
  let before := cs.take (cs.length - suffix.length - 1)
  if before = [] then (cs, none) else (before, some suffix)

/-- Reads a media type; letter case does not count. -/
def read? (s : String) : Option MediaType :=
  match Text.cutFirst '/' s.toList with
  | (_, none) => none
  | (type, some rest) =>
    let (whole, parameters?) := Text.cutFirst ';' rest
    let wellFormed := parameters?.all fun cs => whole ≠ [] && areParameters (cs.length + 1) cs
    if isToken type && whole.all isTokenChar && wellFormed then
      let (subtype, suffix) := cutSuffix (whole.map Char.toLower)
      some { type := type.map Char.toLower, subtype, suffix }
    else none

def isJson (t : MediaType) : Bool :=
  t.type = "application".toList && (t.subtype = "json".toList || t.suffix = some "json".toList)

end MediaType

end Relocation.Http
