import Relocation.Text

/-! JSON values and the text they are written as: compact on one line, or indented by two
spaces. -/

namespace Relocation

inductive Json where
  | null
  | bool (b : Bool)
  | number (n : Int)
  | string (s : String)
  | array (items : List Json)
  | object (members : List (String × Json))
deriving Inhabited

namespace Json

def hexDigit (n : Nat) : Char :=
  if n < 10 then Char.ofNat ('0'.toNat + n) else Char.ofNat ('a'.toNat + (n - 10))

/-- A character inside a string: quote, backslash and the control characters below U+0020 are
written as escapes, everything else as it is. -/
def writeChar (c : Char) : List Char :=
  if c = '"' then ['\\', '"']
  else if c = '\\' then ['\\', '\\']
  else if c = '\x08' then ['\\', 'b']
  else if c = '\x0c' then ['\\', 'f']
  else if c = '\n' then ['\\', 'n']
  else if c = '\r' then ['\\', 'r']
  else if c = '\t' then ['\\', 't']
  else if c.toNat < 0x20 then
    ['\\', 'u', '0', '0', hexDigit (c.toNat / 16), hexDigit (c.toNat % 16)]
  else [c]

def writeString (s : String) : List Char :=
  '"' :: (s.toList.flatMap writeChar ++ ['"'])

mutual

def write : Json → List Char
  | null => "null".toList
  | bool b => (if b then "true" else "false").toList
  | number n => (toString n).toList
  | string s => writeString s
  | array [] => "[]".toList
  | array (item :: items) => '[' :: (write item ++ writeItems items)
  | object [] => "\x7b\x7d".toList
  | object ((k, v) :: members) => '{' :: (writeString k ++ ':' :: (write v ++ writeMembers members))

def writeItems : List Json → List Char
  | [] => [']']
  | item :: items => ',' :: (write item ++ writeItems items)

def writeMembers : List (String × Json) → List Char
  | [] => ['}']
  | (k, v) :: members => ',' :: (writeString k ++ ':' :: (write v ++ writeMembers members))

end

def render (j : Json) : String := String.ofList j.write

def newLine (depth : Nat) : List Char := '\n' :: List.replicate (2 * depth) ' '

mutual

/-- Text with each item and member on a line of its own; `depth` is the level of nesting. -/
def writeIndented (depth : Nat) : Json → List Char
  | array (item :: items) =>
    '[' :: (newLine (depth + 1) ++ writeIndented (depth + 1) item ++
      writeItemsIndented depth items)
  | object ((k, v) :: members) =>
    '{' :: (newLine (depth + 1) ++ writeString k ++ ':' :: ' ' :: writeIndented (depth + 1) v ++
      writeMembersIndented depth members)
  | null => "null".toList
  | bool b => (if b then "true" else "false").toList
  | number n => (toString n).toList
  | string s => writeString s
  | array [] => "[]".toList
  | object [] => "\x7b\x7d".toList

def writeItemsIndented (depth : Nat) : List Json → List Char
  | [] => newLine depth ++ [']']
  | item :: items =>
    ',' :: (newLine (depth + 1) ++ writeIndented (depth + 1) item ++
      writeItemsIndented depth items)

def writeMembersIndented (depth : Nat) : List (String × Json) → List Char
  | [] => newLine depth ++ ['}']
  | (k, v) :: members =>
    ',' :: (newLine (depth + 1) ++ writeString k ++ ':' :: ' ' :: writeIndented (depth + 1) v ++
      writeMembersIndented depth members)

end

def renderIndented (j : Json) : String := String.ofList (j.writeIndented 0)

def ofOption (s? : Option String) : Json := s?.elim null string

def strings (l : List String) : Json := array (l.map string)

def member? (name : String) : Json → Option Json
  | object members => (members.find? (fun m => m.1 = name)).map (·.2)
  | _ => none

end Json

end Relocation
