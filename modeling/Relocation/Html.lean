import Relocation.Text

/-! HTML as parts: markup that is meant as such, and values, whose special characters are written
as entities. -/

namespace Relocation.Html

def escapeChar (c : Char) : List Char :=
  if c = '&' then "&amp;".toList
  else if c = '<' then "&lt;".toList
  else if c = '>' then "&gt;".toList
  else if c = '"' then "&quot;".toList
  else if c = '\'' then "&#x27;".toList
  else if c = '/' then "&#x2F;".toList
  else [c]

def escape (s : String) : String := String.ofList (s.toList.flatMap escapeChar)

inductive Part where
  | markup (s : String)
  | value (s : String)
deriving DecidableEq, Repr

def Part.render : Part → String
  | .markup s => s
  | .value s => escape s

def render (parts : List Part) : String := String.join (parts.map Part.render)

end Relocation.Html
