import Relocation.Text

/-! Request targets: the path and the query that a request is for. A fragment does not count. -/

namespace Relocation.Http

structure Target where
  path : String
  query : String := ""
deriving DecidableEq, Repr

def isVisible (c : Char) : Bool := 0x20 < c.toNat && c.toNat ≠ 0x7F

/-- The characters of a path. Only a blank, a control character and a few marks have to be
written as escapes. -/
def isPathChar (c : Char) : Bool := isVisible c && !"<>`".toList.contains c

def isQueryChar (c : Char) : Bool := isVisible c && !"\"<>".toList.contains c

def isHostChar (c : Char) : Bool := c.isAlphanum || "!$&'()*+,-.;=_~".toList.contains c

/-- What was met of an authority: the brackets of an address, and the colons and escapes since the
last `@` or closing bracket. -/
structure AuthorityScan where
  isOpened : Bool := false
  isClosed : Bool := false
  colons : Nat := 0
  hasEscape : Bool := false

namespace AuthorityScan

def step (s : AuthorityScan) (c : Char) : Option AuthorityScan :=
  if c = ':' then if s.colons < 8 then some { s with colons := s.colons + 1 } else none
  else if c = '[' then if s.isOpened || s.hasEscape then none else some { s with isOpened := true }
  else if c = ']' then
    if s.isOpened && !s.isClosed then some { isOpened := true, isClosed := true } else none
  else if c = '@' then some { s with colons := 0, hasEscape := false }
  else if c = '%' then some { s with hasEscape := true }
  else if isHostChar c then some s
  else none

def isComplete (s : AuthorityScan) : Bool :=
  s.isOpened == s.isClosed && s.colons ≤ 1 && !s.hasEscape

end AuthorityScan

def isAuthority (cs : List Char) : Bool :=
  cs ≠ [] && cs.getLast? ≠ some '@' && (cs.foldlM AuthorityScan.step {}).any (·.isComplete)

namespace Target

/-- The target with a path, a query after `?`, and nothing of what follows `#`. -/
def ofPath? (cs : List Char) : Option Target :=
  let (cs, _) := Text.cutFirst '#' cs
  let (path, query?) := Text.cutFirst '?' cs
  let query := query?.getD []
  if path.all isPathChar && query.all isQueryChar then
    some ⟨String.ofList path, String.ofList query⟩
  else none

def isSchemeChar (c : Char) : Bool := c.isAlphanum || "+-.~".toList.contains c

def afterScheme? (cs : List Char) : Option (List Char) :=
  match cs.dropWhile isSchemeChar with
  | ':' :: '/' :: '/' :: rest => some rest
  | _ => none

/-- A target with an authority; an empty path stands for the root. -/
def ofAbsolute? (cs : List Char) : Option Target :=
  let authority := cs.takeWhile fun c => c ≠ '/' && c ≠ '?' && c ≠ '#'
  if isAuthority authority then
    (ofPath? (cs.drop authority.length)).map fun t =>
      if t.path = "" then { t with path := "/" } else t
  else none

def maxSize : Nat := 65534

def maxScheme : Nat := 64

/-- Reads a target: a path from the root, an address with a scheme, or an authority alone, which
has no path. -/
def read? (s : String) : Option Target :=
  if s.utf8ByteSize > maxSize then none
  else match s.toList with
    | '/' :: cs => ofPath? ('/' :: cs)
    | ['*'] => some ⟨"*", ""⟩
    | cs =>
      match afterScheme? cs with
      | some rest =>
        if (cs.takeWhile isSchemeChar).length ≤ maxScheme then ofAbsolute? rest else none
      | none => if isAuthority cs then some ⟨"", ""⟩ else none

end Target

end Relocation.Http
