import Relocation.Text

/-! Percent escapes: `%` and two hexadecimal digits stand for a byte. -/

namespace Relocation.Http

def hexDigit? (b : UInt8) : Option Nat := Text.hexValue? (Char.ofNat b.toNat)

/-- Bytes with their escapes put in; what only looks like an escape stays. -/
def unescape : List UInt8 → List UInt8
  | [] => []
  | b :: high :: low :: rest =>
    if b = '%'.toUInt8 then
      match hexDigit? high, hexDigit? low with
      | some h, some l => UInt8.ofNat (h * 16 + l) :: unescape rest
      | _, _ => b :: unescape (high :: low :: rest)
    else b :: unescape (high :: low :: rest)
  | b :: rest => b :: unescape rest

def decodePercent? (s : String) : Option String :=
  String.fromUTF8? ⟨(unescape s.toUTF8.toList).toArray⟩

/-- In a form, a space is written `+`. -/
def decodeForm? (cs : List Char) : Option String :=
  decodePercent? (String.ofList (cs.map fun c => if c = '+' then ' ' else c))

/-- The names and values of a form in the order they come in; a part that does not make a text is
`none`. -/
def formFields (s : String) : List (Option String × Option String) :=
  ((Text.cut '&' s.toList).filter (· ≠ [])).map fun field =>
    let (name, value?) := Text.cutFirst '=' field
    (decodeForm? name, decodeForm? (value?.getD []))

end Relocation.Http
