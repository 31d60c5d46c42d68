/-! Text rules that names, environment values, headers and paths are read with: which
characters are blank, trimming, ASCII letter case, titles as names, and cutting text at a
separator. -/

namespace Relocation.Text

/-- The characters with Unicode's `White_Space` property. -/
def isBlank (c : Char) : Bool :=
  let n := c.toNat
  (0x9 ≤ n && n ≤ 0xD) || n == 0x20 || n == 0x85 || n == 0xA0 || n == 0x1680 ||
    (0x2000 ≤ n && n ≤ 0x200A) || n == 0x2028 || n == 0x2029 || n == 0x202F ||
    n == 0x205F || n == 0x3000

def trimLeft (cs : List Char) : List Char := cs.dropWhile isBlank

def trimChars (cs : List Char) : List Char := (trimLeft (trimLeft cs).reverse).reverse

def trim (s : String) : String := String.ofList (trimChars s.toList)

def isBlankText (s : String) : Bool := s.toList.all isBlank

def upper (s : String) : String := String.ofList (s.toList.map Char.toUpper)

/-- ASCII letters in lower case; every other character is kept. -/
def lower (s : String) : String := String.ofList (s.toList.map Char.toLower)

/-- The words of a title, each of which begins with a capital letter, in lower case and with a mark
between them. -/
def spaceWords (mark : Char) : List Char → List Char
  | [] => []
  | c :: cs =>
    c.toLower :: cs.flatMap fun c => if c.isUpper then [mark, c.toLower] else [c.toLower]

def snakeCase (title : String) : String := String.ofList (spaceWords '_' title.toList)

def upperSnakeCase (title : String) : String := upper (snakeCase title)

def kebabCase (title : String) : String := String.ofList (spaceWords '-' title.toList)

/-- The stretches of `cs` between occurrences of `sep`, the empty ones included. -/
def cut (sep : Char) : List Char → List (List Char)
  | [] => [[]]
  | c :: cs =>
    if c = sep then [] :: cut sep cs
    else match cut sep cs with
      | [] => [[c]]
      | piece :: pieces => (c :: piece) :: pieces

/-- `cs` before the first occurrence of `sep` and after it; `none` where there is no `sep`. -/
def cutFirst (sep : Char) (cs : List Char) : List Char × Option (List Char) :=
  (cs.takeWhile (· ≠ sep), (cs.dropWhile (· ≠ sep)).tail? )

def joinLines (lines : List String) : String := String.intercalate "\n" lines

def padLeft (fill : Char) (width : Nat) (s : String) : String :=
  String.ofList (List.replicate (width - s.length) fill ++ s.toList)

/-- Reads digits of base ten from the left, after `acc`. -/
def digitsValue (acc : Nat) (ds : List Char) : Nat :=
  ds.foldl (fun n d => n * 10 + (d.toNat - '0'.toNat)) acc

def hexValue? (c : Char) : Option Nat :=
  if '0' ≤ c ∧ c ≤ '9' then some (c.toNat - '0'.toNat)
  else if 'a' ≤ c ∧ c ≤ 'f' then some (c.toNat - 'a'.toNat + 10)
  else if 'A' ≤ c ∧ c ≤ 'F' then some (c.toNat - 'A'.toNat + 10)
  else none

def hexNumber? (ds : List Char) : Option Nat :=
  ds.foldlM (fun n d => (hexValue? d).map (n * 16 + ·)) 0

/-- The value of an unsigned decimal: an optional `+`, then one or more ASCII digits. -/
def readUnsigned? (s : String) : Option Nat :=
  let ds := match s.toList with
    | '+' :: rest => rest
    | cs => cs
  if ds ≠ [] ∧ ds.all Char.isDigit then some (digitsValue 0 ds) else none

end Relocation.Text
