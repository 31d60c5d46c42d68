import Relocation.Date
import Relocation.Json.Document
import Relocation.Toml.Value

/-! Reading TOML 1.0 documents. Readers take the text from a place on and give what they found
with the text after it, or nothing. -/

namespace Relocation.Toml

abbrev Reader (α : Type) := List Char → Option (α × List Char)

def isBlank (c : Char) : Bool := c = ' ' || c = '\t'

def skipBlank (cs : List Char) : List Char := cs.dropWhile isBlank

/-- Characters that may stand in a comment and, but for its own marks, in a string. -/
def isPlain (c : Char) : Bool := c = '\t' || (0x20 ≤ c.toNat && c.toNat ≠ 0x7F)

def lineBreak? : List Char → Option (List Char)
  | '\n' :: cs => some cs
  | '\r' :: '\n' :: cs => some cs
  | _ => none

def skipComment : List Char → List Char
  | '#' :: cs => cs.dropWhile isPlain
  | cs => cs

/-- Blank characters, then a comment, then the end of the line. -/
def endLine? (cs : List Char) : Option (List Char) :=
  match skipComment (skipBlank cs) with
  | [] => some []
  | cs => lineBreak? cs

/-! ### Strings and keys -/

def consChar (c : Char) : Option (List Char × List Char) → Option (List Char × List Char) :=
  Option.map fun (s, rest) => (c :: s, rest)

/-- The character with a code point, unless it is half of a surrogate pair or too large. -/
def scalar? (n : Nat) : Option Char :=
  if n < 0xD800 ∨ (0xDFFF < n ∧ n < 0x110000) then some (Char.ofNat n) else none

def shortEscape? : Char → Option Char
  | 'b' => some '\x08'
  | 't' => some '\t'
  | 'n' => some '\n'
  | 'f' => some '\x0c'
  | 'r' => some '\r'
  | '"' => some '"'
  | '\\' => some '\\'
  | _ => none

def longEscape? (ds : List Char) : Option Char := (Text.hexNumber? ds).bind scalar?

def readBasic : Reader (List Char)
  | [] => none
  | '"' :: cs => some ([], cs)
  | '\\' :: cs =>
    match cs with
    | 'u' :: a :: b :: c :: d :: rest =>
      (longEscape? [a, b, c, d]).bind (consChar · (readBasic rest))
    | 'U' :: a :: b :: c :: d :: e :: f :: g :: h :: rest =>
      (longEscape? [a, b, c, d, e, f, g, h]).bind (consChar · (readBasic rest))
    | e :: rest => (shortEscape? e).bind (consChar · (readBasic rest))
    | [] => none
  | c :: cs => if isPlain c then consChar c (readBasic cs) else none

def readLiteral : Reader (List Char)
  | [] => none
  | '\'' :: cs => some ([], cs)
  | c :: cs => if isPlain c then consChar c (readLiteral cs) else none

/-- A basic string of several lines after its first line break. Up to two quotes may stand before
the closing ones. While `trimming`, after a backslash at the end of a line, white space and line
breaks do not count. -/
def readLines (trimming : Bool) : Reader (List Char)
  | [] => none
  | '\n' :: cs => if trimming then readLines true cs else consChar '\n' (readLines false cs)
  | '\r' :: '\n' :: cs => if trimming then readLines true cs else consChar '\n' (readLines false cs)
  | '"' :: '"' :: '"' :: '"' :: '"' :: cs => some (['"', '"'], cs)
  | '"' :: '"' :: '"' :: '"' :: cs => some (['"'], cs)
  | '"' :: '"' :: '"' :: cs => some ([], cs)
  | '\\' :: cs =>
    if (lineBreak? (skipBlank cs)).isSome then readLines true cs
    else match cs with
      | 'u' :: a :: b :: c :: d :: rest =>
        (longEscape? [a, b, c, d]).bind (consChar · (readLines false rest))
      | 'U' :: a :: b :: c :: d :: e :: f :: g :: h :: rest =>
        (longEscape? [a, b, c, d, e, f, g, h]).bind (consChar · (readLines false rest))
      | e :: rest => (shortEscape? e).bind (consChar · (readLines false rest))
      | [] => none
  | c :: cs =>
    if trimming && isBlank c then readLines true cs
    else if isPlain c then consChar c (readLines false cs) else none

def readLiteralLines : Reader (List Char)
  | [] => none
  | '\n' :: cs => consChar '\n' (readLiteralLines cs)
  | '\r' :: '\n' :: cs => consChar '\n' (readLiteralLines cs)
  | '\'' :: '\'' :: '\'' :: '\'' :: '\'' :: cs => some (['\'', '\''], cs)
  | '\'' :: '\'' :: '\'' :: '\'' :: cs => some (['\''], cs)
  | '\'' :: '\'' :: '\'' :: cs => some ([], cs)
  | c :: cs => if isPlain c then consChar c (readLiteralLines cs) else none

def text (r : Option (List Char × List Char)) : Option (Toml × List Char) :=
  r.map fun (s, rest) => (.string (String.ofList s), rest)

def readString : Reader Toml
  | '"' :: '"' :: '"' :: cs => text (readLines false ((lineBreak? cs).getD cs))
  | '"' :: cs => text (readBasic cs)
  | '\'' :: '\'' :: '\'' :: cs => text (readLiteralLines ((lineBreak? cs).getD cs))
  | '\'' :: cs => text (readLiteral cs)
  | _ => none

def isBare (c : Char) : Bool := c.isAlphanum || c = '_' || c = '-'

/-- One part of a key: quoted, or letters, digits, `_` and `-` as they are. -/
def readKeyPart : Reader (List Char)
  | '"' :: cs => readBasic cs
  | '\'' :: cs => readLiteral cs
  | cs =>
    let part := cs.takeWhile isBare
    if part = [] then none else some (part, cs.dropWhile isBare)

/-- The parts of a key with dots between them; blank characters may stand around each. -/
def readKeyParts : Nat → Reader (List String)
  | 0, _ => none
  | fuel + 1, cs => do
    let (part, cs) ← readKeyPart (skipBlank cs)
    match skipBlank cs with
    | '.' :: cs => do
      let (parts, cs) ← readKeyParts fuel cs
      return (String.ofList part :: parts, cs)
    | cs => return ([String.ofList part], cs)

/-- A key has fewer than 80 parts. -/
def readKey : Reader (List String) := readKeyParts 79

/-! ### Numbers, dates and words -/

/-- Digits that satisfy `p`, with single underscores between them. -/
def readDigits (p : Char → Bool) : Reader (List Char)
  | [] => none
  | c :: cs =>
    if p c then
      match cs with
      | '_' :: d :: rest => if p d then consChar c (readDigits p (d :: rest)) else none
      | ['_'] => none
      | d :: rest => if p d then consChar c (readDigits p (d :: rest)) else some ([c], d :: rest)
      | [] => some ([c], [])
    else none

def readSign : List Char → Bool × List Char
  | '-' :: cs => (true, cs)
  | '+' :: cs => (false, cs)
  | cs => (false, cs)

def readDecimal : Reader (List Char)
  | '0' :: cs => some (['0'], cs)
  | cs => readDigits Char.isDigit cs

/-- Whether a number fits into 64 bits with a sign. -/
def inRange (n : Int) : Bool := -0x8000000000000000 ≤ n && n < 0x8000000000000000

def readBased (base : Nat) (p : Char → Bool) (cs : List Char) : Option (Toml × List Char) := do
  let (ds, rest) ← readDigits p cs
  let n : Int := ds.foldl (fun n d => n * base + (Text.hexValue? d).getD 0) 0
  if inRange n then return (.integer n, rest) else none

def readExponent (cs : List Char) : Option (Int × List Char) := do
  let (negative, cs) := readSign cs
  let (ds, rest) ← readDigits Char.isDigit cs
  let n : Int := Text.digitsValue 0 ds
  return (if negative then -n else n, rest)

/-- The fraction and exponent after integer digits, of which there has to be one; the written form
is not kept where it is a float. A positive float has to be finite. -/
def readFloatTail (negative : Bool) (ds cs : List Char) : Option (Toml × List Char) := do
  let (fs, cs, hasFraction) ← match cs with
    | '.' :: cs => (readDigits Char.isDigit cs).map fun (fs, rest) => (fs, rest, true)
    | cs => some ([], cs, false)
  let (e, cs, hasExponent) ← match cs with
    | 'e' :: cs => (readExponent cs).map fun (e, rest) => (e, rest, true)
    | 'E' :: cs => (readExponent cs).map fun (e, rest) => (e, rest, true)
    | cs => some (0, cs, false)
  if hasFraction || hasExponent then
    if negative || Double.isFinite (Text.digitsValue 0 (ds ++ fs)) (e - fs.length) then
      return (.float (String.ofList (ds ++ fs)), cs)
    else none
  else
    let n : Int := Text.digitsValue 0 ds
    let n := if negative then -n else n
    if inRange n then return (.integer n, cs) else none

/-- A decimal number, or `inf` or `nan` with a sign. -/
def readDecimalNumber (cs : List Char) : Option (Toml × List Char) :=
  let (negative, cs) := readSign cs
  match cs with
  | 'i' :: 'n' :: 'f' :: cs => some (.float "inf", cs)
  | 'n' :: 'a' :: 'n' :: cs => some (.float "nan", cs)
  | cs => do
    let (ds, cs) ← readDecimal cs
    readFloatTail negative ds cs

def readNumber : Reader Toml
  | '0' :: 'x' :: cs => readBased 16 (fun c => (Text.hexValue? c).isSome) cs
  | '0' :: 'o' :: cs => readBased 8 (fun c => '0' ≤ c && c ≤ '7') cs
  | '0' :: 'b' :: cs => readBased 2 (fun c => c = '0' || c = '1') cs
  | cs => readDecimalNumber cs

def readFixed (count : Nat) (cs : List Char) : Option (Nat × List Char) :=
  let ds := cs.take count
  if ds.length = count ∧ ds.all Char.isDigit then
    some (Text.digitsValue 0 ds, cs.drop count)
  else none

def readFixedUpTo (count limit : Nat) (cs : List Char) : Option (Nat × List Char) :=
  (readFixed count cs).filter fun (n, _) => n ≤ limit

def expect (c : Char) : List Char → Option (List Char)
  | [] => none
  | d :: cs => if d = c then some cs else none

/-- The text after minutes, seconds and a fraction of a second; second 60 is a leap second. -/
def readMinutes (cs : List Char) : Option (List Char) := do
  let (_, cs) ← readFixedUpTo 2 59 cs
  let (_, cs) ← readFixedUpTo 2 60 (← expect ':' cs)
  match cs with
  | '.' :: d :: rest => return if d.isDigit then rest.dropWhile Char.isDigit else cs
  | cs => return cs

/-- The text after a time offset, where there is one; `none` where it breaks off. -/
def readOffset (cs : List Char) : Option (List Char) :=
  let hours (cs : List Char) : Option (List Char) := do
    let (_, cs) ← readFixedUpTo 2 23 cs
    let (_, cs) ← readFixedUpTo 2 59 (← expect ':' cs)
    return cs
  match cs with
  | 'Z' :: cs => some cs
  | 'z' :: cs => some cs
  | '+' :: cs => hours cs
  | '-' :: cs => hours cs
  | cs => some cs

/-- The hour of a time with the colon after it, by which a time is known. -/
def startTime? (cs : List Char) : Option (List Char) := do
  let (_, cs) ← readFixedUpTo 2 23 cs
  expect ':' cs

/-- The text after month and day of a date. -/
def readMonth (year : Nat) (cs : List Char) : Option (List Char) := do
  let (month, cs) ← readFixedUpTo 2 12 cs
  let (day, cs) ← readFixedUpTo 2 31 (← expect '-' cs)
  if 1 ≤ month ∧ 1 ≤ day ∧ day ≤ daysInMonth year month then return cs else none

/-- The text after a time that may follow a date. -/
def readTimeOfDay (cs : List Char) : Option (List Char) :=
  match cs with
  | c :: rest =>
    if c = 'T' ∨ c = 't' ∨ c = ' ' then
      match startTime? rest with
      | some rest => do readOffset (← readMinutes rest)
      | none => some cs
    else some cs
  | [] => some []

/-- A date, a time or a number; what starts like a date or a time has to be one. -/
def readNumeric (cs : List Char) : Option (Toml × List Char) :=
  let date (rest : List Char) : Toml × List Char :=
    (.datetime (String.ofList (cs.take (cs.length - rest.length))), rest)
  match readFixed 4 cs with
  | some (year, '-' :: rest) => do return date (← readTimeOfDay (← readMonth year rest))
  | _ =>
    match startTime? cs with
    | some rest => do return date (← readMinutes rest)
    | none => readNumber cs

def readWord (word : String) (t : Toml) (cs : List Char) : Option (Toml × List Char) :=
  if word.toList.isPrefixOf cs then some (t, cs.drop word.length) else none

/-! ### Values and documents -/

def skipLines : Nat → List Char → List Char
  | 0, cs => cs
  | fuel + 1, cs =>
    let cs := skipComment (skipBlank cs)
    match lineBreak? cs with
    | some rest => skipLines fuel rest
    | none => cs

mutual

/-- A value; `depth` arrays and inline tables may be opened in it. -/
def readValue : Nat → Nat → Reader Toml
  | 0, _, _ => none
  | fuel + 1, depth, cs =>
    match cs with
    | [] => none
    | '"' :: _ => readString cs
    | '\'' :: _ => readString cs
    | '[' :: rest =>
      match depth with
      | 0 => none
      | depth + 1 =>
        match skipLines rest.length rest with
        | ']' :: rest => some (.array [], rest)
        | _ => do
          let (items, rest) ← readItems fuel depth rest
          return (.array items, rest)
    | '{' :: rest =>
      match depth with
      | 0 => none
      | depth + 1 =>
        match skipBlank rest with
        | '}' :: rest => some (.table [], rest)
        | _ => do
          let (pairs, rest) ← readPairs fuel depth rest
          return (← ofPairs pairs, rest)
    | 't' :: _ => readWord "true" (.boolean true) cs
    | 'f' :: _ => readWord "false" (.boolean false) cs
    | 'i' :: _ => readWord "inf" (.float "inf") cs
    | 'n' :: _ => readWord "nan" (.float "nan") cs
    | c :: _ => if c = '+' ∨ c = '-' ∨ c.isDigit then readNumeric cs else none

def readItems : Nat → Nat → Reader (List Toml)
  | 0, _, _ => none
  | fuel + 1, depth, cs => do
    let (item, cs) ← readValue fuel depth (skipLines cs.length cs)
    match skipLines cs.length cs with
    | ',' :: cs =>
      match skipLines cs.length cs with
      | ']' :: rest => return ([item], rest)
      | _ => do
        let (items, rest) ← readItems fuel depth cs
        return (item :: items, rest)
    | ']' :: rest => return ([item], rest)
    | _ => none

def readPairs : Nat → Nat → Reader (List (List String × Toml))
  | 0, _, _ => none
  | fuel + 1, depth, cs => do
    let (key, cs) ← readKey cs
    let (value, cs) ← readValue fuel depth (skipBlank (← expect '=' cs))
    match skipBlank cs with
    | ',' :: cs => do
      let (pairs, rest) ← readPairs fuel depth cs
      return ((key, value) :: pairs, rest)
    | '}' :: rest => return ([(key, value)], rest)
    | _ => none

end

def readStatement : Reader Statement
  | '[' :: '[' :: cs => do
    let (path, cs) ← readKey cs
    let cs ← endLine? (← expect ']' (← expect ']' cs))
    return (.arrayHeader path, cs)
  | '[' :: cs => do
    let (path, cs) ← readKey cs
    let cs ← endLine? (← expect ']' cs)
    return (.header path, cs)
  | cs => do
    let (path, cs) ← readKey cs
    let cs := skipBlank (← expect '=' cs)
    let (value, cs) ← readValue (2 * cs.length + 2) 79 cs
    return (.assign path value, ← endLine? cs)

/-- The statements of a document, with empty lines and comments between them. -/
def readStatements : Nat → List Char → Option (List Statement)
  | 0, _ => none
  | fuel + 1, cs =>
    match skipBlank cs with
    | [] => some []
    | '#' :: cs => do readStatements fuel (← endLine? ('#' :: cs))
    | '\n' :: cs => readStatements fuel cs
    | '\r' :: cs => do readStatements fuel (← lineBreak? ('\r' :: cs))
    | cs => do
      let (s, cs) ← readStatement cs
      return s :: (← readStatements fuel cs)

/-- The table of a document; a byte order mark in front does not count. -/
def read? (s : String) : Option Toml := do
  let cs := match s.toList with
    | '\uFEFF' :: cs => cs
    | cs => cs
  ofStatements (← readStatements (cs.length + 1) cs)

end Relocation.Toml
