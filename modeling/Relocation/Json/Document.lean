import Relocation.Double
import Relocation.Json.Value

/-! Reading JSON text from left to right. Reading never fails: a `Document` is what was found, up
to the place where the text stops being JSON, so that whoever interprets the document can tell
which problem comes first. -/

namespace Relocation.Json

/-- Why a text does not stand for a wanted value: it is not JSON, it ends too early, or it holds
a value of another kind. -/
inductive Cause where
  | malformed
  | truncated
  | mismatch
deriving DecidableEq, Repr

/-- The name of a member. A name that cannot be read ends the object; the cause depends on whether
the reader wants to know the name or passes over it. -/
inductive Name where
  | text (s? : Option String)
  | broken (read passedOver : Cause)

/-- What was found in a JSON text. A string is `none` where it holds half of a surrogate pair,
which is only a problem for who wants its text. A number knows whether it is within range. The last
item or member of a list may break off inside; `ends` is the cause where the list is neither closed
nor goes on. -/
inductive Document where
  | missing (cause : Cause)
  | null
  | brokenNull (cause : Cause)
  | bool (b : Bool)
  | number (inRange : Bool)
  | brokenScalar (read passedOver : Cause)
  | string (s? : Option String)
  | brokenString (read passedOver : Cause)
  | array (items : List Document) (ends : Option Cause)
  | object (members : List (Name × Document)) (ends : Option Cause)

def isSpace (c : Char) : Bool := c = ' ' || c = '\n' || c = '\t' || c = '\r'

def skipSpace (cs : List Char) : List Char := cs.dropWhile isSpace

/-- At the end of the text the cause is that it ends, elsewhere that it is malformed. -/
def causeAt : List Char → Cause
  | [] => .truncated
  | _ => .malformed

/-! ### Strings -/

/-- A character of a string as it was written: itself, or a 16-bit code unit. -/
inductive Piece where
  | char (c : Char)
  | unit (n : Nat)

def hexUnit? (a b c d : Char) : Option Nat := Text.hexNumber? [a, b, c, d]

/-- The text is over before four bytes of it were read. -/
def endsWithinFour (cs : List Char) : Bool :=
  (cs.take 4).foldl (fun n c => n + c.utf8Size) 0 < 4

def shortEscape? (c : Char) : Option Char :=
  if c = '"' ∨ c = '\\' ∨ c = '/' then some c
  else if c = 'b' then some '\x08'
  else if c = 'f' then some '\x0c'
  else if c = 'n' then some '\n'
  else if c = 'r' then some '\r'
  else if c = 't' then some '\t'
  else none

/-- Reads a string after its opening quote: its pieces, and the text after the closing quote or
the cause why there is none. -/
def scanString : List Char → List Piece × Except Cause (List Char)
  | [] => ([], .error .truncated)
  | '"' :: cs => ([], .ok cs)
  | '\\' :: cs =>
    match cs with
    | 'u' :: hs =>
      if endsWithinFour hs then ([], .error .truncated)
      else match hs with
        | a :: b :: c :: d :: rest =>
          match hexUnit? a b c d with
          | some n => let (ps, r) := scanString rest; (.unit n :: ps, r)
          | none => ([], .error .malformed)
        | _ => ([], .error .malformed)
    | e :: rest =>
      match shortEscape? e with
      | some c => let (ps, r) := scanString rest; (.char c :: ps, r)
      | none => ([], .error .malformed)
    | [] => ([], .error .truncated)
  | c :: cs =>
    if c.toNat < 0x20 then ([], .error .malformed)
    else let (ps, r) := scanString cs; (.char c :: ps, r)

def isLead (n : Nat) : Bool := 0xD800 ≤ n && n < 0xDC00

def isTrail (n : Nat) : Bool := 0xDC00 ≤ n && n < 0xE000

/-- Joins surrogate pairs; `none` where half of one stands alone. -/
def joinPieces : List Piece → Option (List Char)
  | [] => some []
  | .char c :: ps => (joinPieces ps).map (c :: ·)
  | .unit n :: ps =>
    if isLead n then
      match ps with
      | .unit m :: rest =>
        if isTrail m then
          (joinPieces rest).map (Char.ofNat (0x10000 + (n - 0xD800) * 0x400 + (m - 0xDC00)) :: ·)
        else none
      | _ => none
    else if isTrail n then none
    else (joinPieces ps).map (Char.ofNat n :: ·)

/-- The pieces without a leading half at the very end, which more text might have completed. -/
def settledPieces (ps : List Piece) : List Piece :=
  match ps.getLast? with
  | some (.unit n) => if isLead n then ps.dropLast else ps
  | _ => ps

/-- The cause that the reader of a string meets first: half a surrogate pair, or the one that
ends the string. -/
def brokenStringCause (ps : List Piece) (cause : Cause) : Cause :=
  if (joinPieces (settledPieces ps)).isNone then .malformed else cause

def readString (cs : List Char) : Document × Option (List Char) :=
  match scanString cs with
  | (ps, .ok rest) => (.string ((joinPieces ps).map String.ofList), some rest)
  | (ps, .error cause) => (.brokenString (brokenStringCause ps cause) cause, none)

/-! ### Numbers and words -/

def takeDigits (cs : List Char) : List Char × List Char :=
  (cs.takeWhile Char.isDigit, cs.dropWhile Char.isDigit)

/-- Takes in digits from the left, after `m`, as long as the number stays within 64 bits: the number
and how many digits it took. -/
def gather (m : Nat) : List Char → Nat × Nat
  | [] => (m, 0)
  | d :: ds =>
    let n := Text.digitsValue m [d]
    if n < Nat.pow 2 64 then
      let (n, count) := gather n ds
      (n, count + 1)
    else (m, 0)

/-- Whether the number with integer digits `ds`, fraction digits `fs` and exponent `e` is within
range. Digits that do not fit into 64 bits are left out; those of the integer keep their places. -/
def isInRange (ds fs : List Char) (e : Int) : Bool :=
  let (m, taken) := gather 0 ds
  let (m, decimals) := gather m fs
  Double.isFiniteProduct m (e + (ds.length - taken) - decimals)

def readExponent? (cs : List Char) : Except Cause (Int × List Char) :=
  let (negative, cs) := match cs with
    | '-' :: rest => (true, rest)
    | '+' :: rest => (false, rest)
    | _ => (false, cs)
  let (ds, rest) := takeDigits cs
  if ds = [] then .error (causeAt rest)
  else
    let n : Int := Text.digitsValue 0 ds
    .ok (if negative then -n else n, rest)

def readFraction? (ds cs : List Char) : Except Cause (Bool × List Char) := do
  let (fs, cs) ← match cs with
    | '.' :: rest =>
      let (fs, rest) := takeDigits rest
      if fs = [] then throw (causeAt rest) else pure (fs, rest)
    | _ => pure ([], cs)
  let (e, cs) ← match cs with
    | 'e' :: rest => readExponent? rest
    | 'E' :: rest => readExponent? rest
    | _ => pure (0, cs)
  return (isInRange ds fs e, cs)

/-- A number: an optional minus, then digits without a leading zero, fraction and exponent. -/
def readNumber? (cs : List Char) : Except Cause (Bool × List Char) :=
  let cs := match cs with
    | '-' :: rest => rest
    | _ => cs
  match takeDigits cs with
  | ([], rest) => .error (causeAt rest)
  | ('0' :: _ :: _, _) => .error .malformed
  | (ds, rest) => readFraction? ds rest

/-- A number that breaks off is malformed for who passes over it. -/
def readNumber (cs : List Char) : Document × Option (List Char) :=
  match readNumber? cs with
  | .ok (inRange, rest) => (.number inRange, some rest)
  | .error cause => (.brokenScalar cause .malformed, none)

def readWord? : List Char → List Char → Except Cause (List Char)
  | [], cs => .ok cs
  | _ :: _, [] => .error .truncated
  | w :: word, c :: cs => if c = w then readWord? word cs else .error .malformed

def readBool (word : String) (b : Bool) (cs : List Char) : Document × Option (List Char) :=
  match readWord? word.toList cs with
  | .ok rest => (.bool b, some rest)
  | .error cause => (.brokenScalar cause cause, none)

def readNull (cs : List Char) : Document × Option (List Char) :=
  match readWord? "null".toList cs with
  | .ok rest => (.null, some rest)
  | .error cause => (.brokenNull cause, none)

/-- The cause why a document is not of a wanted kind. Brackets are not looked into. -/
def Document.otherKind : Document → Cause
  | .missing cause => cause
  | .brokenNull cause => cause
  | .number inRange => if inRange then .mismatch else .malformed
  | .brokenScalar read _ => read
  | .string none => .malformed
  | .brokenString read _ => read
  | _ => .mismatch

/-! ### Values -/

mutual

/-- Reads one value. The rest is `none` where the text broke off inside. The first argument bounds
the number of steps: each bracket takes two of them. -/
def readValue : Nat → List Char → Document × Option (List Char)
  | 0, _ => (.missing .truncated, none)
  | fuel + 1, cs =>
    match skipSpace cs with
    | [] => (.missing .truncated, none)
    | 'n' :: rest => readNull ('n' :: rest)
    | 't' :: rest => readBool "true" true ('t' :: rest)
    | 'f' :: rest => readBool "false" false ('f' :: rest)
    | '"' :: rest => readString rest
    | '[' :: rest =>
      match skipSpace rest with
      | ']' :: rest => (.array [] none, some rest)
      | _ =>
        let (items, ends, rest?) := readItems fuel rest
        (.array items ends, rest?)
    | '{' :: rest =>
      match skipSpace rest with
      | '}' :: rest => (.object [] none, some rest)
      | _ =>
        let (members, ends, rest?) := readMembers fuel rest
        (.object members ends, rest?)
    | c :: rest =>
      if c = '-' ∨ c.isDigit then readNumber (c :: rest) else (.missing .malformed, none)

def readItems : Nat → List Char → List Document × Option Cause × Option (List Char)
  | 0, _ => ([], some .truncated, none)
  | fuel + 1, cs =>
    match readValue fuel cs with
    | (item, none) => ([item], none, none)
    | (item, some rest) =>
      match skipSpace rest with
      | ',' :: rest =>
        let (items, ends, rest?) := readItems fuel rest
        (item :: items, ends, rest?)
      | ']' :: rest => ([item], none, some rest)
      | rest => ([item], some (causeAt rest), none)

def readMembers : Nat → List Char → List (Name × Document) × Option Cause × Option (List Char)
  | 0, _ => ([], some .truncated, none)
  | fuel + 1, cs =>
    match skipSpace cs with
    | '"' :: rest =>
      match readString rest with
      | (.string s?, some rest) =>
        match skipSpace rest with
        | ':' :: rest =>
          match readValue fuel rest with
          | (value, none) => ([(.text s?, value)], none, none)
          | (value, some rest) =>
            match skipSpace rest with
            | ',' :: rest =>
              let (members, ends, rest?) := readMembers fuel rest
              ((.text s?, value) :: members, ends, rest?)
            | '}' :: rest => ([(.text s?, value)], none, some rest)
            | rest => ([(.text s?, value)], some (causeAt rest), none)
        | rest => ([(.text s?, .missing (causeAt rest))], none, none)
      | (.brokenString read passedOver, _) =>
        ([(.broken read passedOver, .missing read)], none, none)
      | (other, _) => ([(.text none, other)], none, none)
    | rest =>
      let cause := causeAt rest
      ([(.broken cause cause, .missing cause)], none, none)

end

def readDocument (cs : List Char) : Document × Option (List Char) :=
  readValue (2 * cs.length + 2) cs

end Relocation.Json
