import Relocation.Text

/-! Calendar dates of the proleptic Gregorian calendar: which dates exist, their order, and the
text they are read from and written as. -/

namespace Relocation

/-- A leap year is divisible by 4, but by 100 only if it is divisible by 400. -/
def isLeapYear (year : Int) : Bool :=
  year % 4 == 0 && (year % 100 != 0 || year % 400 == 0)

def daysInMonth (year : Int) (month : Nat) : Nat :=
  if month = 2 then if isLeapYear year then 29 else 28
  else if month = 4 ∨ month = 6 ∨ month = 9 ∨ month = 11 then 30
  else 31

/-- A day that exists, in a year from -262143 to 262142. -/
structure Date where
  year : Int
  month : Nat
  day : Nat
  year_range : -262143 ≤ year ∧ year ≤ 262142
  month_range : 1 ≤ month ∧ month ≤ 12
  day_range : 1 ≤ day ∧ day ≤ daysInMonth year month
deriving DecidableEq

namespace Date

def of? (year : Int) (month day : Nat) : Option Date :=
  if h : (-262143 ≤ year ∧ year ≤ 262142) ∧ (1 ≤ month ∧ month ≤ 12) ∧
      (1 ≤ day ∧ day ≤ daysInMonth year month) then
    some ⟨year, month, day, h.1, h.2.1, h.2.2⟩
  else none

def onOrBefore (d e : Date) : Bool :=
  d.year < e.year ||
    (d.year == e.year && (d.month < e.month || (d.month == e.month && d.day ≤ e.day)))

instance : LE Date := ⟨fun d e => d.onOrBefore e = true⟩

instance (d e : Date) : Decidable (d ≤ e) := inferInstanceAs (Decidable (d.onOrBefore e = true))

/-- Four digits from year 0 to 9999; any other year has its sign and at least four digits. -/
def yearText (year : Int) : String :=
  let digits := Text.padLeft '0' 4 (toString year.natAbs)
  if year < 0 then "-" ++ digits else if year ≤ 9999 then digits else "+" ++ digits

/-- Year, month and day with `-` between them; month and day have two digits. -/
def render (d : Date) : String :=
  yearText d.year ++ "-" ++ Text.padLeft '0' 2 (toString d.month) ++ "-" ++
    Text.padLeft '0' 2 (toString d.day)

def readDigits? (most : Nat) (cs : List Char) : Option (Nat × List Char) :=
  let ds := (cs.takeWhile Char.isDigit).take most
  if ds = [] then none else some (Text.digitsValue 0 ds, cs.drop ds.length)

def readYear? : List Char → Option (Int × List Char)
  | '-' :: cs => (readDigits? cs.length cs).map fun (n, rest) => (-(n : Int), rest)
  | '+' :: cs => (readDigits? cs.length cs).map fun (n, rest) => ((n : Int), rest)
  | cs => (readDigits? 4 cs).map fun (n, rest) => ((n : Int), rest)

def readDash? (cs : List Char) : Option (List Char) :=
  match Text.trimLeft cs with
  | '-' :: rest => some rest
  | _ => none

/-- Reads a date. Blank characters may stand before the year, around each `-` and at the end. -/
def readChars? (cs : List Char) : Option Date := do
  let (year, cs) ← readYear? (Text.trimLeft cs)
  let cs ← readDash? cs
  let (month, cs) ← readDigits? 2 (Text.trimLeft cs)
  let cs ← readDash? cs
  let (day, cs) ← readDigits? 2 (Text.trimLeft cs)
  if Text.trimLeft cs = [] then of? year month day else none

def read? (s : String) : Option Date := readChars? s.toList

end Date

end Relocation
