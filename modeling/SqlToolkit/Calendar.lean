import SqlToolkit.Text.Blank
import SqlToolkit.Number.Text

/-!
# Dates and times

A moment of the civil calendar has a year of any sign, and its second may be the sixtieth, a leap second.  Moments
are bound as text in one canonical form, named in migration files by their digits, and read back from the text that
a database returns.
-/
namespace SqlToolkit

/-- A moment of the civil calendar, without a zone. -/
structure Moment where
  year : Int
  month : Nat
  day : Nat
  hour : Nat := 0
  minute : Nat := 0
  second : Nat := 0
  nanosecond : Nat := 0
deriving DecidableEq, Repr, Inhabited

namespace Moment
open Number

/-- A natural number with leading zeros up to a width. -/
def padded (width n : Nat) : String :=
  let digits := (toString n).toList
  String.ofList (List.replicate (width - digits.length) '0' ++ digits)

/-- Years from 0 to 9999 have four digits; all others a sign and at least four. -/
def yearText (year : Int) : String :=
  if 0 ≤ year ∧ year ≤ 9999 then padded 4 year.toNat
  else (if year < 0 then "-" else "+") ++ padded 4 year.natAbs

/-- The canonical text of a moment: date, a space, time to the second. -/
def text (m : Moment) : String :=
  yearText m.year ++ "-" ++ padded 2 m.month ++ "-" ++ padded 2 m.day ++ " " ++
    padded 2 m.hour ++ ":" ++ padded 2 m.minute ++ ":" ++ padded 2 m.second

/-- The canonical text with nine digits of the second's fraction. -/
def preciseText (m : Moment) : String := m.text ++ "." ++ padded 9 m.nanosecond

/-- The digits of a moment in the order of significance, with underscores between the date's parts. -/
def stamp (m : Moment) : String :=
  yearText m.year ++ "_" ++ padded 2 m.month ++ "_" ++ padded 2 m.day ++ "_" ++
    padded 2 m.hour ++ padded 2 m.minute ++ padded 2 m.second

/-! ### The calendar -/

def isLeapYear (year : Int) : Bool := year % 4 = 0 && (year % 100 ≠ 0 || year % 400 = 0)

def daysInMonth (year : Int) (month : Nat) : Nat :=
  if month = 2 then (if isLeapYear year then 29 else 28)
  else if month = 4 || month = 6 || month = 9 || month = 11 then 30
  else 31

/-- The moment lies in the calendar.  Years have at most six digits. -/
def isValid (m : Moment) : Bool :=
  -262143 ≤ m.year && m.year ≤ 262142 && 1 ≤ m.month && m.month ≤ 12 &&
    1 ≤ m.day && m.day ≤ daysInMonth m.year m.month &&
    m.hour < 24 && m.minute < 60 && m.second ≤ 60

/-- The civil date of a day counted from the first of January 1970.  Years are counted from March, in cycles of 400
years with 146097 days. -/
def ofDay (day : Int) : Moment :=
  let shifted := day + 719468
  let era := shifted.fdiv 146097
  let dayOfEra := (shifted.fmod 146097).toNat
  let yearOfEra := (dayOfEra - dayOfEra / 1460 + dayOfEra / 36524 - dayOfEra / 146096) / 365
  let dayOfYear := dayOfEra - (365 * yearOfEra + yearOfEra / 4 - yearOfEra / 100)
  let monthFromMarch := (5 * dayOfYear + 2) / 153
  let day := dayOfYear - (153 * monthFromMarch + 2) / 5 + 1
  let month := if monthFromMarch < 10 then monthFromMarch + 3 else monthFromMarch - 9
  let year : Int := era * 400 + yearOfEra + if month ≤ 2 then 1 else 0
  { year, month, day }

/-- The moment shown by a clock that is `offset` seconds ahead, at a number of seconds since the start of 1970. -/
def ofSeconds (seconds offset : Int) : Moment :=
  let shown := seconds + offset
  let rest := (shown.fmod 86400).toNat
  { ofDay (shown.fdiv 86400) with hour := rest / 3600, minute := rest / 60 % 60, second := rest % 60 }

/-! ### Reading -/

/-- A run of at most `width` digits after any blanks, with what follows; at least one digit is needed. -/
def readField? (width : Nat) (cs : List Char) : Option (Nat × List Char) :=
  let rest := Text.skipBlanks cs
  let digits := (rest.take width).takeWhile Char.isDigit
  if digits.isEmpty then none else some (digitsValue digits, rest.drop digits.length)

/-- A year after any blanks: at most four digits, or any number of them after a sign. -/
def readYear? (cs : List Char) : Option (Int × List Char) :=
  match Text.skipBlanks cs with
  | '-' :: rest => (readRun rest).map fun r => (-(r.1 : Int), r.2)
  | '+' :: rest => (readRun rest).map fun r => ((r.1 : Int), r.2)
  | rest => (readField? 4 rest).map fun r => ((r.1 : Int), r.2)
where
  /-- A run of digits of any length. -/
  readRun (cs : List Char) : Option (Nat × List Char) :=
    let digits := cs.takeWhile Char.isDigit
    if digits.isEmpty then none else some (digitsValue digits, cs.drop digits.length)

/-- One given character at the front of a text, and what follows it. -/
def expect (c : Char) : List Char → Option (List Char)
  | d :: rest => if d = c then some rest else none
  | [] => none

/-- The nanoseconds of an optional fraction; digits after the ninth are dropped. -/
def readFraction? : List Char → Option (Nat × List Char)
  | '.' :: cs =>
    let digits := cs.takeWhile Char.isDigit
    if digits.isEmpty then none
    else
      let kept := digits.take 9
      some (digitsValue (kept ++ List.replicate (9 - kept.length) '0'), cs.drop digits.length)
  | cs => some (0, cs)

/-- A moment whose date and time are parted as `separator` reads; nothing may follow. -/
def readWith? (separator : List Char → Option (List Char)) (cs : List Char) : Option Moment := do
  let (year, cs) ← readYear? cs
  let cs ← expect '-' cs
  let (month, cs) ← readField? 2 cs
  let cs ← expect '-' cs
  let (day, cs) ← readField? 2 cs
  let cs ← separator cs
  let (hour, cs) ← readField? 2 cs
  let cs ← expect ':' cs
  let (minute, cs) ← readField? 2 cs
  let cs ← expect ':' cs
  let (second, cs) ← readField? 2 cs
  let (nanosecond, cs) ← readFraction? cs
  let moment : Moment := { year, month, day, hour, minute, second, nanosecond }
  if cs.isEmpty && moment.isValid then some moment else none

/-- The moment that a text denotes: date and time with blanks or the letter `T` between them. -/
def read? (s : String) : Option Moment :=
  (readWith? (fun cs => some (Text.skipBlanks cs)) s.toList).or (readWith? (expect 'T') s.toList)

example : (ofSeconds 0 0).text = "1970-01-01 00:00:00" := by decide +kernel
example : (ofSeconds (-1) 0).text = "1969-12-31 23:59:59" := by decide +kernel
example : (ofSeconds 951782400 3600).text = "2000-02-29 01:00:00" := by decide +kernel
example : (read? "2024-3-05T14:07:09.5").map preciseText = some "2024-03-05 14:07:09.500000000" := by decide +kernel

end Moment
end SqlToolkit
