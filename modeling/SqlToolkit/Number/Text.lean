import SqlToolkit.Number.Shortest
import SqlToolkit.Text.Blank

/-!
# Numbers as text

Writing picks the shortest digits of a double and lays them out.  A layout says which magnitudes are written
positionally, whether a whole number keeps a fraction digit, and how an exponent looks.  Reading accepts decimal
integers and decimal fractions with an optional exponent, and the names of infinity and of no number.
-/
namespace SqlToolkit.Number

/-- How the digits of a finite double are written. -/
structure Layout where
  /-- Values below `10 ^ e` in magnitude are positional; all of them when absent. -/
  positionalBelow : Option Int
  /-- Values from `10 ^ e` up are positional; all of them when absent. -/
  positionalFrom : Option Int
  /-- A whole number is written with the fraction `.0`. -/
  wholeFraction : Bool
  tie : Tie

/-- Digits of a natural number in base ten, most significant first. -/
def digitText (n : Nat) : String := toString n

/-- A positional numeral for `digits * 10 ^ exponent`. -/
def positional (wholeFraction : Bool) (d : Decimal) : String :=
  let digits := digitText d.digits
  let size := digits.length
  if 0 ≤ d.exponent then
    digits ++ String.ofList (List.replicate d.exponent.toNat '0') ++ if wholeFraction then ".0" else ""
  else
    let places := d.exponent.natAbs
    if places < size then
      let cs := digits.toList
      String.ofList (cs.take (size - places)) ++ "." ++ String.ofList (cs.drop (size - places))
    else "0." ++ String.ofList (List.replicate (places - size) '0') ++ digits

/-- A numeral with one digit before the point and a signed exponent. -/
def scientific (d : Decimal) : String :=
  let digits := digitText d.digits
  let power : Int := d.exponent + digits.length - 1
  let mantissa :=
    match digits.toList with
    | first :: second :: rest => String.ofList (first :: '.' :: second :: rest)
    | _ => digits
  mantissa ++ "e" ++ (if power < 0 then "-" else "+") ++ digitText power.natAbs

/-- The digits of a decimal in a layout. -/
def Layout.write (layout : Layout) (d : Decimal) : String :=
  let power : Int := d.exponent + (digitText d.digits).length - 1
  if layout.positionalBelow.all (fun e => power < e) && layout.positionalFrom.all (fun e => e ≤ power) then
    positional layout.wholeFraction d
  else scientific d

/-- A finite double in a layout; nothing for an infinity or no number. -/
def Layout.text? (layout : Layout) (x : Binary64) : Option String :=
  match x.shape with
  | .finite m e =>
    let sign := if x.isNegative then "-" else ""
    let body :=
      if m = 0 then (if layout.wholeFraction then "0.0" else "0") else layout.write (shortest layout.tie m e)
    some (sign ++ body)
  | _ => none

/-! ### Reading -/

/-- The value of a run of decimal digits. -/
def digitsValue (cs : List Char) : Nat := cs.foldl (fun n c => 10 * n + (c.toNat - '0'.toNat)) 0

/-- A sign at the front of a text, and what follows it. -/
def readSign : List Char → Bool × List Char
  | '-' :: cs => (true, cs)
  | '+' :: cs => (false, cs)
  | cs => (false, cs)

/-- The integer that a text of an optional sign and digits denotes. -/
def readInt? (cs : List Char) : Option Int :=
  let (negative, digits) := readSign cs
  if digits.isEmpty || !digits.all Char.isDigit then none
  else some (if negative then -(digitsValue digits : Int) else digitsValue digits)

/-- The exponent after the digits of a decimal: none, or a letter `e` with a signed run of digits to the end. -/
def readExponent? : List Char → Option Int
  | [] => some 0
  | c :: cs => if c = 'e' || c = 'E' then readInt? cs else none

/-- Digits with an optional point among, before or after them, then an optional exponent. -/
def readDecimal? (cs : List Char) : Option Decimal :=
  let whole := cs.takeWhile Char.isDigit
  let (fraction, rest) :=
    match cs.dropWhile Char.isDigit with
    | '.' :: after => (after.takeWhile Char.isDigit, after.dropWhile Char.isDigit)
    | rest => ([], rest)
  if whole.isEmpty && fraction.isEmpty then none
  else (readExponent? rest).map fun e => ⟨digitsValue (whole ++ fraction), e - fraction.length⟩

/-- The double that a text denotes: a signed decimal, or the name of infinity or of no number in any case. -/
def readBinary64? (cs : List Char) : Option Binary64 :=
  let (negative, body) := readSign cs
  match readDecimal? body with
  | some d => some (.ofDecimal negative d.digits d.exponent)
  | none =>
    let name := String.ofList (body.map Char.toLower)
    if name = "inf" || name = "infinity" then some (.infinity negative)
    else if name = "nan" then some .notANumber
    else none

end SqlToolkit.Number
