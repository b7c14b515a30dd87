import SqlToolkit.Number.Rounding

/-!
# Double-precision numbers

A double is kept as its 64 bits.  Equality is equality of bits, so the two zeros differ and a value that is not a
number equals itself; all arithmetic on doubles goes through the exact quotient that the bits denote.
-/
namespace SqlToolkit

/-- A double-precision number, as its interchange bits. -/
structure Binary64 where
  bits : UInt64
deriving DecidableEq, Repr, Inhabited

namespace Binary64
open Number

/-- What the bits denote: a signed `significand * 2 ^ exponent`, an infinity or no number. -/
inductive Shape where
  | finite (significand : Nat) (exponent : Int)
  | infinite
  | notANumber
deriving DecidableEq, Repr

/-- The weight of the sign bit. -/
abbrev signWeight : Nat := 0x8000000000000000

/-- The weight of the lowest bit of the exponent; the fraction lies below it. -/
abbrev exponentWeight : Nat := 0x10000000000000

/-- The sign bit is set. -/
def isNegative (x : Binary64) : Bool := signWeight ≤ x.bits.toNat

/-- The bits without the sign. -/
def magnitudeBits (x : Binary64) : Nat := x.bits.toNat % signWeight

/-- The number that the bits denote, apart from its sign. -/
def shape (x : Binary64) : Shape :=
  let biased : Nat := x.magnitudeBits / exponentWeight
  let fraction : Nat := x.magnitudeBits % exponentWeight
  if biased = 2047 then (if fraction = 0 then .infinite else .notANumber)
  else if biased = 0 then .finite fraction (-1074)
  else .finite (exponentWeight + fraction) ((biased : Int) - 1075)

/-- The bits of a magnitude, with the sign in front. -/
def ofMagnitudeBits (negative : Bool) (magnitude : Nat) : Binary64 :=
  ⟨UInt64.ofNat (magnitude + if negative then signWeight else 0)⟩

def infinity (negative : Bool) : Binary64 := ofMagnitudeBits negative (2047 * exponentWeight)

def notANumber : Binary64 := ofMagnitudeBits false (2047 * exponentWeight + exponentWeight / 2)

def zero (negative : Bool) : Binary64 := ofMagnitudeBits negative 0

/-- The double nearest to a signed quotient; infinite beyond the largest. -/
def ofRatio (negative : Bool) (num den : Nat) : Binary64 :=
  match Format.double.round num den with
  | some (m, e) => ofMagnitudeBits negative ((e + 1074).toNat * exponentWeight + m)
  | none => infinity negative

/-- The double nearest to `m * 10 ^ e`.  Exponents far outside the range are decided before any power is formed. -/
def ofDecimal (negative : Bool) (m : Nat) (e : Int) : Binary64 :=
  if m = 0 then zero negative
  else
    let size := e + (m.log2 / 3 : Nat)
    if 400 < e then infinity negative
    else if size < -400 then zero negative
    else ofRatio negative (m * Nat.pow 10 e.toNat) (Nat.pow 10 (-e).toNat)

/-- The double nearest to an integer. -/
def ofInt (n : Int) : Binary64 := ofRatio (n < 0) n.natAbs 1

/-- The double that holds the nearest single-precision number. -/
def toSingle (x : Binary64) : Binary64 :=
  match x.shape with
  | .finite m e =>
    match Format.single.round (scaled m 1 (-e)).1 (scaled m 1 (-e)).2 with
    | some (m', e') => ofRatio x.isNegative (scaled m' 1 (-e')).1 (scaled m' 1 (-e')).2
    | none => infinity x.isNegative
  | .infinite => x
  | .notANumber => x

/-- The integer part, toward zero; nothing for an infinity or no number. -/
def truncate (x : Binary64) : Option Int :=
  match x.shape with
  | .finite m e =>
    let size : Nat := (scaled m 1 (-e)).1 / (scaled m 1 (-e)).2
    some (if x.isNegative then -(size : Int) else size)
  | _ => none

example : (ofInt 1).bits = 0x3ff0000000000000 := by decide +kernel
example : (ofDecimal true 1 (-1)).bits = 0xbfb999999999999a := by decide +kernel
example : (ofDecimal false 5 (-324)).bits = 1 := by decide +kernel
example : ofDecimal false 1 400 = infinity false := by decide +kernel
example : (ofDecimal true 25 (-1)).truncate = some (-2) := by decide +kernel

end Binary64
end SqlToolkit
