/-!
# Rounding a quotient to a binary format

A quotient of natural numbers is rounded to the nearest number of a binary format, and one that lies halfway goes to
the neighbour with the even last place.  All arithmetic is exact on natural numbers.
-/
namespace SqlToolkit.Number

/-- The natural number nearest to a quotient; of two equally near ones the even. -/
def nearestEven (num den : Nat) : Nat :=
  let q := num / den
  let twice := 2 * (num % den)
  if twice < den then q
  else if den < twice then q + 1
  else if q % 2 = 0 then q else q + 1

/-- A binary format: the bits of a significand and the range of the exponent of its last place. -/
structure Format where
  digits : Nat
  minExponent : Int
  maxExponent : Int

/-- Double precision. -/
def Format.double : Format := ⟨53, -1074, 971⟩

/-- Single precision. -/
def Format.single : Format := ⟨24, -149, 104⟩

/-- The quotient in units of `2 ^ e`, as numerator and denominator. -/
def scaled (num den : Nat) (e : Int) : Nat × Nat :=
  (num <<< (-e).toNat, den <<< e.toNat)

/-- The significand and exponent of the format nearest to a quotient, or nothing above its range. -/
def Format.round (f : Format) (num den : Nat) : Option (Nat × Int) :=
  if num = 0 then some (0, f.minExponent)
  else
    let guess : Int := (num.log2 : Int) - den.log2 - f.digits
    let fits : Bool := (scaled num den guess).1 < (scaled num den guess).2 <<< f.digits
    let e := max (if fits then guess else guess + 1) f.minExponent
    let m := nearestEven (scaled num den e).1 (scaled num den e).2
    let (m, e) := if m = 1 <<< f.digits then (1 <<< (f.digits - 1), e + 1) else (m, e)
    if f.maxExponent < e then none else some (m, e)

/-- The rounded quotient lies within half a unit of the exact one. -/
theorem nearestEven_near (num : Nat) {den : Nat} (pos : 0 < den) :
    2 * (nearestEven num den * den) ≤ 2 * num + den ∧ 2 * num ≤ 2 * (nearestEven num den * den) + den := by
  have split : den * (num / den) + num % den = num := Nat.div_add_mod num den
  have small : num % den < den := Nat.mod_lt num pos
  have comm : num / den * den = den * (num / den) := Nat.mul_comm ..
  have next : (num / den + 1) * den = den * (num / den) + den := by
    rw [Nat.add_mul, Nat.one_mul, comm]
  unfold nearestEven
  dsimp only
  split
  · rw [comm]; omega
  · split
    · rw [next]; omega
    · split
      · rw [comm]; omega
      · rw [next]; omega

end SqlToolkit.Number
