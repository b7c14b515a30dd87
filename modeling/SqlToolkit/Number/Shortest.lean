import SqlToolkit.Number.Binary64

/-!
# The fewest digits that read back

A finite double stands for every real that rounds to it.  Among the decimals in that interval the shortest one is
taken, and of two equally short ones the nearer; an exact tie is left to the format that prints.  Grids of one
digit, two digits and so on are tried in turn: if any point of a grid lies in the interval, then so does one of the
two points next to the value itself.
-/
namespace SqlToolkit.Number

/-- Decimal digits and the position of the point: `digits * 10 ^ exponent`, without trailing zeros in `digits`. -/
structure Decimal where
  digits : Nat
  exponent : Int
deriving DecidableEq, Repr

/-- Which of two equally near decimals is printed. -/
inductive Tie where
  | away
  | even
deriving DecidableEq, Repr

/-- The decimal without trailing zeros in its digits; at most `fuel` are dropped. -/
def Decimal.normalize : Nat → Decimal → Decimal
  | 0, d => d
  | fuel + 1, d =>
    if d.digits ≠ 0 ∧ d.digits % 10 = 0 then normalize fuel ⟨d.digits / 10, d.exponent + 1⟩ else d

/-- The quotient in units of `10 ^ p`, as numerator and denominator. -/
def tenScaled (num den : Nat) (p : Int) : Nat × Nat :=
  (num * Nat.pow 10 (-p).toNat, den * Nat.pow 10 p.toNat)

/-- The least `p` with the quotient below `10 ^ p`.  The estimate from the binary lengths is low by at most three. -/
def pointPosition (num den : Nat) : Int :=
  let estimate : Int := (((num.log2 : Int) - den.log2 - 1) * 30103) / 100000
  let fits (p : Int) : Bool := (tenScaled num den p).1 < (tenScaled num den p).2
  ((List.range 5).map fun (k : Nat) => estimate + k).find? fits |>.getD estimate

/-- The interval of reals that round to `m * 2 ^ e`, in units of `2 ^ (e - 2)`: its ends, and whether they belong to
it, which they do when the significand is even. -/
structure Interval where
  low : Nat
  high : Nat
  closed : Bool

/-- Below a power of two the doubles lie twice as close, so the lower half of the interval is half as wide. -/
def roundingInterval (m : Nat) (e : Int) : Interval :=
  let narrow : Bool := m = 1 <<< 52 && -1074 < e
  ⟨if narrow then 4 * m - 1 else 4 * m - 2, 4 * m + 2, m % 2 = 0⟩

/-- The decimal of at most `n` digits that reads back to `m * 2 ^ e` and is nearest to it. -/
def onGrid (tie : Tie) (m : Nat) (e : Int) (point : Int) (n : Nat) : Option Decimal :=
  let g : Int := point - n
  -- the value and the ends of the interval are `x * 2 ^ (e - 2) / 10 ^ g`, compared over one denominator
  let (up, down) := tenScaled (1 <<< (e - 2).toNat) (1 <<< (2 - e).toNat) g
  let value : Nat := 4 * m * up
  let range := roundingInterval m e
  let inside (d : Nat) : Bool :=
    if range.closed then range.low * up ≤ d * down && d * down ≤ range.high * up
    else range.low * up < d * down && d * down < range.high * up
  let below : Nat := value / down
  let above : Nat := below + 1
  if inside below then
    if inside above then
      let left := value - below * down
      let right := above * down - value
      let chosen :=
        if left < right then below
        else if right < left then above
        else match tie with
          | .away => above
          | .even => if below % 2 = 0 then below else above
      some ⟨chosen, g⟩
    else some ⟨below, g⟩
  else if inside above then some ⟨above, g⟩
  else none

/-- The shortest decimal that reads back to a positive `m * 2 ^ e`.  Seventeen digits always suffice. -/
def shortest (tie : Tie) (m : Nat) (e : Int) : Decimal :=
  let point := pointPosition (scaled m 1 (-e)).1 (scaled m 1 (-e)).2
  let found := ((List.range 17).map (· + 1)).findSome? (onGrid tie m e point)
  (found.getD ⟨m, e⟩).normalize 20

example : shortest .even 1 (-1074) = ⟨5, -324⟩ := by decide +kernel
example : shortest .away (1 <<< 52) (-52) = ⟨1, 0⟩ := by decide +kernel
example : shortest .even 7205759403792794 (-56) = ⟨1, -1⟩ := by decide +kernel

end SqlToolkit.Number
