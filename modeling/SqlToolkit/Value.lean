import SqlToolkit.Document.Writer
import SqlToolkit.Text.Quoted

/-!
# Values

A value is what a placeholder of a statement is bound to.  Before binding, truth values become the integers zero and
one; everything else is bound as it is.  A value can also be written into a statement, for defaults in table
declarations and for the statement log.
-/
namespace SqlToolkit

/-- A scalar that a database column can hold. -/
inductive Value where
  | null
  | bool (value : Bool)
  | int (value : Int64)
  | float (value : Binary64)
  | text (value : String)
  | blob (bytes : List UInt8)
deriving DecidableEq, Repr, Inhabited

namespace Value
open Number

/-- The value as it is bound: truth values become integers. -/
def coerce : Value → Value
  | bool value => int (if value then 1 else 0)
  | other => other

/-- The value is null. -/
def isNull : Value → Bool
  | null => true
  | _ => false

/-- The text of a text value. -/
def asText : Value → Option String
  | text value => some value
  | _ => none

/-- An integer as a 64-bit value, or nothing when it does not fit. -/
def fitInt? (n : Int) : Option Int64 :=
  if Int64.minValue.toInt ≤ n ∧ n ≤ Int64.maxValue.toInt then some (Int64.ofInt n) else none

/-- The 64-bit integer nearest to an integer. -/
def clampInt (n : Int) : Int64 := Int64.ofInt (max Int64.minValue.toInt (min n Int64.maxValue.toInt))

/-- The integer part of a double, clamped to 64 bits; zero when it is not a number. -/
def intOfFloat (x : Binary64) : Int64 :=
  match x.truncate with
  | some n => clampInt n
  | none =>
    match x.shape with
    | .infinite => if x.isNegative then Int64.minValue else Int64.maxValue
    | _ => 0

/-- The value as an integer, reading numeric text and dropping fractions. -/
def asInt? : Value → Option Int64
  | int value => some value
  | bool value => some (if value then 1 else 0)
  | float value => some (intOfFloat value)
  | text value => (readInt? (Text.trimBlanks value.toList)).bind fitInt?
  | null => none
  | blob _ => none

/-- The value as a double, reading numeric text. -/
def asFloat? : Value → Option Binary64
  | int value => some (.ofInt value.toInt)
  | float value => some value
  | text value => readBinary64? (Text.trimBlanks value.toList)
  | null => none
  | bool _ => none
  | blob _ => none

/-! ### Documents -/

/-- The value of a document.  Lists and records become their written form; a whole number beyond the signed 64-bit
range becomes the nearest double. -/
def ofDocument : Document → Value
  | .null => null
  | .bool value => bool value
  | .integer n => ((fitInt? n).map int).getD (float (.ofInt n))
  | .float value => float value
  | .text value => text value
  | .list items => text (Document.write (.list items))
  | .record entries => text (Document.write (.record entries))

/-- The document of a value; bytes become a list of integers. -/
def toDocument : Value → Document
  | null => .null
  | bool value => .bool value
  | int value => .integer value.toInt
  | float value => .float value
  | text value => .text value
  | blob bytes => .list (bytes.map fun b => .integer b.toNat)

/-- A list of values as the text of one document. -/
def listText (values : List Value) : Value :=
  text (Document.write (.list (values.map toDocument)))

/-! ### Inline text -/

/-- Doubles in statements have no exponent, and whole ones no fraction; of two equally near digits the larger is
written. -/
def inlineLayout : Layout := ⟨none, none, false, .away⟩

/-- Two hexadecimal digits of a byte, upper case. -/
def byteText (b : UInt8) : List Char :=
  [(Nat.digitChar (b.toNat / 16)).toUpper, (Nat.digitChar (b.toNat % 16)).toUpper]

/-- A double as it stands in a statement. -/
def floatText (x : Binary64) : String :=
  match inlineLayout.text? x with
  | some digits => digits
  | none => if x.shape = .notANumber then "NaN" else if x.isNegative then "-inf" else "inf"

/-- The value as it stands in a statement. -/
def inline : Value → String
  | null => "NULL"
  | bool value => if value then "1" else "0"
  | int value => toString value.toInt
  | float value => floatText value
  | text value => Text.literal value
  | blob bytes => "X'" ++ String.ofList (bytes.flatMap byteText) ++ "'"

@[simp] theorem coerce_coerce (v : Value) : v.coerce.coerce = v.coerce := by
  cases v <;> rfl

/-- No truth value is bound. -/
theorem coerce_ne_bool (v : Value) (b : Bool) : v.coerce ≠ bool b := by
  cases v <;> simp [coerce]

example : inline (float (.ofDecimal false 1 (-5))) = "0.00001" := by decide +kernel
example : inline (text "it's") = "'it''s'" := by decide +kernel
example : inline (blob [0, 171]) = "X'00AB'" := by decide +kernel
example : asInt? (text " 42 ") = some 42 := by decide +kernel

end Value
end SqlToolkit
