import SqlToolkit.Document
import SqlToolkit.Number.Text

/-!
# Reading documents

The strict written form: one value, blanks only between tokens, no trailing comma, no number with a leading zero,
no control character inside a text.  A whole number within the 64-bit ranges is an integer; any other number, and
minus zero, is the nearest double.

A text that is only skipped may hold half of a surrogate pair; a text that is read may not.
-/
namespace SqlToolkit.Document
open Number

/-- What to do with half of a surrogate pair in a text. -/
inductive Surrogates where
  | refused
  | replaced
deriving DecidableEq, Repr

/-- The blanks between the tokens of a document. -/
def isSeparator (c : Char) : Bool := c = ' ' || c = '\n' || c = '\r' || c = '\t'

/-- The text after its leading separators. -/
def skipSeparators (cs : List Char) : List Char := cs.dropWhile isSeparator

/-- The value of a hexadecimal digit in either case. -/
def hexValue? (c : Char) : Option Nat :=
  if c.isDigit then some (c.toNat - 48)
  else if 97 ≤ c.toNat && c.toNat ≤ 102 then some (c.toNat - 87)
  else if 65 ≤ c.toNat && c.toNat ≤ 70 then some (c.toNat - 55)
  else none

/-- Four hexadecimal digits at the front of a text. -/
def readUnit? : List Char → Option (Nat × List Char)
  | a :: b :: c :: d :: rest =>
    match hexValue? a, hexValue? b, hexValue? c, hexValue? d with
    | some a, some b, some c, some d => some (((a * 16 + b) * 16 + c) * 16 + d, rest)
    | _, _, _, _ => none
  | _ => none

def isHighSurrogate (n : Nat) : Bool := 0xD800 ≤ n && n < 0xDC00

def isLowSurrogate (n : Nat) : Bool := 0xDC00 ≤ n && n < 0xE000

/-- The character of an escape whose backslash and `u` have been read; two escapes make one character of a
surrogate pair. -/
def readUnicode? (surrogates : Surrogates) (cs : List Char) : Option (Char × List Char) :=
  match readUnit? cs with
  | none => none
  | some (high, rest) =>
    let alone : Option (Char × List Char) :=
      match surrogates with
      | .refused => none
      | .replaced => some ('\uFFFD', rest)
    if isHighSurrogate high then
      match rest with
      | '\\' :: 'u' :: more =>
        match readUnit? more with
        | none => none
        | some (low, after) =>
          if isLowSurrogate low then
            some (Char.ofNat (0x10000 + (high - 0xD800) * 0x400 + (low - 0xDC00)), after)
          else alone
      | _ => alone
    else if isLowSurrogate high then alone
    else some (Char.ofNat high, rest)

/-- The character of an escape whose backslash has been read. -/
def readEscape? (surrogates : Surrogates) : List Char → Option (Char × List Char)
  | '"' :: rest => some ('"', rest)
  | '\\' :: rest => some ('\\', rest)
  | '/' :: rest => some ('/', rest)
  | 'b' :: rest => some (Char.ofNat 8, rest)
  | 'f' :: rest => some (Char.ofNat 12, rest)
  | 'n' :: rest => some ('\n', rest)
  | 'r' :: rest => some ('\r', rest)
  | 't' :: rest => some ('\t', rest)
  | 'u' :: rest => readUnicode? surrogates rest
  | _ => none

/-- The characters of a text whose opening quote has been read, and what follows the closing one. -/
def readTextBody? (surrogates : Surrogates) : Nat → List Char → Option (List Char × List Char)
  | 0, _ => none
  | _, [] => none
  | fuel + 1, c :: cs =>
    if c = '"' then some ([], cs)
    else if c = '\\' then
      match readEscape? surrogates cs with
      | some (d, rest) => (readTextBody? surrogates fuel rest).map fun r => (d :: r.1, r.2)
      | none => none
    else if c.toNat < 0x20 then none
    else (readTextBody? surrogates fuel cs).map fun r => (c :: r.1, r.2)

/-- The fraction of a number: nothing, or a point and at least one digit. -/
def readFraction? : List Char → Option (List Char × List Char)
  | '.' :: cs =>
    let digits := cs.takeWhile Char.isDigit
    if digits.isEmpty then none else some (digits, cs.dropWhile Char.isDigit)
  | cs => some ([], cs)

/-- The exponent of a number: nothing, or a letter `e`, a sign if any, and at least one digit. -/
def readPower? : List Char → Option (Option Int × List Char)
  | [] => some (none, [])
  | c :: cs =>
    if c = 'e' || c = 'E' then
      let (negative, rest) := readSign cs
      let digits := rest.takeWhile Char.isDigit
      if digits.isEmpty then none
      else
        let size : Int := digitsValue digits
        some (some (if negative then -size else size), rest.dropWhile Char.isDigit)
    else some (none, c :: cs)

/-- The number of digits without a fraction or exponent. -/
def wholeNumber (negative : Bool) (digits : List Char) : Document :=
  let size := digitsValue digits
  let value : Int := if negative then -(size : Int) else size
  if negative && size = 0 then float (.zero true)
  else if Int64.minValue.toInt ≤ value && value < UInt64.size then integer value
  else float (.ofRatio negative size 1)

/-- A number whose sign has been read. -/
def readNumber? (negative : Bool) (cs : List Char) : Option (Document × List Char) :=
  let digits := cs.takeWhile Char.isDigit
  let leadingZero := digits.head? == some '0' && 1 < digits.length
  if digits.isEmpty || leadingZero then none
  else
    match readFraction? (cs.dropWhile Char.isDigit) with
    | none => none
    | some (fraction, rest) =>
      match readPower? rest with
      | none => none
      | some (power, after) =>
        if fraction.isEmpty && power.isNone then some (wholeNumber negative digits, after)
        else
          let e : Int := power.getD 0 - fraction.length
          some (float (.ofDecimal negative (digitsValue (digits ++ fraction)) e), after)

mutual

/-- One value at the front of a text.  The fuel bounds the number of tokens. -/
def readValue? (surrogates : Surrogates) : Nat → List Char → Option (Document × List Char)
  | 0, _ => none
  | fuel + 1, cs =>
    match skipSeparators cs with
    | 'n' :: 'u' :: 'l' :: 'l' :: rest => some (null, rest)
    | 't' :: 'r' :: 'u' :: 'e' :: rest => some (bool true, rest)
    | 'f' :: 'a' :: 'l' :: 's' :: 'e' :: rest => some (bool false, rest)
    | '"' :: rest =>
      (readTextBody? surrogates (rest.length + 1) rest).map fun r => (text (String.ofList r.1), r.2)
    | '[' :: rest =>
      match skipSeparators rest with
      | ']' :: after => some (list [], after)
      | more => (readItems? surrogates fuel more).map fun r => (list r.1, r.2)
    | '\x7b' :: rest =>
      match skipSeparators rest with
      | '\x7d' :: after => some (record [], after)
      | more => (readEntries? surrogates fuel more).map fun r => (ofEntries r.1, r.2)
    | '-' :: rest => readNumber? true rest
    | rest => readNumber? false rest

/-- The items of a list up to its closing bracket; there is at least one. -/
def readItems? (surrogates : Surrogates) : Nat → List Char → Option (List Document × List Char)
  | 0, _ => none
  | fuel + 1, cs =>
    match readValue? surrogates fuel cs with
    | none => none
    | some (item, rest) =>
      match skipSeparators rest with
      | ',' :: more => (readItems? surrogates fuel more).map fun r => (item :: r.1, r.2)
      | ']' :: after => some ([item], after)
      | _ => none

/-- The entries of a record up to its closing brace, as written; there is at least one. -/
def readEntries? (surrogates : Surrogates) : Nat → List Char → Option (List (String × Document) × List Char)
  | 0, _ => none
  | fuel + 1, cs =>
    match skipSeparators cs with
    | '"' :: rest =>
      match readTextBody? surrogates (rest.length + 1) rest with
      | none => none
      | some (key, afterKey) =>
        match skipSeparators afterKey with
        | ':' :: more =>
          match readValue? surrogates fuel more with
          | none => none
          | some (content, after) =>
            match skipSeparators after with
            | ',' :: again =>
              (readEntries? surrogates fuel again).map fun r => ((String.ofList key, content) :: r.1, r.2)
            | '\x7d' :: done => some ([(String.ofList key, content)], done)
            | _ => none
        | _ => none
    | _ => none

end

/-- The document that a whole text denotes. -/
def read? (s : String) : Option Document :=
  let cs := s.toList
  match readValue? .refused (2 * cs.length + 2) cs with
  | some (value, rest) => if (skipSeparators rest).isEmpty then some value else none
  | none => none

end SqlToolkit.Document
