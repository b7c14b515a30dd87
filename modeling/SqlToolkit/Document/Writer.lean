import SqlToolkit.Document
import SqlToolkit.Number.Text

/-!
# Writing documents

The compact written form: no blanks, records in their own order, and escapes only for the quote, the backslash and
the control characters below the space.  Doubles are written with the fewest digits that read back; an infinity or
no number is written as null.
-/
namespace SqlToolkit.Document
open Number

/-- Doubles in documents keep a fraction digit and are positional from `1e-5` to below `1e16`; of two equally near
digits the even one is written. -/
def floatLayout : Layout := ⟨some 16, some (-5), true, .even⟩

/-- Two hexadecimal digits of a number below 256, lower case. -/
def hexPair (n : Nat) : List Char := [Nat.digitChar (n / 16 % 16), Nat.digitChar (n % 16)]

/-- A character as it stands between the quotes of a text. -/
def escape (c : Char) : List Char :=
  if c = '"' then ['\\', '"']
  else if c = '\\' then ['\\', '\\']
  else if 0x20 ≤ c.toNat then [c]
  else if c = '\n' then ['\\', 'n']
  else if c = '\r' then ['\\', 'r']
  else if c = '\t' then ['\\', 't']
  else if c.toNat = 8 then ['\\', 'b']
  else if c.toNat = 12 then ['\\', 'f']
  else '\\' :: 'u' :: '0' :: '0' :: hexPair c.toNat

/-- A text between quotes. -/
def writeText (s : String) : String := String.ofList ('"' :: (s.toList.flatMap escape ++ ['"']))

mutual

/-- The compact written form of a document. -/
def write : Document → String
  | null => "null"
  | bool true => "true"
  | bool false => "false"
  | integer n => toString n
  | float x => (floatLayout.text? x).getD "null"
  | text s => writeText s
  | list items => "[" ++ ",".intercalate (writeItems items) ++ "]"
  | record entries => "\x7b" ++ ",".intercalate (writeEntries entries) ++ "\x7d"

/-- The written forms of the items of a list. -/
def writeItems : List Document → List String
  | [] => []
  | item :: rest => write item :: writeItems rest

/-- The written forms of the entries of a record. -/
def writeEntries : List (String × Document) → List String
  | [] => []
  | (key, content) :: rest => (writeText key ++ ":" ++ write content) :: writeEntries rest

end

example : write (list [null, integer (-3), text "a\"\n\x01"]) = "[null,-3,\"a\\\"\\n\\u0001\"]" := by decide +kernel

end SqlToolkit.Document
