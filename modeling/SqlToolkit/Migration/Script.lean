import SqlToolkit.Text.Blank

/-!
# Migration scripts

A script holds statements with semicolons between them.  Semicolons in quotes and in comments are text.  A quote ends
at the next quote of its kind, so a doubled quote ends one and starts another; a comment runs from two hyphens to the
end of the line.  Statements are trimmed, and those of blank lines and comment lines alone are dropped.
-/
namespace SqlToolkit.Script
open Text

/-- Where a character of a script stands. -/
inductive Mode where
  | code
  | quoted (quote : Char)
  | comment
deriving DecidableEq, Repr

/-- The characters that start a quote, which ends at the next one of its kind. -/
def isQuote (c : Char) : Bool := c = '\'' || c = '"' || c = '\x60'

/-- Two hyphens start the text. -/
def startsComment : List Char → Bool
  | '-' :: '-' :: _ => true
  | _ => false

/-- The mode after a character, which `rest` follows. -/
def Mode.next (mode : Mode) (c : Char) (rest : List Char) : Mode :=
  match mode with
  | .code => if isQuote c then .quoted c else if startsComment (c :: rest) then .comment else .code
  | .quoted quote => if c = quote then .code else .quoted quote
  | .comment => if c = '\n' then .code else .comment

/-- A text put in front of the first part of a list. -/
def extendFirst (c : Char) : List (List Char) → List (List Char)
  | [] => [[c]]
  | part :: parts => (c :: part) :: parts

/-- The parts of a script between the semicolons in code. -/
def segments (mode : Mode) : List Char → List (List Char)
  | [] => [[]]
  | c :: cs =>
    if mode = .code ∧ c = ';' then [] :: segments .code cs
    else extendFirst c (segments (mode.next c cs) cs)

/-- The lines of a text. -/
def lines : List Char → List (List Char)
  | [] => [[]]
  | c :: cs => if c = '\n' then [] :: lines cs else extendFirst c (lines cs)

/-- A line is blank, or a comment after any blanks. -/
def isVoidLine (line : List Char) : Bool :=
  let line := trimBlanks line
  line.isEmpty || startsComment line

/-- There is nothing to run in a text. -/
def isVoid (text : List Char) : Bool := (lines text).all isVoidLine

/-- The statements of a script, in order. -/
def statements (script : String) : List String :=
  (((segments .code script.toList).map trimBlanks).filter fun text => !isVoid text).map String.ofList

theorem segments_ne_nil (mode : Mode) (cs : List Char) : segments mode cs ≠ [] := by
  cases cs with
  | nil => simp [segments]
  | cons c cs =>
    simp only [segments]
    split
    · simp
    · cases segments (mode.next c cs) cs <;> simp [extendFirst]

example : statements "A (';'); -- b;\n B;\n--c\n;" = ["A (';')", "-- b;\n B"] := by decide +kernel
example : statements "-- one; two\n-- three" = [] := by decide +kernel

end SqlToolkit.Script
