/-!
# Blank characters

Blanks separate the parts of a condition key, a column reference or a table specification.  They are the
characters with the white-space property in any script, so a key written with an ideographic space reads like one
written with an ordinary one.  Trimming and splitting into words are defined on character lists, where they can be
reasoned about by induction, and lifted to strings.
-/
namespace SqlToolkit.Text

/-- The white-space property: the control blanks, the space, and the spaces and separators of other blocks. -/
def isBlank (c : Char) : Bool :=
  let n := c.toNat
  (9 ≤ n && n ≤ 13) || n == 0x20 || n == 0x85 || n == 0xA0 || n == 0x1680 || (0x2000 ≤ n && n ≤ 0x200A) ||
    n == 0x2028 || n == 0x2029 || n == 0x202F || n == 0x205F || n == 0x3000

/-- The text after its leading blanks. -/
def skipBlanks (cs : List Char) : List Char := cs.dropWhile isBlank

/-- The text without its trailing blanks. -/
def dropTrailingBlanks : List Char → List Char
  | [] => []
  | c :: cs =>
    match dropTrailingBlanks cs with
    | [] => if isBlank c then [] else [c]
    | rest => c :: rest

/-- The text without the blanks at both ends. -/
def trimBlanks (cs : List Char) : List Char := dropTrailingBlanks (skipBlanks cs)

/-- A string without the blanks at both ends. -/
def trim (s : String) : String := String.ofList (trimBlanks s.toList)

/-- The maximal runs of characters that are not blank, in order. -/
def words : List Char → List (List Char)
  | [] => []
  | c :: cs =>
    if isBlank c then words cs
    else match cs with
      | [] => [[c]]
      | d :: _ =>
        if isBlank d then [c] :: words cs
        else match words cs with
          | [] => [[c]]
          | w :: rest => (c :: w) :: rest

/-- Every character is blank. -/
def allBlank (cs : List Char) : Bool := cs.all isBlank

@[simp] theorem skipBlanks_nil : skipBlanks [] = [] := rfl

theorem skipBlanks_cons_of_blank {c : Char} (h : isBlank c = true) (cs : List Char) :
    skipBlanks (c :: cs) = skipBlanks cs := by
  simp [skipBlanks, h]

theorem skipBlanks_cons_of_not_blank {c : Char} (h : isBlank c = false) (cs : List Char) :
    skipBlanks (c :: cs) = c :: cs := by
  simp [skipBlanks, h]

example : trim "  a b　" = "a b" := by decide +kernel
example : (words " a  b c ".toList).map String.ofList = ["a", "b", "c"] := by decide +kernel

end SqlToolkit.Text
