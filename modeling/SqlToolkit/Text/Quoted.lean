/-!
# Quoted text

An identifier or a string literal is written between an opening and a closing character, and a closing character
inside it is written twice.  Reading such a token stops at the first closing character that is not doubled, so the
token delimits itself: whatever text follows, unless it starts with the closing character, is left untouched.
-/
namespace SqlToolkit.Text

/-- Each closing character twice, all else once. -/
def double (closing : Char) : List Char → List Char
  | [] => []
  | c :: cs => if c = closing then closing :: c :: double closing cs else c :: double closing cs

/-- A text as a quoted token. -/
def enclose (opening closing : Char) (cs : List Char) : List Char :=
  opening :: (double closing cs ++ [closing])

/-- The text of a token whose opening character has been read, with what follows the token; nothing when the token
has no end. -/
def readEnclosed (closing : Char) : List Char → Option (List Char × List Char)
  | [] => none
  | [c] => if c = closing then some ([], []) else none
  | c :: d :: ds =>
    if c = closing then
      if d = closing then (readEnclosed closing ds).map fun r => (c :: r.1, r.2) else some ([], d :: ds)
    else (readEnclosed closing (d :: ds)).map fun r => (c :: r.1, r.2)

/-- A string as an identifier between the given quotes. -/
def wrap (name : String) (opening closing : Char) : String :=
  String.ofList (enclose opening closing name.toList)

/-- A string as a string literal. -/
def literal (value : String) : String := wrap value '\'' '\''

@[simp] theorem double_nil (closing : Char) : double closing [] = [] := rfl

theorem double_cons_self (closing : Char) (cs : List Char) :
    double closing (closing :: cs) = closing :: closing :: double closing cs := by
  simp [double]

theorem double_cons_of_ne {closing c : Char} (h : c ≠ closing) (cs : List Char) :
    double closing (c :: cs) = c :: double closing cs := by
  simp [double, h]

theorem readEnclosed_cons_of_ne {closing c : Char} (h : c ≠ closing) (cs : List Char) :
    readEnclosed closing (c :: cs) = (readEnclosed closing cs).map fun r => (c :: r.1, r.2) := by
  cases cs with
  | nil => simp [readEnclosed, h]
  | cons d ds => simp [readEnclosed, h]

/-- A token that is not followed by another closing character reads back to its text and leaves the rest. -/
theorem readEnclosed_double {closing : Char} {rest : List Char} (cs : List Char)
    (free : rest.head? ≠ some closing) :
    readEnclosed closing (double closing cs ++ closing :: rest) = some (cs, rest) := by
  induction cs with
  | nil =>
    cases rest with
    | nil => simp [readEnclosed]
    | cons d ds =>
      have hd : d ≠ closing := fun h => free (by simp [h])
      simp [readEnclosed, hd]
  | cons c cs ih =>
    by_cases h : c = closing
    · subst h
      rw [double_cons_self]
      simp [readEnclosed, ih]
    · rw [double_cons_of_ne h, List.cons_append, readEnclosed_cons_of_ne h, ih]
      rfl

end SqlToolkit.Text
