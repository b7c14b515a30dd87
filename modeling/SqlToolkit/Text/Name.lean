import SqlToolkit.Error
import SqlToolkit.Text.Blank

/-!
# Plain names

A plain name starts with a letter or an underscore of the basic alphabet and goes on with letters, digits and
underscores; inside column and table names a dollar sign may follow too.  A column is a plain name, or two of them
around a dot.  Plain columns are written into statements without quotes, which is safe exactly because nothing else
is let through.

Reading takes the longest name at the front of a text, so two names never split one run of name characters.
-/
namespace SqlToolkit.Text

/-- A letter of the basic alphabet or an underscore. -/
def startsName (c : Char) : Bool := c.isAlpha || c == '_'

/-- A character of an alias after its first. -/
def isAliasChar (c : Char) : Bool := c.isAlphanum || c == '_'

/-- A character of a column or table name after its first. -/
def isColumnChar (c : Char) : Bool := c.isAlphanum || c == '_' || c == '$'

/-- The longest name at the front of a text and what follows it. -/
def readName (continues : Char → Bool) : List Char → Option (List Char × List Char)
  | [] => none
  | c :: cs => if startsName c then some (c :: cs.takeWhile continues, cs.dropWhile continues) else none

/-- The longest column at the front of a text, qualified by a table if a dot and a second name follow. -/
def readColumn (cs : List Char) : Option (List Char × List Char) :=
  match readName isColumnChar cs with
  | some (table, '.' :: rest) =>
    match readName isColumnChar rest with
    | some (column, after) => some (table ++ '.' :: column, after)
    | none => some (table, '.' :: rest)
  | other => other

/-- The whole text is one column, and nothing else. -/
def isColumn (name : String) : Bool :=
  match readColumn name.toList with
  | some (_, []) => true
  | _ => false

/-- An alias in parentheses, blanks allowed around it, with what follows the closing parenthesis. -/
def readAlias : List Char → Option (List Char × List Char)
  | '(' :: cs =>
    match readName isAliasChar (skipBlanks cs) with
    | some (asName, rest) =>
      match skipBlanks rest with
      | ')' :: after => some (asName, after)
      | _ => none
    | none => none
  | _ => none

/-- The end of a reference: blanks, an alias in parentheses if there is one, blanks, and nothing more. -/
def readAliasEnd (cs : List Char) : Option (Option (List Char)) :=
  match skipBlanks cs with
  | [] => some none
  | rest =>
    match readAlias rest with
    | some (asName, after) => if allBlank after then some (some asName) else none
    | none => none

/-- A text before and after its first dot. -/
def splitDot (cs : List Char) : Option (List Char × List Char) :=
  match cs.dropWhile (· != '.') with
  | [] => none
  | _ :: after => some (cs.takeWhile (· != '.'), after)

theorem readName_eq_append {continues : Char → Bool} {cs name rest : List Char}
    (h : readName continues cs = some (name, rest)) : cs = name ++ rest := by
  cases cs with
  | nil => simp [readName] at h
  | cons c cs =>
    simp only [readName] at h
    split at h
    · simp only [Option.some.injEq, Prod.mk.injEq] at h
      obtain ⟨rfl, rfl⟩ := h
      simp [List.takeWhile_append_dropWhile]
    · simp at h

end SqlToolkit.Text

namespace SqlToolkit

/-- A column name that may be written bare, or the cause why not. -/
def validateColumn (name : String) : Except CompileError String :=
  if Text.isColumn name then .ok name else .error (.invalidIdentifier name)

end SqlToolkit
