import SqlToolkit.Value

/-!
# Statement fragments

A fragment is a piece of SQL text with the values bound to its placeholders, from left to right.  Values are coerced
on the way in, and every way of putting fragments together puts texts and values together in the same order, so the
n-th placeholder always belongs to the n-th value.
-/
namespace SqlToolkit

/-- A piece of SQL text and the values of its placeholders in order. -/
structure Fragment where
  sql : String := ""
  params : List Value := []
deriving DecidableEq, Repr, Inhabited

namespace Fragment

/-- Trusted text without placeholders. -/
def raw (sql : String) : Fragment := ⟨sql, []⟩

/-- One placeholder. -/
def value (v : Value) : Fragment := ⟨"?", [v.coerce]⟩

/-- Two operands around an operator. -/
def binary (left : Fragment) (op : String) (right : Fragment) : Fragment :=
  ⟨left.sql ++ " " ++ op ++ " " ++ right.sql, left.params ++ right.params⟩

/-- An operand before an operator. -/
def trailing (operand : Fragment) (op : String) : Fragment :=
  ⟨operand.sql ++ " " ++ op, operand.params⟩

/-- A range test. -/
def between (operand : Fragment) (low high : Value) (negated : Bool) : Fragment :=
  ⟨operand.sql ++ (if negated then " NOT BETWEEN " else " BETWEEN ") ++ "? AND ?",
    operand.params ++ [low.coerce, high.coerce]⟩

/-- A membership test.  An empty list has no valid text, so a constant stands for the whole test and the operand is
dropped. -/
def inList (operand : Fragment) (values : List Value) (negated : Bool) : Fragment :=
  if values.isEmpty then raw (if negated then "1 = 1" else "1 = 0")
  else
    ⟨operand.sql ++ (if negated then " NOT IN (" else " IN (") ++ ", ".intercalate (values.map fun _ => "?") ++ ")",
      operand.params ++ values.map Value.coerce⟩

/-- Fragments side by side with a separator between them. -/
def join (parts : List Fragment) (separator : String) : Fragment :=
  ⟨separator.intercalate (parts.map sql), parts.flatMap params⟩

/-- A fragment in parentheses. -/
def paren (f : Fragment) : Fragment := ⟨"(" ++ f.sql ++ ")", f.params⟩

/-- A fragment followed by trusted text. -/
def push (f : Fragment) (sql : String) : Fragment := ⟨f.sql ++ sql, f.params⟩

/-- One fragment after another. -/
def append (f g : Fragment) : Fragment := ⟨f.sql ++ g.sql, f.params ++ g.params⟩

instance : Append Fragment := ⟨append⟩

/-- There is no text. -/
def isEmpty (f : Fragment) : Bool := f.sql.isEmpty

@[simp] theorem params_binary (l : Fragment) (op : String) (r : Fragment) :
    (binary l op r).params = l.params ++ r.params := rfl

@[simp] theorem params_append (f g : Fragment) : (f ++ g).params = f.params ++ g.params := rfl

@[simp] theorem sql_append (f g : Fragment) : (f ++ g).sql = f.sql ++ g.sql := rfl

@[simp] theorem params_paren (f : Fragment) : f.paren.params = f.params := rfl

@[simp] theorem params_join (parts : List Fragment) (separator : String) :
    (join parts separator).params = parts.flatMap params := rfl

end Fragment
end SqlToolkit
