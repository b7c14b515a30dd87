import SqlToolkit.Fragment

/-!
# Statements

A statement is finished SQL text with its bound values.  For the log it can be written with the values in place of
the placeholders; question marks inside string literals are no placeholders.
-/
namespace SqlToolkit

/-- Finished SQL text and the values of its placeholders. -/
structure Statement where
  sql : String
  params : List Value := []
deriving DecidableEq, Repr, Inhabited

namespace Statement

def ofFragment (f : Fragment) : Statement := ⟨f.sql, f.params⟩

/-- The text with values in place of placeholders outside string literals.  A placeholder without a value stays; a
value without a placeholder is left out. -/
def fillIn (inLiteral : Bool) : List Char → List Value → List Char
  | [], _ => []
  | c :: cs, params =>
    if c = '\'' then c :: fillIn (!inLiteral) cs params
    else if c = '?' ∧ inLiteral = false then
      match params with
      | value :: rest => value.inline.toList ++ fillIn inLiteral cs rest
      | [] => c :: fillIn inLiteral cs []
    else c :: fillIn inLiteral cs params

/-- The statement with its values written into it. -/
def inlineText (s : Statement) : String := String.ofList (fillIn false s.sql.toList s.params)

@[simp] theorem fillIn_nil (b : Bool) (params : List Value) : fillIn b [] params = [] := by
  cases params <;> rfl

end Statement
end SqlToolkit
