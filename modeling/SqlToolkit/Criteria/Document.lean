import SqlToolkit.Criteria

/-!
# Criteria from documents

A record gives criteria: four keys name clauses, every other key is a condition or a group, in the order of the
record.  Inside groups, and among the conditions on groups of rows, every key is a condition or a group.
-/
namespace SqlToolkit

/-- The entries of a record, or the cause that `what` is none. -/
def Document.expectRecord (what : String) (d : Document) : Except CompileError (List (String × Document)) :=
  match d.asRecord with
  | some entries => .ok entries
  | none => .error (.invalidInput (what ++ " must be an object"))

/-- The operand of a key: a list, or a scalar. -/
def Operand.ofDocument (key : String) : Document → Except CompileError Operand
  | .list items => .ok (.list (items.map Value.ofDocument))
  | .record _ => .error (.invalidInput ("value for '" ++ key ++ "' must be a scalar or a list"))
  | other => .ok (.value (Value.ofDocument other))

namespace Condition

mutual

/-- The condition of a key and its document. -/
def ofDocument (key : String) : Document → Except CompileError Condition
  | .record entries =>
    match Logic.ofKey? key with
    | some logic => do
      let children ← ofEntries entries
      return group logic children
    | none => do
      let operand ← Operand.ofDocument key (.record entries)
      parse key operand
  | other =>
    match Logic.ofKey? key with
    | some _ => .error (.invalidGroup key)
    | none => do
      let operand ← Operand.ofDocument key other
      parse key operand

/-- The conditions of the entries of a record. -/
def ofEntries : List (String × Document) → Except CompileError (List Condition)
  | [] => .ok []
  | (key, content) :: rest => do
    let first ← ofDocument key content
    let others ← ofEntries rest
    return first :: others

end

end Condition

namespace Criteria

/-- A text, or a list of texts. -/
def textsOf (what : String) : Document → Except CompileError (List String)
  | .text s => .ok [s]
  | .list items =>
    items.mapM fun item =>
      match item.asText with
      | some s => .ok s
      | none => .error (.invalidInput (what ++ " entries must be strings"))
  | _ => .error (.invalidInput (what ++ " must be a string or a list of strings"))

/-- The direction that a document names, in any case. -/
def directionOf (column : String) (d : Document) : Except CompileError Direction :=
  match d.asText.map fun s => String.ofList (s.toList.map Char.toUpper) with
  | some "ASC" => .ok .ascending
  | some "DESC" => .ok .descending
  | _ => .error (.invalidInput ("ORDER direction for '" ++ column ++ "' must be ASC or DESC"))

/-- The ordering of a document: columns with directions, or columns alone. -/
def orderOf (d : Document) : Except CompileError (List OrderItem) :=
  match d with
  | .record entries =>
    entries.mapM fun entry => do
      let direction ← directionOf entry.1 entry.2
      let name ← validateColumn entry.1
      return .column name (some direction)
  | other => do
    let columns ← textsOf "ORDER" other
    columns.mapM fun column => do
      let name ← validateColumn column
      return .column name none

/-- The cause for any other window than a count or an offset and a count. -/
def invalidLimit : CompileError := .invalidInput "LIMIT must be a count or [offset, count]"

/-- A number of rows. -/
def rowCountOf (d : Document) : Except CompileError Nat :=
  match d.asNatural with
  | some n => checkRowCount n
  | none => .error invalidLimit

/-- The window of a document: a count, or an offset before a count. -/
def windowOf : Document → Except CompileError Window
  | .list [offset, count] => do
    let count ← rowCountOf count
    let offset ← rowCountOf offset
    return ⟨some count, some offset⟩
  | .integer n => do
    let count ← rowCountOf (.integer n)
    return ⟨some count, none⟩
  | _ => .error invalidLimit

/-- Takes over one entry of a record of criteria. -/
def addEntry (c : Criteria) (key : String) (content : Document) : Except CompileError Criteria :=
  match key with
  | "ORDER" => do
    let items ← orderOf content
    return { c with orderBy := c.orderBy ++ items }
  | "LIMIT" => do
    let window ← windowOf content
    return { c with window := some window }
  | "GROUP" => do
    let columns ← textsOf "GROUP" content
    let names ← columns.mapM validateColumn
    return { c with groupBy := c.groupBy ++ names }
  | "HAVING" => do
    let entries ← content.expectRecord "HAVING"
    let conditions ← Condition.ofEntries entries
    return { c with having := c.having ++ conditions }
  | key => do
    let condition ← Condition.ofDocument key content
    return { c with conditions := c.conditions ++ [condition] }

/-- The criteria of a record. -/
def ofDocument (d : Document) : Except CompileError Criteria := do
  let entries ← d.expectRecord "condition tree"
  entries.foldlM (fun c entry => c.addEntry entry.1 entry.2) {}

end Criteria
end SqlToolkit
