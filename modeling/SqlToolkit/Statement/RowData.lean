import SqlToolkit.Criteria.Document

/-!
# The data of writes

A row of data gives operands under keys, each key once, in the order in which the keys were first set.  Replacements
give, per column, pairs of an old and a new value, in order.
-/
namespace SqlToolkit

/-- The operands of a row under their keys. -/
structure RowData where
  entries : List (String × Operand) := []
deriving DecidableEq, Repr, Inhabited

namespace RowData

/-- Puts an operand under a key: in place when the key is present, at the end when it is new. -/
def put (key : String) (operand : Operand) : List (String × Operand) → List (String × Operand)
  | [] => [(key, operand)]
  | entry :: rest => if entry.1 = key then (key, operand) :: rest else entry :: put key operand rest

/-- Sets the operand of a key. -/
def set (r : RowData) (key : String) (operand : Operand) : RowData := ⟨put key operand r.entries⟩

/-- The keys in order. -/
def keys (r : RowData) : List String := r.entries.map Prod.fst

/-- The operand of a key. -/
def get? (r : RowData) (key : String) : Option Operand := r.entries.lookup key

/-- There are no entries. -/
def isEmpty (r : RowData) : Bool := r.entries.isEmpty

/-- Both rows have the same keys, in any order. -/
def sameKeys (r s : RowData) : Bool :=
  r.keys.all s.keys.contains && s.keys.all r.keys.contains && r.entries.length == s.entries.length

/-- The row of a record: scalars and records are values, lists are list operands. -/
def ofDocument (d : Document) : Except CompileError RowData := do
  let entries ← d.expectRecord "row data"
  let operands ← entries.mapM fun entry =>
    match entry.2 with
    | .record fields => Except.ok (entry.1, Operand.value (.ofDocument (.record fields)))
    | other => do
      let operand ← Operand.ofDocument entry.1 other
      return (entry.1, operand)
  return ⟨operands⟩

theorem keys_put (key : String) (operand : Operand) (entries : List (String × Operand)) :
    (put key operand entries).map Prod.fst =
      if key ∈ entries.map Prod.fst then entries.map Prod.fst else entries.map Prod.fst ++ [key] := by
  induction entries with
  | nil => simp [put]
  | cons entry rest ih =>
    by_cases h : entry.1 = key
    · simp [put, h]
    · have h' : ¬ key = entry.1 := fun e => h e.symm
      simp only [put, h, if_false, List.map_cons, ih, List.mem_cons, h', false_or]
      split <;> simp

end RowData

/-- Old and new values per column. -/
structure Replacements where
  columns : List (String × List (Value × Value)) := []
deriving DecidableEq, Repr, Inhabited

namespace Replacements

/-- Adds a pair to a column; a new column goes to the end. -/
def addPair (column : String) (pair : Value × Value) :
    List (String × List (Value × Value)) → List (String × List (Value × Value))
  | [] => [(column, [pair])]
  | entry :: rest =>
    if entry.1 = column then (entry.1, entry.2 ++ [pair]) :: rest else entry :: addPair column pair rest

/-- Replaces an old value of a column by a new one. -/
def replace (r : Replacements) (column : String) (old new : Value) : Replacements :=
  ⟨addPair column (old, new) r.columns⟩

/-- There is no pair. -/
def isEmpty (r : Replacements) : Bool := r.columns.all fun entry => entry.2.isEmpty

/-- The cause for a document of another shape. -/
def invalid : CompileError :=
  .invalidInput "replacements must map columns to \x7bold: new\x7d objects or [old, new] pairs"

/-- The pair of a list of an old and a new value. -/
def pairOf : Document → Except CompileError (Value × Value)
  | .list [old, new] => .ok (.ofDocument old, .ofDocument new)
  | _ => .error invalid

/-- The pairs of a column: a record of new values under old texts, or a list of pairs. -/
def pairsOf : Document → Except CompileError (List (Value × Value))
  | .record entries => .ok (entries.map fun entry => (.text entry.1, .ofDocument entry.2))
  | .list pairs => pairs.mapM pairOf
  | _ => .error invalid

/-- The replacements of a record of columns. -/
def ofDocument (d : Document) : Except CompileError Replacements :=
  match d.asRecord with
  | some entries =>
    entries.foldlM (fun (r : Replacements) entry => do
      let pairs ← pairsOf entry.2
      return pairs.foldl (fun r pair => r.replace entry.1 pair.1 pair.2) r) {}
  | none => .error invalid

end Replacements
end SqlToolkit
