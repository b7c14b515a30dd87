import SqlToolkit.Condition
import SqlToolkit.Target

/-!
# Criteria

The criteria of a statement choose rows, group them, order them and keep a window of them.  They are built step by
step.  A step that is malformed leaves its mark: the first cause is kept, later steps go on, and the cause is
reported when the criteria are compiled.  Writes use only the conditions; queries use every clause.
-/
namespace SqlToolkit

/-- The direction of an ordering. -/
inductive Direction where
  | ascending
  | descending
deriving DecidableEq, Repr

/-- One part of an ordering. -/
inductive OrderItem where
  | column (name : String) (direction : Option Direction)
  | raw (sql : RawSql)
deriving DecidableEq, Repr

/-- A window of the result: at most `count` rows after the first `offset`. -/
structure Window where
  count : Option Nat := none
  offset : Option Nat := none
deriving DecidableEq, Repr, Inhabited

/-- The clauses after the tables of a statement, and the first cause that makes them malformed. -/
structure Criteria where
  conditions : List Condition := []
  groupBy : List String := []
  having : List Condition := []
  orderBy : List OrderItem := []
  window : Option Window := none
  error : Option CompileError := none
deriving Inhabited

/-- A number of rows that a signed 64-bit integer holds, or the cause why not. -/
def checkRowCount (n : Nat) : Except CompileError Nat :=
  if n ≤ Int64.maxValue.toInt then .ok n
  else .error (.invalidInput ("row count " ++ toString n ++ " exceeds the largest signed 64-bit integer"))

namespace Criteria

/-! ### Steps -/

/-- Records a cause unless one is recorded already. -/
def keepError (c : Criteria) (cause : CompileError) : Criteria :=
  { c with error := c.error.or (some cause) }

/-- Takes over the cause of nested criteria. -/
def absorb (c nested : Criteria) : Criteria :=
  { c with error := c.error.or nested.error }

/-- Adds the condition of a key and an operand. -/
def field (c : Criteria) (key : String) (operand : Operand) : Criteria :=
  match Condition.parse key operand with
  | .ok condition => { c with conditions := c.conditions ++ [condition] }
  | .error cause => c.keepError cause

/-- Adds a condition. -/
def condition (c : Criteria) (added : Condition) : Criteria :=
  { c with conditions := c.conditions ++ [added] }

/-- Adds the conditions of nested criteria as one group; their other clauses are dropped. -/
def group (c : Criteria) (logic : Logic) (nested : Criteria) : Criteria :=
  (c.absorb nested).condition (.group logic nested.conditions)

/-- Groups the result by a column. -/
def groupByColumn (c : Criteria) (column : String) : Criteria :=
  match validateColumn column with
  | .ok name => { c with groupBy := c.groupBy ++ [name] }
  | .error cause => c.keepError cause

/-- Keeps the groups that meet the conditions of nested criteria. -/
def havingAll (c nested : Criteria) : Criteria :=
  let c := c.absorb nested
  { c with having := c.having ++ nested.conditions }

/-- Orders the result by a column. -/
def orderByColumn (c : Criteria) (column : String) (direction : Option Direction) : Criteria :=
  match validateColumn column with
  | .ok name => { c with orderBy := c.orderBy ++ [.column name direction] }
  | .error cause => c.keepError cause

/-- Orders the result by raw SQL. -/
def orderByRaw (c : Criteria) (sql : RawSql) : Criteria :=
  { c with orderBy := c.orderBy ++ [.raw sql] }

/-- Records the cause when a number of rows is too large. -/
def checkCount (c : Criteria) (n : Nat) : Criteria :=
  match checkRowCount n with
  | .ok _ => c
  | .error cause => c.keepError cause

/-- Sets how many rows are kept. -/
def limit (c : Criteria) (count : Nat) : Criteria :=
  { c.checkCount count with window := some ⟨some count, c.window.bind Window.offset⟩ }

/-- Sets how many rows are left out first. -/
def skip (c : Criteria) (offset : Nat) : Criteria :=
  { c.checkCount offset with window := some ⟨c.window.bind Window.count, some offset⟩ }

/-- No clause was added; a malformed step does not count. -/
def isEmpty (c : Criteria) : Bool :=
  c.conditions.isEmpty && c.groupBy.isEmpty && c.having.isEmpty && c.orderBy.isEmpty && c.window.isNone

/-! ### Compilation -/

/-- The conditions as one predicate, unless a step was malformed. -/
def predicate (c : Criteria) (render : RawSql → String) : Except CompileError Fragment :=
  match c.error with
  | some cause => .error cause
  | none => Condition.compileAll render .and c.conditions

/-- The predicate with double quotes around the names of raw SQL. -/
def compile (c : Criteria) : Except CompileError Fragment :=
  c.predicate fun raw => raw.render fun name => Text.wrap name '"' '"'

/-- Text and fragment, or nothing when the fragment is empty. -/
def clause (keyword : String) (content : Fragment) : Fragment :=
  if content.isEmpty then {} else Fragment.raw keyword ++ content

/-- The part of an ordering as it is written. -/
def orderText (t : Target) : OrderItem → String
  | .column name none => name
  | .column name (some .ascending) => name ++ " ASC"
  | .column name (some .descending) => name ++ " DESC"
  | .raw sql => t.renderRaw sql

/-- A keyword and a list, or nothing for the empty list. -/
def listClause (keyword : String) (items : List String) : Fragment :=
  if items.isEmpty then {} else Fragment.raw (keyword ++ ", ".intercalate items)

/-- The condition clause, which is all that a write takes from the criteria. -/
def whereClause (c : Criteria) (t : Target) : Except CompileError Fragment := do
  let predicate ← c.predicate t.renderRaw
  return clause " WHERE " predicate

/-- The window clause. -/
def windowClause (c : Criteria) (t : Target) : Fragment :=
  match c.window with
  | some w => Fragment.raw (t.dialect.limitClause w.count w.offset (!c.orderBy.isEmpty))
  | none => {}

/-- All clauses, each with a space in front. -/
def clauses (c : Criteria) (t : Target) : Except CompileError Fragment := do
  let conditions ← c.whereClause t
  let having ← Condition.compileAll t.renderRaw .and c.having
  return conditions ++ listClause " GROUP BY " c.groupBy ++ clause " HAVING " having ++
    listClause " ORDER BY " (c.orderBy.map (orderText t)) ++ c.windowClause t

@[simp] theorem error_condition (c : Criteria) (added : Condition) : (c.condition added).error = c.error := rfl

/-- A recorded cause is never replaced. -/
theorem error_keepError {c : Criteria} {first : CompileError} (h : c.error = some first) (cause : CompileError) :
    (c.keepError cause).error = some first := by
  simp [keepError, h]

end Criteria
end SqlToolkit
