import SqlToolkit.Statement
import SqlToolkit.Statement.RowData

/-!
# Writes

Inserts take their columns from the first row, and every other row must have the same keys.  Updates assign
operands or change columns by arithmetic.  Replacements assign, to each column, the new value of the first pair
whose old value the row holds.  Updates and deletions keep only the conditions of their criteria.
-/
namespace SqlToolkit
namespace Statement

/-- An operand as it is written in a row: a list becomes one text. -/
def bind (t : Target) : Operand → Fragment
  | .value v => .value v
  | .list values => .value (.listText values)
  | .raw sql => .raw (t.renderRaw sql)

/-- The column of a key in an insert, which has no operator. -/
def insertColumn (key : String) : Except CompileError String := do
  let (column, operator) ← splitKey key
  if operator.isSome then throw (.invalidKey key)
  validateColumn column

/-- The tuple of a row in the order of the given keys. -/
def tuple (t : Target) (keys : List String) (row : RowData) : Fragment :=
  (Fragment.join ((keys.filterMap row.get?).map (bind t)) ", ").paren

/-- The tuples of rows that all have the keys of the first; the rows are numbered from `index`. -/
def tuples (t : Target) (first : RowData) : Nat → List RowData → Except CompileError (List Fragment)
  | _, [] => .ok []
  | index, row :: rest => do
    if !row.sameKeys first then throw (.columnSetMismatch index)
    let others ← tuples t first (index + 1) rest
    return tuple t first.keys row :: others

/-- Adds rows to a table. -/
def insert (t : Target) (table : String) (rows : List RowData) : Except CompileError Statement :=
  match rows with
  | [] => .error (.emptyInsert table)
  | first :: _ =>
    if first.isEmpty then .error (.emptyInsert table)
    else do
      let columns ← first.keys.mapM insertColumn
      let tuples ← tuples t first 0 rows
      let intro := "INSERT INTO " ++ t.quoteTable table ++ " (" ++ ", ".intercalate columns ++ ") VALUES "
      return ofFragment (Fragment.raw intro ++ Fragment.join tuples ", ")

/-- The assignment of a key and an operand. -/
def assignment (t : Target) (key : String) (operand : Operand) : Except CompileError Fragment := do
  let (column, operator) ← splitKey key
  let column ← validateColumn column
  let target := Fragment.raw column
  match operator with
  | none => return target.binary "=" (bind t operand)
  | some token =>
    match Arithmetic.ofToken? token, operand with
    | some op, .list _ => throw (.expectedScalar column op.keyword)
    | some op, operand => return target.binary "=" (target.binary op.keyword (bind t operand))
    | none, _ => throw (.invalidKey key)

/-- An update with the given assignments. -/
def updateWith (t : Target) (table : String) (assignments : List Fragment) (criteria : Criteria) :
    Except CompileError Statement := do
  let conditions ← criteria.whereClause t
  let intro := Fragment.raw ("UPDATE " ++ t.quoteTable table ++ " SET ")
  return ofFragment (intro ++ Fragment.join assignments ", " ++ conditions)

/-- Changes the rows that meet the criteria. -/
def update (t : Target) (table : String) (data : RowData) (criteria : Criteria) : Except CompileError Statement :=
  if data.isEmpty then .error (.emptyUpdate table)
  else do
    let assignments ← data.entries.mapM fun entry => assignment t entry.1 entry.2
    updateWith t table assignments criteria

/-- Removes the rows that meet the criteria. -/
def delete (t : Target) (table : String) (criteria : Criteria) : Except CompileError Statement := do
  let conditions ← criteria.whereClause t
  return ofFragment (Fragment.raw ("DELETE FROM " ++ t.quoteTable table) ++ conditions)

/-- The branch of one pair. -/
def replaceBranch (column : String) (pair : Value × Value) : Fragment :=
  Fragment.raw (" WHEN " ++ column ++ " = ") ++ .value pair.1 ++ .raw " THEN " ++ .value pair.2

/-- The assignment that maps old values of a column to new ones and keeps all others. -/
def replaceAssignment (column : String) (pairs : List (Value × Value)) : Except CompileError Fragment := do
  let column ← validateColumn column
  let branches := Fragment.join (pairs.map (replaceBranch column)) ""
  return Fragment.raw (column ++ " = CASE") ++ branches ++ .raw (" ELSE " ++ column ++ " END")

/-- Replaces values in the rows that meet the criteria. -/
def replace (t : Target) (table : String) (replacements : Replacements) (criteria : Criteria) :
    Except CompileError Statement :=
  if replacements.isEmpty then .error (.emptyUpdate table)
  else do
    let listed := replacements.columns.filter fun entry => !entry.2.isEmpty
    let assignments ← listed.mapM fun entry => replaceAssignment entry.1 entry.2
    updateWith t table assignments criteria

end Statement
end SqlToolkit
