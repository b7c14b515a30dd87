import SqlToolkit.Session
import SqlToolkit.Statement.Write

/-!
# Writing through a session

Each write compiles one statement, runs it and answers with the number of rows it touched.  An insert that added
rows also sets the session's last new key.
-/
namespace SqlToolkit.Session
variable {σ : Type}

/-- Adds rows to a table. -/
def insert (table : String) (rows : List RowData) : Operation σ WriteResult := do
  let s ← get
  let statement ← compiled (Statement.insert s.target table rows)
  let result ← run statement
  if 0 < result.rowsAffected then
    modify fun s => { s with lastInsertId := result.lastInsertId }
  return result

/-- Compiles and runs a write for the number of its rows. -/
def write (compile : Target → Except CompileError Statement) : Operation σ Nat := do
  let s ← get
  let statement ← compiled (compile s.target)
  let result ← run statement
  return result.rowsAffected

/-- Changes the rows that meet the criteria. -/
def update (table : String) (data : RowData) (criteria : Criteria) : Operation σ Nat :=
  write fun t => Statement.update t table data criteria

/-- Removes the rows that meet the criteria. -/
def delete (table : String) (criteria : Criteria) : Operation σ Nat :=
  write fun t => Statement.delete t table criteria

/-- Replaces values in the rows that meet the criteria. -/
def replace (table : String) (replacements : Replacements) (criteria : Criteria) : Operation σ Nat :=
  write fun t => Statement.replace t table replacements criteria

/-- Runs a statement of raw SQL. -/
def execute (sql : String) (params : List Value) : Operation σ Nat := do
  let s ← get
  let result ← run (s.rawStatement sql params)
  return result.rowsAffected

end SqlToolkit.Session
