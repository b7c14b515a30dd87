import SqlToolkit.Schema.Blueprint
import SqlToolkit.Session

/-!
# Changing the schema through a session

Tables are created and altered by blueprints, whose statements run one after another up to the first that fails.
Every table name is prefixed once.
-/
namespace SqlToolkit.Session
open Schema
variable {σ : Type}

/-- Declares what a blueprint starts from, under the session's prefix, and runs the statements that it is built into. -/
def runBlueprint (blueprint : Blueprint) (declare : Blueprint → Blueprint) : Operation σ Unit := do
  let s ← get
  let statements ← compiled ((declare { blueprint with tablePrefix := s.target.tablePrefix }).build s.target.dialect)
  runAll statements

/-- Creates a table. -/
def createTable (table : String) (declare : Blueprint → Blueprint) : Operation σ Unit :=
  runBlueprint (.create table) declare

/-- Alters a table. -/
def alterTable (table : String) (declare : Blueprint → Blueprint) : Operation σ Unit :=
  runBlueprint (.alter table) declare

/-- Creates a table from column definitions and options in raw SQL, where the dialect allows only if it does not
exist. -/
def create (table : String) (columns : List (String × String)) (options : List String) : Operation σ Unit := do
  let s ← get
  createTable table fun b =>
    { b with
      columns := columns.map fun c => Column.ofDefinition c.1 c.2
      options := options.map RawSql.mk
      ifNotExists := s.target.dialect.supportsIfNotExists }

/-- Renames a table. -/
def renameTable (table name : String) : Operation σ Unit := do
  let s ← get
  runAll [s.target.dialect.renameTable (s.fullName table) (s.fullName name)]

/-- Drops a table. -/
def dropTable (table : String) : Operation σ Unit := do
  let s ← get
  runAll ["DROP TABLE " ++ s.target.dialect.quoteSchema (s.fullName table)]

/-- Drops a table if there is one. -/
def dropTableIfExists (table : String) : Operation σ Unit := do
  let s ← get
  runAll [s.target.dialect.dropTableIfExists (s.fullName table)]

/-- Whether there is a table. -/
def hasTable (table : String) : Operation σ Bool := do
  let s ← get
  let rows ← fetch ⟨s.target.dialect.tableExistsQuery, [.text (s.fullName table)]⟩
  return !rows.isEmpty

end SqlToolkit.Session
