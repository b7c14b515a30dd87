import SqlToolkit.Schema.Column

/-!
# Blueprints

A blueprint declares a table to create, or changes to a table that exists, and is built into the statements of one
dialect.  Creating takes one statement for the table, with its columns, keys and references inside, and one for each
index.  Altering takes a statement for each change: columns first, then the other commands, indexes, references and
the primary key.
-/
namespace SqlToolkit.Schema

/-- Whether a blueprint makes a table or changes one. -/
inductive BlueprintMode where
  | create
  | alter
deriving DecidableEq, Repr, Inhabited

/-- An index over columns. -/
structure Index where
  name : Option String := none
  columns : List String
  unique : Bool := false
deriving DecidableEq, Repr, Inhabited

/-- A reference from columns to those of another table. -/
structure ForeignKey where
  name : Option String := none
  columns : List String
  table : String := ""
  /-- The referenced columns; without any, those of the same names. -/
  references : List String := []
  onDelete : Option ReferenceAction := none
  onUpdate : Option ReferenceAction := none
deriving DecidableEq, Repr, Inhabited

/-- A change of a table that is not about a new column or key. -/
inductive Command where
  | dropColumn (name : String)
  | renameColumn (column name : String)
  | dropIndex (name : String)
  | dropForeign (name : String)
deriving DecidableEq, Repr, Inhabited

/-- The declaration of a table or of its changes. -/
structure Blueprint where
  table : String
  mode : BlueprintMode
  tablePrefix : String := ""
  columns : List Column := []
  indexes : List Index := []
  foreignKeys : List ForeignKey := []
  primary : Option (List String) := none
  commands : List Command := []
  engine : Option String := none
  charset : Option String := none
  collation : Option String := none
  options : List RawSql := []
  ifNotExists : Bool := false
deriving DecidableEq, Repr, Inhabited

namespace Scope

/-- Names in a schema statement, with commas between them. -/
def quoteList (s : Scope) (names : List String) : String := ", ".intercalate (names.map s.quote)

end Scope

namespace Index

/-- The name of an index; by default that of the table and its columns. -/
def nameIn (i : Index) (s : Scope) : String :=
  i.name.getD (s.table ++ "_" ++ "_".intercalate i.columns ++ if i.unique then "_unique" else "_index")

/-- The statement that makes an index. -/
def render (i : Index) (s : Scope) : String :=
  "CREATE " ++ (if i.unique then "UNIQUE " else "") ++ "INDEX " ++ s.quote (i.nameIn s) ++ " ON " ++
    s.quote s.table ++ " (" ++ s.quoteList i.columns ++ ")"

end Index

namespace ForeignKey

/-- The reference that a column declares for itself. -/
def ofColumn (c : Column) : Option ForeignKey :=
  c.reference.map fun r =>
    { columns := [c.name], table := r.table, references := [r.column], onDelete := r.onDelete,
      onUpdate := r.onUpdate }

/-- The name of the constraint; by default that of the table and its columns. -/
def nameIn (f : ForeignKey) (s : Scope) : String :=
  f.name.getD (s.table ++ "_" ++ "_".intercalate f.columns ++ "_foreign")

/-- The actions of a reference. -/
def actions (f : ForeignKey) : String :=
  (match f.onDelete with
    | some action => " ON DELETE " ++ action.keyword
    | none => "") ++
  (match f.onUpdate with
    | some action => " ON UPDATE " ++ action.keyword
    | none => "")

/-- The constraint in a schema statement. -/
def render (f : ForeignKey) (s : Scope) : Except CompileError String :=
  if f.table.isEmpty || f.columns.isEmpty then
    .error (.invalidInput ("foreign key on " ++ s.table ++ " needs local columns and a referenced table"))
  else
    let referenced := if f.references.isEmpty then f.columns else f.references
    .ok ("CONSTRAINT " ++ s.quote (f.nameIn s) ++ " FOREIGN KEY (" ++ s.quoteList f.columns ++ ") REFERENCES " ++
      s.quoteTable f.table ++ " (" ++ s.quoteList referenced ++ ")" ++ f.actions)

end ForeignKey

namespace Blueprint

/-! ### Declaring -/

/-- A blueprint for a new table. -/
def create (table : String) : Blueprint := { table, mode := .create }

/-- A blueprint for changes of a table. -/
def alter (table : String) : Blueprint := { table, mode := .alter }

/-- Adds a column. -/
def addColumn (b : Blueprint) (c : Column) : Blueprint := { b with columns := b.columns ++ [c] }

/-- Adds an index. -/
def addIndex (b : Blueprint) (i : Index) : Blueprint := { b with indexes := b.indexes ++ [i] }

/-- Adds a reference. -/
def addForeignKey (b : Blueprint) (f : ForeignKey) : Blueprint := { b with foreignKeys := b.foreignKeys ++ [f] }

/-- Adds a command. -/
def addCommand (b : Blueprint) (c : Command) : Blueprint := { b with commands := b.commands ++ [c] }

/-- Adds the two columns for the times of creation and change. -/
def addTimestamps (b : Blueprint) : Blueprint :=
  (b.addColumn { name := "created_at", type := .timestamp, nullable := true }).addColumn
    { name := "updated_at", type := .timestamp, nullable := true }

/-! ### Building -/

/-- The scope of the blueprint's statements in a dialect. -/
def scope (b : Blueprint) (d : Dialect) : Scope := ⟨d, b.tablePrefix, b.tablePrefix ++ b.table⟩

/-- All references: those of the columns, then the others. -/
def allForeignKeys (b : Blueprint) : List ForeignKey := b.columns.filterMap ForeignKey.ofColumn ++ b.foreignKeys

/-- The definitions inside the statement for a new table. -/
def definitions (b : Blueprint) (s : Scope) : Except CompileError (List String) := do
  let references ← b.allForeignKeys.mapM fun f => f.render s
  let primary := b.primary.map fun columns => "PRIMARY KEY (" ++ s.quoteList columns ++ ")"
  return b.columns.map (fun c => (c.render s).definition) ++ primary.toList ++ references

/-- The condition that the table does not exist, where it is asked for and supported. -/
def existenceClause (b : Blueprint) (d : Dialect) : Except CompileError String :=
  if !b.ifNotExists then .ok ""
  else if d.supportsIfNotExists then .ok "IF NOT EXISTS "
  else .error (.unsupported d.name "CREATE TABLE IF NOT EXISTS")

/-- The options after the definitions of a new table. -/
def tableOptions (b : Blueprint) (s : Scope) : String :=
  let clause (keyword : String) (given : Option String) : String :=
    match given with
    | some text => keyword ++ text
    | none => ""
  (if s.dialect = .mySql then
    clause " ENGINE = " b.engine ++ clause " DEFAULT CHARSET = " b.charset ++ clause " COLLATE = " b.collation
  else "") ++ String.join (b.options.map fun sql => " " ++ s.renderRaw sql)

/-- The statements that make the table. -/
def buildCreate (b : Blueprint) (s : Scope) : Except CompileError (List String) :=
  if b.columns.isEmpty then .error (.invalidInput ("table " ++ s.table ++ " has no columns"))
  else do
    let definitions ← b.definitions s
    let existence ← b.existenceClause s.dialect
    let statement :=
      "CREATE TABLE " ++ existence ++ s.quote s.table ++ " (" ++ ", ".intercalate definitions ++ ")" ++
        b.tableOptions s
    let rendered := b.columns.map fun c => c.render s
    return rendered.flatMap ColumnText.before ++ [statement] ++ b.indexes.map (fun i => i.render s) ++
      rendered.flatMap ColumnText.after

/-- The place of a new column, where the dialect has one. -/
def placement (c : Column) (s : Scope) : String :=
  if s.dialect = .mySql then
    match c.position with
    | some .first => " FIRST"
    | some (.after other) => " AFTER " ++ s.quote other
    | none => ""
  else ""

/-- The statements that add or change a column. -/
def alterColumn (c : Column) (s : Scope) : Except CompileError (List String) := do
  let text := c.render s
  let change ←
    if c.change then s.dialect.modifyColumn s.table c.name text.type text.definition
    else
      .ok ["ALTER TABLE " ++ s.quote s.table ++ " " ++ s.dialect.addColumnKeyword ++ " " ++ text.definition ++
        placement c s]
  return text.before ++ change ++ text.after

/-- The statement of a command. -/
def commandText (s : Scope) : Command → Except CompileError String
  | .dropColumn name => .ok (s.dialect.dropColumn s.table name)
  | .renameColumn column name => .ok (s.dialect.renameColumn s.table column name)
  | .dropIndex name => .ok (s.dialect.dropIndex s.table name)
  | .dropForeign name =>
    match s.dialect with
    | .sqlite => .error (.unsupported s.dialect.name "dropping a foreign key")
    | .mySql => .ok ("ALTER TABLE " ++ s.quote s.table ++ " DROP FOREIGN KEY " ++ s.quote name)
    | _ => .ok ("ALTER TABLE " ++ s.quote s.table ++ " DROP CONSTRAINT " ++ s.quote name)

/-- The statement that adds a reference. -/
def addReference (s : Scope) (f : ForeignKey) : Except CompileError String :=
  if s.dialect = .sqlite then .error (.unsupported s.dialect.name "adding a foreign key to an existing table")
  else do
    let constraint ← f.render s
    return "ALTER TABLE " ++ s.quote s.table ++ " ADD " ++ constraint

/-- The statement that adds a primary key. -/
def addPrimary (s : Scope) (columns : List String) : Except CompileError String :=
  if s.dialect = .sqlite then .error (.unsupported s.dialect.name "adding a primary key to an existing table")
  else .ok ("ALTER TABLE " ++ s.quote s.table ++ " ADD PRIMARY KEY (" ++ s.quoteList columns ++ ")")

/-- The statements that change the table. -/
def buildAlter (b : Blueprint) (s : Scope) : Except CompileError (List String) := do
  let columns ← b.columns.mapM fun c => alterColumn c s
  let commands ← b.commands.mapM (commandText s)
  let references ← b.allForeignKeys.mapM (addReference s)
  let primary ← b.primary.toList.mapM (addPrimary s)
  let statements := columns.flatten ++ commands ++ b.indexes.map (fun i => i.render s) ++ references ++ primary
  if statements.isEmpty then throw (.invalidInput ("alter table " ++ s.table ++ " has no changes"))
  return statements

/-- The statements of a blueprint in a dialect. -/
def build (b : Blueprint) (d : Dialect) : Except CompileError (List String) :=
  match b.mode with
  | .create => b.buildCreate (b.scope d)
  | .alter => b.buildAlter (b.scope d)

end Blueprint
end SqlToolkit.Schema
