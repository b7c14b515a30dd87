import SqlToolkit.RawSql
import SqlToolkit.Schema.ColumnType
import SqlToolkit.Value

/-!
# Columns of a table declaration

A column has a name and a type, or a definition in raw SQL, and further properties.  Its definition lists the quoted
name, the type, the clauses that the type implies, default, nullability and keys, a comment, and the checks, in this
order.  Some dialects need statements before or after the one that holds the definition.
-/
namespace SqlToolkit.Schema

/-- What happens to a row whose referenced row goes away or changes. -/
inductive ReferenceAction where
  | noAction
  | restrict
  | cascade
  | setNull
  | setDefault
deriving DecidableEq, Repr, Inhabited

namespace ReferenceAction

def keyword : ReferenceAction → String
  | noAction => "NO ACTION"
  | restrict => "RESTRICT"
  | cascade => "CASCADE"
  | setNull => "SET NULL"
  | setDefault => "SET DEFAULT"

/-- All actions. -/
def all : List ReferenceAction := [noAction, restrict, cascade, setNull, setDefault]

end ReferenceAction

/-- What a column holds when a row gives no value. -/
inductive DefaultValue where
  | value (v : Value)
  /-- An expression in SQL, written as it is. -/
  | expression (sql : String)
  | currentTimestamp
deriving DecidableEq, Repr, Inhabited

namespace DefaultValue

/-- The default in a declaration.  One dialect has truth values of its own. -/
def render (d : Dialect) : DefaultValue → String
  | value (.bool b) => if d = .pgSql then (if b then "TRUE" else "FALSE") else (Value.bool b).inline
  | value v => v.inline
  | expression sql => sql
  | currentTimestamp => d.currentTimestamp

end DefaultValue

/-- The column that a column refers to. -/
structure ColumnReference where
  table : String
  column : String
  onDelete : Option ReferenceAction := none
  onUpdate : Option ReferenceAction := none
deriving DecidableEq, Repr, Inhabited

/-- Where a new column goes. -/
inductive Position where
  | first
  | after (column : String)
deriving DecidableEq, Repr, Inhabited

/-- A column of a table declaration. -/
structure Column where
  name : String
  type : ColumnType
  args : TypeArgs := {}
  /-- A definition in raw SQL, which stands for everything else. -/
  definition : Option RawSql := none
  nullable : Bool := false
  default : Option DefaultValue := none
  unsigned : Bool := false
  unique : Bool := false
  primary : Bool := false
  check : Option RawSql := none
  reference : Option ColumnReference := none
  comment : Option String := none
  position : Option Position := none
  /-- The column exists and gets a new definition. -/
  change : Bool := false
deriving DecidableEq, Repr, Inhabited

/-- The dialect of a declaration, the beginning of its table names, and the full name of its table. -/
structure Scope where
  dialect : Dialect
  tablePrefix : String
  /-- The full name. -/
  table : String
deriving DecidableEq, Repr, Inhabited

namespace Scope

/-- A name in a schema statement. -/
def quote (s : Scope) (name : String) : String := s.dialect.quoteSchema name

/-- Another table in a schema statement. -/
def quoteTable (s : Scope) (table : String) : String := s.quote (s.tablePrefix ++ table)

/-- Raw SQL with tables prefixed and every name quoted. -/
def renderRaw (s : Scope) (sql : RawSql) : String :=
  RawSql.expand (fun name isTable => if isTable then s.quoteTable name else s.quote name) sql.text

end Scope

/-- A column as schema statements hold it. -/
structure ColumnText where
  definition : String
  type : String
  /-- Statements that come first. -/
  before : List String := []
  /-- Statements that come last. -/
  after : List String := []
deriving DecidableEq, Repr, Inhabited

namespace Column

/-- A column with a definition in raw SQL. -/
def ofDefinition (name definition : String) : Column :=
  { name, type := .text, definition := some ⟨definition⟩ }

/-- Refers to a column of another table. -/
def references (c : Column) (table column : String) : Column := { c with reference := some { table, column } }

/-- Sets the action on deletion; a column without reference has none. -/
def onDelete (c : Column) (action : ReferenceAction) : Column :=
  { c with reference := c.reference.map fun r => { r with onDelete := some action } }

/-- Sets the action on change; a column without reference has none. -/
def onUpdate (c : Column) (action : ReferenceAction) : Column :=
  { c with reference := c.reference.map fun r => { r with onUpdate := some action } }

/-- The quoted name of the type that an enumeration gets where it needs one. -/
def enumType (c : Column) (s : Scope) : String := s.quote (s.table ++ "_" ++ c.name ++ "_enum")

/-- The column's type in the dialect. -/
def concrete (c : Column) (s : Scope) : ConcreteType :=
  concreteType c.type s.dialect c.args (s.quote c.name) (c.enumType s)

/-- The type with its mark for numbers without sign. -/
def typeText (c : Column) (s : Scope) : String :=
  (c.concrete s).type ++ if c.unsigned && s.dialect = .mySql && c.type.isInteger then " UNSIGNED" else ""

/-- Default, nullability and keys.  Columns that number themselves declare none of them. -/
def constraints (c : Column) (s : Scope) : List String :=
  if c.type.isIncrements then []
  else
    (c.default.map fun d => "DEFAULT " ++ d.render s.dialect).toList ++
      [if c.nullable then "NULL" else "NOT NULL"] ++
      (if c.unique then ["UNIQUE"] else []) ++ (if c.primary then ["PRIMARY KEY"] else [])

/-- The comment where it is part of the definition. -/
def inlineComment (c : Column) (s : Scope) : List String :=
  match c.comment with
  | some comment => if s.dialect = .mySql then ["COMMENT " ++ Text.literal comment] else []
  | none => []

/-- The parts of the definition in order. -/
def parts (c : Column) (s : Scope) : List String :=
  [s.quote c.name, c.typeText s] ++ (c.concrete s).implied ++ c.constraints s ++ c.inlineComment s ++
    (c.concrete s).checks ++ (c.check.map fun sql => "CHECK (" ++ s.renderRaw sql ++ ")").toList

/-- The statements that come first. -/
def before (c : Column) (s : Scope) : List String :=
  if c.type = .enum && s.dialect = .pgSql then [createEnumType (c.enumType s) c.args.values] else []

/-- The statements that come last. -/
def after (c : Column) (s : Scope) : List String :=
  match c.comment with
  | some comment =>
    if s.dialect = .pgSql || s.dialect = .oracle then
      ["COMMENT ON COLUMN " ++ s.quote s.table ++ "." ++ s.quote c.name ++ " IS " ++ Text.literal comment]
    else []
  | none => []

/-- The column in schema statements. -/
def render (c : Column) (s : Scope) : ColumnText :=
  match c.definition with
  | some sql =>
    let definition := s.renderRaw sql
    { definition := s.quote c.name ++ " " ++ definition, type := definition }
  | none =>
    { definition := " ".intercalate (c.parts s), type := c.typeText s, before := c.before s, after := c.after s }

end Column
end SqlToolkit.Schema
