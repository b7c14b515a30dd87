import SqlToolkit.Dialect

/-!
# Column types

An abstract column type has a concrete type in each dialect, and sometimes clauses that come with it.  The concrete
text is a template: fixed text with slots for the length, the precision, the enumerated values and so on.  All slots
are filled at once, so a value that looks like a slot stays as it is.
-/
namespace SqlToolkit.Schema

/-- The kind of data a column holds, apart from any dialect. -/
inductive ColumnType where
  | increments
  | bigIncrements
  | char
  | string
  | text
  | mediumText
  | longText
  | tinyInteger
  | smallInteger
  | mediumInteger
  | integer
  | bigInteger
  | float
  | double
  | decimal
  | boolean
  | enum
  | json
  | date
  | dateTime
  | time
  | timestamp
  | binary
  | varBinary
  | uuid
deriving DecidableEq, Repr, Inhabited

namespace ColumnType

/-- All types. -/
def all : List ColumnType :=
  [increments, bigIncrements, char, string, text, mediumText, longText, tinyInteger, smallInteger, mediumInteger,
    integer, bigInteger, float, double, decimal, boolean, enum, json, date, dateTime, time, timestamp, binary,
    varBinary, uuid]

theorem mem_all (type : ColumnType) : type ∈ all := by
  cases type <;> decide

/-- Whole numbers that may be declared without sign. -/
def isInteger : ColumnType → Bool
  | tinyInteger | smallInteger | mediumInteger | integer | bigInteger => true
  | _ => false

/-- Keys that number themselves. -/
def isIncrements : ColumnType → Bool
  | increments | bigIncrements => true
  | _ => false

end ColumnType

/-! ### Templates -/

/-- A place in a template that a column fills. -/
inductive Slot where
  | length
  | precision
  | scale
  | values
  | column
  | enumType
deriving DecidableEq, Repr

namespace Slot

/-- All slots. -/
def all : List Slot := [length, precision, scale, values, column, enumType]

/-- The name of a slot where a template is shown as text. -/
def name : Slot → String
  | length => "length"
  | precision => "precision"
  | scale => "scale"
  | values => "values"
  | column => "column"
  | enumType => "enum_type"

end Slot

/-- A stretch of a template. -/
inductive Template.Part where
  | fixed (text : String)
  | slot (s : Slot)
deriving DecidableEq, Repr

/-- Text with slots. -/
abbrev Template := List Template.Part

namespace Template

/-- A template without slots. -/
def plain (text : String) : Template := [.fixed text]

/-- A name with one slot in parentheses. -/
def call (name : String) (s : Slot) : Template := [.fixed (name ++ "("), .slot s, .fixed ")"]

/-- The template as text, with the names of the slots in braces. -/
def source (t : Template) : String :=
  String.join (t.map fun part =>
    match part with
    | .fixed text => text
    | .slot s => "\x7b" ++ s.name ++ "\x7d")

/-- The template with every slot filled. -/
def fill (content : Slot → String) (t : Template) : String :=
  String.join (t.map fun part =>
    match part with
    | .fixed text => text
    | .slot s => content s)

end Template

/-- A clause that comes with a type. -/
inductive TypeClause where
  /-- A clause that follows the type. -/
  | implied (text : String)
  /-- A check, which follows all other clauses. -/
  | check (condition : Template)
deriving DecidableEq, Repr

namespace TypeClause

/-- The clause with its slots filled. -/
def fill (content : Slot → String) : TypeClause → String
  | implied text => text
  | check condition => "CHECK (" ++ condition.fill content ++ ")"

/-- The clause is a check. -/
def isCheck : TypeClause → Bool
  | check _ => true
  | implied _ => false

end TypeClause

/-- The concrete form of a column type. -/
structure TypeForm where
  type : Template
  clauses : List TypeClause := []
deriving DecidableEq, Repr, Inhabited

/-! ### The table of types -/

/-- A form without slots or clauses. -/
def bare (text : String) : TypeForm := ⟨.plain text, []⟩

/-- A form with a length in parentheses. -/
def sized (name : String) : TypeForm := ⟨.call name .length, []⟩

/-- A form with a precision and a scale in parentheses. -/
def scaled (name : String) : TypeForm :=
  ⟨[.fixed (name ++ "("), .slot .precision, .fixed ", ", .slot .scale, .fixed ")"], []⟩

/-- A form for keys that number themselves. -/
def numbering (text : String) (clauses : List String) : TypeForm := ⟨.plain text, clauses.map .implied⟩

/-- A text type whose values are checked against a list. -/
def checkedText (text : String) : TypeForm :=
  ⟨.plain text, [.check [.slot .column, .fixed " IN (", .slot .values, .fixed ")"]]⟩

namespace ColumnType

/-- The forms of a type in all dialects, in the dialects' order. -/
def forms : ColumnType → List TypeForm
  | increments => [
      numbering "INT UNSIGNED" ["NOT NULL", "AUTO_INCREMENT", "PRIMARY KEY"],
      numbering "SERIAL" ["PRIMARY KEY"],
      numbering "INTEGER" ["PRIMARY KEY", "AUTOINCREMENT"],
      numbering "INT" ["IDENTITY", "PRIMARY KEY"],
      numbering "NUMBER(10)" ["PRIMARY KEY"],
      numbering "INT" ["IDENTITY(1,1)", "PRIMARY KEY"]]
  | bigIncrements => [
      numbering "BIGINT UNSIGNED" ["NOT NULL", "AUTO_INCREMENT", "PRIMARY KEY"],
      numbering "BIGSERIAL" ["PRIMARY KEY"],
      numbering "INTEGER" ["PRIMARY KEY", "AUTOINCREMENT"],
      numbering "BIGINT" ["IDENTITY", "PRIMARY KEY"],
      numbering "NUMBER(19)" ["PRIMARY KEY"],
      numbering "BIGINT" ["IDENTITY(1,1)", "PRIMARY KEY"]]
  | char => [sized "CHAR", sized "CHAR", sized "CHAR", sized "CHAR", sized "CHAR", sized "NCHAR"]
  | string => [
      sized "VARCHAR", sized "VARCHAR", sized "VARCHAR", sized "VARCHAR", sized "VARCHAR2", sized "NVARCHAR"]
  | text => [bare "TEXT", bare "TEXT", bare "TEXT", bare "TEXT", bare "CLOB", bare "NVARCHAR(MAX)"]
  | mediumText => [bare "MEDIUMTEXT", bare "TEXT", bare "TEXT", bare "TEXT", bare "CLOB", bare "NVARCHAR(MAX)"]
  | longText => [bare "LONGTEXT", bare "TEXT", bare "TEXT", bare "TEXT", bare "CLOB", bare "NVARCHAR(MAX)"]
  | tinyInteger => [
      bare "TINYINT", bare "SMALLINT", bare "INTEGER", bare "TINYINT", bare "NUMBER(3)", bare "TINYINT"]
  | smallInteger => [
      bare "SMALLINT", bare "SMALLINT", bare "INTEGER", bare "SMALLINT", bare "NUMBER(5)", bare "SMALLINT"]
  | mediumInteger => [
      bare "MEDIUMINT", bare "INTEGER", bare "INTEGER", bare "INT", bare "NUMBER(7)", bare "INT"]
  | integer => [bare "INT", bare "INTEGER", bare "INTEGER", bare "INT", bare "NUMBER(10)", bare "INT"]
  | bigInteger => [bare "BIGINT", bare "BIGINT", bare "INTEGER", bare "BIGINT", bare "NUMBER(19)", bare "BIGINT"]
  | float => [bare "FLOAT", bare "REAL", bare "REAL", bare "REAL", bare "BINARY_FLOAT", bare "REAL"]
  | double => [
      bare "DOUBLE", bare "DOUBLE PRECISION", bare "REAL", bare "DOUBLE PRECISION", bare "BINARY_DOUBLE",
      bare "FLOAT"]
  | decimal => [
      scaled "DECIMAL", scaled "NUMERIC", scaled "NUMERIC", scaled "DECIMAL", scaled "NUMBER", scaled "DECIMAL"]
  | boolean => [bare "TINYINT(1)", bare "BOOLEAN", bare "INTEGER", bare "BIT", bare "NUMBER(1)", bare "BIT"]
  | enum => [
      ⟨.call "ENUM" .values, []⟩,
      ⟨[.slot .enumType], []⟩,
      checkedText "VARCHAR(255)",
      checkedText "VARCHAR(255)",
      checkedText "VARCHAR2(255)",
      checkedText "NVARCHAR(255)"]
  | json => [bare "JSON", bare "JSONB", bare "TEXT", bare "TEXT", bare "CLOB", bare "NVARCHAR(MAX)"]
  | date => [bare "DATE", bare "DATE", bare "DATE", bare "DATE", bare "DATE", bare "DATE"]
  | dateTime => [
      bare "DATETIME", bare "TIMESTAMP(0) WITHOUT TIME ZONE", bare "DATETIME", bare "DATETIME", bare "TIMESTAMP",
      bare "DATETIME2"]
  | time => [
      bare "TIME", bare "TIME(0) WITHOUT TIME ZONE", bare "TIME", bare "TIME", bare "DATE", bare "TIME"]
  | timestamp => [
      bare "TIMESTAMP", bare "TIMESTAMP(0) WITHOUT TIME ZONE", bare "DATETIME", bare "DATETIME", bare "TIMESTAMP",
      bare "DATETIME2"]
  | binary => [bare "BLOB", bare "BYTEA", bare "BLOB", bare "IMAGE", bare "BLOB", bare "VARBINARY(MAX)"]
  | varBinary => [
      sized "VARBINARY", bare "BYTEA", bare "BLOB", sized "VARBINARY", sized "RAW", sized "VARBINARY"]
  | uuid => [
      bare "CHAR(36)", bare "UUID", bare "VARCHAR(36)", bare "CHAR(36)", bare "CHAR(36)", bare "UNIQUEIDENTIFIER"]

theorem length_forms (type : ColumnType) : type.forms.length = Dialect.all.length := by
  cases type <;> rfl

/-- The form of a type in a dialect. -/
def form (type : ColumnType) (d : Dialect) : TypeForm := type.forms.getD d.index (bare "TEXT")

end ColumnType

/-! ### Concrete types -/

/-- What a declaration gives along with its type. -/
structure TypeArgs where
  length : Option Nat := none
  precision : Option Nat := none
  scale : Option Nat := none
  /-- The enumerated values. -/
  values : List String := []
deriving DecidableEq, Repr, Inhabited

/-- Enumerated values as a list of literals. -/
def valueList (values : List String) : String := ", ".intercalate (values.map Text.literal)

/-- What a column puts into each slot; lengths, precisions and scales have defaults. -/
def TypeArgs.content (args : TypeArgs) (column enumType : String) : Slot → String
  | .length => toString (args.length.getD 255)
  | .precision => toString (args.precision.getD 8)
  | .scale => toString (args.scale.getD 2)
  | .values => valueList args.values
  | .column => column
  | .enumType => enumType

/-- A concrete type and the clauses that come with it. -/
structure ConcreteType where
  type : String
  /-- The clauses right after the type. -/
  implied : List String
  /-- The checks after all other clauses. -/
  checks : List String
deriving DecidableEq, Repr, Inhabited

/-- The type of a column in a dialect.  The column and the enumeration type are given as they are quoted. -/
def concreteType (type : ColumnType) (d : Dialect) (args : TypeArgs) (column enumType : String) : ConcreteType :=
  let form := type.form d
  let content := args.content column enumType
  ⟨form.type.fill content,
    (form.clauses.filter fun c => !c.isCheck).map (TypeClause.fill content),
    (form.clauses.filter TypeClause.isCheck).map (TypeClause.fill content)⟩

/-- The statement that makes an enumeration type, unless there is one of that name. -/
def createEnumType (enumType : String) (values : List String) : String :=
  "DO $$ BEGIN CREATE TYPE " ++ enumType ++ " AS ENUM (" ++ valueList values ++
    "); EXCEPTION WHEN duplicate_object THEN NULL; END $$"

end SqlToolkit.Schema
