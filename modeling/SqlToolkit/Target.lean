import SqlToolkit.Dialect
import SqlToolkit.RawSql

/-!
# Where a statement goes

A target is the dialect that a statement is written in and the text put before every table name.  Tables are
prefixed and quoted, aliases only quoted, columns written bare.
-/
namespace SqlToolkit

/-- The dialect of a statement and the common beginning of its table names. -/
structure Target where
  dialect : Dialect
  tablePrefix : String := ""
deriving DecidableEq, Repr, Inhabited

/-- A table of a statement as it is introduced and referred to. -/
structure TableRef where
  /-- The quoted full name. -/
  table : String
  /-- The quoted alias. -/
  asName : Option String := none
deriving DecidableEq, Repr, Inhabited

namespace TableRef

/-- The table where it is introduced. -/
def render (t : TableRef) : String :=
  match t.asName with
  | some asName => t.table ++ " AS " ++ asName
  | none => t.table

/-- The qualifier of the table's columns. -/
def reference (t : TableRef) : String := t.asName.getD t.table

end TableRef

namespace Target
open Text

/-- A table name in a query. -/
def quoteTable (t : Target) (table : String) : String := t.dialect.quote (t.tablePrefix ++ table)

/-- A table with an optional alias. -/
def tableRef (t : Target) (table : String) (asName : Option String) : TableRef :=
  ⟨t.quoteTable table, asName.map t.dialect.quote⟩

/-- A table name with an alias in parentheses, blanks allowed between all parts. -/
def readTableAlias (spec : List Char) : Option (List Char × List Char) :=
  match readName isColumnChar (skipBlanks spec) with
  | some (table, rest) =>
    match readAliasEnd rest with
    | some (some asName) => some (table, asName)
    | _ => none
  | none => none

/-- The table of a specification: a name with an alias in parentheses, or else a name of any characters without the
blanks around it. -/
def parseTable (t : Target) (spec : String) : TableRef :=
  match readTableAlias spec.toList with
  | some (table, asName) => t.tableRef (String.ofList table) (some (String.ofList asName))
  | none => t.tableRef (trim spec) none

/-- A column whose qualifier, if any, is written as a table name. -/
def qualifiedColumn (t : Target) (column : String) : String :=
  match splitDot column.toList with
  | some (table, name) => t.quoteTable (String.ofList table) ++ "." ++ String.ofList name
  | none => column

/-- Raw SQL with tables prefixed and every name quoted. -/
def renderRaw (t : Target) (raw : RawSql) : String :=
  RawSql.expand (fun name isTable => if isTable then t.quoteTable name else t.dialect.quote name) raw.text

end Target
end SqlToolkit
