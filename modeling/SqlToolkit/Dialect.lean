import SqlToolkit.Error
import SqlToolkit.Text.Blank
import SqlToolkit.Text.Quoted
import SqlToolkit.Text.Search

/-!
# SQL dialects

Six dialects are known.  They differ in the quotes around identifiers, in the functions for the current time and
for random order, in how a result is limited to a window of rows, and in the statements that change a schema.  Each
difference is a function on the dialect; nothing else in the library asks which dialect it writes for, apart from
table declarations.
-/
namespace SqlToolkit

/-- A family of database servers with one SQL text for each operation. -/
inductive Dialect where
  | mySql
  | pgSql
  | sqlite
  | sybase
  | oracle
  | msSql
deriving DecidableEq, Repr, Inhabited

namespace Dialect

/-- All dialects, in the order of the type table's columns. -/
def all : List Dialect := [mySql, pgSql, sqlite, sybase, oracle, msSql]

/-- The place of a dialect among all. -/
def index : Dialect → Nat
  | mySql => 0
  | pgSql => 1
  | sqlite => 2
  | sybase => 3
  | oracle => 4
  | msSql => 5

/-- The canonical tag. -/
def tag : Dialect → String
  | mySql => "mysql"
  | pgSql => "pgsql"
  | sqlite => "sqlite"
  | sybase => "sybase"
  | oracle => "oracle"
  | msSql => "mssql"

/-- The dialect of a tag in lower case; some dialects have further tags. -/
def tagged? : String → Option Dialect
  | "mysql" | "mariadb" => some mySql
  | "pgsql" | "postgres" | "postgresql" => some pgSql
  | "sqlite" => some sqlite
  | "sybase" => some sybase
  | "oracle" => some oracle
  | "mssql" | "sqlserver" => some msSql
  | _ => none

/-- A tag without blanks around it, its basic letters in lower case. -/
def normalizeTag (given : String) : String := String.ofList ((Text.trimBlanks given.toList).map Char.toLower)

/-- The dialect of a tag in any case, blanks around it ignored. -/
def ofTag? (given : String) : Except CompileError Dialect :=
  match tagged? (normalizeTag given) with
  | some d => .ok d
  | none => .error (.unsupportedDialect given)

/-- The name in messages. -/
def name : Dialect → String
  | pgSql => "postgresql"
  | other => other.tag

/-! ### Identifiers -/

/-- The quotes around identifiers in queries. -/
def quotes : Dialect → Char × Char
  | mySql | sqlite => ('\x60', '\x60')
  | _ => ('"', '"')

/-- The quotes around identifiers in schema statements. -/
def schemaQuotes : Dialect → Char × Char
  | msSql => ('[', ']')
  | other => other.quotes

/-- An identifier in a query. -/
def quote (d : Dialect) (identifier : String) : String :=
  Text.wrap identifier d.quotes.1 d.quotes.2

/-- An identifier in a schema statement. -/
def quoteSchema (d : Dialect) (identifier : String) : String :=
  Text.wrap identifier d.schemaQuotes.1 d.schemaQuotes.2

/-! ### Functions -/

/-- The expression for the current time. -/
def currentTimestamp : Dialect → String
  | mySql | pgSql | sqlite => "CURRENT_TIMESTAMP"
  | sybase | msSql => "GETDATE()"
  | oracle => "SYSTIMESTAMP"

/-- The expression to order by for random order. -/
def randomFunction : Dialect → String
  | mySql => "RAND()"
  | pgSql | sqlite => "RANDOM()"
  | sybase | msSql => "NEWID()"
  | oracle => "DBMS_RANDOM.VALUE"

/-! ### Row windows -/

/-- The window in words: skip some rows, then fetch some. -/
def offsetFetch (count offset : Option Nat) : String :=
  " OFFSET " ++ toString (offset.getD 0) ++ " ROWS" ++
    match count with
    | some n => " FETCH NEXT " ++ toString n ++ " ROWS ONLY"
    | none => ""

/-- The end of a query that keeps at most `count` rows after the first `offset`.  Where a window needs an order and
the query has none, a constant one is put in front. -/
def limitClause (d : Dialect) (count offset : Option Nat) (ordered : Bool) : String :=
  match d with
  | mySql =>
    -- an offset needs a count here, so the largest row count stands for none
    " LIMIT " ++ toString (count.getD (UInt64.size - 1)) ++
      match offset with
      | some m => " OFFSET " ++ toString m
      | none => ""
  | pgSql =>
    match count, offset with
    | some n, some m => " LIMIT " ++ toString n ++ " OFFSET " ++ toString m
    | some n, none => " LIMIT " ++ toString n
    | none, some m => " OFFSET " ++ toString m
    | none, none => ""
  | sqlite =>
    match count, offset with
    | some n, some m => " LIMIT " ++ toString n ++ " OFFSET " ++ toString m
    | some n, none => " LIMIT " ++ toString n
    | none, some m => " LIMIT -1 OFFSET " ++ toString m
    | none, none => ""
  | oracle => offsetFetch count offset
  | sybase | msSql => (if ordered then "" else " ORDER BY (SELECT 0)") ++ offsetFetch count offset

/-! ### Schema statements -/

/-- A query for the table whose name is bound to its placeholder. -/
def tableExistsQuery : Dialect → String
  | mySql => "SELECT table_name FROM information_schema.tables WHERE table_name = ?"
  | pgSql =>
    "SELECT table_name FROM information_schema.tables WHERE table_schema = current_schema() AND table_name = ?"
  | sqlite => "SELECT name FROM sqlite_master WHERE type = 'table' AND name = ?"
  | sybase => "SELECT name FROM sysobjects WHERE type = 'U' AND name = ?"
  | oracle => "SELECT table_name FROM user_tables WHERE table_name = ?"
  | msSql => "SELECT TABLE_NAME FROM INFORMATION_SCHEMA.TABLES WHERE TABLE_NAME = ?"

/-- A table can be created under the condition that it does not exist. -/
def supportsIfNotExists : Dialect → Bool
  | mySql | pgSql | sqlite => true
  | sybase | oracle | msSql => false

/-- The words that add a column. -/
def addColumnKeyword : Dialect → String
  | mySql | pgSql | sqlite => "ADD COLUMN"
  | sybase | oracle | msSql => "ADD"

/-- Renames a table. -/
def renameTable (d : Dialect) (table name : String) : String :=
  match d with
  | mySql => "RENAME TABLE " ++ d.quoteSchema table ++ " TO " ++ d.quoteSchema name
  | sybase => "sp_rename " ++ Text.literal table ++ ", " ++ Text.literal name
  | msSql => "EXEC sp_rename " ++ Text.literal table ++ ", " ++ Text.literal name
  | _ => "ALTER TABLE " ++ d.quoteSchema table ++ " RENAME TO " ++ d.quoteSchema name

/-- Drops a table if there is one. -/
def dropTableIfExists (d : Dialect) (table : String) : String :=
  match d with
  | sybase =>
    "IF OBJECT_ID(" ++ Text.literal table ++ ") IS NOT NULL DROP TABLE " ++ d.quoteSchema table
  | oracle =>
    -- the number is that of a missing table, which is no error here
    "BEGIN EXECUTE IMMEDIATE " ++ Text.literal ("DROP TABLE " ++ d.quoteSchema table) ++
      "; EXCEPTION WHEN OTHERS THEN IF SQLCODE != -942 THEN RAISE; END IF; END;"
  | _ => "DROP TABLE IF EXISTS " ++ d.quoteSchema table

/-- Drops a column. -/
def dropColumn (d : Dialect) (table column : String) : String :=
  match d with
  | sybase => "ALTER TABLE " ++ d.quoteSchema table ++ " DROP " ++ d.quoteSchema column
  | _ => "ALTER TABLE " ++ d.quoteSchema table ++ " DROP COLUMN " ++ d.quoteSchema column

/-- Renames a column. -/
def renameColumn (d : Dialect) (table column name : String) : String :=
  match d with
  | sybase => "sp_rename " ++ Text.literal (table ++ "." ++ column) ++ ", " ++ Text.literal name
  | msSql => "EXEC sp_rename " ++ Text.literal (table ++ "." ++ column) ++ ", " ++ Text.literal name ++ ", 'COLUMN'"
  | _ =>
    "ALTER TABLE " ++ d.quoteSchema table ++ " RENAME COLUMN " ++ d.quoteSchema column ++ " TO " ++
      d.quoteSchema name

/-- Gives a column a new definition.  Where type and nullability are changed by separate statements, the
nullability is read off the definition. -/
def modifyColumn (d : Dialect) (table column type definition : String) : Except CompileError (List String) :=
  let alter := "ALTER TABLE " ++ d.quoteSchema table
  match d with
  | mySql => .ok [alter ++ " MODIFY COLUMN " ++ definition]
  | msSql => .ok [alter ++ " ALTER COLUMN " ++ definition]
  | oracle => .ok [alter ++ " MODIFY (" ++ definition ++ ")"]
  | sybase => .ok [alter ++ " MODIFY " ++ definition]
  | sqlite => .error (.unsupported d.name "changing a column definition")
  | pgSql =>
    let target := alter ++ " ALTER COLUMN " ++ d.quoteSchema column
    .ok <| (target ++ " TYPE " ++ type) ::
      if Text.contains definition " NOT NULL" then [target ++ " SET NOT NULL"]
      else if Text.contains definition " NULL" then [target ++ " DROP NOT NULL"]
      else []

/-- Drops an index. -/
def dropIndex (d : Dialect) (table index : String) : String :=
  match d with
  | mySql | msSql => "DROP INDEX " ++ d.quoteSchema index ++ " ON " ++ d.quoteSchema table
  | sybase => "DROP INDEX " ++ d.quoteSchema table ++ "." ++ d.quoteSchema index
  | _ => "DROP INDEX " ++ d.quoteSchema index

/-- Every canonical tag names its dialect. -/
theorem ofTag?_tag (d : Dialect) : ofTag? d.tag = .ok d := by
  have h : tagged? (normalizeTag d.tag) = some d := by cases d <;> decide +kernel
  simp [ofTag?, h]

end Dialect
end SqlToolkit
