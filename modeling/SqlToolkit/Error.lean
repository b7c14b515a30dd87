/-!
# Why a statement cannot be compiled

Every cause is raised before a statement reaches a database: it names a mistake in a condition tree, a select list,
a join, the data of a write or a table declaration.  The wording lives in `CompileError.message` alone, so the rules
elsewhere only name causes.
-/
namespace SqlToolkit

/-- The cause for which a query or a schema change has no text. -/
inductive CompileError where
  /-- A key is neither a column nor a column with a bracketed operator. -/
  | invalidKey (key : String)
  /-- The bracketed operator of a key is not known. -/
  | unknownOperator (key operator : String)
  /-- The operator compares with a list and was given something else. -/
  | expectedList (column operator : String)
  /-- The operator compares with one value and was given a list. -/
  | expectedScalar (column operator : String)
  /-- A range was given other than two bounds. -/
  | betweenArity (column operator : String) (count : Nat)
  /-- An arithmetic operator stands in a condition. -/
  | arithmeticInCondition (key : String)
  /-- A group key holds no conditions. -/
  | invalidGroup (key : String)
  /-- A column name has characters that cannot be written bare. -/
  | invalidIdentifier (name : String)
  /-- A row of an insert has other columns than the first. -/
  | columnSetMismatch (row : Nat)
  /-- An insert without rows or without columns. -/
  | emptyInsert (table : String)
  /-- An update without assignments. -/
  | emptyUpdate (table : String)
  /-- A join without a condition. -/
  | joinWithoutConstraint (table : String)
  /-- A join key that names no table. -/
  | invalidJoin (key : String)
  /-- A tag that names no dialect. -/
  | unsupportedDialect (tag : String)
  /-- An operation for which the dialect has no statement. -/
  | unsupported (dialect operation : String)
  /-- A document or declaration of the wrong shape. -/
  | invalidInput (reason : String)
deriving DecidableEq, Repr, Inhabited

namespace CompileError

/-- The sentence that reports a cause. -/
def message : CompileError → String
  | invalidKey key => "invalid condition key '" ++ key ++ "'"
  | unknownOperator key operator => "unknown operator '" ++ operator ++ "' in condition key '" ++ key ++ "'"
  | expectedList column operator => "operator " ++ operator ++ " on '" ++ column ++ "' expects a list value"
  | expectedScalar column operator => "operator " ++ operator ++ " on '" ++ column ++ "' expects a single value"
  | betweenArity column operator count =>
    operator ++ " on '" ++ column ++ "' expects exactly 2 values, got " ++ toString count
  | arithmeticInCondition key => "arithmetic operator in '" ++ key ++ "' is only valid in UPDATE data"
  | invalidGroup key => "group '" ++ key ++ "' must contain a nested condition tree"
  | invalidIdentifier name => "invalid identifier '" ++ name ++ "'"
  | columnSetMismatch row => "row " ++ toString row ++ " of the insert has a different column set than row 0"
  | emptyInsert table => "insert into '" ++ table ++ "' has no values"
  | emptyUpdate table => "update of '" ++ table ++ "' has no values"
  | joinWithoutConstraint table => "join on '" ++ table ++ "' has no constraint"
  | invalidJoin key => "invalid join key '" ++ key ++ "'"
  | unsupportedDialect tag => "unsupported database type '" ++ tag ++ "'"
  | unsupported dialect operation => operation ++ " is not supported by " ++ dialect
  | invalidInput reason => "invalid input: " ++ reason

end CompileError
end SqlToolkit
