import SqlToolkit.Fragment
import SqlToolkit.RawSql

/-!
# Conditions

A condition compares a column with an operand, or is a group of conditions under one logical connective.  It can be
given as a key and an operand: the key is a column, with an operator in brackets where the comparison is not
equality.  Compiling a condition gives a parameterised predicate; siblings are joined by their connective, nested
groups stand in parentheses, and a group with nothing inside disappears.
-/
namespace SqlToolkit
open Text

/-! ### Operators and operands -/

/-- A comparison between a column and an operand. -/
inductive Operator where
  | greater
  | less
  | atLeast
  | atMost
  | notEqual
  | lessGreater
  | like
  | notLike
  | isIn
  | notIn
  | between
  | notBetween
deriving DecidableEq, Repr, Inhabited

/-- What an operator compares with. -/
inductive Operator.Shape where
  /-- One value. -/
  | scalar
  /-- The members of a list. -/
  | membership (negated : Bool)
  /-- Two bounds. -/
  | range (negated : Bool)
deriving DecidableEq, Repr

namespace Operator

/-- The operator's text in a predicate. -/
def keyword : Operator → String
  | greater => ">"
  | less => "<"
  | atLeast => ">="
  | atMost => "<="
  | notEqual => "!="
  | lessGreater => "<>"
  | like => "LIKE"
  | notLike => "NOT LIKE"
  | isIn => "IN"
  | notIn => "NOT IN"
  | between => "BETWEEN"
  | notBetween => "NOT BETWEEN"

/-- What the operator compares with. -/
def shape : Operator → Shape
  | isIn => .membership false
  | notIn => .membership true
  | between => .range false
  | notBetween => .range true
  | _ => .scalar

/-- The operator says that two values differ. -/
def isDifference : Operator → Bool
  | notEqual | lessGreater => true
  | _ => false

/-- A token with each run of blanks made one space, none at the ends, and basic letters in upper case. -/
def normalizeToken (token : String) : String :=
  " ".intercalate ((words token.toList).map fun w => String.ofList (w.map Char.toUpper))

/-- The operator of a token; three have a short form too. -/
def ofToken? (token : String) : Option Operator :=
  match normalizeToken token with
  | ">" => some greater
  | "<" => some less
  | ">=" => some atLeast
  | "<=" => some atMost
  | "!=" | "!" => some notEqual
  | "<>" => some lessGreater
  | "LIKE" | "~" => some like
  | "NOT LIKE" | "!~" => some notLike
  | "IN" => some isIn
  | "NOT IN" => some notIn
  | "BETWEEN" => some between
  | "NOT BETWEEN" => some notBetween
  | _ => none

theorem ofToken?_keyword (op : Operator) : ofToken? op.keyword = some op := by
  cases op <;> decide +kernel

end Operator

/-- An arithmetic operator changes a column in an update. -/
inductive Arithmetic where
  | add
  | subtract
  | multiply
  | divide
deriving DecidableEq, Repr

namespace Arithmetic

def keyword : Arithmetic → String
  | add => "+"
  | subtract => "-"
  | multiply => "*"
  | divide => "/"

/-- The arithmetic operator that a token is, exactly. -/
def ofToken? : String → Option Arithmetic
  | "+" => some add
  | "-" => some subtract
  | "*" => some multiply
  | "/" => some divide
  | _ => none

end Arithmetic

/-- What a column is compared with or set to. -/
inductive Operand where
  | value (v : Value)
  | list (values : List Value)
  | raw (sql : RawSql)
deriving DecidableEq, Repr, Inhabited

/-- The connective of a group. -/
inductive Logic where
  | and
  | or
deriving DecidableEq, Repr, Inhabited

namespace Logic

/-- The connective between the parts of a group. -/
def separator : Logic → String
  | and => " AND "
  | or => " OR "

/-- The connective of a group key.  A comment may follow after a number sign, so that one tree can hold several
groups under different keys. -/
def ofKey? (key : String) : Option Logic :=
  match String.ofList (trimBlanks (key.toList.takeWhile (· != '#'))) with
  | "AND" => some and
  | "OR" => some or
  | _ => none

end Logic

/-! ### Keys -/

/-- The bracketed operator after the column of a key, if there is one, and nothing else but blanks. -/
def readKeyOperator (cs : List Char) : Option (Option (List Char)) :=
  match skipBlanks cs with
  | [] => some none
  | '[' :: body =>
    match body.dropWhile (· != ']') with
    | _ :: after => if allBlank after then some (some (body.takeWhile (· != ']'))) else none
    | [] => none
  | _ => none

/-- A key as its column and the operator in brackets after it, without the blanks around them. -/
def splitKey (key : String) : Except CompileError (String × Option String) :=
  match readColumn (skipBlanks key.toList) with
  | some (column, rest) =>
    match readKeyOperator rest with
    | some operator => .ok (String.ofList column, operator.map fun op => String.ofList (trimBlanks op))
    | none => .error (.invalidKey key)
  | none => .error (.invalidKey key)

/-! ### Conditions -/

/-- A tree of comparisons. -/
inductive Condition where
  /-- A column compared with an operand; without operator, for equality or membership. -/
  | compare (column : String) (operator : Option Operator) (operand : Operand)
  /-- Conditions under one connective. -/
  | group (logic : Logic) (children : List Condition)
deriving Inhabited

namespace Condition

/-- The operator that a condition key asks for. -/
def parseOperator (key : String) : Option String → Except CompileError (Option Operator)
  | none => .ok none
  | some token =>
    if (Arithmetic.ofToken? token).isSome then .error (.arithmeticInCondition key)
    else
      match Operator.ofToken? token with
      | some op => .ok (some op)
      | none => .error (.unknownOperator key token)

/-- The comparison of a key and an operand. -/
def parse (key : String) (operand : Operand) : Except CompileError Condition := do
  if (Logic.ofKey? key).isSome then throw (.invalidGroup key)
  let (column, token) ← splitKey key
  let operator ← parseOperator key token
  let column ← validateColumn column
  return compare column operator operand

/-- A comparison without an operator. -/
def compileEquality (render : RawSql → String) (column : Fragment) : Operand → Fragment
  | .raw sql => column.binary "=" (.raw (render sql))
  | .value .null => column.trailing "IS NULL"
  | .value v => column.binary "=" (.value v)
  | .list values => column.inList values false

/-- A comparison with an operator that takes one value. -/
def compileScalar (render : RawSql → String) (column : String) (op : Operator) :
    Operand → Except CompileError Fragment
  | .list _ => .error (.expectedScalar column op.keyword)
  | .raw sql => .ok ((Fragment.raw column).binary op.keyword (.raw (render sql)))
  | .value v =>
    if v.isNull && op.isDifference then .ok ((Fragment.raw column).trailing "IS NOT NULL")
    else .ok ((Fragment.raw column).binary op.keyword (.value v))

/-- A comparison with the members of a list. -/
def compileMembership (render : RawSql → String) (column : String) (op : Operator) (negated : Bool) :
    Operand → Except CompileError Fragment
  | .list values => .ok ((Fragment.raw column).inList values negated)
  | .raw sql => .ok ((Fragment.raw column).binary op.keyword (Fragment.raw (render sql)).paren)
  | .value _ => .error (.expectedList column op.keyword)

/-- A comparison with two bounds. -/
def compileRange (column : String) (op : Operator) (negated : Bool) : Operand → Except CompileError Fragment
  | .list [low, high] => .ok ((Fragment.raw column).between low high negated)
  | .list values => .error (.betweenArity column op.keyword values.length)
  | _ => .error (.expectedList column op.keyword)

/-- The predicate of a comparison. -/
def compileCompare (render : RawSql → String) (column : String) (operator : Option Operator) (operand : Operand) :
    Except CompileError Fragment :=
  match operator with
  | none => .ok (compileEquality render (.raw column) operand)
  | some op =>
    match op.shape with
    | .scalar => compileScalar render column op operand
    | .membership negated => compileMembership render column op negated operand
    | .range negated => compileRange column op negated operand

mutual

/-- The predicate of a condition.  A group without content has no text. -/
def compile (render : RawSql → String) : Condition → Except CompileError Fragment
  | compare column operator operand => compileCompare render column operator operand
  | group logic children => do
    let parts ← compileParts render children
    let inner := Fragment.join parts logic.separator
    return if inner.isEmpty then inner else inner.paren

/-- The predicates of several conditions, without those that have no text. -/
def compileParts (render : RawSql → String) : List Condition → Except CompileError (List Fragment)
  | [] => .ok []
  | condition :: rest => do
    let first ← compile render condition
    let others ← compileParts render rest
    return if first.isEmpty then others else first :: others

end

/-- The predicate of several conditions under one connective, without parentheses. -/
def compileAll (render : RawSql → String) (logic : Logic) (conditions : List Condition) :
    Except CompileError Fragment := do
  let parts ← compileParts render conditions
  return Fragment.join parts logic.separator

end Condition
end SqlToolkit
