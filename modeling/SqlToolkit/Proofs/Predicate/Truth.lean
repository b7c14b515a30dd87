import SqlToolkit.Condition

/-!
# What predicates mean

Predicates have three truth values: where a compared value is null, nothing is known.  Which values are equal, which
precede which and what a pattern matches is up to the database, so `Comparisons` is any answer to these questions for
two values that are not null.

Two things get a meaning here, each on its own: a `Formula`, as a database reads it from a text, and a tree of
conditions.  A tree without any comparison has no meaning, and groups skip the members that have none.
-/
namespace SqlToolkit

/-- A truth value: false, not known, or true. -/
inductive Truth where
  | no
  | unknown
  | yes
deriving DecidableEq, Repr

namespace Truth

def ofBool (b : Bool) : Truth := if b then yes else no

def not : Truth → Truth
  | no => yes
  | unknown => unknown
  | yes => no

/-- The negation, or the value itself. -/
def notIf (negated : Bool) (x : Truth) : Truth := if negated then x.not else x

def and : Truth → Truth → Truth
  | no, _ | _, no => no
  | yes, x => x
  | unknown, _ => unknown

def or : Truth → Truth → Truth
  | yes, _ | _, yes => yes
  | no, x => x
  | unknown, _ => unknown

/-- All of the values hold. -/
def all (xs : List Truth) : Truth := xs.foldr and yes

/-- One of the values holds. -/
def any (xs : List Truth) : Truth := xs.foldr or no

@[simp] theorem and_yes (x : Truth) : x.and yes = x := by
  cases x <;> rfl

@[simp] theorem or_no (x : Truth) : x.or no = x := by
  cases x <;> rfl

end Truth

/-! ### Comparisons -/

/-- How a database can compare two values. -/
inductive Relation where
  | equal
  | greater
  | less
  | atLeast
  | atMost
  | like
deriving DecidableEq, Repr

/-- The answers of a database for two values that are not null. -/
abbrev Comparisons := Relation → Value → Value → Bool

namespace Comparisons
variable (db : Comparisons)

/-- The truth of a comparison; with null it is not known. -/
def compare (relation : Relation) (x y : Value) : Truth :=
  if x.isNull || y.isNull then .unknown else .ofBool (db relation x y)

/-- The value equals one of a list. -/
def member (x : Value) (values : List Value) : Truth := .any (values.map (db.compare .equal x))

/-- The value lies between two bounds. -/
def range (x low high : Value) : Truth := (db.compare .atLeast x low).and (db.compare .atMost x high)

end Comparisons

/-! ### Formulas -/

/-- A predicate about one column, or about none. -/
inductive Atom where
  /-- A comparison of two literals. -/
  | constant (holds : Bool)
  | null (column : String) (negated : Bool)
  | compare (column : String) (relation : Relation) (negated : Bool) (value : Value)
  | member (column : String) (values : List Value) (negated : Bool)
  | range (column : String) (low high : Value) (negated : Bool)
deriving DecidableEq, Repr

/-- Predicates under connectives. -/
inductive Formula where
  | atom (a : Atom)
  | and (left right : Formula)
  | or (left right : Formula)
deriving DecidableEq, Repr

/-- The truth of a predicate in a row of values under columns. -/
def Atom.truth (db : Comparisons) (row : String → Value) : Atom → Truth
  | constant holds => .ofBool holds
  | null column negated => (Truth.ofBool (row column).isNull).notIf negated
  | compare column relation negated value => (db.compare relation (row column) value).notIf negated
  | member column values negated => (db.member (row column) values).notIf negated
  | range column low high negated => (db.range (row column) low high).notIf negated

/-- The truth of a formula in a row. -/
def Formula.truth (db : Comparisons) (row : String → Value) : Formula → Truth
  | atom a => a.truth db row
  | and left right => (left.truth db row).and (right.truth db row)
  | or left right => (left.truth db row).or (right.truth db row)

/-! ### Trees -/

/-- The relation of an operator that compares with one value, and whether it is negated. -/
def Operator.relation? : Operator → Option (Relation × Bool)
  | greater => some (.greater, false)
  | less => some (.less, false)
  | atLeast => some (.atLeast, false)
  | atMost => some (.atMost, false)
  | notEqual | lessGreater => some (.equal, true)
  | like => some (.like, false)
  | notLike => some (.like, true)
  | isIn | notIn | between | notBetween => none

/-- Several truth values under a connective; none of them have no meaning together. -/
def Logic.combine : Logic → List Truth → Option Truth
  | _, [] => none
  | and, xs => some (.all xs)
  | or, xs => some (.any xs)

namespace Condition
variable (db : Comparisons) (row : String → Value)

/-- The truth of a comparison with an operand, for the value of its column.  No operator stands for equality with a
value and for membership in a list; equality with null and difference from it ask whether the value is null.  Values
are compared as they are bound.  Operands that do not fit their operator are not known. -/
def leafTruth (x : Value) : Option Operator → Operand → Truth
  | none, .value v =>
    if v.isNull then .ofBool x.isNull else db.compare .equal x v.coerce
  | some op, .value v =>
    if v.isNull && op.isDifference then (Truth.ofBool x.isNull).not
    else
      match op.relation? with
      | some (relation, negated) => (db.compare relation x v.coerce).notIf negated
      | none => .unknown
  | none, .list values => db.member x (values.map Value.coerce)
  | some op, .list values =>
    match op.shape, values with
    | .membership negated, values => (db.member x (values.map Value.coerce)).notIf negated
    | .range negated, [low, high] => (db.range x low.coerce high.coerce).notIf negated
    | _, _ => .unknown
  | _, .raw _ => .unknown

mutual

/-- The truth of a condition in a row, or nothing when no comparison is in it. -/
def truth : Condition → Option Truth
  | compare column operator operand => some (leafTruth db (row column) operator operand)
  | group logic children => logic.combine (truths children)

/-- The truth values of conditions side by side, without those that have none. -/
def truths : List Condition → List Truth
  | [] => []
  | condition :: rest => (truth condition).toList ++ truths rest

end

end Condition
end SqlToolkit
