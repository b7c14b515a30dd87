import SqlToolkit.Session
import SqlToolkit.Statement.Query

/-!
# Reading from a session

Rows are selected with or without joins, at random or one at a time, and aggregated.  Most readers answer with
something empty when they fail; whether they failed is then told by the session's remembered error alone.
-/
namespace SqlToolkit.Session
variable {σ α : Type}

/-- An operation that answers even when it fails. -/
abbrev Reader (σ α : Type) := StateM (Session σ) α

/-- The result of an operation, or something empty when it fails. -/
def orEmpty (op : Operation σ α) (empty : α) : Reader σ α := do
  match ← op.run with
  | .ok result => return result
  | .error _ => return empty

/-! ### Rows -/

/-- The rows of a table and its joins. -/
def trySelect (table : String) (joins : List Join) (items : SelectList) (criteria : Criteria) :
    Operation σ (List Row) := do
  let s ← get
  let statement ← compiled (Statement.select s.target table joins items criteria)
  fetch statement

/-- The rows of a table and its joins; none on failure. -/
def select (table : String) (joins : List Join) (items : SelectList) (criteria : Criteria) :
    Reader σ (List Row) :=
  orEmpty (trySelect table joins items criteria) []

/-- The first of all rows. -/
def selectOne (table : String) (joins : List Join) (items : SelectList) (criteria : Criteria) :
    Reader σ (Option Row) := do
  let rows ← select table joins items criteria
  return rows.head?

/-- The first value of the first row. -/
def selectValue (table column : String) (criteria : Criteria) : Reader σ (Option Value) := do
  let row ← selectOne table [] (.ofText column) criteria
  return row.bind Row.first?

/-- The only row asked for. -/
def getOne (table : String) (joins : List Join) (items : SelectList) (criteria : Criteria) :
    Reader σ (Option Row) :=
  selectOne table joins items (criteria.limit 1)

/-- The rows in random order, after any order that the criteria ask for. -/
def selectRandom (table : String) (joins : List Join) (items : SelectList) (criteria : Criteria) :
    Reader σ (List Row) := do
  let s ← get
  select table joins items (criteria.orderByRaw ⟨s.target.dialect.randomFunction⟩)

/-! ### Raw SQL -/

/-- The rows of a statement of raw SQL. -/
def tryQuery (sql : String) (params : List Value) : Operation σ (List Row) := do
  let s ← get
  fetch (s.rawStatement sql params)

/-- The rows of a statement of raw SQL; none on failure. -/
def query (sql : String) (params : List Value) : Reader σ (List Row) := orEmpty (tryQuery sql params) []

/-- The first value of the first row of a statement of raw SQL. -/
def queryValue (sql : String) (params : List Value) : Reader σ (Option Value) := do
  let rows ← query sql params
  return rows.head?.bind Row.first?

/-! ### Aggregates -/

/-- The value of an aggregate; nothing when it is null. -/
def tryAggregate (function : Aggregate) (table : String) (joins : List Join) (column : String)
    (criteria : Criteria) : Operation σ (Option Value) := do
  let s ← get
  let statement ← compiled (Statement.aggregate s.target function table joins column criteria)
  let rows ← fetch statement
  return (rows.head?.bind Row.first?).filter fun v => !v.isNull

/-- The value of an aggregate; nothing when it is null or on failure. -/
def aggregate (function : Aggregate) (table : String) (joins : List Join) (column : String)
    (criteria : Criteria) : Reader σ (Option Value) :=
  orEmpty (tryAggregate function table joins column criteria) none

/-- The number of rows; zero on failure. -/
def count (table : String) (joins : List Join) (column : String) (criteria : Criteria) : Reader σ Int64 := do
  let value ← aggregate .count table joins column criteria
  return (value.bind Value.asInt?).getD 0

/-- There is a row. -/
def has (table : String) (joins : List Join) (criteria : Criteria) : Reader σ Bool := do
  let n ← count table joins "*" criteria
  return 0 < n

end SqlToolkit.Session
