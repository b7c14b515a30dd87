import SqlToolkit.Dialect
import SqlToolkit.Session.Error
import SqlToolkit.Statement

/-!
# Database backends

A backend runs statements for a session.  It is an abstract machine: it has a state of any type, and each call gives
a result and the next state.  Nothing is assumed of a backend, so what is shown of sessions holds for every database
and every pattern of failures.
-/
namespace SqlToolkit

/-- A row of a result. -/
structure Row where
  columns : List String
  values : List Value
deriving DecidableEq, Repr, Inhabited

namespace Row

/-- The value of the first column of a name. -/
def get? (r : Row) (column : String) : Option Value :=
  (r.columns.findIdx? (· == column)).bind fun index => r.values[index]?

/-- The value at a position. -/
def at? (r : Row) (index : Nat) : Option Value := r.values[index]?

/-- The first value. -/
def first? (r : Row) : Option Value := r.values.head?

/-- The number of values. -/
def size (r : Row) : Nat := r.values.length

end Row

/-- What a write did. -/
structure WriteResult where
  rowsAffected : Nat := 0
  lastInsertId : Option Int64 := none
deriving DecidableEq, Repr, Inhabited

/-- A database connection with states in `σ`. -/
structure Backend (σ : Type) where
  /-- The dialect that the database reads. -/
  dialect : Dialect
  /-- Runs a statement that returns rows. -/
  query : Statement → σ → Except DatabaseError (List Row) × σ
  /-- Runs a statement that returns none. -/
  execute : Statement → σ → Except DatabaseError WriteResult × σ
  /-- Starts a transaction. -/
  start : σ → Except DatabaseError Unit × σ
  /-- Keeps what the transaction did. -/
  commit : σ → Except DatabaseError Unit × σ
  /-- Undoes what the transaction did. -/
  rollback : σ → Except DatabaseError Unit × σ
  /-- A transaction is open. -/
  inTransaction : σ → Bool

end SqlToolkit
