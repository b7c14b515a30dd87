import SqlToolkit.Session

/-!
# Transactions of a session

An action runs inside a transaction of its own.  It is committed when it answers yes and undone when it answers no,
when it fails, or when the commit fails; a failure to undo is reported together with the failure before it.
-/
namespace SqlToolkit.Session
variable {σ : Type}

/-- Starts a transaction. -/
def start : Operation σ Unit := call Backend.start

/-- Keeps what the transaction did. -/
def commit : Operation σ Unit := call Backend.commit

/-- Undoes what the transaction did. -/
def rollback : Operation σ Unit := call Backend.rollback

/-- Undoes the transaction after a failure and fails with it, or with both failures if undoing fails too.  That
failure is what the session remembers. -/
def abort (failure : DatabaseError) : Operation σ Bool := do
  let s ← get
  let (undone, connection) := s.backend.rollback s.connection
  set { s with connection }
  let outcome :=
    match undone with
    | .ok _ => failure
    | .error rollback => .rollbackFailed failure rollback
  record (.error outcome)

/-- Runs a callback inside a transaction; its answer says whether to keep what it did. -/
def action (callback : Operation σ Bool) : Operation σ Bool := do
  start
  match ← attempt callback with
  | .ok true =>
    match ← attempt commit with
    | .ok _ => return true
    | .error failure => abort failure
  | .ok false =>
    rollback
    return false
  | .error failure => abort failure

end SqlToolkit.Session
