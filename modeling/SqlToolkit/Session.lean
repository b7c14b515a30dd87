import SqlToolkit.Session.Backend
import SqlToolkit.Session.Options
import SqlToolkit.Target

/-!
# Sessions

A session compiles operations into statements, hands them to its backend and keeps a diary: the log of statements
with their values filled in, the newest of them, the failure of the last operation and the last new key.  Operations
that may fail keep the session's state when they do.
-/
namespace SqlToolkit

/-- A backend in some state, how statements are written for it, and the diary. -/
structure Session (σ : Type) where
  backend : Backend σ
  connection : σ
  target : Target
  logging : Bool := false
  log : List String := []
  last : Option String := none
  error : Option ErrorInfo := none
  lastInsertId : Option Int64 := none

namespace Session
variable {σ α : Type}

/-- A session over a backend, which must speak the dialect of the options. -/
def open? (backend : Backend σ) (connection : σ) (options : Options) : Except DatabaseError (Session σ) := do
  let dialect ← options.dialect
  if backend.dialect ≠ dialect then
    throw (.config ("driver speaks " ++ backend.dialect.tag ++ ", options ask for " ++ dialect.tag))
  return { backend, connection, target := ⟨dialect, options.tablePrefix⟩, logging := options.logging }

/-- The full name of a table. -/
def fullName (s : Session σ) (table : String) : String := s.target.tablePrefix ++ table

/-- A transaction is open. -/
def inTransaction (s : Session σ) : Bool := s.backend.inTransaction s.connection

/-- An operation that may fail; the state outlives the failure. -/
abbrev Operation (σ α : Type) := ExceptT DatabaseError (StateM (Session σ)) α

/-- The result of an operation as a value. -/
def attempt (op : Operation σ α) : Operation σ (Except DatabaseError α) := ExceptT.lift op.run

/-- Remembers a failure, or that there was none, and passes the result on. -/
def record (result : Except DatabaseError α) : Operation σ α := do
  modify fun s =>
    { s with
      error :=
        match result with
        | .ok _ => none
        | .error e => some e.info }
  MonadExcept.ofExcept result

/-- Remembers whether a statement compiled. -/
def compiled (result : Except CompileError α) : Operation σ α := record (result.mapError .compile)

/-- Writes a statement into the diary. -/
def trace (statement : Statement) : Operation σ Unit :=
  modify fun s =>
    let text := statement.inlineText
    { s with log := if s.logging then s.log ++ [text] else s.log, last := some text }

/-- Runs a call of the backend and remembers its outcome. -/
def call (run : Backend σ → σ → Except DatabaseError α × σ) : Operation σ α := do
  let s ← get
  let (result, connection) := run s.backend s.connection
  set { s with connection }
  record result

/-- Runs a statement for its rows. -/
def fetch (statement : Statement) : Operation σ (List Row) := do
  trace statement
  call fun backend => backend.query statement

/-- Runs a statement for its effect. -/
def run (statement : Statement) : Operation σ WriteResult := do
  trace statement
  call fun backend => backend.execute statement

/-- Runs statements without values one after another, up to the first that fails. -/
def runAll : List String → Operation σ Unit
  | [] => return ()
  | sql :: rest => do
    let _ ← run ⟨sql, []⟩
    runAll rest

/-- A statement of raw SQL with values. -/
def rawStatement (s : Session σ) (sql : String) (params : List Value) : Statement :=
  ⟨s.target.renderRaw ⟨sql⟩, params.map Value.coerce⟩

end Session
end SqlToolkit
