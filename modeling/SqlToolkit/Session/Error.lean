import SqlToolkit.Error

/-!
# What goes wrong in a session

A session fails because a statement does not compile, because the database refuses it, because it was opened
wrongly, or because a transaction could not be undone after a failure; the last holds both failures.  A refusal comes
from a connection of the database library or from any other.  A summary of a failure, with its kind and the database's
code, is what a session remembers of it.
-/
namespace SqlToolkit

/-- A failure of a session. -/
inductive DatabaseError where
  | compile (cause : CompileError)
  /-- The database library refused a call; the code is the database's own, if it gave one. -/
  | library (code : Option String) (message : String)
  /-- Any other connection refused a call. -/
  | driver (code : Option String) (message : String)
  | config (reason : String)
  /-- A failure, and the failure to undo the transaction after it. -/
  | rollbackFailed (error rollback : DatabaseError)
deriving DecidableEq, Repr, Inhabited

/-- The family of a failure. -/
inductive ErrorKind where
  | compile
  | driver
  | config
  | transaction
deriving DecidableEq, Repr, Inhabited

/-- What a session remembers of a failure. -/
structure ErrorInfo where
  kind : ErrorKind
  code : Option String
  message : String
deriving DecidableEq, Repr, Inhabited

namespace DatabaseError

def kind : DatabaseError → ErrorKind
  | compile _ => .compile
  | library _ _ => .driver
  | driver _ _ => .driver
  | config _ => .config
  | rollbackFailed _ _ => .transaction

/-- The database's code of the failure that came first. -/
def code : DatabaseError → Option String
  | library code _ => code
  | driver code _ => code
  | rollbackFailed error _ => error.code
  | _ => none

def message : DatabaseError → String
  | compile cause => "compile error: " ++ cause.message
  | library _ message => "database error: " ++ message
  | driver _ message => "driver error: " ++ message
  | config reason => "configuration error: " ++ reason
  | rollbackFailed error rollback => error.message ++ "; rollback failed: " ++ rollback.message

/-- The summary of a failure. -/
def info (e : DatabaseError) : ErrorInfo := ⟨e.kind, e.code, e.message⟩

end DatabaseError
end SqlToolkit
