import SqlToolkit.Session.Error

/-!
# What goes wrong in a migration

A migration fails with its session, on the files that scripts are kept in, on a registry that does not fit the
history, because a step cannot be reverted, or because batches cannot be counted any further.  A batch that fails is
undone; when that fails too, both failures are kept.
-/
namespace SqlToolkit

/-- A failure of a migration. -/
inductive MigrationError where
  | database (cause : DatabaseError)
  /-- A file or folder could not be read or written. -/
  | files (reason : String)
  | folderNotFound (path : String)
  | invalidFileName (path : String)
  /-- Two migrations share a name. -/
  | duplicate (name : String)
  /-- A migration was applied and is not registered. -/
  | missing (name : String)
  | notReversible (name : String)
  /-- The failure of a batch, and the failure to undo the batch after it. -/
  | rollbackFailed (error : MigrationError) (rollback : DatabaseError)
  | fileExists (path : String)
  /-- The number of the next batch does not fit 64 bits, which stops the program. -/
  | overflow
deriving DecidableEq, Repr, Inhabited

namespace MigrationError

def message : MigrationError → String
  | database cause => "Database error: " ++ cause.message
  | files reason => "IO error: " ++ reason
  | folderNotFound path => "Migrations directory not found: " ++ path
  | invalidFileName path => "Invalid migration file name: " ++ path
  | duplicate name => "Migration '" ++ name ++ "' is registered twice"
  | missing name => "Migration '" ++ name ++ "' is applied but not registered"
  | notReversible name => "Migration '" ++ name ++ "' is not reversible"
  | rollbackFailed error rollback => error.message ++ "; rollback failed: " ++ rollback.message
  | fileExists path => "Migration file already exists: " ++ path
  | overflow => "attempt to add with overflow"

end MigrationError
end SqlToolkit
