import SqlToolkit.Migration.Error
import SqlToolkit.Migration.Script
import SqlToolkit.Session.Write

/-!
# Migrations

A migration is a named change of a database with a step that applies it and one that reverts it.  The steps are
operations on a session, so a migration can be any program; one that is kept in scripts runs their statements one
after another, up to the first that fails.
-/
namespace SqlToolkit

namespace Migration

/-- A program on a session that may fail as a migration does. -/
abbrev Program (σ α : Type) := ExceptT MigrationError (StateM (Session σ)) α

/-- An operation on a session as a part of a migration. -/
def lift {σ α : Type} (op : Session.Operation σ α) : Program σ α := op.adapt .database

end Migration

/-- A named change of a database.  It cannot be reverted unless it says how. -/
structure Migration (σ : Type) where
  name : String
  up : Migration.Program σ Unit
  down : Migration.Program σ Unit := throw (.notReversible name)

/-- A migration that is kept in scripts. -/
structure ScriptedMigration where
  name : String
  up : String
  down : Option String := none
deriving DecidableEq, Repr, Inhabited

namespace Migration
variable {σ : Type}

/-- Runs statements one after another, up to the first that fails. -/
def runStatements : List String → Program σ Unit
  | [] => return ()
  | sql :: rest => do
    let _ ← lift (Session.execute sql [])
    runStatements rest

/-- Runs the statements of a script. -/
def runScript (script : String) : Program σ Unit := runStatements (Script.statements script)

/-- The migration of a pair of scripts. -/
def ofScripts (m : ScriptedMigration) : Migration σ :=
  { name := m.name
    up := runScript m.up
    down :=
      match m.down with
      | some script => runScript script
      | none => throw (.notReversible m.name) }

end Migration
end SqlToolkit
