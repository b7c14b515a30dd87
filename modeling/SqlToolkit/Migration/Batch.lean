import SqlToolkit.Migration.History
import SqlToolkit.Migration.Registry
import SqlToolkit.Session.Transaction

/-!
# Batches of migrations

A migrator applies the registered migrations that the history lacks, all in one batch, and reverts batches from the
newest to the oldest.  Whatever it changes in one go it changes in one transaction, so a failure leaves neither half
a batch nor half a history.  A migration that was applied and is not registered is noticed before anything changes,
and so is that no number is left for the next batch.
-/
namespace SqlToolkit

/-- Registered migrations and the history that tells which of them were applied. -/
structure Migrator (σ : Type) where
  registry : Registry σ
  history : History := {}

/-- What is known of one migration. -/
structure MigrationStatus where
  name : String
  /-- The batch in which it was applied; nothing while it waits. -/
  batch : Option Int64
  registered : Bool
deriving DecidableEq, Repr, Inhabited

namespace Migrator
open Migration
variable {σ α : Type}

/-! ### Transactions -/

/-- Undoes the transaction after a failure and fails with it, or with both failures if undoing fails too. -/
def undo (failure : MigrationError) : Program σ α := do
  match ← ExceptT.lift Session.rollback.run with
  | .ok _ => throw failure
  | .error rollback => throw (.rollbackFailed failure rollback)

/-- Runs a program in one transaction, which is kept if the program succeeds and undone otherwise. -/
def inTransaction (program : Program σ α) : Program σ α := do
  lift Session.start
  let kept : Program σ α := do
    let result ← program
    lift Session.commit
    return result
  match ← ExceptT.lift kept.run with
  | .ok result => return result
  | .error failure => undo failure

/-! ### Applying -/

/-- Applies a migration and records it in a batch. -/
def apply (m : Migrator σ) (batch : Int64) (migration : Migration σ) : Program σ String := do
  migration.up
  m.history.recordApplied migration.name batch
  return migration.name

/-- The registered migrations that were not applied, in the order of their names. -/
def pending (m : Migrator σ) (applied : List AppliedMigration) : List (Migration σ) :=
  m.registry.migrations.filter fun migration => !(applied.map AppliedMigration.name).contains migration.name

/-- The batch after another, if 64 bits hold its number. -/
def nextBatch (last : Int64) : Except MigrationError Int64 :=
  if last = Int64.maxValue then .error .overflow else .ok (last + 1)

/-- Applies migrations in the batch after `last`.  The batch is counted before the transaction starts. -/
def applyAfter (m : Migrator σ) (last : Int64) (pending : List (Migration σ)) : Program σ (List String) := do
  if pending.isEmpty then
    return []
  let batch ← MonadExcept.ofExcept (nextBatch last)
  inTransaction (pending.mapM (m.apply batch))

/-- Applies what is pending as one batch, which is newer than all of the history and than `floor`. -/
def migrateAfter (m : Migrator σ) (floor : Int64) : Program σ (List String) := do
  m.history.ensureTable
  let applied ← m.history.applied
  m.applyAfter (max (AppliedMigration.lastBatch applied) floor) (m.pending applied)

/-- Applies what is pending as one new batch and answers with the names. -/
def migrate (m : Migrator σ) : Program σ (List String) := m.migrateAfter 0

/-! ### Reverting -/

/-- A batch put into its place in a list from newest to oldest, unless it is there. -/
def placeBatch (batch : Int64) : List Int64 → List Int64
  | [] => [batch]
  | b :: rest =>
    if b < batch then batch :: b :: rest else if b = batch then b :: rest else b :: placeBatch batch rest

/-- The batches of the history, from newest to oldest. -/
def batches (applied : List AppliedMigration) : List Int64 :=
  applied.foldr (fun a found => placeBatch a.batch found) []

/-- The first was applied no earlier than the second. -/
def newerFirst (a b : AppliedMigration) : Bool := b.batch < a.batch || (a.batch = b.batch && b.id ≤ a.id)

/-- The registered migration of a row of the history. -/
def registered (m : Migrator σ) (a : AppliedMigration) : Except MigrationError (Migration σ) :=
  match m.registry.get? a.name with
  | some migration => .ok migration
  | none => .error (.missing a.name)

/-- Reverts a migration and forgets it. -/
def unapply (m : Migrator σ) (migration : Migration σ) : Program σ String := do
  migration.down
  m.history.recordReverted migration.name
  return migration.name

/-- Reverts rows of the history, newest first, and answers with the names. -/
def revert (m : Migrator σ) (targets : List AppliedMigration) : Program σ (List String) := do
  if targets.isEmpty then
    return []
  let migrations ← MonadExcept.ofExcept ((targets.mergeSort newerFirst).mapM m.registered)
  inTransaction (migrations.mapM m.unapply)

/-- Reverts the newest batches, as many as `steps`. -/
def rollback (m : Migrator σ) (steps : Nat) : Program σ (List String) := do
  m.history.ensureTable
  let applied ← m.history.applied
  let chosen := (batches applied).take steps
  m.revert (applied.filter fun a => chosen.contains a.batch)

/-- Reverts everything. -/
def reset (m : Migrator σ) : Program σ (List String) := do
  m.history.ensureTable
  let applied ← m.history.applied
  m.revert applied

/-- Reverts everything and applies everything in a batch newer than all before.  The two halves are two
transactions. -/
def refresh (m : Migrator σ) : Program σ (List String) := do
  m.history.ensureTable
  let last ← m.history.lastBatch
  let _ ← m.reset
  m.migrateAfter last

/-! ### Status -/

/-- The batch in which the history has a migration. -/
def batchOf? (applied : List AppliedMigration) (name : String) : Option Int64 :=
  (applied.find? fun a => a.name = name).map AppliedMigration.batch

/-- Every registered migration with its batch, then every applied one that is not registered. -/
def status (m : Migrator σ) : Program σ (List MigrationStatus) := do
  m.history.ensureTable
  let applied ← m.history.applied
  let known := m.registry.names.map fun name => { name, batch := batchOf? applied name, registered := true }
  let unknown := (applied.filter fun a => (m.registry.get? a.name).isNone).map fun a =>
    { name := a.name, batch := some a.batch, registered := false }
  return known ++ unknown

end Migrator
end SqlToolkit
