import SqlToolkit.Proofs.Migration.Batch
import SqlToolkit.Proofs.Migration.Store
import SqlToolkit.Proofs.Outcome

/-!
# What the calls of a migrator do to a history

Each operation of a migrator has one lemma that says which rows it leaves when it
succeeds and which when it fails.  The migrations themselves are any programs that
leave the history and its transaction alone (`Quiet`), whether they succeed or not.

The one that matters is `settles_inTransaction`: whatever a program does to the rows
inside a transaction of its own, a failure of it, of a statement or of the commit brings
back the rows from before.
-/
namespace SqlToolkit

/-- Rows grown from others by insertions of these names, in this order and one batch. -/
inductive AppliedMigration.Grown (batch : Int64) (rows : List AppliedMigration) :
    List String → List AppliedMigration → Prop
  | start : Grown batch rows [] rows
  | record {names : List String} {rows' : List AppliedMigration} {name : String}
      {a : AppliedMigration} :
    Grown batch rows names rows' → a.Follows rows' name batch →
      Grown batch rows (names ++ [name]) (rows' ++ [a])

/-- Rows grown by these names in the batch after `last`.  Without a name to add, no such batch is needed. -/
def AppliedMigration.GrownAfter (last : Int64) (rows : List AppliedMigration) (names : List String)
    (rows' : List AppliedMigration) : Prop :=
  ∃ batch, (names ≠ [] → Migrator.nextBatch last = .ok batch) ∧ Grown batch rows names rows'

/-- The rows of a history without those of some names. -/
def AppliedMigration.without (rows : List AppliedMigration) (names : List String) :
    List AppliedMigration :=
  rows.filter fun a => a.name ∉ names

namespace HistoryStore

open Migration Migrator AppliedMigration

variable {σ α : Type} (store : HistoryStore σ)

/-- A program leaves the history and its transaction alone. -/
def Quiet (p : Program σ Unit) : Prop :=
  ∀ s rows saved, store.At s rows saved →
    Settles (ending p s) (fun _ u => store.At u rows saved) (fun _ u => store.At u rows saved)

/-- Both steps of every migration leave the history and its transaction alone. -/
def QuietAll (r : Registry σ) : Prop :=
  ∀ migration ∈ r.migrations, store.Quiet migration.up ∧ store.Quiet migration.down

/-- A migrator of the store's history. -/
def migrator (r : Registry σ) : Migrator σ := ⟨r, store.history⟩

variable {store} {s : Session σ} {rows snapshot : List AppliedMigration}
  {saved : Option (List AppliedMigration)} {r : Registry σ}

/-! ## Transactions -/

theorem settles_undo (h : store.At s rows (some snapshot)) (failure : MigrationError) :
    Settles (ending (undo failure : Program σ α) s) (fun _ _ => False)
      (fun e u => e = failure ∧ store.At u snapshot none) := by
  unfold undo
  refine .bind (.lift (fun result u => (∃ a, result = .ok a) ∧ store.At u snapshot none)
    ((settles_rollback h).imp (fun a _ hu => ⟨⟨a, rfl⟩, hu⟩) fun _ _ hu => hu.elim))
    (fun _ _ hu => hu) fun result u hu => ?_
  obtain ⟨⟨_, rfl⟩, hu⟩ := hu
  exact .throw ⟨rfl, hu⟩

variable (store) in
/-- A transaction that started from these rows is committed after a success, and still open
after a failure. -/
def Concluded (start : List AppliedMigration) (good : α → List AppliedMigration → Prop) :
    Except MigrationError α → Session σ → Prop
  | .ok a, v => ∃ rows', good a rows' ∧ store.At v rows' none
  | .error _, v => ∃ rows', store.At v rows' (some start)

/-- **A transaction keeps all or nothing.**  A program that starts from the rows of the
snapshot and ends well leaves the rows that it made; any failure, be it of the program or
of the commit, leaves the rows from before.  Either way no transaction is open. -/
theorem settles_inTransaction {program : Program σ α} {good : α → List AppliedMigration → Prop}
    (h : store.At s rows none)
    (hprogram : ∀ u, store.At u rows (some rows) → Settles (ending program u)
      (fun a v => ∃ rows', good a rows' ∧ store.At v rows' (some rows))
      (fun _ v => ∃ rows', store.At v rows' (some rows))) :
    Settles (ending (inTransaction program) s)
      (fun a u => ∃ rows', good a rows' ∧ store.At u rows' none)
      (fun _ u => store.At u rows none) := by
  unfold inTransaction
  refine .bind (settles_start h) (fun _ _ hu => hu) fun _ u hu => ?_
  have hkept : Settles (ending (do let result ← program; lift Session.commit; return result) u)
      (fun a v => ∃ rows', good a rows' ∧ store.At v rows' none)
      (fun _ v => ∃ rows', store.At v rows' (some rows)) := by
    refine .bind (hprogram u hu) (fun _ _ hv => hv) fun a v hv => ?_
    obtain ⟨rows', ha, hv⟩ := hv
    exact .bind (settles_commit hv) (fun _ _ hw => hw) fun _ _ hw => .pure ⟨rows', ha, hw⟩
  refine .bind (.lift (store.Concluded rows good) hkept) (fun _ _ hv => hv) fun result v hv => ?_
  cases result with
  | ok a => exact .pure hv
  | error failure =>
    obtain ⟨rows', hv⟩ := hv
    exact (settles_undo hv failure).imp (fun _ _ hw => hw.elim) fun _ _ hw => hw.2

/-! ## Applying -/

theorem settles_apply (h : store.At s rows saved) {migration : Migration σ} (batch : Int64)
    (hquiet : store.Quiet migration.up) :
    Settles (ending ((store.migrator r).apply batch migration) s)
      (fun name u => name = migration.name ∧ ∃ a : AppliedMigration,
        a.Follows rows name batch ∧ store.At u (rows ++ [a]) saved)
      (fun _ u => ∃ rows', store.At u rows' saved) := by
  unfold apply
  refine .bind (hquiet s rows saved h) (fun _ _ hu => ⟨rows, hu⟩) fun _ u hu => ?_
  exact .bind (settles_recordApplied hu migration.name batch) (fun _ _ hv => hv)
    fun _ _ hv => .pure ⟨rfl, hv⟩

theorem settles_applyAll (h : store.At s rows saved) (hquiet : store.QuietAll r) (batch : Int64)
    {migrations : List (Migration σ)} (hsub : ∀ migration ∈ migrations, migration ∈ r.migrations) :
    Settles (ending (migrations.mapM ((store.migrator r).apply batch)) s)
      (fun names u => ∃ rows', (names = migrations.map Migration.name ∧
        Grown batch rows names rows') ∧ store.At u rows' saved)
      (fun _ u => ∃ rows', store.At u rows' saved) := by
  refine .mapM (fun before names u => ∃ rows', (names = before.map Migration.name ∧
    Grown batch rows names rows') ∧ store.At u rows' saved) ⟨rows, ⟨rfl, .start⟩, h⟩ ?_
  intro migration hm before names u hu
  obtain ⟨rows', ⟨rfl, hgrown⟩, hu⟩ := hu
  refine (settles_apply hu batch (hquiet migration (hsub migration hm)).1).imp (fun name v hv => ?_)
    fun _ _ hv => hv
  obtain ⟨rfl, a, ha, hv⟩ := hv
  refine ⟨rows' ++ [a], ⟨?_, hgrown.record ha⟩, hv⟩
  rw [List.map_append]
  rfl

/-- What is pending depends on which rows there are, not on their order. -/
theorem pending_perm {applied : List AppliedMigration} (h : applied.Perm rows) (m : Migrator σ) :
    m.pending applied = m.pending rows := by
  unfold pending
  congr 1
  funext migration
  congr 1
  exact (h.map AppliedMigration.name).contains_eq

/-- Migrations that are applied in the batch after another leave their rows, if there is such a batch. -/
theorem settles_applyAfter (h : store.At s rows none) (hquiet : store.QuietAll r) (last : Int64)
    {migrations : List (Migration σ)} (hsub : ∀ migration ∈ migrations, migration ∈ r.migrations) :
    Settles (ending ((store.migrator r).applyAfter last migrations) s)
      (fun names u => ∃ rows', (names = migrations.map Migration.name ∧ GrownAfter last rows names rows') ∧
        store.At u rows' none)
      (fun _ u => store.At u rows none) := by
  by_cases hnone : migrations = []
  · rw [hnone, applyAfter_nil]
    exact .pure ⟨rows, ⟨rfl, last, fun hsome => absurd rfl hsome, .start⟩, h⟩
  cases hnext : nextBatch last with
  | error e =>
    rw [applyAfter_error hnone hnext]
    exact .throw h
  | ok batch =>
    rw [applyAfter_ok hnone hnext]
    refine settles_inTransaction h fun u hu => (settles_applyAll hu hquiet batch hsub).imp ?_ fun _ _ hv => hv
    rintro names v ⟨rows', ⟨hnames, hgrown⟩, hv⟩
    exact ⟨rows', ⟨hnames, batch, fun _ => hnext, hgrown⟩, hv⟩

/-- A successful migration answers with the names that the rows lack, and adds them in one
batch after all of theirs. -/
theorem settles_migrateAfter (h : store.At s rows none) (hquiet : store.QuietAll r) (floor : Int64) :
    Settles (ending ((store.migrator r).migrateAfter floor) s)
      (fun names u => ∃ rows', (names = ((store.migrator r).pending rows).map Migration.name ∧
        GrownAfter (max (lastBatch rows) floor) rows names rows') ∧ store.At u rows' none)
      (fun _ u => store.At u rows none) := by
  unfold migrateAfter
  refine settles_reading h fun applied v hperm _ hv => ?_
  rw [pending_perm hperm, lastBatch_perm hperm]
  exact settles_applyAfter hv hquiet _ fun migration hm => (List.mem_filter.1 hm).1

/-! ## Reverting -/

theorem without_nil (rows : List AppliedMigration) : without rows [] = rows :=
  List.filter_eq_self.2 (by simp)

theorem without_append (rows : List AppliedMigration) (names : List String) (name : String) :
    without rows (names ++ [name]) = (without rows names).filter fun a => a.name ≠ name := by
  unfold without
  rw [List.filter_filter]
  congr 1
  funext a
  simp [and_comm]

theorem settles_unapply (h : store.At s rows saved) {migration : Migration σ}
    (hquiet : store.Quiet migration.down) :
    Settles (ending ((store.migrator r).unapply migration) s)
      (fun name u => name = migration.name ∧
        store.At u (rows.filter fun a => a.name ≠ migration.name) saved)
      (fun _ u => ∃ rows', store.At u rows' saved) := by
  unfold unapply
  refine .bind (hquiet s rows saved h) (fun _ _ hu => ⟨rows, hu⟩) fun _ u hu => ?_
  exact .bind (settles_recordReverted hu migration.name) (fun _ _ hv => hv)
    fun _ _ hv => .pure ⟨rfl, hv⟩

theorem settles_unapplyAll (h : store.At s rows saved) (hquiet : store.QuietAll r)
    {migrations : List (Migration σ)} (hsub : ∀ migration ∈ migrations, migration ∈ r.migrations) :
    Settles (ending (migrations.mapM (store.migrator r).unapply) s)
      (fun names u => ∃ rows', (names = migrations.map Migration.name ∧ rows' = without rows names) ∧
        store.At u rows' saved)
      (fun _ u => ∃ rows', store.At u rows' saved) := by
  refine .mapM (fun before names u => ∃ rows', (names = before.map Migration.name ∧
    rows' = without rows names) ∧ store.At u rows' saved)
    ⟨rows, ⟨rfl, (without_nil rows).symm⟩, h⟩ ?_
  intro migration hm before names u hu
  obtain ⟨_, ⟨rfl, rfl⟩, hu⟩ := hu
  refine (settles_unapply hu (hquiet migration (hsub migration hm)).2).imp (fun name v hv => ?_)
    fun _ _ hv => hv
  obtain ⟨rfl, hv⟩ := hv
  refine ⟨_, ⟨?_, (without_append rows _ migration.name).symm⟩, hv⟩
  rw [List.map_append]
  rfl

/-- A row's registered migration is one of the registry and has the row's name. -/
theorem registered_eq_ok {m : Migrator σ} {a : AppliedMigration} {migration : Migration σ}
    (h : m.registered a = .ok migration) :
    migration ∈ m.registry.migrations ∧ migration.name = a.name := by
  unfold registered at h
  cases hget : m.registry.get? a.name with
  | none =>
    rw [hget] at h
    cases h
  | some found =>
    rw [hget] at h
    cases h
    exact ⟨List.mem_of_find?_eq_some hget, by simpa using List.find?_some hget⟩

theorem names_of_registered {m : Migrator σ} {targets : List AppliedMigration}
    {migrations : List (Migration σ)} (h : targets.mapM m.registered = .ok migrations) :
    migrations.map Migration.name = targets.map AppliedMigration.name := by
  have hall := Outcome.mapM_eq_ok_iff.1 h
  clear h
  induction hall with
  | nil => rfl
  | cons hm _ ih => rw [List.map_cons, List.map_cons, ih, (registered_eq_ok hm).2]

/-- Reverting answers with the names of its targets, newest first, and drops their rows. -/
theorem settles_revert (h : store.At s rows none) (hquiet : store.QuietAll r)
    (targets : List AppliedMigration) :
    Settles (ending ((store.migrator r).revert targets) s)
      (fun names u => ∃ rows', (names = (targets.mergeSort newerFirst).map AppliedMigration.name ∧
        rows' = without rows names) ∧ store.At u rows' none)
      (fun _ u => store.At u rows none) := by
  unfold revert
  by_cases hnone : targets.isEmpty = true
  · rw [if_pos hnone, List.isEmpty_iff.1 hnone, List.mergeSort_nil]
    exact .pure ⟨rows, ⟨rfl, (without_nil rows).symm⟩, h⟩
  · rw [if_neg hnone]
    have hfound : Settles (ending (MonadExcept.ofExcept
        ((targets.mergeSort newerFirst).mapM (store.migrator r).registered) : Program σ _) s)
        (fun migrations u => (targets.mergeSort newerFirst).mapM (store.migrator r).registered =
          .ok migrations ∧ store.At u rows none)
        (fun _ u => store.At u rows none) :=
      .ofExcept (fun _ hm => ⟨hm, h⟩) fun _ _ => h
    refine .bind hfound (fun _ _ hu => hu) fun migrations u hu => ?_
    obtain ⟨hmigrations, hu⟩ := hu
    rw [← names_of_registered hmigrations]
    refine settles_inTransaction hu fun w hw => settles_unapplyAll hw hquiet fun migration hm => ?_
    exact Outcome.forall_right (Outcome.mapM_eq_ok_iff.1 hmigrations)
      (fun a _ migration hm => (registered_eq_ok hm).1) migration hm

theorem settles_rollback_steps (h : store.At s rows none) (hquiet : store.QuietAll r) (steps : Nat) :
    Settles (ending ((store.migrator r).rollback steps) s)
      (fun names u => ∃ applied : List AppliedMigration, applied.Perm rows ∧ applied.Pairwise Before ∧
        names = ((applied.filter fun a => ((batches applied).take steps).contains a.batch).mergeSort
          newerFirst).map AppliedMigration.name ∧ store.At u (without rows names) none)
      (fun _ u => store.At u rows none) := by
  unfold rollback
  refine settles_reading h fun applied v hperm hordered hv => ?_
  refine (settles_revert hv hquiet _).imp (fun names w hw => ?_) fun _ _ hw => hw
  obtain ⟨_, ⟨hnames, rfl⟩, hw⟩ := hw
  exact ⟨applied, hperm, hordered, hnames, hw⟩

theorem settles_reset (h : store.At s rows none) (hquiet : store.QuietAll r) :
    Settles (ending ((store.migrator r).reset) s)
      (fun names u => ∃ applied : List AppliedMigration, applied.Perm rows ∧ applied.Pairwise Before ∧
        names = (applied.mergeSort newerFirst).map AppliedMigration.name ∧ store.At u [] none)
      (fun _ u => store.At u rows none) := by
  unfold reset
  refine settles_reading h fun applied v hperm hordered hv => ?_
  refine (settles_revert hv hquiet _).imp (fun names w hw => ?_) fun _ _ hw => hw
  obtain ⟨_, ⟨rfl, rfl⟩, hw⟩ := hw
  refine ⟨applied, hperm, hordered, rfl, ?_⟩
  -- every row was a target, so none is left
  have hnone : without rows ((applied.mergeSort newerFirst).map AppliedMigration.name) = [] := by
    refine List.filter_eq_nil_iff.2 fun a ha => ?_
    have hmem : a ∈ applied.mergeSort newerFirst := List.mem_mergeSort.2 (hperm.mem_iff.2 ha)
    have hname := List.mem_map_of_mem (f := AppliedMigration.name) hmem
    simpa using hname
  rw [← hnone]
  exact hw

/-! ## Refreshing -/

theorem settles_lastBatch (h : store.At s rows saved) :
    Settles (ending store.history.lastBatch s)
      (fun last u => last = lastBatch rows ∧ store.At u rows saved) (fun _ u => store.At u rows saved) := by
  refine .bind (settles_applied h) (fun _ _ hu => hu) fun applied u hu => .pure ?_
  exact ⟨lastBatch_perm hu.1, hu.2.2⟩

/-- A failed refresh changed nothing, or had its reset done and changed nothing more. -/
theorem settles_refresh (h : store.At s rows none) (hquiet : store.QuietAll r) :
    Settles (ending ((store.migrator r).refresh) s)
      (fun names u => ∃ rows', (names = ((store.migrator r).pending []).map Migration.name ∧
        GrownAfter (max (lastBatch []) (lastBatch rows)) [] names rows') ∧ store.At u rows' none)
      (fun _ v => store.At v rows none ∨ ∃ t reverted u,
        ending (store.migrator r).reset t = (.ok reverted, u) ∧
        store.At t rows none ∧ store.At u [] none ∧ store.At v [] none) := by
  unfold refresh
  refine .bind (settles_ensureTable h) (fun _ _ hu => .inl hu) fun _ u hu => ?_
  refine .bind (settles_lastBatch hu) (fun _ _ hv => .inl hv) fun last v hv => ?_
  obtain ⟨rfl, hv⟩ := hv
  refine .bind (settles_reset hv hquiet).with_run (fun _ _ hw => .inl hw.2) fun reverted w hw => ?_
  obtain ⟨hreset, _, _, _, _, hw⟩ := hw
  exact (settles_migrateAfter hw hquiet (lastBatch rows)).imp (fun _ _ hx => hx)
    fun _ x hx => .inr ⟨v, reverted, w, hreset, hv, hw, hx⟩

end HistoryStore
end SqlToolkit
