import SqlToolkit.Migration.Batch
import SqlToolkit.Proofs.Migration.Statement

/-!
# Stores of a history

A `HistoryStore` is a database in which a history can be kept: starting a transaction
takes a snapshot of the rows, undoing it brings them back, and committing keeps what
was done or fails.  An inserted row has an id above all present ones.  Every call may
fail except undoing a transaction, and a statement that fails inside one may leave any
rows behind.

Two views are all that is looked at: the rows of the history's table, oldest first,
and the snapshot of the open transaction.  `At` fixes both for a session, and each
operation of a history has one lemma that says where it leads.
-/
namespace SqlToolkit

/-- The first was applied before the second: by batch, and then by id. -/
def AppliedMigration.Before (a b : AppliedMigration) : Prop :=
  a.batch < b.batch ∨ a.batch = b.batch ∧ a.id ≤ b.id

/-- The row that an insertion adds to others: it holds what was bound, under an id above
theirs. -/
structure AppliedMigration.Follows (a : AppliedMigration) (rows : List AppliedMigration)
    (name : String) (batch : Int64) : Prop where
  name_eq : a.name = name
  batch_eq : a.batch = batch
  id_lt : ∀ b ∈ rows, b.id < a.id

/-- **A database that keeps a history** and undoes transactions. -/
structure HistoryStore (σ : Type) where
  backend : Backend σ
  target : Target
  history : History := {}
  /-- The rows of the history's table, oldest first. -/
  rows : σ → List AppliedMigration
  /-- The rows that undoing the open transaction brings back. -/
  saved : σ → Option (List AppliedMigration)
  inTransaction_eq (c : σ) : backend.inTransaction c = (saved c).isSome
  start_spec (c : σ) : saved c = none →
    Settles (backend.start c) (fun _ d => rows d = rows c ∧ saved d = some (rows c))
      (fun _ d => rows d = rows c ∧ saved d = none)
  commit_spec (c : σ) (snapshot : List AppliedMigration) : saved c = some snapshot →
    Settles (backend.commit c) (fun _ d => rows d = rows c ∧ saved d = none)
      (fun _ d => saved d = some snapshot)
  rollback_spec (c : σ) (snapshot : List AppliedMigration) : saved c = some snapshot →
    Settles (backend.rollback c) (fun _ d => rows d = snapshot ∧ saved d = none)
      (fun _ _ => False)
  exists_spec (c : σ) :
    Settles (backend.query (history.existsStatement target) c)
      (fun _ d => rows d = rows c ∧ saved d = saved c)
      (fun _ d => rows d = rows c ∧ saved d = saved c)
  create_spec (c : σ) (statements : List String) :
    history.createStatements target = .ok statements → ∀ sql ∈ statements,
    Settles (backend.execute ⟨sql, []⟩ c) (fun _ d => rows d = rows c ∧ saved d = saved c)
      (fun _ d => rows d = rows c ∧ saved d = saved c)
  read_spec (c : σ) :
    Settles (backend.query (history.readStatement target) c)
      (fun answer d => (answer.map AppliedMigration.ofRow).Perm (rows c) ∧
        (answer.map AppliedMigration.ofRow).Pairwise AppliedMigration.Before ∧
        rows d = rows c ∧ saved d = saved c)
      (fun _ d => rows d = rows c ∧ saved d = saved c)
  insert_spec (c : σ) (name : String) (batch : Int64) :
    Settles (backend.execute (history.insertStatement target name batch) c)
      (fun _ d => (∃ a : AppliedMigration, a.Follows (rows c) name batch ∧ rows d = rows c ++ [a]) ∧
        saved d = saved c)
      (fun _ d => saved d = saved c)
  delete_spec (c : σ) (name : String) :
    Settles (backend.execute (history.deleteStatement target name) c)
      (fun _ d => rows d = (rows c).filter (fun a => a.name ≠ name) ∧ saved d = saved c)
      (fun _ d => saved d = saved c)

namespace HistoryStore

open Migration

variable {σ : Type} (store : HistoryStore σ) {s u : Session σ}
  {rows snapshot : List AppliedMigration} {saved : Option (List AppliedMigration)}

/-- A session over the store, with the rows and the snapshot that it sees. -/
structure At (s : Session σ) (rows : List AppliedMigration)
    (saved : Option (List AppliedMigration)) : Prop where
  backend : s.backend = store.backend
  target : s.target = store.target
  rows : store.rows s.connection = rows
  saved : store.saved s.connection = saved

variable {store}

/-- A session that kept its backend and target is where its connection is. -/
theorem At.keeps (h : store.At s rows saved) (hkeeps : s.Keeps u)
    {rows' : List AppliedMigration} {saved' : Option (List AppliedMigration)}
    (hrows : store.rows u.connection = rows') (hsaved : store.saved u.connection = saved') :
    store.At u rows' saved' where
  backend := hkeeps.backend.trans h.backend
  target := hkeeps.target.trans h.target
  rows := hrows
  saved := hsaved

/-- A session that kept even its connection is where it was. -/
theorem At.stays (h : store.At s rows saved) (hkeeps : s.Keeps u)
    (hc : u.connection = s.connection) : store.At u rows saved :=
  h.keeps hkeeps (hc ▸ h.rows) (hc ▸ h.saved)

theorem At.inTransaction (h : store.At s rows saved) : s.inTransaction = saved.isSome := by
  rw [Session.inTransaction, h.backend, store.inTransaction_eq, h.saved]

/-! ## Transactions -/

theorem settles_start (h : store.At s rows none) :
    Settles (ending (lift Session.start) s) (fun _ u => store.At u rows (some rows))
      (fun _ u => store.At u rows none) := by
  have hstart := store.start_spec s.connection h.saved
  rw [← h.backend] at hstart
  refine .adapt ((Session.settles_call Backend.start hstart).imp (fun _ u hu => ?_) fun _ u hu => ?_)
  · exact h.keeps hu.1 (hu.2.1.trans h.rows) (hu.2.2.trans (congrArg some h.rows))
  · exact h.keeps hu.1 (hu.2.1.trans h.rows) hu.2.2

theorem settles_commit (h : store.At s rows (some snapshot)) :
    Settles (ending (lift Session.commit) s) (fun _ u => store.At u rows none)
      (fun _ u => ∃ rows', store.At u rows' (some snapshot)) := by
  have hcommit := store.commit_spec s.connection snapshot h.saved
  rw [← h.backend] at hcommit
  refine .adapt ((Session.settles_call Backend.commit hcommit).imp (fun _ u hu => ?_) fun _ u hu => ?_)
  · exact h.keeps hu.1 (hu.2.1.trans h.rows) hu.2.2
  · exact ⟨_, h.keeps hu.1 rfl hu.2⟩

theorem settles_rollback (h : store.At s rows (some snapshot)) :
    Settles (ending Session.rollback s) (fun _ u => store.At u snapshot none)
      (fun _ _ => False) := by
  have hrollback := store.rollback_spec s.connection snapshot h.saved
  rw [← h.backend] at hrollback
  refine (Session.settles_call Backend.rollback hrollback).imp (fun _ u hu => ?_) fun _ u hu => hu.2
  exact h.keeps hu.1 hu.2.1 hu.2.2

/-! ## The history's operations -/

theorem settles_createTable (h : store.At s rows saved) :
    Settles (ending (Session.createTable store.history.table History.declare) s)
      (fun _ u => store.At u rows saved) (fun _ u => store.At u rows saved) := by
  unfold Session.createTable Session.runBlueprint
  refine .get_bind (.bind (Session.settles_compiled _) (fun _ u hu => h.stays hu.2.1 hu.2.2)
    fun statements u hu => ?_)
  obtain ⟨hbuild, hkeeps, hc⟩ := hu
  have hcreate : store.history.createStatements store.target = .ok statements := by
    rw [← h.target]
    exact hbuild
  refine Session.settles_runAll (fun sql hsql v hv => ?_) (h.stays hkeeps hc)
  have hexecute := store.create_spec v.connection statements hcreate sql hsql
  rw [← hv.backend] at hexecute
  refine (Session.settles_run hexecute).imp (fun _ w hw => ?_) fun _ w hw => ?_
  · exact hv.keeps hw.1 (hw.2.1.trans hv.rows) (hw.2.2.trans hv.saved)
  · exact hv.keeps hw.1 (hw.2.1.trans hv.rows) (hw.2.2.trans hv.saved)

theorem settles_ensureTable (h : store.At s rows saved) :
    Settles (ending store.history.ensureTable s) (fun _ u => store.At u rows saved)
      (fun _ u => store.At u rows saved) := by
  have hquery := store.exists_spec s.connection
  rw [← h.backend, ← h.target] at hquery
  have hpresent : Settles (ending (lift (Session.hasTable store.history.table)) s)
      (fun _ u => store.At u rows saved) (fun _ u => store.At u rows saved) := by
    refine .adapt ((History.settles_hasTable hquery).imp (fun _ u hu => ?_) fun _ u hu => ?_)
    · obtain ⟨_, _, hkeeps, hrows, hsaved⟩ := hu
      exact h.keeps hkeeps (hrows.trans h.rows) (hsaved.trans h.saved)
    · exact h.keeps hu.1 (hu.2.1.trans h.rows) (hu.2.2.trans h.saved)
  unfold History.ensureTable
  refine .bind hpresent (fun _ _ hu => hu) fun present u hu => ?_
  by_cases hp : present = true
  · rw [if_neg (by simp [hp])]
    exact .pure hu
  · rw [if_pos (by simp [hp])]
    exact .adapt (settles_createTable hu)

theorem settles_applied (h : store.At s rows saved) :
    Settles (ending store.history.applied s)
      (fun applied u => applied.Perm rows ∧ applied.Pairwise AppliedMigration.Before ∧
        store.At u rows saved)
      (fun _ u => store.At u rows saved) := by
  have hquery := store.read_spec s.connection
  rw [← h.backend, ← h.target, h.rows, h.saved] at hquery
  refine (History.settles_applied hquery).imp (fun applied u hu => ?_) fun _ u hu => ?_
  · obtain ⟨answer, rfl, hkeeps, hperm, hordered, hrows, hsaved⟩ := hu
    exact ⟨hperm, hordered, h.keeps hkeeps hrows hsaved⟩
  · obtain ⟨_, _, hkeeps, hrows, hsaved⟩ := hu
    exact h.keeps hkeeps hrows hsaved

/-- What begins with reading the history goes on from its rows, and a failure before leaves them. -/
theorem settles_reading {α : Type} {f : List AppliedMigration → Program σ α} {good : α → Session σ → Prop}
    (h : store.At s rows saved)
    (hrest : ∀ applied u, applied.Perm rows → applied.Pairwise AppliedMigration.Before → store.At u rows saved →
      Settles (ending (f applied) u) good fun _ v => store.At v rows saved) :
    Settles (ending (do store.history.ensureTable; let applied ← store.history.applied; f applied) s) good
      (fun _ u => store.At u rows saved) := by
  refine .bind (settles_ensureTable h) (fun _ _ hu => hu) fun _ u hu => ?_
  refine .bind (settles_applied hu) (fun _ _ hv => hv) fun applied v hv => ?_
  obtain ⟨hperm, hordered, hv⟩ := hv
  exact hrest applied v hperm hordered hv

theorem settles_recordApplied (h : store.At s rows saved) (name : String) (batch : Int64) :
    Settles (ending (store.history.recordApplied name batch) s)
      (fun _ u => ∃ a : AppliedMigration, a.Follows rows name batch ∧
        store.At u (rows ++ [a]) saved)
      (fun _ u => ∃ rows', store.At u rows' saved) := by
  have hexecute := store.insert_spec s.connection name batch
  rw [← h.backend, ← h.target, h.rows, h.saved] at hexecute
  refine (History.settles_recordApplied hexecute).imp (fun _ u hu => ?_) fun _ u hu => ?_
  · obtain ⟨hkeeps, _, ⟨a, ha, hrows⟩, hsaved⟩ := hu
    exact ⟨a, ha, h.keeps hkeeps hrows hsaved⟩
  · obtain ⟨_, _, hkeeps, hsaved⟩ := hu
    exact ⟨_, h.keeps hkeeps rfl hsaved⟩

theorem settles_recordReverted (h : store.At s rows saved) (name : String) :
    Settles (ending (store.history.recordReverted name) s)
      (fun _ u => store.At u (rows.filter fun a => a.name ≠ name) saved)
      (fun _ u => ∃ rows', store.At u rows' saved) := by
  have hexecute := store.delete_spec s.connection name
  rw [← h.backend, ← h.target, h.rows, h.saved] at hexecute
  refine (History.settles_recordReverted hexecute).imp (fun _ u hu => ?_) fun _ u hu => ?_
  · obtain ⟨hkeeps, _, hrows, hsaved⟩ := hu
    exact h.keeps hkeeps hrows hsaved
  · obtain ⟨_, _, hkeeps, hsaved⟩ := hu
    exact ⟨_, h.keeps hkeeps rfl hsaved⟩

end HistoryStore
end SqlToolkit
