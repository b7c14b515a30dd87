import SqlToolkit.Proofs.Migration.Watched

/-!
# Migrations and rollbacks are inverse

A successful migration adds the rows of what was pending, all in one batch above all
others.  So it is the one that a rollback of one step takes away again
(`newest_one_append`), and the rows from before are left.  A second migration finds
nothing pending.
-/
namespace SqlToolkit

open AppliedMigration Migrator

variable {rows rows' added : List AppliedMigration} {names : List String}

/-! ## A new batch -/

namespace Migrator

variable {b : Int64}

theorem batches_append (hbatch : ∀ a ∈ added, a.batch = b) (hsome : added ≠ [])
    (habove : ∀ a ∈ rows, a.batch < b) : batches (rows ++ added) = b :: batches rows := by
  have hmem {c : Int64} (hc : c ∈ batches rows) : c < b := by
    obtain ⟨a, ha, rfl⟩ := List.mem_map.1 (mem_batches.1 hc)
    exact habove a ha
  refine eq_of_decreasing (batches_decreasing _)
    (List.pairwise_cons.2 ⟨fun c hc => hmem hc, batches_decreasing rows⟩) fun c => ?_
  rw [mem_batches, List.map_append, List.mem_append, List.mem_cons, mem_batches, or_comm]
  refine or_congr_left ?_
  constructor
  · intro hc
    obtain ⟨a, ha, rfl⟩ := List.mem_map.1 hc
    exact hbatch a ha
  · rintro rfl
    obtain ⟨a, ha⟩ := List.exists_mem_of_ne_nil added hsome
    exact List.mem_map.2 ⟨a, ha, hbatch a ha⟩

theorem isNewest_one_append (hbatch : ∀ a ∈ added, a.batch = b) (hsome : added ≠ [])
    (habove : ∀ a ∈ rows, a.batch < b) (a : AppliedMigration) :
    isNewest 1 (rows ++ added) a = decide (a.batch = b) := by
  rw [Bool.eq_iff_iff, isNewest_iff, batches_append hbatch hsome habove]
  simp

/-- The newest batch is the one that was added. -/
theorem newest_one_append (hbatch : ∀ a ∈ added, a.batch = b) (hsome : added ≠ [])
    (habove : ∀ a ∈ rows, a.batch < b) : newest 1 (rows ++ added) = added := by
  have hold : rows.filter (isNewest 1 (rows ++ added)) = [] := by
    refine List.filter_eq_nil_iff.2 fun a ha => ?_
    rw [isNewest_one_append hbatch hsome habove, decide_eq_true_iff]
    exact Int64.ne_of_lt (habove a ha)
  have hnew : added.filter (isNewest 1 (rows ++ added)) = added := by
    refine List.filter_eq_self.2 fun a ha => ?_
    rw [isNewest_one_append hbatch hsome habove, decide_eq_true_iff]
    exact hbatch a ha
  unfold newest
  rw [List.filter_append, hold, hnew]
  rfl

theorem remaining_one_append (hbatch : ∀ a ∈ added, a.batch = b) (hsome : added ≠ [])
    (habove : ∀ a ∈ rows, a.batch < b) : remaining 1 (rows ++ added) = rows := by
  have hold : rows.filter (fun a => !isNewest 1 (rows ++ added) a) = rows := by
    refine List.filter_eq_self.2 fun a ha => ?_
    rw [isNewest_one_append hbatch hsome habove, Bool.not_eq_true', decide_eq_false_iff_not]
    exact Int64.ne_of_lt (habove a ha)
  have hnew : added.filter (fun a => !isNewest 1 (rows ++ added) a) = [] := by
    refine List.filter_eq_nil_iff.2 fun a ha => ?_
    rw [isNewest_one_append hbatch hsome habove, hbatch a ha]
    simp
  unfold remaining
  rw [List.filter_append, hold, hnew, List.append_nil]

/-- One batch is reverted from its last row to its first. -/
theorem reversal_batch (hd : Distinct added) (hbatch : ∀ a ∈ added, a.batch = b) :
    reversal added = added.reverse := by
  refine (eq_reversal hd (fun _ ha => ha) (List.reverse_perm added) ?_).symm
  rw [List.pairwise_reverse]
  refine hd.ids_lt.imp_of_mem fun {a c} ha hc hlt => ?_
  rw [newerFirst_iff, Before, hbatch a ha, hbatch c hc]
  exact .inr ⟨rfl, Int.le_of_lt hlt⟩

end Migrator

namespace HistoryStore

variable {σ : Type} {store : HistoryStore σ} {s u : Session σ} {r : Registry σ} {n : Nat}

theorem names_pending (store : HistoryStore σ) (r : Registry σ) (rows : List AppliedMigration) :
    ((store.migrator r).pending rows).map Migration.name =
      r.names.filter fun name => name ∉ rows.map AppliedMigration.name :=
  r.pending_roster rows

/-- A migration that answers: names, rows and the batch of those added. -/
theorem migrate_ok (h : store.At s rows none) (hquiet : store.QuietAll r)
    (hanswer : (store.migrator r).answer .migrate s = .ok names) :
    names = (r.names.filter fun name => name ∉ rows.map AppliedMigration.name) ∧
      ∃ added batch, store.At ((store.migrator r).after .migrate s) (rows ++ added) none ∧
        added.map AppliedMigration.name = names ∧
        (∀ a ∈ added, a.batch = batch ∧ ∀ b ∈ rows, b.batch < batch) ∧
        (Distinct rows → Distinct (rows ++ added)) := by
  obtain ⟨_, ⟨hnames, hgrown⟩, hafter⟩ := (settles_migrateAfter h hquiet 0).of_ok names hanswer
  have hdistinct (hd : Distinct rows) := hgrown.distinct hd
    (hnames ▸ nodup_pending (store.migrator r) rows) fun name hname => fresh_pending (store.migrator r) (hnames ▸ hname)
  obtain ⟨added, batch, rfl, hadded, hbatch⟩ := hgrown.exists_added
  refine ⟨hnames.trans (names_pending store r rows), added, batch, hafter, hadded, fun a ha => ?_, hdistinct⟩
  obtain ⟨rfl, hnext⟩ := hbatch a ha
  refine ⟨rfl, fun b hb => ?_⟩
  exact Int64.lt_of_le_of_lt (le_lastBatch hb) (Int64.lt_of_le_of_lt Std.left_le_max (lt_nextBatch hnext))

/-- With nothing pending a migration leaves the rows and asks for nothing. -/
theorem migrate_idle (h : store.At s rows none) (hquiet : store.QuietAll r)
    (hnone : ∀ name ∈ r.names, name ∈ rows.map AppliedMigration.name) :
    store.At ((store.migrator r).after .migrate s) rows none ∧
      Untouched ((store.migrator r).entries .migrate s) ∧
      (Flawless ((store.migrator r).entries .migrate s) → (store.migrator r).answer .migrate s = .ok []) := by
  have hfollowed := (records_migrateAfter h hquiet 0).entriesOf
  rw [Registry.applying_nothing store.history store.target 0 hnone] at hfollowed
  refine ⟨?_, hfollowed.untouched fun _ jobs hjobs => ?_, (hfollowed.ok_iff (by simp)).1⟩
  · have hstays : Settles (ending ((store.migrator r).migrateAfter 0) s) (fun _ u => store.At u rows none)
        fun _ u => store.At u rows none := by
      refine (settles_migrateAfter h hquiet 0).imp (fun names u hu => ?_) fun _ _ hu => hu
      obtain ⟨rows', ⟨rfl, hgrown⟩, hu⟩ := hu
      rw [names_pending, Registry.lacking_eq_nil hnone] at hgrown
      obtain ⟨added, -, rfl, hadded, -⟩ := hgrown.exists_added
      rw [List.map_eq_nil_iff.1 hadded, List.append_nil] at hu
      exact hu
    exact hstays.state
  · cases hjobs
    rfl

/-- The rollback of one step after rows were added in a batch above all others. -/
theorem rollback_added (h : store.At s (rows ++ added) none) (hd : Distinct (rows ++ added))
    (hquiet : store.QuietAll r) {b : Int64} (hbatch : ∀ a ∈ added, a.batch = b) (hsome : added ≠ [])
    (habove : ∀ a ∈ rows, a.batch < b) (hall : ∀ a ∈ added, a.name ∈ r.names)
    (hflawless : Flawless ((store.migrator r).entries (.rollback 1) s)) :
    (store.migrator r).answer (.rollback 1) s = .ok (added.map AppliedMigration.name).reverse ∧
      store.At ((store.migrator r).after (.rollback 1) s) rows none := by
  have hnewest := newest_one_append hbatch hsome habove
  have hregistered : ∀ a ∈ newest 1 (rows ++ added), a.name ∈ r.names := by
    rw [hnewest]
    exact hall
  obtain ⟨hanswer, -, hafter⟩ := rollback_flawless h hd hquiet hregistered hflawless
  rw [hnewest, reversal_batch hd.of_append_right hbatch, List.map_reverse] at hanswer
  rw [remaining_one_append hbatch hsome habove] at hafter
  exact ⟨hanswer, hafter⟩

/-- A migration that answers with names: what it did, and what a second migration and a
rollback of one step do after it. -/
structure Undoable (store : HistoryStore σ) (r : Registry σ) (s : Session σ) (names : List String) : Prop where
  /-- The names are those that the history lacked, in their order. -/
  names_eq : names = r.names.filter fun name => name ∉ (store.rows s.connection).map AppliedMigration.name
  ascending : names.Pairwise fun name name' => name < name'
  /-- Their rows are added in one batch, which is above all others. -/
  added : ∃ added batch,
    store.rows ((store.migrator r).after .migrate s).connection = store.rows s.connection ++ added ∧
    added.map AppliedMigration.name = names ∧
    ∀ a ∈ added, a.batch = batch ∧ ∀ b ∈ store.rows s.connection, b.batch < batch
  /-- A second migration leaves the history and asks for no transaction. -/
  again_rows : store.rows ((store.migrator r).after .migrate ((store.migrator r).after .migrate s)).connection =
    store.rows ((store.migrator r).after .migrate s).connection
  again_untouched : Untouched ((store.migrator r).entries .migrate ((store.migrator r).after .migrate s))
  again_answer : Flawless ((store.migrator r).entries .migrate ((store.migrator r).after .migrate s)) →
    (store.migrator r).answer .migrate ((store.migrator r).after .migrate s) = .ok []
  /-- A rollback of one step answers with the names in reverse and restores the history. -/
  undone : names ≠ [] →
    Flawless ((store.migrator r).entries (.rollback 1) ((store.migrator r).after .migrate s)) →
    (store.migrator r).answer (.rollback 1) ((store.migrator r).after .migrate s) = .ok names.reverse ∧
      store.rows ((store.migrator r).after (.rollback 1) ((store.migrator r).after .migrate s)).connection =
        store.rows s.connection

theorem undoable (h : store.At s rows none) (hd : Distinct rows) (hquiet : store.QuietAll r)
    (hanswer : (store.migrator r).answer .migrate s = .ok names) : Undoable store r s names := by
  obtain ⟨hnames, added, batch, hafter, hadded, hbatch, hdistinct⟩ := migrate_ok h hquiet hanswer
  -- what was not pending was there before
  have hall : ∀ name ∈ r.names, name ∈ (rows ++ added).map AppliedMigration.name := by
    intro name hname
    rw [List.map_append, hadded, hnames, List.mem_append, List.mem_filter, decide_eq_true_iff]
    tauto
  have hregistered : ∀ a ∈ added, a.name ∈ r.names := by
    intro a ha
    have hmem : a.name ∈ names := hadded ▸ List.mem_map_of_mem ha
    rw [hnames] at hmem
    exact List.mem_of_mem_filter hmem
  obtain ⟨hagain, huntouched, hidle⟩ := migrate_idle hafter hquiet hall
  refine ⟨?_, ?_, ⟨added, batch, ?_, hadded, ?_⟩, ?_, huntouched, hidle, fun hsome hflawless => ?_⟩
  · rw [h.rows]
    exact hnames
  · rw [hnames]
    exact (List.pairwise_map.2 r.increasing).sublist List.filter_sublist
  · rw [hafter.rows, h.rows]
  · rw [h.rows]
    exact hbatch
  · rw [hagain.rows, hafter.rows]
  · have hsome' : added ≠ [] := by
      rintro rfl
      exact hsome hadded.symm
    obtain ⟨a, ha⟩ := List.exists_mem_of_ne_nil added hsome'
    obtain ⟨hback, hrows⟩ := rollback_added hafter (hdistinct hd) hquiet (fun b hb => (hbatch b hb).1) hsome'
      (hbatch a ha).2 hregistered hflawless
    rw [hadded] at hback
    exact ⟨hback, hrows.rows.trans h.rows.symm⟩

/-- **Migrations and rollbacks are inverse.**  A migration that succeeds answers with the
registered names that the history lacked and adds them in one batch above all others; a
second one has nothing to do; and a rollback of one step takes back what was added. -/
theorem migrate_undoable (hreached : store.Reached n s) (hquiet : store.QuietAll r)
    (hanswer : (store.migrator r).answer .migrate s = .ok names) : Undoable store r s names := by
  obtain ⟨rows, hs, hd, -⟩ := invariant hreached
  exact undoable hs hd hquiet hanswer

/-- After one migration a second is applied, found to be applied, and taken back. -/
theorem migrate_undoable_second :
    ∃ s, Memory.sqlite.Reached 1 s ∧ (Memory.sqlite.migrator Memory.pair).answer .migrate s = .ok ["b"] ∧
      (Memory.sqlite.migrator Memory.pair).answer .migrate
        ((Memory.sqlite.migrator Memory.pair).after .migrate s) = .ok [] ∧
      (Memory.sqlite.migrator Memory.pair).answer (.rollback 1)
        ((Memory.sqlite.migrator Memory.pair).after .migrate s) = .ok ["b"] ∧
      Memory.sqlite.rows ((Memory.sqlite.migrator Memory.pair).after (.rollback 1)
        ((Memory.sqlite.migrator Memory.pair).after .migrate s)).connection = Memory.sqlite.rows s.connection := by
  obtain ⟨s, hs, -, hanswer, hafter⟩ := Memory.reached_second
  have hquiet : Memory.sqlite.QuietAll Memory.pair := Memory.quiet_idle Memory.idle_of_pair
  have hundoable := migrate_undoable hs hquiet hanswer
  have hnext := hs.call .migrate hquiet
  have hpending : (Memory.sqlite.migrator Memory.pair).pending
      ([⟨1, "a", 1⟩, ⟨2, "b", 2⟩].map MemoryRow.applied) = [] := rfl
  obtain ⟨names, hagain, -⟩ := (Memory.over_migrateAfter_idle hafter 0 hpending).exists_ok
  have hflawless := flawless_of_migrate hafter.at hquiet hagain
  have hback := memory_flawless_rollback hnext hafter Memory.idle_of_pair
    (by simp [Memory.mem_names_pair]) 1
  obtain ⟨hnames, hrows⟩ := hundoable.undone (by simp) hback
  exact ⟨s, hs, hanswer, hundoable.again_answer hflawless, hnames, hrows⟩

end HistoryStore

end SqlToolkit
