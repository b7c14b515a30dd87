import Mathlib.Data.String.Basic
import SqlToolkit.Proofs.Migration.Call

/-!
# A history in memory

The smallest store there is: a list of rows and the snapshot of the open transaction.
It knows the statements of its history by their texts and values and lets all others
pass.  Ids are 64-bit, one above the greatest, so the store refuses a row when no id is
left.  It shows that the laws of a `HistoryStore` can be kept, for every dialect, prefix
and table.
-/
namespace SqlToolkit

/-- A row as it is kept. -/
structure MemoryRow where
  id : Int64
  name : String
  batch : Int64
deriving DecidableEq, Repr

namespace MemoryRow

/-- What a row tells. -/
def applied (r : MemoryRow) : AppliedMigration := ⟨r.id.toInt, r.name, r.batch, none⟩

/-- The row of a result. -/
def result (r : MemoryRow) : Row :=
  ⟨["id", "migration", "batch", "executed_at"], [.int r.id, .text r.name, .int r.batch, .null]⟩

/-- The first was applied before the second. -/
def isBefore (a b : MemoryRow) : Bool :=
  a.batch < b.batch || (a.batch = b.batch && a.id.toInt ≤ b.id.toInt)

theorem isBefore_iff {a b : MemoryRow} : a.isBefore b = true ↔ a.applied.Before b.applied := by
  simp [isBefore, AppliedMigration.Before, applied]

end MemoryRow

/-- The rows of a history and the snapshot of the open transaction. -/
structure Memory where
  rows : List MemoryRow := []
  saved : Option (List MemoryRow) := none
deriving DecidableEq, Repr

namespace Memory

variable (t : Target) (h : History) (m : Memory)

/-- The greatest id, or zero. -/
def topId (rows : List MemoryRow) : Int := rows.foldr (fun r top => max r.id.toInt top) 0

/-- The rows in the order of application. -/
def read : List Row := (m.rows.mergeSort MemoryRow.isBefore).map MemoryRow.result

/-- Adds a row under the next id, if there is one. -/
def insert (name : String) (batch : Int64) : Except DatabaseError WriteResult × Memory :=
  if topId m.rows < Int64.maxValue.toInt then
    let id := Int64.ofInt (topId m.rows + 1)
    (.ok ⟨1, some id⟩, { m with rows := m.rows ++ [⟨id, name, batch⟩] })
  else (.error (.driver none "no id is left"), m)

/-- Drops the rows of a name. -/
def delete (name : String) : Except DatabaseError WriteResult × Memory :=
  let kept := m.rows.filter fun r => r.name ≠ name
  (.ok ⟨m.rows.length - kept.length, none⟩, { m with rows := kept })

/-- The backend on such a memory. -/
def backend : Backend Memory where
  dialect := t.dialect
  query statement m :=
    if statement = h.readStatement t then (.ok m.read, m)
    else if statement = h.existsStatement t then (.ok [⟨["name"], statement.params⟩], m)
    else (.ok [], m)
  execute statement m :=
    match statement.params with
    | [.text name, .int batch] =>
      if statement = h.insertStatement t name batch then m.insert name batch else (.ok {}, m)
    | [.text name] => if statement = h.deleteStatement t name then m.delete name else (.ok {}, m)
    | _ => (.ok {}, m)
  start m :=
    match m.saved with
    | none => (.ok (), { m with saved := some m.rows })
    | some _ => (.error (.driver none "a transaction is open"), m)
  commit m := (.ok (), { m with saved := none })
  rollback m := (.ok (), ⟨m.saved.getD m.rows, none⟩)
  inTransaction m := m.saved.isSome

/-! ## Ids -/

theorem le_topId {rows : List MemoryRow} {r : MemoryRow} (hr : r ∈ rows) : r.id.toInt ≤ topId rows := by
  induction rows with
  | nil => cases hr
  | cons a rest ih =>
    show _ ≤ max a.id.toInt (topId rest)
    rcases List.mem_cons.1 hr with rfl | hr
    · omega
    · have hle := ih hr
      omega

theorem topId_nonneg (rows : List MemoryRow) : 0 ≤ topId rows := by
  induction rows with
  | nil => exact Int.le_refl 0
  | cons a rest ih =>
    show _ ≤ max a.id.toInt (topId rest)
    omega

theorem toInt_nextId {rows : List MemoryRow} (h : topId rows < Int64.maxValue.toInt) :
    (Int64.ofInt (topId rows + 1)).toInt = topId rows + 1 := by
  have hpos := topId_nonneg rows
  have hmax : Int64.maxValue.toInt = 9223372036854775807 := rfl
  rw [hmax] at h
  refine Int64.toInt_ofInt_of_le ?_ ?_
  · omega
  · omega

/-! ## The laws -/

theorem perm_read : (m.read.map AppliedMigration.ofRow).Perm (m.rows.map MemoryRow.applied) := by
  rw [read, List.map_map]
  exact (List.mergeSort_perm m.rows MemoryRow.isBefore).map MemoryRow.applied

theorem ordered_read : (m.read.map AppliedMigration.ofRow).Pairwise AppliedMigration.Before := by
  rw [read, List.map_map]
  refine List.pairwise_map.2 ?_
  have hsorted : (m.rows.mergeSort MemoryRow.isBefore).Pairwise fun a b => a.isBefore b = true := by
    refine List.pairwise_mergeSort ?_ ?_ m.rows
    · intro a b c hab hbc
      simp only [MemoryRow.isBefore, Bool.or_eq_true, Bool.and_eq_true, decide_eq_true_eq] at hab hbc ⊢
      grind
    · intro a b
      simp only [MemoryRow.isBefore, Bool.or_eq_true, Bool.and_eq_true, decide_eq_true_eq]
      grind
  exact hsorted.imp fun hab => MemoryRow.isBefore_iff.1 hab

theorem insert_spec (name : String) (batch : Int64) :
    Settles (m.insert name batch)
      (fun _ d => (∃ a : AppliedMigration, a.Follows (m.rows.map MemoryRow.applied) name batch ∧
        d.rows.map MemoryRow.applied = m.rows.map MemoryRow.applied ++ [a]) ∧ d.saved = m.saved)
      (fun _ d => d.saved = m.saved) := by
  unfold insert
  by_cases hroom : topId m.rows < Int64.maxValue.toInt
  · rw [if_pos hroom]
    have hnext := toInt_nextId hroom
    refine .ok ⟨⟨MemoryRow.applied ⟨.ofInt (topId m.rows + 1), name, batch⟩, ⟨rfl, rfl, ?_⟩, ?_⟩, rfl⟩
    · intro b hb
      obtain ⟨r, hr, rfl⟩ := List.mem_map.1 hb
      have hle := le_topId hr
      show r.id.toInt < (Int64.ofInt (topId m.rows + 1)).toInt
      omega
    · rw [List.map_append]
      rfl
  · rw [if_neg hroom]
    exact .error rfl

theorem query_exists :
    (backend t h).query (h.existsStatement t) m =
      (.ok [⟨["name"], [.text (t.tablePrefix ++ h.table)]⟩], m) := by
  have hne : h.existsStatement t ≠ h.readStatement t := fun heq =>
    List.cons_ne_nil _ _ (congrArg Statement.params heq)
  show (if _ then _ else if h.existsStatement t = h.existsStatement t then _ else _) = _
  rw [if_neg hne, if_pos rfl]
  rfl

theorem query_read : (backend t h).query (h.readStatement t) m = (.ok m.read, m) := if_pos rfl

theorem execute_insert (name : String) (batch : Int64) :
    (backend t h).execute (h.insertStatement t name batch) m = m.insert name batch := if_pos rfl

theorem execute_delete (name : String) :
    (backend t h).execute (h.deleteStatement t name) m = m.delete name := if_pos rfl

theorem map_applied_filter (rows : List MemoryRow) (name : String) :
    (rows.filter fun r => r.name ≠ name).map MemoryRow.applied =
      (rows.map MemoryRow.applied).filter fun a => a.name ≠ name := by
  rw [List.filter_map]
  rfl

/-- **A history in memory keeps the laws of a store.** -/
def store : HistoryStore Memory where
  backend := backend t h
  target := t
  history := h
  rows m := m.rows.map MemoryRow.applied
  saved m := m.saved.map fun rows => rows.map MemoryRow.applied
  inTransaction_eq m := by
    rw [Option.isSome_map]
    rfl
  start_spec m hm := by
    have hnone : m.saved = none := Option.map_eq_none_iff.1 hm
    show Settles (match m.saved with | none => _ | some _ => _) _ _
    rw [hnone]
    exact .ok ⟨rfl, rfl⟩
  commit_spec m snapshot _ := .ok ⟨rfl, rfl⟩
  rollback_spec m snapshot hm := by
    obtain ⟨rows, hrows, rfl⟩ := Option.map_eq_some_iff.1 hm
    refine .ok ⟨?_, rfl⟩
    show (m.saved.getD m.rows).map MemoryRow.applied = _
    rw [hrows]
    rfl
  exists_spec m := by
    rw [query_exists]
    exact .ok ⟨rfl, rfl⟩
  create_spec m statements _ sql _ := .ok ⟨rfl, rfl⟩
  read_spec m := by
    rw [query_read]
    exact .ok ⟨m.perm_read, m.ordered_read, rfl, rfl⟩
  insert_spec m name batch := by
    rw [execute_insert]
    exact (m.insert_spec name batch).imp (fun _ _ hd => ⟨hd.1, by rw [hd.2]⟩) fun _ _ hd => by rw [hd]
  delete_spec m name := by
    rw [execute_delete]
    exact .ok ⟨map_applied_filter m.rows name, rfl⟩

/-- One such store. -/
abbrev sqlite : HistoryStore Memory := store ⟨.sqlite, ""⟩ {}

/-! ## Calls that succeed

While an id is left, nothing is refused, so a migrator of idle migrations always succeeds.
-/

open Migration Migrator AppliedMigration

variable {t h m} {h' : History} {s u : Session Memory} {rows rows' : List MemoryRow} {saved : Option (List MemoryRow)}
  {r : Registry Memory} {α : Type}

variable (t h) in
/-- A session over a memory in some state. -/
structure Over (s : Session Memory) (m : Memory) : Prop where
  backend : s.backend = Memory.backend t h
  target : s.target = t
  connection : s.connection = m

theorem Over.keeps (hs : Over t h s m) (hkeeps : s.Keeps u) {m' : Memory} (hm : u.connection = m') :
    Over t h u m' where
  backend := hkeeps.backend.trans hs.backend
  target := hkeeps.target.trans hs.target
  connection := hm

/-- What the store sees of a session over a memory. -/
theorem Over.at (hs : Over t h s m) :
    (store t h).At s (m.rows.map MemoryRow.applied) (m.saved.map fun rows => rows.map MemoryRow.applied) where
  backend := hs.backend
  target := hs.target
  rows := congrArg (store t h).rows hs.connection
  saved := congrArg (store t h).saved hs.connection

/-- What a memory answers is answered to the session. -/
theorem Over.call (hs : Over t h s m) (run : Backend Memory → Memory → Except DatabaseError α × Memory)
    {a : α} {m' : Memory} (hrun : run (Memory.backend t h) m = (.ok a, m')) :
    Settles (ending (Session.call run) s) (fun b u => b = a ∧ Over t h u m') (fun _ _ => False) := by
  rw [← hs.backend, ← hs.connection] at hrun
  have hcall : Settles (run s.backend s.connection) (fun b d => b = a ∧ d = m') (fun _ _ => False) := by
    rw [hrun]
    exact .ok ⟨rfl, rfl⟩
  exact (Session.settles_call run hcall).imp (fun _ _ hu => ⟨hu.2.1, hs.keeps hu.1 hu.2.2⟩)
    fun _ _ hu => hu.2

theorem over_start (hs : Over t h s ⟨rows, none⟩) :
    Settles (ending (lift Session.start) s) (fun _ u => Over t h u ⟨rows, some rows⟩)
      (fun _ _ => False) :=
  .adapt ((hs.call Backend.start rfl).imp (fun _ _ hu => hu.2) fun _ _ hu => hu)

theorem over_commit (hs : Over t h s ⟨rows, saved⟩) :
    Settles (ending (lift Session.commit) s) (fun _ u => Over t h u ⟨rows, none⟩)
      (fun _ _ => False) :=
  .adapt ((hs.call Backend.commit rfl).imp (fun _ _ hu => hu.2) fun _ _ hu => hu)

theorem over_ensureTable (hs : Over t h s m) :
    Settles (ending h.ensureTable s) (fun _ u => Over t h u m) (fun _ _ => False) := by
  have hquery : Settles (s.backend.query (h.existsStatement s.target) s.connection)
      (fun rows d => rows ≠ [] ∧ d = m) (fun _ _ => False) := by
    rw [hs.backend, hs.target, hs.connection, query_exists]
    exact .ok ⟨List.cons_ne_nil _ _, rfl⟩
  have hpresent : Settles (ending (lift (Session.hasTable h.table)) s)
      (fun present u => present = true ∧ Over t h u m) (fun _ _ => False) := by
    refine .adapt ((History.settles_hasTable hquery).imp (fun present u hu => ?_) fun _ _ hu => hu.2)
    obtain ⟨rows, rfl, hkeeps, hrows, hu⟩ := hu
    exact ⟨by simpa using hrows, hs.keeps hkeeps hu⟩
  unfold History.ensureTable
  refine .bind hpresent (fun _ _ hu => hu) fun present u hu => ?_
  obtain ⟨rfl, hu⟩ := hu
  exact .pure hu

theorem over_applied (hs : Over t h s m) :
    Settles (ending h.applied s)
      (fun applied u => applied.Perm (m.rows.map MemoryRow.applied) ∧ Over t h u m)
      (fun _ _ => False) := by
  have hquery : Settles (s.backend.query (h.readStatement s.target) s.connection)
      (fun rows d => rows = m.read ∧ d = m) (fun _ _ => False) := by
    rw [hs.backend, hs.target, hs.connection, query_read]
    exact .ok ⟨rfl, rfl⟩
  refine (History.settles_applied hquery).imp (fun applied u hu => ?_) fun _ _ ⟨_, _, _, hu⟩ => hu
  obtain ⟨rows, rfl, hkeeps, rfl, hu⟩ := hu
  exact ⟨m.perm_read, hs.keeps hkeeps hu⟩

/-- What begins with reading the history goes on from the rows of the memory, and nothing is refused before. -/
theorem over_reading {α : Type} {f : List AppliedMigration → Program Memory α} {good : α → Session Memory → Prop}
    {bad : MigrationError → Session Memory → Prop} (hs : Over t h s ⟨rows, saved⟩)
    (hrest : ∀ applied u, applied.Perm (rows.map MemoryRow.applied) → Over t h u ⟨rows, saved⟩ →
      Settles (ending (f applied) u) good bad) :
    Settles (ending (do h.ensureTable; let applied ← h.applied; f applied) s) good bad := by
  refine .bind (over_ensureTable hs) (fun _ _ hu => hu.elim) fun _ u hu => ?_
  refine .bind (over_applied hu) (fun _ _ hv => hv.elim) fun applied v hv => ?_
  exact hrest applied v hv.1 hv.2

theorem over_recordApplied (hs : Over t h s ⟨rows, saved⟩) (hroom : topId rows < Int64.maxValue.toInt)
    (name : String) (batch : Int64) :
    Settles (ending (h.recordApplied name batch) s)
      (fun _ u => Over t h u ⟨rows ++ [⟨.ofInt (topId rows + 1), name, batch⟩], saved⟩)
      (fun _ _ => False) := by
  have hexecute : Settles
      (s.backend.execute (h.insertStatement s.target name batch) s.connection)
      (fun _ d => d = ⟨rows ++ [⟨.ofInt (topId rows + 1), name, batch⟩], saved⟩)
      (fun _ _ => False) := by
    rw [hs.backend, hs.target, hs.connection, execute_insert, insert, if_pos hroom]
    exact .ok rfl
  refine (History.settles_recordApplied hexecute).imp (fun _ u hu => ?_) fun _ _ ⟨_, _, _, hu⟩ => hu
  exact hs.keeps hu.1 hu.2.choose_spec

theorem over_recordReverted (hs : Over t h s ⟨rows, saved⟩) (name : String) :
    Settles (ending (h.recordReverted name) s)
      (fun _ u => Over t h u ⟨rows.filter fun r => r.name ≠ name, saved⟩) (fun _ _ => False) := by
  have hexecute : Settles (s.backend.execute (h.deleteStatement s.target name) s.connection)
      (fun _ d => d = ⟨rows.filter fun r => r.name ≠ name, saved⟩) (fun _ _ => False) := by
    rw [hs.backend, hs.target, hs.connection, execute_delete]
    exact .ok rfl
  refine (History.settles_recordReverted hexecute).imp (fun _ u hu => ?_) fun _ _ ⟨_, _, _, hu⟩ => hu
  exact hs.keeps hu.1 hu.2.choose_spec

theorem over_inTransaction {program : Program Memory α} (hs : Over t h s ⟨rows, none⟩)
    (hprogram : ∀ u, Over t h u ⟨rows, some rows⟩ →
      Settles (ending program u) (fun _ v => Over t h v ⟨rows', some rows⟩) (fun _ _ => False)) :
    Settles (ending (inTransaction program) s) (fun _ u => Over t h u ⟨rows', none⟩)
      (fun _ _ => False) := by
  unfold inTransaction
  refine .bind (over_start hs) (fun _ _ hu => hu) fun _ u hu => ?_
  have hkept : Settles (ending (do let result ← program; lift Session.commit; return result) u)
      (fun _ v => Over t h v ⟨rows', none⟩) (fun _ _ => False) := by
    refine .bind (hprogram u hu) (fun _ _ hv => hv) fun a v hv => ?_
    exact .bind (over_commit hv) (fun _ _ hw => hw) fun _ _ hw => .pure hw
  refine .bind (.lift (fun result v => (∃ a, result = .ok a) ∧ Over t h v ⟨rows', none⟩)
    (hkept.imp (fun a _ hv => ⟨⟨a, rfl⟩, hv⟩) fun _ _ hv => hv.elim)) (fun _ _ hv => hv) fun result v hv => ?_
  obtain ⟨⟨a, rfl⟩, hv⟩ := hv
  exact .pure hv

/-- A migration that does nothing, both ways. -/
def idle (name : String) : Migration Memory := { name, up := pure (), down := pure () }

/-- The registry of one idle migration. -/
def only (name : String) : Registry Memory := ⟨[idle name], List.pairwise_singleton _ _⟩

/-- The registry of two idle migrations. -/
def both (name name' : String) (h : name < name') : Registry Memory :=
  ⟨[idle name, idle name'], List.pairwise_pair.2 h⟩

theorem quiet_idle {registry : Registry Memory}
    (h : ∀ migration ∈ registry.migrations, ∃ name, migration = idle name) :
    (store t h').QuietAll registry := by
  intro migration hm
  obtain ⟨name, rfl⟩ := h migration hm
  exact ⟨fun _ _ _ hs => .pure hs, fun _ _ _ hs => .pure hs⟩

theorem over_apply (hs : Over t h s ⟨rows, saved⟩) (hroom : topId rows < Int64.maxValue.toInt)
    (name : String) (batch : Int64) :
    Settles (ending (((store t h).migrator r).apply batch (idle name)) s)
      (fun _ u => Over t h u ⟨rows ++ [⟨.ofInt (topId rows + 1), name, batch⟩], saved⟩)
      (fun _ _ => False) := by
  have hidle : Settles (ending (idle name).up s) (fun _ u => Over t h u ⟨rows, saved⟩)
      (fun _ _ => False) := .pure hs
  unfold apply
  refine .bind hidle (fun _ _ hu => hu) fun _ u hu => ?_
  exact .bind (over_recordApplied hu hroom name batch) (fun _ _ hv => hv) fun _ _ hv => .pure hv

theorem over_unapply (hs : Over t h s ⟨rows, saved⟩) (name : String) :
    Settles (ending (((store t h).migrator r).unapply (idle name)) s)
      (fun _ u => Over t h u ⟨rows.filter fun r => r.name ≠ name, saved⟩) (fun _ _ => False) := by
  have hidle : Settles (ending (idle name).down s) (fun _ u => Over t h u ⟨rows, saved⟩)
      (fun _ _ => False) := .pure hs
  unfold unapply
  refine .bind hidle (fun _ _ hu => hu) fun _ u hu => ?_
  exact .bind (over_recordReverted hu name) (fun _ _ hv => hv) fun _ _ hv => .pure hv

/-- Applying one idle migration adds its row under the next id, in the next batch. -/
theorem over_migrateAfter (hs : Over t h s ⟨rows, none⟩) (hroom : topId rows < Int64.maxValue.toInt)
    {name : String} {floor batch : Int64}
    (hbatch : nextBatch (max (lastBatch (rows.map MemoryRow.applied)) floor) = .ok batch)
    (hpending : ((store t h).migrator r).pending (rows.map MemoryRow.applied) = [idle name]) :
    Settles (ending (((store t h).migrator r).migrateAfter floor) s)
      (fun _ u => Over t h u ⟨rows ++ [⟨.ofInt (topId rows + 1), name, batch⟩], none⟩)
      (fun _ _ => False) := by
  unfold migrateAfter
  refine over_reading hs fun applied v hperm hv => ?_
  rw [HistoryStore.pending_perm hperm, lastBatch_perm hperm, hpending, applyAfter_ok (List.cons_ne_nil _ _) hbatch]
  refine over_inTransaction hv fun w hw => ?_
  rw [List.mapM_cons, List.mapM_nil]
  exact .bind (over_apply hw hroom name _) (fun _ _ hx => hx) fun _ _ hx => .pure hx

/-- With nothing pending the memory stays as it is. -/
theorem over_migrateAfter_idle (hs : Over t h s ⟨rows, none⟩) (floor : Int64)
    (hpending : ((store t h).migrator r).pending (rows.map MemoryRow.applied) = []) :
    Settles (ending (((store t h).migrator r).migrateAfter floor) s)
      (fun _ u => Over t h u ⟨rows, none⟩) (fun _ _ => False) := by
  unfold migrateAfter
  refine over_reading hs fun applied v hperm hv => ?_
  rw [HistoryStore.pending_perm hperm, hpending, applyAfter_nil]
  exact .pure hv

section Reverting

variable {registry : Registry Memory} {targets : List AppliedMigration}

theorem over_unapplyAll (hs : Over t h s ⟨rows, saved⟩) {migrations : List (Migration Memory)}
    (hidle : ∀ migration ∈ migrations, ∃ name, migration = idle name) :
    Settles (ending (migrations.mapM ((store t h).migrator registry).unapply) s)
      (fun _ u => Over t h u ⟨rows.filter fun r => r.name ∉ migrations.map Migration.name, saved⟩)
      (fun _ _ => False) := by
  refine .mapM (fun before _ u =>
    Over t h u ⟨rows.filter fun r => r.name ∉ before.map Migration.name, saved⟩) ?_ ?_
  · rw [List.filter_eq_self.2 (by simp)]
    exact hs
  · intro migration hm before _ u hu
    obtain ⟨name, rfl⟩ := hidle migration hm
    refine (over_unapply hu name).imp (fun _ v hv => ?_) fun _ _ hv => hv
    rw [List.filter_filter] at hv
    have hnames (r : MemoryRow) : (decide (r.name ≠ name) && decide (r.name ∉ before.map Migration.name)) =
        decide (r.name ∉ (before ++ [idle name]).map Migration.name) := by
      have hmap : (before ++ [idle name]).map Migration.name = before.map Migration.name ++ [name] :=
        List.map_append
      rw [hmap, Bool.eq_iff_iff, Bool.and_eq_true, decide_eq_true_iff, decide_eq_true_iff, decide_eq_true_iff,
        List.mem_append, List.mem_singleton, not_or, and_comm]
    simpa only [hnames] using hv

/-- Nothing is refused when registered targets are reverted. -/
theorem over_revert (hs : Over t h s ⟨rows, none⟩)
    (hidle : ∀ migration ∈ registry.migrations, ∃ name, migration = idle name)
    (hall : ∀ a ∈ targets, a.name ∈ registry.names) :
    Settles (ending (((store t h).migrator registry).revert targets) s)
      (fun _ u => Over t h u ⟨rows.filter fun r => r.name ∉ targets.map AppliedMigration.name, none⟩)
      (fun _ _ => False) := by
  unfold revert
  by_cases hnone : targets.isEmpty = true
  · rw [if_pos hnone, List.isEmpty_iff.1 hnone, List.filter_eq_self.2 (by simp)]
    exact .pure hs
  rw [if_neg hnone]
  cases hfound : (targets.mergeSort newerFirst).mapM ((store t h).migrator registry).registered with
  | error e =>
    obtain ⟨a, ha, hmissing⟩ := Outcome.exists_of_mapM_eq_error hfound
    obtain ⟨migration, hm, hname⟩ := List.mem_map.1 (hall a (List.mem_mergeSort.1 ha))
    unfold registered Registry.get? at hmissing
    split at hmissing
    · cases hmissing
    · rename_i hunknown
      exact absurd (decide_eq_true hname) (List.find?_eq_none.1 hunknown migration hm)
  | ok migrations =>
    have hnames := HistoryStore.names_of_registered hfound
    have hmem (migration : Migration Memory) (hm : migration ∈ migrations) :
        migration ∈ registry.migrations :=
      Outcome.forall_right (Outcome.mapM_eq_ok_iff.1 hfound)
        (fun _ _ _ hm => (HistoryStore.registered_eq_ok hm).1) migration hm
    have hrows : (rows.filter fun r => r.name ∉ migrations.map Migration.name) =
        rows.filter fun r => r.name ∉ targets.map AppliedMigration.name := by
      refine List.filter_congr fun r _ => ?_
      rw [hnames, decide_eq_decide, not_iff_not]
      exact ((List.mergeSort_perm targets newerFirst).map AppliedMigration.name).mem_iff
    rw [← hrows]
    exact over_inTransaction hs fun u hu => over_unapplyAll hu fun migration hm => hidle migration (hmem migration hm)

/-- Nothing is refused when registered batches are rolled back. -/
theorem over_rollback (hs : Over t h s ⟨rows, none⟩)
    (hidle : ∀ migration ∈ registry.migrations, ∃ name, migration = idle name)
    (hall : ∀ r ∈ rows, r.name ∈ registry.names) (steps : Nat) :
    Settles (ending (((store t h).migrator registry).rollback steps) s)
      (fun _ u => ∃ rows', Over t h u ⟨rows', none⟩ ∧ ∀ r ∈ rows', r ∈ rows) (fun _ _ => False) := by
  unfold rollback
  refine over_reading hs fun applied v hperm hv => ?_
  refine (over_revert hv hidle fun a ha => ?_).imp (fun _ _ hw => ⟨_, hw, ?_⟩) fun _ _ hw => hw
  · obtain ⟨r, hr, rfl⟩ := List.mem_map.1 (hperm.mem_iff.1 (List.mem_of_mem_filter ha))
    exact hall r hr
  · exact fun r hr => List.mem_of_mem_filter hr

/-- Resetting registered rows empties the memory. -/
theorem over_reset (hs : Over t h s ⟨rows, none⟩)
    (hidle : ∀ migration ∈ registry.migrations, ∃ name, migration = idle name)
    (hall : ∀ r ∈ rows, r.name ∈ registry.names) :
    Settles (ending ((store t h).migrator registry).reset s)
      (fun _ u => Over t h u ⟨[], none⟩) (fun _ _ => False) := by
  unfold reset
  refine over_reading hs fun applied v hperm hv => ?_
  have hnone : (rows.filter fun r => r.name ∉ applied.map AppliedMigration.name) = [] := by
    refine List.filter_eq_nil_iff.2 fun r hr => ?_
    have hmem : r.applied ∈ applied := hperm.mem_iff.2 (List.mem_map_of_mem hr)
    have hname : r.name ∈ applied.map AppliedMigration.name := List.mem_map.2 ⟨_, hmem, rfl⟩
    simpa using hname
  rw [← hnone]
  refine over_revert hv hidle fun a ha => ?_
  obtain ⟨r, hr, rfl⟩ := List.mem_map.1 (hperm.mem_iff.1 ha)
  exact hall r hr

end Reverting

theorem idle_of_only (name : String) : ∀ migration ∈ (only name).migrations, ∃ name, migration = idle name :=
  by simp [only]

/-- Without its migration the only row cannot be reverted. -/
theorem over_reset_missing {id batch : Int64} {name : String}
    (hs : Over t h s ⟨[⟨id, name, batch⟩], none⟩) :
    Settles (ending (((store t h).migrator {}).reset) s) (fun _ _ => False)
      (fun e _ => e = .missing name) := by
  unfold reset
  refine over_reading hs fun applied _ hperm _ => ?_
  obtain rfl := List.perm_singleton.1 hperm
  have hmissing : ([MemoryRow.applied ⟨id, name, batch⟩].mergeSort newerFirst).mapM
      ((store t h).migrator {}).registered = .error (.missing name) := by
    rw [List.mergeSort_singleton]
    rfl
  unfold revert
  rw [hmissing]
  exact .error rfl

/-- Refreshing the only row applies its migration again, one batch later. -/
theorem over_refresh {id batch next : Int64} {name : String} (hs : Over t h s ⟨[⟨id, name, batch⟩], none⟩)
    (hnext : nextBatch (max 0 batch) = .ok next) :
    Settles (ending (((store t h).migrator (only name)).refresh) s)
      (fun _ u => Over t h u ⟨[⟨1, name, next⟩], none⟩)
      (fun _ _ => False) := by
  unfold refresh
  refine .bind (over_ensureTable hs) (fun _ _ hu => hu) fun _ u hu => ?_
  have hlast : Settles (ending ((store t h).migrator (only name)).history.lastBatch u)
      (fun last v => last = batch ∧ Over t h v ⟨[⟨id, name, batch⟩], none⟩)
      (fun _ _ => False) :=
    .bind (over_applied hu) (fun _ _ hv => hv) fun _ _ hv =>
      .pure ⟨lastBatch_perm hv.1, hv.2⟩
  refine .bind hlast (fun _ _ hv => hv) fun last v hv => ?_
  obtain ⟨rfl, hv⟩ := hv
  refine .bind (over_reset hv (idle_of_only name) (by simp [only, idle, Registry.names])) (fun _ _ hw => hw)
    fun _ w hw => ?_
  exact over_migrateAfter hw (by decide) hnext rfl

variable (t h) in
/-- A session over an empty memory. -/
def opened : Session Memory := ⟨backend t h, {}, t, false, [], none, none, none⟩

theorem over_opened : Over t h (opened t h) ⟨[], none⟩ := ⟨rfl, rfl, rfl⟩

end Memory
end SqlToolkit
