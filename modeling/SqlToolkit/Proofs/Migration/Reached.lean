import Mathlib.Data.List.Nodup
import SqlToolkit.Proofs.Migration.Memory

/-!
# Histories in every reachable state

A run starts from an empty history and makes any calls of migrators, each with its own
registry, on a store that may refuse any of them.  `Reached` is the run, and two
invariants carry it.  `Distinct` says that no name occurs twice and that ids increase;
it needs nothing but fresh names and ids above all present.  `Ascending` says that the
batches ascend with the ids and that none exceeds the number of calls, since a call
starts at most one batch, one above the last, and fails when no number is left for it.

Both survive a reversion, which only drops rows, and an application, which adds rows
one after another (`Grown`).
-/
namespace SqlToolkit

namespace AppliedMigration

variable {rows rows' : List AppliedMigration} {names : List String} {batch last : Int64} {n : Nat}

/-- No name twice, and rows in the order of their ids. -/
structure Distinct (rows : List AppliedMigration) : Prop where
  names_nodup : (rows.map name).Nodup
  ids_lt : rows.Pairwise fun a b => a.id < b.id

/-- Positive batches that ascend, none above a number. -/
structure Ascending (n : Nat) (rows : List AppliedMigration) : Prop where
  batch_pos : ∀ a ∈ rows, 0 < a.batch
  batch_le : ∀ a ∈ rows, a.batch.toInt ≤ n
  batches_le : rows.Pairwise fun a b => a.batch ≤ b.batch

theorem Distinct.eq_of_name (h : Distinct rows) {a b : AppliedMigration} (ha : a ∈ rows) (hb : b ∈ rows)
    (hname : a.name = b.name) : a = b :=
  List.inj_on_of_nodup_map h.names_nodup ha hb hname

theorem Distinct.eq_of_id (h : Distinct rows) {a b : AppliedMigration} (ha : a ∈ rows) (hb : b ∈ rows)
    (hid : a.id = b.id) : a = b := by
  have hnodup : (rows.map id).Nodup := List.pairwise_map.2 (h.ids_lt.imp Int.ne_of_lt)
  exact List.inj_on_of_nodup_map hnodup ha hb hid

/-! ## Dropping rows -/

theorem Distinct.without (h : Distinct rows) (names : List String) : Distinct (without rows names) where
  names_nodup := h.names_nodup.sublist (List.filter_sublist.map name)
  ids_lt := h.ids_lt.sublist List.filter_sublist

theorem Distinct.of_append_right (h : Distinct (rows ++ rows')) : Distinct rows' where
  names_nodup := h.names_nodup.sublist ((List.sublist_append_right rows rows').map name)
  ids_lt := (List.pairwise_append.1 h.ids_lt).2.1

theorem Ascending.without (h : Ascending n rows) (names : List String) :
    Ascending n (without rows names) where
  batch_pos a ha := h.batch_pos a (List.mem_of_mem_filter ha)
  batch_le a ha := h.batch_le a (List.mem_of_mem_filter ha)
  batches_le := h.batches_le.sublist List.filter_sublist

theorem Ascending.mono {m : Nat} (h : Ascending n rows) (hnm : n ≤ m) : Ascending m rows where
  batch_pos := h.batch_pos
  batch_le a ha := by
    have hle := h.batch_le a ha
    omega
  batches_le := h.batches_le

theorem distinct_nil : Distinct [] := ⟨List.nodup_nil, .nil⟩

theorem ascending_nil (n : Nat) : Ascending n [] := ⟨by simp, by simp, .nil⟩

/-! ## Adding rows -/

/-- The names of grown rows are the old ones and then the added ones. -/
theorem Grown.names_eq (h : Grown batch rows names rows') :
    rows'.map name = rows.map name ++ names := by
  induction h with
  | start => rw [List.append_nil]
  | record _ ha ih =>
    rw [List.map_append, ih, List.append_assoc]
    show _ ++ (_ ++ [_]) = _
    rw [ha.name_eq]

/-- Grown rows are the old ones and then the rows of one batch. -/
theorem Grown.exists_added (h : Grown batch rows names rows') :
    ∃ added, rows' = rows ++ added ∧ added.map AppliedMigration.name = names ∧
      ∀ a ∈ added, a.batch = batch := by
  induction h with
  | start => exact ⟨[], (List.append_nil rows).symm, rfl, by simp⟩
  | @record _ _ _ a _ ha ih =>
    obtain ⟨added, rfl, rfl, hbatch⟩ := ih
    refine ⟨added ++ [a], List.append_assoc _ _ _, ?_, ?_⟩
    · rw [List.map_append, List.map_singleton, ha.name_eq]
    · exact List.forall_mem_append.2 ⟨hbatch, by simpa using ha.batch_eq⟩

theorem Grown.distinct (h : Grown batch rows names rows') (hrows : Distinct rows) (hnames : names.Nodup)
    (hfresh : ∀ name ∈ names, name ∉ rows.map AppliedMigration.name) : Distinct rows' where
  names_nodup := by
    rw [h.names_eq]
    refine List.nodup_append.2 ⟨hrows.names_nodup, hnames, ?_⟩
    rintro name hold _ hnew rfl
    exact hfresh name hnew hold
  ids_lt := by
    clear hnames hfresh
    induction h with
    | start => exact hrows.ids_lt
    | record _ ha ih =>
      refine List.pairwise_append.2 ⟨ih, List.pairwise_singleton _ _, ?_⟩
      intro b hb c hc
      rw [List.mem_singleton.1 hc]
      exact ha.id_lt b hb

/-- The rows that were added are all in the batch after the last. -/
theorem GrownAfter.exists_added (h : GrownAfter last rows names rows') :
    ∃ added batch, rows' = rows ++ added ∧ added.map AppliedMigration.name = names ∧
      ∀ a ∈ added, a.batch = batch ∧ Migrator.nextBatch last = .ok batch := by
  obtain ⟨batch, hnext, hgrown⟩ := h
  obtain ⟨added, hrows, hnames, hbatch⟩ := hgrown.exists_added
  refine ⟨added, batch, hrows, hnames, fun a ha => ⟨hbatch a ha, hnext fun hnone => ?_⟩⟩
  rw [hnone, List.map_eq_nil_iff] at hnames
  exact List.ne_nil_of_mem ha hnames

theorem GrownAfter.distinct (h : GrownAfter last rows names rows') (hrows : Distinct rows) (hnames : names.Nodup)
    (hfresh : ∀ name ∈ names, name ∉ rows.map AppliedMigration.name) : Distinct rows' := by
  obtain ⟨_, -, hgrown⟩ := h
  exact hgrown.distinct hrows hnames hfresh

/-- Rows in the batch after one that bounds the others' keep the batches ascending. -/
theorem GrownAfter.ascending (h : GrownAfter last rows names rows') (hrows : Ascending n rows)
    (hbound : ∀ a ∈ rows, a.batch ≤ last) (hpos : 0 ≤ last) (hlast : last.toInt ≤ n) :
    Ascending (n + 1) rows' := by
  obtain ⟨added, batch, rfl, -, hnext⟩ := h.exists_added
  have hlt (a : AppliedMigration) (ha : a ∈ added) : last < a.batch := by
    obtain ⟨rfl, hbatch⟩ := hnext a ha
    exact Migrator.lt_nextBatch hbatch
  have hsame : added.Pairwise fun a b => a.batch ≤ b.batch := by
    refine List.pairwise_of_forall_mem_list fun a ha b hb => ?_
    rw [(hnext a ha).1, (hnext b hb).1]
    exact Int64.le_refl batch
  refine ⟨List.forall_mem_append.2 ⟨hrows.batch_pos, ?_⟩,
    List.forall_mem_append.2 ⟨(hrows.mono (Nat.le_succ n)).batch_le, ?_⟩,
    List.pairwise_append.2 ⟨hrows.batches_le, hsame, ?_⟩⟩
  · intro a ha
    exact Int64.lt_of_le_of_lt hpos (hlt a ha)
  · intro a ha
    obtain ⟨rfl, hbatch⟩ := hnext a ha
    rw [Migrator.nextBatch_eq_ok_iff.1 hbatch]
    omega
  · intro a ha b hb
    exact Int64.le_of_lt (Int64.lt_of_le_of_lt (hbound a ha) (hlt b hb))

/-- Between distinct rows, the order of ids is that of batches. -/
theorem Ascending.batch_le_of_id_le (h : Ascending n rows) (hd : Distinct rows) {a b : AppliedMigration}
    (ha : a ∈ rows) (hb : b ∈ rows) (hid : a.id ≤ b.id) : a.batch ≤ b.batch := by
  have hforward : rows.Pairwise fun a b => a.id ≤ b.id → a.batch ≤ b.batch := by
    refine h.batches_le.imp ?_
    intro a b hle _
    exact hle
  have hback : rows.Pairwise (flip fun a b => a.id ≤ b.id → a.batch ≤ b.batch) := by
    refine hd.ids_lt.imp ?_
    intro a b hlt hle
    omega
  exact List.Pairwise.forall_of_forall_of_flip (fun _ _ _ => Int64.le_refl _) hforward hback ha hb hid

/-! ## The last batch -/

theorem Ascending.lastBatch_nonneg (h : Ascending n rows) : 0 ≤ lastBatch rows := by
  rcases lastBatch_cases rows with ⟨-, hlast⟩ | ⟨a, ha, hlast⟩
  · rw [hlast]
    exact Int64.le_refl 0
  · rw [hlast]
    exact Int64.le_of_lt (h.batch_pos a ha)

theorem Ascending.lastBatch_le (h : Ascending n rows) : (lastBatch rows).toInt ≤ n := by
  rcases lastBatch_cases rows with ⟨-, hlast⟩ | ⟨a, ha, hlast⟩
  · rw [hlast]
    exact Int.natCast_nonneg n
  · rw [hlast]
    exact h.batch_le a ha

/-- A floor of zero is below the last batch. -/
theorem Ascending.max_lastBatch (h : Ascending n rows) : max (lastBatch rows) 0 = lastBatch rows :=
  Int64.le_antisymm (Std.max_le_iff.2 ⟨Int64.le_refl _, h.lastBatch_nonneg⟩) Std.left_le_max

/-- The last batch is above the floor that an empty history has. -/
theorem Ascending.max_lastBatch_nil (h : Ascending n rows) : max (lastBatch []) (lastBatch rows) = lastBatch rows :=
  Int64.le_antisymm (Std.max_le_iff.2 ⟨h.lastBatch_nonneg, Int64.le_refl _⟩) Std.right_le_max

end AppliedMigration

/-! ## Calls -/

theorem Registry.nodup_names {σ : Type} (r : Registry σ) : r.names.Nodup := by
  refine List.pairwise_map.2 (r.increasing.imp ?_)
  intro a b hlt heq
  rw [heq] at hlt
  exact String.lt_irrefl b.name hlt

namespace Migrator

/-- A call of a migrator that changes a history. -/
inductive Call where
  | migrate
  | rollback (steps : Nat)
  | reset
  | refresh
deriving DecidableEq, Repr

/-- The program of a call. -/
def Call.program {σ : Type} (m : Migrator σ) : Call → Migration.Program σ (List String)
  | migrate => m.migrate
  | rollback steps => m.rollback steps
  | reset => m.reset
  | refresh => m.refresh

variable {σ : Type}

theorem nodup_pending (m : Migrator σ) (rows : List AppliedMigration) :
    ((m.pending rows).map Migration.name).Nodup :=
  m.registry.nodup_names.sublist (List.filter_sublist.map Migration.name)

theorem fresh_pending (m : Migrator σ) {rows : List AppliedMigration} {name : String}
    (h : name ∈ (m.pending rows).map Migration.name) : name ∉ rows.map AppliedMigration.name := by
  obtain ⟨migration, hm, rfl⟩ := List.mem_map.1 h
  have hnot := (List.mem_filter.1 hm).2
  simpa using hnot

end Migrator

namespace HistoryStore

open Migration Migrator AppliedMigration

variable {σ : Type} (store : HistoryStore σ) {s : Session σ} {rows : List AppliedMigration}
  {r : Registry σ} {n : Nat}

/-- **The states between the calls of a run**, with the number of calls made. -/
inductive Reached : Nat → Session σ → Prop
  | start {s : Session σ} : store.At s [] none → Reached 0 s
  | call {n : Nat} {s : Session σ} {r : Registry σ} (c : Call) :
    Reached n s → store.QuietAll r → Reached (n + 1) (ending (c.program (store.migrator r)) s).2

/-- The session `v` after a refresh that failed once its reset was done: the reset emptied the
history, and it stayed empty. -/
def EmptiedByReset (r : Registry σ) (s v : Session σ) : Prop :=
  ∃ t reverted u, ending (store.migrator r).reset t = (.ok reverted, u) ∧
    store.rows t.connection = store.rows s.connection ∧ store.rows u.connection = [] ∧
    store.rows v.connection = []

variable {store}

/-- **What one call does.**  A call that succeeds keeps both invariants, the second for one
call more; a call that fails leaves the rows from before, or those that a refresh's reset
left.  No transaction stays open. -/
theorem settles_call (h : store.At s rows none) (hquiet : store.QuietAll r) (c : Call) :
    Settles (ending (c.program (store.migrator r)) s)
      (fun _ u => ∃ rows', store.At u rows' none ∧ (Distinct rows → Distinct rows') ∧
        ∀ n : Nat, Ascending n rows → Ascending (n + 1) rows')
      (fun _ u => store.At u rows none ∨
        c = .refresh ∧ store.At u [] none ∧ store.EmptiedByReset r s u) := by
  cases c with
  | migrate =>
    refine (settles_migrateAfter h hquiet 0).imp (fun names u hu => ?_) fun _ _ hu => .inl hu
    obtain ⟨rows', ⟨rfl, hgrown⟩, hu⟩ := hu
    refine ⟨rows', hu, fun hd => ?_, fun n ha => ?_⟩
    · exact hgrown.distinct hd (nodup_pending _ rows) fun _ => fresh_pending _
    · rw [ha.max_lastBatch] at hgrown
      exact hgrown.ascending ha (fun _ => le_lastBatch) ha.lastBatch_nonneg ha.lastBatch_le
  | rollback steps =>
    refine (settles_rollback_steps h hquiet steps).imp (fun names u hu => ?_) fun _ _ hu => .inl hu
    obtain ⟨_, _, _, _, hu⟩ := hu
    exact ⟨_, hu, fun hd => hd.without names, fun n ha => (ha.without names).mono (Nat.le_succ n)⟩
  | reset =>
    refine (settles_reset h hquiet).imp (fun names u hu => ?_) fun _ _ hu => .inl hu
    obtain ⟨_, _, _, _, hu⟩ := hu
    exact ⟨[], hu, fun _ => distinct_nil, fun n _ => ascending_nil (n + 1)⟩
  | refresh =>
    refine (settles_refresh h hquiet).imp (fun names u hu => ?_) fun _ u hu => ?_
    · obtain ⟨rows', ⟨rfl, hgrown⟩, hu⟩ := hu
      refine ⟨rows', hu, fun _ => ?_, fun n ha => ?_⟩
      · exact hgrown.distinct distinct_nil (nodup_pending _ []) fun _ => fresh_pending _
      · rw [ha.max_lastBatch_nil] at hgrown
        exact hgrown.ascending (ascending_nil n) (by simp) ha.lastBatch_nonneg ha.lastBatch_le
    · rcases hu with hu | ⟨t, reverted, v, hreset, ht, hv, hu⟩
      · exact .inl hu
      · exact .inr ⟨rfl, hu, t, reverted, v, hreset, ht.rows.trans h.rows.symm, hv.rows, hu.rows⟩

/-- Between calls no transaction is open, names and ids are distinct, and batches ascend. -/
theorem invariant (h : store.Reached n s) :
    ∃ rows, store.At s rows none ∧ Distinct rows ∧ Ascending n rows := by
  induction h with
  | start hs => exact ⟨[], hs, distinct_nil, ascending_nil 0⟩
  | @call n s r c _ hquiet ih =>
    obtain ⟨rows, hs, hd, ha⟩ := ih
    have hnext : Settles (ending (c.program (store.migrator r)) s)
        (fun _ u => ∃ rows, store.At u rows none ∧ Distinct rows ∧ Ascending (n + 1) rows)
        (fun _ u => ∃ rows, store.At u rows none ∧ Distinct rows ∧ Ascending (n + 1) rows) := by
      refine (settles_call hs hquiet c).imp (fun _ u hu => ?_) fun _ u hu => ?_
      · obtain ⟨rows', hu, hdistinct, hascending⟩ := hu
        exact ⟨rows', hu, hdistinct hd, hascending n ha⟩
      · rcases hu with hu | ⟨-, hu, -⟩
        · exact ⟨rows, hu, hd, ha.mono (Nat.le_succ n)⟩
        · exact ⟨[], hu, distinct_nil, ascending_nil (n + 1)⟩
    exact hnext.state

/-- While the calls made can be counted in 64 bits there is a next batch. -/
theorem exists_nextBatch (h : store.Reached n s) (hn : n < Int64.maxValue.toInt) :
    ∃ batch, nextBatch (lastBatch (store.rows s.connection)) = .ok batch := by
  obtain ⟨rows, hs, -, ha⟩ := invariant h
  rw [hs.rows]
  cases hnext : nextBatch (lastBatch rows) with
  | ok batch => exact ⟨batch, rfl⟩
  | error e =>
    have hle := ha.lastBatch_le
    rw [(nextBatch_eq_error_iff.1 hnext).1] at hle
    omega

/-! ## Runs in memory -/

section Memory

variable {t : Target} {h : History}

theorem reached_migrated (name : String) :
    ∃ s, (Memory.store t h).Reached 1 s ∧ Memory.Over t h s ⟨[⟨1, name, 1⟩], none⟩ := by
  have hopened : (Memory.store t h).Reached 0 (Memory.opened t h) := .start ⟨rfl, rfl, rfl, rfl⟩
  have hquiet : (Memory.store t h).QuietAll (Memory.only name) :=
    Memory.quiet_idle (by simp [Memory.only])
  have hpending : ((Memory.store t h).migrator (Memory.only name)).pending [] = [Memory.idle name] := rfl
  have hbatch : nextBatch (max (lastBatch ([].map MemoryRow.applied)) 0) = .ok 1 := rfl
  have hmigrate := Memory.over_migrateAfter Memory.over_opened (by decide) hbatch hpending
  exact ⟨_, hopened.call .migrate hquiet, (hmigrate.imp (fun _ _ hu => hu) fun _ _ hu => hu.elim).state⟩

end Memory

/-! ## The history between calls -/

end HistoryStore
end SqlToolkit
