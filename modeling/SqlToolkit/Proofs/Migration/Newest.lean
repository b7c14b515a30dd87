import Mathlib.Data.List.Dedup
import SqlToolkit.Proofs.Migration.Reached

/-!
# The newest batches

What a call reverts is chosen by batch and then put in order by batch and id.  Neither
depends on the order in which the rows are read (`reversal_perm`, `batches_perm`), and the
two fit together: to revert the newest batches in two parts is to revert them at once
(`reversal_newest_add`), and what is left is the same (`remaining_add`).

The batches are a strictly decreasing list, so they are known by their members
(`eq_of_decreasing`); that carries every fact about them.
-/
namespace SqlToolkit

open AppliedMigration

namespace Migrator

variable {rows rows' targets targets' : List AppliedMigration} {a b : AppliedMigration} {m n : Nat}

/-! ## The order of reversion -/

theorem newerFirst_iff : newerFirst a b = true ↔ b.Before a := by
  simp only [newerFirst, Before, Bool.or_eq_true, Bool.and_eq_true, decide_eq_true_eq,
    eq_comm (a := a.batch)]

theorem newerFirst_trans (a b c : AppliedMigration) (hab : newerFirst a b = true)
    (hbc : newerFirst b c = true) : newerFirst a c = true := by
  rw [newerFirst_iff, Before] at *
  grind

theorem newerFirst_total (a b : AppliedMigration) : (newerFirst a b || newerFirst b a) = true := by
  rw [Bool.or_eq_true, newerFirst_iff, newerFirst_iff, Before, Before]
  grind

/-- Rows in the order in which they are reverted. -/
def reversal (rows : List AppliedMigration) : List AppliedMigration := rows.mergeSort newerFirst

theorem perm_reversal (rows : List AppliedMigration) : (reversal rows).Perm rows :=
  List.mergeSort_perm rows newerFirst

theorem mem_reversal : a ∈ reversal rows ↔ a ∈ rows := List.mem_mergeSort

theorem pairwise_reversal (rows : List AppliedMigration) :
    (reversal rows).Pairwise fun a b => newerFirst a b = true :=
  List.pairwise_mergeSort newerFirst_trans newerFirst_total rows

/-- Some of the rows of a history have one order of reversion. -/
theorem eq_reversal (hd : Distinct rows) (hsub : ∀ a ∈ targets, a ∈ rows) (hperm : targets'.Perm targets)
    (hordered : targets'.Pairwise fun a b => newerFirst a b = true) : targets' = reversal targets := by
  refine List.Perm.eq_of_pairwise (fun a b ha hb hab hba => ?_) hordered (pairwise_reversal targets)
    (hperm.trans (perm_reversal targets).symm)
  -- rows in either order share batch and id, and ids are distinct
  rw [newerFirst_iff, Before] at hab hba
  exact hd.eq_of_id (hsub a (hperm.mem_iff.1 ha)) (hsub b (mem_reversal.1 hb)) (by grind)

theorem reversal_perm (hd : Distinct rows) (hsub : ∀ a ∈ targets, a ∈ rows) (hperm : targets'.Perm targets) :
    reversal targets' = reversal targets :=
  eq_reversal hd hsub ((perm_reversal targets').trans hperm) (pairwise_reversal targets')

/-! ## Batches -/

theorem mem_placeBatch {batch c : Int64} {bs : List Int64} : c ∈ placeBatch batch bs ↔ c = batch ∨ c ∈ bs := by
  induction bs with
  | nil => simp [placeBatch]
  | cons b rest ih =>
    simp only [placeBatch]
    split
    · simp
    · split
      · rename_i heq
        simp [heq]
      · simp only [List.mem_cons, ih]
        tauto

theorem pairwise_placeBatch {batch : Int64} {bs : List Int64} (h : bs.Pairwise fun b c => c < b) :
    (placeBatch batch bs).Pairwise fun b c => c < b := by
  induction bs with
  | nil => exact List.pairwise_singleton _ _
  | cons b rest ih =>
    obtain ⟨hb, hrest⟩ := List.pairwise_cons.1 h
    simp only [placeBatch]
    split
    · rename_i hlt
      refine List.pairwise_cons.2 ⟨List.forall_mem_cons.2 ⟨hlt, fun c hc => ?_⟩, h⟩
      exact Int64.lt_trans (hb c hc) hlt
    · rename_i hnot
      split
      · exact h
      · rename_i hne
        refine List.pairwise_cons.2 ⟨fun c hc => ?_, ih hrest⟩
        rcases mem_placeBatch.1 hc with rfl | hc
        · exact Int64.lt_of_le_of_ne (Int64.not_lt.1 hnot) (Ne.symm hne)
        · exact hb c hc

theorem mem_batches {c : Int64} : c ∈ batches rows ↔ c ∈ rows.map batch := by
  induction rows with
  | nil => rfl
  | cons a rest ih =>
    show c ∈ placeBatch a.batch (batches rest) ↔ _
    rw [mem_placeBatch, ih, List.map_cons, List.mem_cons]

theorem batches_decreasing (rows : List AppliedMigration) : (batches rows).Pairwise fun b c => c < b := by
  induction rows with
  | nil => exact .nil
  | cons a rest ih => exact pairwise_placeBatch ih

theorem nodup_of_decreasing {bs : List Int64} (h : bs.Pairwise fun b c => c < b) : bs.Nodup :=
  h.imp fun hlt => (Int64.ne_of_lt hlt).symm

theorem nodup_batches (rows : List AppliedMigration) : (batches rows).Nodup :=
  nodup_of_decreasing (batches_decreasing rows)

/-- Strictly decreasing numbers are known by their members. -/
theorem eq_of_decreasing {bs cs : List Int64} (hbs : bs.Pairwise fun b c => c < b)
    (hcs : cs.Pairwise fun b c => c < b) (hmem : ∀ c, c ∈ bs ↔ c ∈ cs) : bs = cs := by
  refine List.Perm.eq_of_pairwise (fun b c _ _ hbc hcb => ?_) hbs hcs
    ((List.perm_ext_iff_of_nodup (nodup_of_decreasing hbs) (nodup_of_decreasing hcs)).2 hmem)
  exact absurd hcb (Int64.lt_asymm hbc)

theorem batches_perm (h : rows.Perm rows') : batches rows = batches rows' := by
  refine eq_of_decreasing (batches_decreasing rows) (batches_decreasing rows') fun c => ?_
  rw [mem_batches, mem_batches, (h.map batch).mem_iff]

theorem length_batches (rows : List AppliedMigration) :
    (batches rows).length = (rows.map batch).dedup.length := by
  refine ((List.perm_ext_iff_of_nodup (nodup_batches rows) (List.nodup_dedup _)).2 fun c => ?_).length_eq
  rw [mem_batches, List.mem_dedup]

/-! ## The newest -/

/-- The row is of one of the newest batches. -/
def isNewest (steps : Nat) (rows : List AppliedMigration) (a : AppliedMigration) : Bool :=
  ((batches rows).take steps).contains a.batch

/-- The rows of the newest batches, as many as `steps`. -/
def newest (steps : Nat) (rows : List AppliedMigration) : List AppliedMigration :=
  rows.filter (isNewest steps rows)

/-- The rows of all other batches. -/
def remaining (steps : Nat) (rows : List AppliedMigration) : List AppliedMigration :=
  rows.filter fun a => !isNewest steps rows a

theorem isNewest_iff : isNewest n rows a = true ↔ a.batch ∈ (batches rows).take n := List.contains_iff_mem

theorem newest_subset (n : Nat) (rows : List AppliedMigration) : ∀ a ∈ newest n rows, a ∈ rows :=
  fun _ ha => List.mem_of_mem_filter ha

theorem newest_perm (h : rows'.Perm rows) (n : Nat) : (newest n rows').Perm (newest n rows) := by
  unfold newest isNewest
  rw [batches_perm h]
  exact h.filter _

/-- A batch is one of the newest or one of the others. -/
theorem not_isNewest_iff (ha : a ∈ rows) : isNewest n rows a = false ↔ a.batch ∈ (batches rows).drop n := by
  have hmem : a.batch ∈ (batches rows).take n ++ (batches rows).drop n := by
    rw [List.take_append_drop, mem_batches]
    exact List.mem_map_of_mem ha
  have hnodup := nodup_batches rows
  rw [← List.take_append_drop n (batches rows), List.nodup_append] at hnodup
  rw [← Bool.not_eq_true, isNewest_iff]
  constructor
  · intro hnot
    exact (List.mem_append.1 hmem).resolve_left hnot
  · intro hdrop htake
    exact hnodup.2.2 a.batch htake a.batch hdrop rfl

theorem batches_remaining (n : Nat) (rows : List AppliedMigration) :
    batches (remaining n rows) = (batches rows).drop n := by
  refine eq_of_decreasing (batches_decreasing _)
    ((batches_decreasing rows).sublist (List.drop_sublist n _)) fun c => ?_
  rw [mem_batches, List.mem_map]
  constructor
  · rintro ⟨a, ha, rfl⟩
    obtain ⟨hrow, hnot⟩ := List.mem_filter.1 ha
    exact (not_isNewest_iff hrow).1 (by simpa using hnot)
  · intro hc
    obtain ⟨a, ha, rfl⟩ := List.mem_map.1 (mem_batches.1 (List.mem_of_mem_drop hc))
    refine ⟨a, List.mem_filter.2 ⟨ha, ?_⟩, rfl⟩
    rw [(not_isNewest_iff ha).2 hc]
    rfl

/-- The newest batches in two parts. -/
theorem isNewest_add (m n : Nat) (rows : List AppliedMigration) (a : AppliedMigration) :
    isNewest (m + n) rows a = (isNewest m rows a || isNewest n (remaining m rows) a) := by
  rw [Bool.eq_iff_iff, Bool.or_eq_true, isNewest_iff, isNewest_iff, isNewest_iff, List.take_add,
    List.mem_append, batches_remaining]

theorem remaining_add (m n : Nat) (rows : List AppliedMigration) :
    remaining n (remaining m rows) = remaining (m + n) rows := by
  show (rows.filter _).filter _ = rows.filter _
  rw [List.filter_filter]
  refine List.filter_congr fun a _ => ?_
  rw [isNewest_add, Bool.not_or, Bool.and_comm]

theorem newest_add (m n : Nat) (rows : List AppliedMigration) :
    (newest m rows ++ newest n (remaining m rows)).Perm (newest (m + n) rows) := by
  -- the first part takes its rows out of all, and the second those that are left
  have hfirst : newest m rows = (newest (m + n) rows).filter (isNewest m rows) := by
    show rows.filter _ = (rows.filter _).filter _
    rw [List.filter_filter]
    refine List.filter_congr fun a _ => ?_
    rw [isNewest_add]
    cases isNewest m rows a <;> rfl
  have hsecond : newest n (remaining m rows) = (newest (m + n) rows).filter fun a => !isNewest m rows a := by
    show (rows.filter _).filter _ = (rows.filter _).filter _
    rw [List.filter_filter, List.filter_filter]
    refine List.filter_congr fun a _ => ?_
    rw [isNewest_add]
    cases isNewest m rows a <;> simp
  rw [hfirst, hsecond]
  exact List.filter_append_perm _ _

/-- Everything in the newest batches is newer than the rest. -/
theorem newerFirst_of_newest (ha : a ∈ newest n rows) (hb : b ∈ remaining n rows) :
    newerFirst a b = true := by
  obtain ⟨-, htake⟩ := List.mem_filter.1 ha
  obtain ⟨hrow, hnot⟩ := List.mem_filter.1 hb
  have hdrop := (not_isNewest_iff (n := n) hrow).1 (by simpa using hnot)
  have hdecreasing := batches_decreasing rows
  rw [← List.take_append_drop n (batches rows), List.pairwise_append] at hdecreasing
  rw [newerFirst_iff]
  exact .inl (hdecreasing.2.2 _ (isNewest_iff.1 htake) _ hdrop)

/-- **To revert in two parts is to revert at once.** -/
theorem reversal_newest_add (hd : Distinct rows) (m n : Nat) :
    reversal (newest m rows) ++ reversal (newest n (remaining m rows)) = reversal (newest (m + n) rows) := by
  refine eq_reversal hd (newest_subset (m + n) rows) ?_ ?_
  · exact ((perm_reversal _).append (perm_reversal _)).trans (newest_add m n rows)
  · refine List.pairwise_append.2 ⟨pairwise_reversal _, pairwise_reversal _, fun a ha b hb => ?_⟩
    exact newerFirst_of_newest (mem_reversal.1 ha) (newest_subset n _ b (mem_reversal.1 hb))

example : newest 1 [⟨1, "a", 1, none⟩, ⟨3, "b", 4, none⟩, ⟨2, "c", 4, none⟩] =
    [⟨3, "b", 4, none⟩, ⟨2, "c", 4, none⟩] := by decide

/-- With as many steps as there are batches, all rows are of the newest. -/
theorem newest_of_length_le (h : (batches rows).length ≤ n) : newest n rows = rows := by
  refine List.filter_eq_self.2 fun a ha => ?_
  rw [isNewest_iff, List.take_of_length_le h, mem_batches]
  exact List.mem_map_of_mem ha

theorem remaining_of_length_le (h : (batches rows).length ≤ n) : remaining n rows = [] := by
  refine List.filter_eq_nil_iff.2 fun a ha => ?_
  have hnewest : isNewest n rows a = true := List.filter_eq_self.1 (newest_of_length_le h) a ha
  rw [hnewest]
  exact Bool.false_ne_true

/-- Rows are dropped by their names. -/
theorem without_newest (hd : Distinct rows) (n : Nat) :
    without rows ((reversal (newest n rows)).map AppliedMigration.name) = remaining n rows := by
  refine List.filter_congr fun a ha => ?_
  have hname : a.name ∈ (reversal (newest n rows)).map AppliedMigration.name ↔ isNewest n rows a = true := by
    rw [List.mem_map]
    constructor
    · rintro ⟨b, hb, hname⟩
      have hb := List.mem_filter.1 (mem_reversal.1 hb)
      rw [hd.eq_of_name ha hb.1 hname.symm]
      exact hb.2
    · intro hnewest
      exact ⟨a, mem_reversal.2 (List.mem_filter.2 ⟨ha, hnewest⟩), rfl⟩
  rw [Bool.eq_iff_iff, decide_eq_true_iff, Bool.not_eq_true', ← Bool.not_eq_true, not_iff_not]
  exact hname

end Migrator
end SqlToolkit
