import SqlToolkit.Migration.Batch

/-!
# The numbers of batches

The greatest batch of a history bounds all others (`le_lastBatch`), and it depends on which
rows there are, not on their order (`lastBatch_perm`).  The batch after a number is one above
it (`nextBatch_eq_ok_iff`), and there is one unless the number is the greatest that 64 bits
hold (`nextBatch_eq_error_iff`).  It is counted before a transaction starts, so without a
next batch none does (`applyAfter_error`).
-/
namespace SqlToolkit

/-- The greater of two numbers is one of them, and bounds both. -/
instance lawfulOrderMaxInt64 : Std.LawfulOrderMax Int64 where
  max_eq_or a b := by
    show (if a ≤ b then b else a) = a ∨ (if a ≤ b then b else a) = b
    split
    · exact .inr rfl
    · exact .inl rfl
  max_le_iff a b c := by
    show (if a ≤ b then b else a) ≤ c ↔ a ≤ c ∧ b ≤ c
    split
    · rename_i hle
      exact ⟨fun hb => ⟨Int64.le_trans hle hb, hb⟩, fun h => h.2⟩
    · rename_i hnot
      have hle : b ≤ a := (Int64.le_total a b).resolve_left hnot
      exact ⟨fun ha => ⟨ha, Int64.le_trans hle ha⟩, fun h => h.1⟩

namespace AppliedMigration

variable {rows rows' : List AppliedMigration} {a : AppliedMigration}

/-! ## The last batch -/

theorem le_lastBatch (ha : a ∈ rows) : a.batch ≤ lastBatch rows := by
  have hmem : a.batch ∈ rows.map AppliedMigration.batch := List.mem_map_of_mem ha
  unfold lastBatch
  cases hmax : (rows.map AppliedMigration.batch).max? with
  | none =>
    rw [List.max?_eq_none_iff.1 hmax] at hmem
    cases hmem
  | some b => exact (List.max?_eq_some_iff.1 hmax).2 a.batch hmem

/-- The last batch is that of a row, or zero if there is none. -/
theorem lastBatch_cases (rows : List AppliedMigration) :
    (rows = [] ∧ lastBatch rows = 0) ∨ ∃ a ∈ rows, lastBatch rows = a.batch := by
  unfold lastBatch
  cases hmax : (rows.map AppliedMigration.batch).max? with
  | none => exact .inl ⟨List.map_eq_nil_iff.1 (List.max?_eq_none_iff.1 hmax), rfl⟩
  | some b =>
    obtain ⟨a, ha, rfl⟩ := List.mem_map.1 (List.max?_eq_some_iff.1 hmax).1
    exact .inr ⟨a, ha, rfl⟩

theorem lastBatch_perm (h : rows'.Perm rows) : lastBatch rows' = lastBatch rows := by
  rcases lastBatch_cases rows with ⟨rfl, -⟩ | ⟨a, ha, hlast⟩
  · rw [h.eq_nil]
  rcases lastBatch_cases rows' with ⟨rfl, -⟩ | ⟨b, hb, hlast'⟩
  · rw [h.symm.eq_nil]
  -- each is the batch of a row of both
  refine Int64.le_antisymm ?_ ?_
  · rw [hlast']
    exact le_lastBatch (h.mem_iff.1 hb)
  · rw [hlast]
    exact le_lastBatch (h.mem_iff.2 ha)

end AppliedMigration

namespace Migrator

variable {last batch : Int64} {e : MigrationError}

/-! ## The next batch -/

theorem toInt_add_one (h : last ≠ Int64.maxValue) : (last + 1).toInt = last.toInt + 1 := by
  have hmax : Int64.maxValue.toInt = 9223372036854775807 := rfl
  have hlow := Int64.le_toInt last
  have hhigh := Int64.toInt_le last
  have hne : last.toInt ≠ Int64.maxValue.toInt := fun heq => h (Int64.toInt_inj.1 heq)
  rw [Int64.toInt_add]
  exact Int.bmod_eq_of_le (by rw [Int64.toInt_one]; omega) (by rw [Int64.toInt_one]; omega)

/-- The next batch is one above the last. -/
theorem nextBatch_eq_ok_iff : nextBatch last = .ok batch ↔ batch.toInt = last.toInt + 1 := by
  unfold nextBatch
  split
  · rename_i hlast
    have hbound := Int64.toInt_le batch
    refine iff_of_false (by rintro ⟨⟩) ?_
    rw [hlast]
    omega
  · rename_i hlast
    rw [← toInt_add_one hlast, Int64.toInt_inj, Except.ok.injEq, eq_comm]

/-- Only the greatest number has no next one. -/
theorem nextBatch_eq_error_iff : nextBatch last = .error e ↔ last = Int64.maxValue ∧ e = .overflow := by
  unfold nextBatch
  split
  · rename_i hlast
    rw [Except.error.injEq, eq_comm]
    exact (and_iff_right hlast).symm
  · rename_i hlast
    exact iff_of_false (by rintro ⟨⟩) fun h => hlast h.1

theorem lt_nextBatch (h : nextBatch last = .ok batch) : last < batch := by
  rw [nextBatch_eq_ok_iff] at h
  rw [Int64.lt_iff_toInt_lt]
  omega

/-! ## Applying in the next batch -/

variable {σ : Type} {m : Migrator σ} {pending : List (Migration σ)}

theorem applyAfter_nil (m : Migrator σ) (last : Int64) : m.applyAfter last [] = pure [] := rfl

theorem applyAfter_error (hsome : pending ≠ []) (h : nextBatch last = .error e) :
    m.applyAfter last pending = throw e := by
  unfold applyAfter
  rw [if_neg (by simpa using hsome), h]
  rfl

theorem applyAfter_ok (hsome : pending ≠ []) (h : nextBatch last = .ok batch) :
    m.applyAfter last pending = inTransaction (pending.mapM (m.apply batch)) := by
  unfold applyAfter
  rw [if_neg (by simpa using hsome), h]
  rfl

end Migrator
end SqlToolkit
