import SqlToolkit.Proofs.Statement.Rows

/-!
# Columns that are written twice

Row data hold every key once, but a key is not yet a column: blanks around the column are dropped, and in an update so
is an arithmetic operator behind it.  So an insert or an update writes a column twice exactly if two keys of the row are
for one column (`nodup_columns_iff`).  Keys that are spelled as their columns never are.
-/
namespace SqlToolkit
open Outcome

/-- The key is the column with blanks around it, and perhaps an operator in brackets behind it. -/
def WritesColumn (key column : String) : Prop := ∃ text, KeyShape key.toList column.toList text

theorem NamesColumn.writesColumn {key column : String} (h : NamesColumn key column) : WritesColumn key column :=
  ⟨none, h⟩

/-- A key is for one column only. -/
theorem WritesColumn.eq {key column other : String} (h : WritesColumn key column) (hother : WritesColumn key other) :
    column = other := by
  obtain ⟨text, hshape⟩ := h
  obtain ⟨text', hshape'⟩ := hother
  exact hshape.column_eq hshape'

/-- No two of the keys are for one column. -/
def KeysApart (keys : List String) : Prop :=
  ∀ key ∈ keys, ∀ other ∈ keys, ∀ column, WritesColumn key column → WritesColumn other column → key = other

/-- Keys that are spelled as their columns are for different columns. -/
theorem keysApart_of_plain {keys : List String} (h : ∀ key ∈ keys, WritesColumn key key) : KeysApart keys := by
  intro key hkey other hother column hwrites hwrites'
  have hcolumn : column = key := hwrites.eq (h key hkey)
  have hcolumn' : column = other := hwrites'.eq (h other hother)
  exact hcolumn.symm.trans hcolumn'

/-- **Columns repeat exactly if two keys are for one of them.** -/
theorem nodup_columns_iff {keys columns : List String} (hkeys : keys.Nodup)
    (h : List.Forall₂ WritesColumn keys columns) : columns.Nodup ↔ KeysApart keys := by
  induction h with
  | nil => simp [KeysApart]
  | @cons key column keys columns hwrites hrest ih =>
    obtain ⟨hnew, hkeys⟩ := List.nodup_cons.1 hkeys
    have hcolumns : ∀ other ∈ keys, ∃ c ∈ columns, WritesColumn other c :=
      forall_right hrest.flip fun c hc _ hother => ⟨c, hc, hother⟩
    have hwritten : ∀ c ∈ columns, ∃ other ∈ keys, WritesColumn other c :=
      forall_right hrest fun other hother _ hc => ⟨other, hother, hc⟩
    rw [List.nodup_cons, ih hkeys]
    constructor
    · rintro ⟨hcolumn, hapart⟩
      -- a later key is for a later column, which is not the first
      have hlater : ∀ other ∈ keys, ¬ WritesColumn other column := by
        intro other hother hsame
        obtain ⟨c, hc, hotherc⟩ := hcolumns other hother
        rw [hotherc.eq hsame] at hc
        exact hcolumn hc
      intro a ha b hb c hac hbc
      rcases List.mem_cons.1 ha with rfl | halater
      · rcases List.mem_cons.1 hb with rfl | hblater
        · rfl
        · exact absurd (hwrites.eq hac ▸ hbc) (hlater b hblater)
      · rcases List.mem_cons.1 hb with rfl | hblater
        · exact absurd (hwrites.eq hbc ▸ hac) (hlater a halater)
        · exact hapart a halater b hblater c hac hbc
    · intro hapart
      refine ⟨fun hcolumn => ?_, fun a ha b hb => hapart a (List.mem_cons_of_mem _ ha) b (List.mem_cons_of_mem _ hb)⟩
      obtain ⟨other, hother, hsame⟩ := hwritten column hcolumn
      have heq := hapart key List.mem_cons_self other (List.mem_cons_of_mem _ hother) column hwrites hsame
      exact hnew (heq ▸ hother)

namespace Statement
variable {t : Target} {table : String}

theorem sql_binary_equals (column : String) (right : Fragment) :
    ((Fragment.raw column).binary "=" right).sql = column ++ " = " ++ right.sql := by
  have hequals : " = " = " " ++ ("=" ++ " ") := rfl
  rw [hequals]
  simp only [Condition.sql_binary_raw, String.append_assoc]

/-- An assignment is of the column of its key. -/
theorem exists_assignment {key : String} {operand : Operand} {f : Fragment} (h : assignment t key operand = .ok f) :
    ∃ column right, WritesColumn key column ∧ f.sql = column ++ " = " ++ right := by
  unfold assignment at h
  obtain ⟨⟨name, operator⟩, hsplit, h⟩ := bind_eq_ok.1 h
  obtain ⟨text, hshape, -⟩ := splitKey_eq_ok_iff.1 hsplit
  obtain ⟨column, hcolumn, h⟩ := bind_eq_ok.1 h
  obtain ⟨hname, -⟩ := validateColumn_eq_ok.1 hcolumn
  have hwrites : WritesColumn key column := ⟨text, hname ▸ hshape⟩
  cases operator with
  | none =>
    obtain rfl := pure_eq_ok.1 h
    exact ⟨column, _, hwrites, sql_binary_equals ..⟩
  | some token =>
    simp only at h
    split at h
    · cases h
    · obtain rfl := pure_eq_ok.1 h
      exact ⟨column, _, hwrites, sql_binary_equals ..⟩
    · cases h

/-- The columns and the right sides of assignments, one for each key. -/
theorem exists_assignments {entries : List (String × Operand)} {fs : List Fragment}
    (h : entries.mapM (fun entry => assignment t entry.1 entry.2) = .ok fs) :
    ∃ assignments : List (String × String),
      List.Forall₂ WritesColumn (entries.map Prod.fst) (assignments.map Prod.fst) ∧
        fs.map Fragment.sql = assignments.map fun a => a.1 ++ " = " ++ a.2 := by
  have hall := mapM_eq_ok_iff.1 h
  clear h
  induction hall with
  | nil => exact ⟨[], .nil, rfl⟩
  | cons hfirst _ ih =>
    obtain ⟨column, right, hwrites, hsql⟩ := exists_assignment hfirst
    obtain ⟨assignments, hcolumns, hsqls⟩ := ih
    refine ⟨(column, right) :: assignments, .cons hwrites hcolumns, ?_⟩
    rw [List.map_cons, List.map_cons, hsql, hsqls]

/-- The text of an insert: its columns are those that the keys of the first row name. -/
theorem exists_insert_columns {first : RowData} {rest : List RowData} {s : Statement}
    (h : insert t table (first :: rest) = .ok s) :
    ∃ columns tuples, s.sql = "INSERT INTO " ++ t.quoteTable table ++ " (" ++ ", ".intercalate columns ++ ") VALUES " ++
      tuples ∧ List.Forall₂ NamesColumn first.keys columns := by
  unfold insert at h
  simp only at h
  split at h
  · cases h
  · obtain ⟨columns, hcolumns, h⟩ := bind_eq_ok.1 h
    obtain ⟨fs, -, h⟩ := bind_eq_ok.1 h
    obtain rfl := pure_eq_ok.1 h
    refine ⟨columns, _, rfl, (mapM_eq_ok_iff.1 hcolumns).imp fun key column hcolumn => ?_⟩
    exact insertColumn_eq_ok_iff.1 hcolumn

/-- The text of an update: its assignments are of the columns that the keys are for. -/
theorem exists_update_assignments {data : RowData} {criteria : Criteria} {s : Statement}
    (h : update t table data criteria = .ok s) :
    ∃ (assignments : List (String × String)) (conditions : String),
      s.sql = "UPDATE " ++ t.quoteTable table ++ " SET " ++
        ", ".intercalate (assignments.map fun a => a.1 ++ " = " ++ a.2) ++ conditions ∧
      List.Forall₂ WritesColumn data.keys (assignments.map Prod.fst) := by
  unfold update at h
  split at h
  · cases h
  · obtain ⟨fs, hfs, h⟩ := bind_eq_ok.1 h
    obtain ⟨conditions, -, h⟩ := bind_eq_ok.1 h
    obtain rfl := pure_eq_ok.1 h
    obtain ⟨assignments, hcolumns, hsqls⟩ := exists_assignments hfs
    refine ⟨assignments, conditions.sql, ?_, hcolumns⟩
    rw [← hsqls]
    rfl

/-- **A column is written twice exactly if two keys are for it**, in the column list of an insert and in the assignments
of an update.  Keys that are spelled as their columns are for different columns. -/
theorem written_once_iff_apart (t : Target) (table : String) {data : RowData} (hdata : data.Built) :
    (∀ rest s, insert t table (data :: rest) = .ok s →
        ∃ columns tuples, s.sql = "INSERT INTO " ++ t.quoteTable table ++ " (" ++ ", ".intercalate columns ++
            ") VALUES " ++ tuples ∧
          List.Forall₂ NamesColumn data.keys columns ∧ (columns.Nodup ↔ KeysApart data.keys)) ∧
      (∀ criteria s, update t table data criteria = .ok s →
        ∃ (assignments : List (String × String)) (conditions : String),
          s.sql = "UPDATE " ++ t.quoteTable table ++ " SET " ++
            ", ".intercalate (assignments.map fun a => a.1 ++ " = " ++ a.2) ++ conditions ∧
          List.Forall₂ WritesColumn data.keys (assignments.map Prod.fst) ∧
            ((assignments.map Prod.fst).Nodup ↔ KeysApart data.keys)) ∧
      ((∀ key ∈ data.keys, WritesColumn key key) → KeysApart data.keys) := by
  refine ⟨fun rest s hs => ?_, fun criteria s hs => ?_, keysApart_of_plain⟩
  · obtain ⟨columns, tuples, hsql, hnamed⟩ := exists_insert_columns hs
    have hwrites : List.Forall₂ WritesColumn data.keys columns := hnamed.imp fun _ _ h => h.writesColumn
    exact ⟨columns, tuples, hsql, hnamed, nodup_columns_iff hdata.nodup_keys hwrites⟩
  · obtain ⟨assignments, conditions, hsql, hwrites⟩ := exists_update_assignments hs
    exact ⟨assignments, conditions, hsql, hwrites, nodup_columns_iff hdata.nodup_keys hwrites⟩

/-- Keys without blanks and operators: no column is written twice, in an insert and in an update. -/
theorem written_once_plain :
    let t : Target := ⟨.sqlite, ""⟩
    let data := (RowData.set {} "a" (.value (.int 1))).set "b" (.value (.int 2))
    let s : Statement := ⟨"INSERT INTO `t` (a, b) VALUES (?, ?)", [.int 1, .int 2]⟩
    data.Built ∧ insert t "t" [data] = .ok s ∧
      ∃ columns tuples, s.sql = "INSERT INTO " ++ t.quoteTable "t" ++ " (" ++ ", ".intercalate columns ++ ") VALUES " ++
        tuples ∧ columns.Nodup := by
  intro t data s
  have hbuilt : data.Built := .set _ _ (.set _ _ .empty)
  have hs : insert t "t" [data] = .ok s := by decide +kernel
  have hplain : ∀ key ∈ data.keys, WritesColumn key key := by
    intro key hkey
    have hsplit : splitKey key = .ok (key, none) := by
      have hcases : key = "a" ∨ key = "b" := by simpa using (show key ∈ ["a", "b"] from hkey)
      rcases hcases with rfl | rfl
      · rfl
      · rfl
    obtain ⟨text, hshape, -⟩ := splitKey_eq_ok_iff.1 hsplit
    exact ⟨text, hshape⟩
  obtain ⟨hinsert, -, hapart⟩ := written_once_iff_apart t "t" hbuilt
  obtain ⟨columns, tuples, hsql, -, honce⟩ := hinsert [] s hs
  exact ⟨hbuilt, hs, columns, tuples, hsql, honce.2 (hapart hplain)⟩

/-- A blank makes another key for a column, and so does an operator: the insert names the column twice, and each of the
updates assigns it twice. -/
theorem written_twice :
    let t : Target := ⟨.sqlite, ""⟩
    let blank := (RowData.set {} "a" (.value (.int 1))).set " a" (.value (.int 2))
    let changed := (RowData.set {} "a" (.value (.int 1))).set "a[+]" (.value (.int 2))
    let updated (assignments : List (String × String)) : Statement :=
      ⟨"UPDATE `t` SET " ++ ", ".intercalate (assignments.map fun a => a.1 ++ " = " ++ a.2), [.int 1, .int 2]⟩
    blank.Built ∧ changed.Built ∧
      (∃ columns, insert t "t" [blank] =
          .ok ⟨"INSERT INTO `t` (" ++ ", ".intercalate columns ++ ") VALUES (?, ?)", [.int 1, .int 2]⟩ ∧
        ¬ columns.Nodup) ∧
      (∃ assignments, update t "t" blank {} = .ok (updated assignments) ∧ ¬ (assignments.map Prod.fst).Nodup) ∧
      ∃ assignments, update t "t" changed {} = .ok (updated assignments) ∧ ¬ (assignments.map Prod.fst).Nodup := by
  intro t blank changed updated
  refine ⟨.set _ _ (.set _ _ .empty), .set _ _ (.set _ _ .empty), ⟨["a", "a"], ?_, by decide⟩,
    ⟨[("a", "?"), ("a", "?")], ?_, by decide⟩, ⟨[("a", "?"), ("a", "a + ?")], ?_, by decide⟩⟩
  · decide +kernel
  · decide +kernel
  · decide +kernel

end Statement
end SqlToolkit
