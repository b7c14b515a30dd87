import SqlToolkit.Proofs.Statement.Binding
import SqlToolkit.Proofs.Statement.Rows

/-!
# Inserts of many rows

The first row of an insert says what its columns are.  Every row must have exactly the keys of the first
(`RowData.Matches`), and the first row that has not is reported by its index; the keys of the first row are looked at
before that.  A row that has the keys gives one operand for each of them, so no tuple is too short, and every operand
stands under its own column (`Inserts`).  Where an entry stands in its row is of no importance: the other rows can be
rearranged, and the insert stays the same.
-/
namespace SqlToolkit

/-- What an operand is written as: raw text as it is rendered, anything else as a placeholder. -/
def Operand.written (t : Target) : Operand → String
  | .raw sql => t.renderRaw sql
  | .value _ => "?"
  | .list _ => "?"

namespace RowData

/-- A row can give the columns of an insert: it has an entry, and each of its keys names a column. -/
def Insertable (r : RowData) : Prop := r.entries ≠ [] ∧ ∀ key ∈ r.keys, ∃ column, NamesColumn key column

/-- The operands are those that the row holds under the keys, one after the other. -/
def Holds (keys : List String) (r : RowData) (operands : List Operand) : Prop :=
  List.Forall₂ (fun key operand => (key, operand) ∈ r.entries) keys operands

/-- What a row holds under keys that it has. -/
theorem holds_under {r first : RowData} (hr : r.keys.Nodup) (h : r.Matches first) :
    Holds first.keys r (r.under first.keys) :=
  forall₂_filterMap_get? hr fun key hkey => (h key).2 hkey

end RowData

namespace Statement
variable {t : Target} {table : String} {first : RowData}

/-! ## Tuples -/

theorem sql_bind (t : Target) (operand : Operand) : (bind t operand).sql = operand.written t := by
  cases operand <;> rfl

theorem sql_tuple (t : Target) (keys : List String) (row : RowData) :
    (tuple t keys row).sql = "(" ++ ", ".intercalate ((row.under keys).map (Operand.written t)) ++ ")" := by
  simp only [tuple, Fragment.paren, Fragment.join, List.map_map, RowData.under]
  congr 4
  funext operand
  exact sql_bind t operand

section Keys
variable (hfirst : first.keys.Nodup)
include hfirst

/-- A row with the keys of the first gives its tuple. -/
theorem tuples_cons_of_matches {row : RowData} (hrow : row.keys.Nodup) (h : row.Matches first) (index : Nat)
    (rest : List RowData) :
    tuples t first index (row :: rest) =
      tuples t first (index + 1) rest >>= fun others => pure (tuple t first.keys row :: others) := by
  simp [tuples, (RowData.sameKeys_iff hrow hfirst).2 h]

/-- A row with other keys is reported. -/
theorem tuples_cons_of_not_matches {row : RowData} (hrow : row.keys.Nodup) (h : ¬ row.Matches first) (index : Nat)
    (rest : List RowData) : tuples t first index (row :: rest) = .error (.columnSetMismatch index) := by
  have hother : row.sameKeys first = false := by
    rw [← Bool.not_eq_true]
    exact mt (RowData.sameKeys_iff hrow hfirst).1 h
  simp only [tuples, hother]
  rfl

/-- Tuples can be written exactly if every row has the keys. -/
theorem tuples_eq_ok_iff {rows : List RowData} (hrows : ∀ row ∈ rows, row.keys.Nodup) {index : Nat}
    {fs : List Fragment} :
    tuples t first index rows = .ok fs ↔ (∀ row ∈ rows, row.Matches first) ∧ fs = rows.map (tuple t first.keys) := by
  induction rows generalizing index fs with
  | nil => simp [tuples, @eq_comm _ []]
  | cons row rest ih =>
    obtain ⟨hrow, hrest⟩ := List.forall_mem_cons.1 hrows
    rw [List.forall_mem_cons, List.map_cons]
    by_cases hmatches : row.Matches first
    · rw [tuples_cons_of_matches hfirst hrow hmatches, Outcome.bind_eq_ok]
      constructor
      · rintro ⟨others, hothers, h⟩
        obtain rfl := Outcome.pure_eq_ok.1 h
        obtain ⟨hall, rfl⟩ := (ih hrest).1 hothers
        exact ⟨⟨hmatches, hall⟩, rfl⟩
      · rintro ⟨⟨-, hall⟩, rfl⟩
        exact ⟨_, (ih hrest).2 ⟨hall, rfl⟩, rfl⟩
    · rw [tuples_cons_of_not_matches hfirst hrow hmatches]
      simp [hmatches]

/-- Otherwise the first row that has other keys is reported. -/
theorem tuples_eq_error_iff {rows : List RowData} (hrows : ∀ row ∈ rows, row.keys.Nodup) {index : Nat}
    {cause : CompileError} :
    tuples t first index rows = .error cause ↔
      ∃ before row after, rows = before ++ row :: after ∧ (∀ other ∈ before, other.Matches first) ∧
        ¬ row.Matches first ∧ cause = .columnSetMismatch (index + before.length) := by
  induction rows generalizing index with
  | nil => simp [tuples]
  | cons row rest ih =>
    obtain ⟨hrow, hrest⟩ := List.forall_mem_cons.1 hrows
    by_cases hmatches : row.Matches first
    · -- the row goes in front of the rows before the one that is reported, and each of them counts one
      rw [tuples_cons_of_matches hfirst hrow hmatches, ← Outcome.failure?_eq_some, Outcome.failure?_bind_pure,
        Outcome.failure?_eq_some, ih hrest]
      constructor
      · rintro ⟨before, other, after, rfl, hbefore, hother, rfl⟩
        refine ⟨row :: before, other, after, rfl, List.forall_mem_cons.2 ⟨hmatches, hbefore⟩, hother, ?_⟩
        rw [List.length_cons, Nat.add_assoc, Nat.add_comm 1]
      · rintro ⟨before, other, after, hsplit, hbefore, hother, rfl⟩
        cases before with
        | nil =>
          cases hsplit
          exact absurd hmatches hother
        | cons _ before =>
          cases hsplit
          refine ⟨before, other, after, rfl, (List.forall_mem_cons.1 hbefore).2, hother, ?_⟩
          rw [List.length_cons, Nat.add_assoc, Nat.add_comm 1]
    · rw [tuples_cons_of_not_matches hfirst hrow hmatches]
      constructor
      · intro h
        cases h
        exact ⟨[], row, rest, rfl, by simp, hmatches, rfl⟩
      · rintro ⟨before, other, after, hsplit, hbefore, hother, rfl⟩
        cases before with
        | nil => rfl
        | cons _ before =>
          cases hsplit
          exact absurd (List.forall_mem_cons.1 hbefore).1 hmatches

/-- Rows with rearranged entries give the same tuples, or the same row is reported. -/
theorem tuples_perm {rows rows' : List RowData} (hrows : ∀ row ∈ rows, row.keys.Nodup)
    (h : List.Forall₂ (fun row row' => row.entries.Perm row'.entries) rows rows') (index : Nat) :
    tuples t first index rows = tuples t first index rows' := by
  induction h generalizing index with
  | nil => rfl
  | @cons row row' rest rest' hperm _ ih =>
    obtain ⟨hrow, hrest⟩ := List.forall_mem_cons.1 hrows
    have hkeys := RowData.keys_perm hperm
    have hrow' : row'.keys.Nodup := hkeys.nodup_iff.1 hrow
    have hsame : row.Matches first ↔ row'.Matches first := by simp only [RowData.Matches, hkeys.mem_iff]
    by_cases hmatches : row.Matches first
    · have htuple : tuple t first.keys row = tuple t first.keys row' := by
        have hget : row.get? = row'.get? := funext (RowData.get?_perm hrow hperm)
        rw [tuple, tuple, hget]
      rw [tuples_cons_of_matches hfirst hrow hmatches, tuples_cons_of_matches hfirst hrow' (hsame.1 hmatches),
        ih hrest, htuple]
    · rw [tuples_cons_of_not_matches hfirst hrow hmatches,
        tuples_cons_of_not_matches hfirst hrow' (mt hsame.2 hmatches)]

end Keys

/-! ## Inserts -/

/-- The columns, the items of each row under them, and how they are written. -/
structure Inserts (t : Target) (table : String) (first : RowData) (rows : List RowData) (s : Statement)
    (columns : List String) (items : List (List Operand)) : Prop where
  named : List.Forall₂ NamesColumn first.keys columns
  held : List.Forall₂ (RowData.Holds first.keys) rows items
  sql_eq : s.sql = "INSERT INTO " ++ t.quoteTable table ++ " (" ++ ", ".intercalate columns ++ ") VALUES " ++
    ", ".intercalate (items.map fun operands => "(" ++ ", ".intercalate (operands.map (Operand.written t)) ++ ")")
  params_eq : s.params = items.flatMap fun operands => operands.flatMap Operand.bound

/-- The statement that inserts tuples under columns. -/
def insertion (t : Target) (table : String) (columns : List String) (tuples : List Fragment) : Statement :=
  ofFragment (.raw ("INSERT INTO " ++ t.quoteTable table ++ " (" ++ ", ".intercalate columns ++ ") VALUES ") ++
    .join tuples ", ")

/-- The columns of an insert are named by the keys of its first row. -/
theorem mapM_insertColumn_eq_ok_iff {keys columns : List String} :
    keys.mapM insertColumn = .ok columns ↔ List.Forall₂ NamesColumn keys columns := by
  rw [Outcome.mapM_eq_ok_iff]
  simp only [insertColumn_eq_ok_iff]

/-- The columns of keys that name them. -/
theorem exists_columns {keys : List String} (h : ∀ key ∈ keys, ∃ column, NamesColumn key column) :
    ∃ columns, List.Forall₂ NamesColumn keys columns := by
  induction keys with
  | nil => exact ⟨[], .nil⟩
  | cons key keys ih =>
    obtain ⟨⟨column, hcolumn⟩, hkeys⟩ := List.forall_mem_cons.1 h
    obtain ⟨columns, hcolumns⟩ := ih hkeys
    exact ⟨column :: columns, .cons hcolumn hcolumns⟩

/-- Behind a first row that can give the columns, only the keys of the rows are looked at. -/
theorem exists_insert_eq (t : Target) (table : String) (h : first.Insertable) (rest : List RowData) :
    ∃ columns, List.Forall₂ NamesColumn first.keys columns ∧
      insert t table (first :: rest) = (tuples t first 0 (first :: rest)).map (insertion t table columns) := by
  obtain ⟨hentries, hkeys⟩ := h
  obtain ⟨columns, hcolumns⟩ := exists_columns hkeys
  have hempty : first.isEmpty = false := by
    cases hcons : first.entries with
    | nil => exact absurd hcons hentries
    | cons entry entries => simp [RowData.isEmpty, hcons]
  refine ⟨columns, hcolumns, ?_⟩
  unfold insert
  simp only [hempty, Bool.false_eq_true, if_false]
  rw [mapM_insertColumn_eq_ok_iff.2 hcolumns]
  rfl

/-- A first row that cannot give columns is refused, and not because other rows have other keys. -/
theorem insertable_or_refused (t : Target) (table : String) (first : RowData) (rest : List RowData) :
    first.Insertable ∨
      ∃ cause, insert t table (first :: rest) = .error cause ∧ ∀ index, cause ≠ .columnSetMismatch index := by
  unfold insert
  by_cases hempty : first.isEmpty = true
  · exact .inr ⟨.emptyInsert table, by simp [hempty], by simp⟩
  · simp only [hempty, Bool.false_eq_true, if_false]
    cases hcolumns : first.keys.mapM insertColumn with
    | error cause =>
      obtain ⟨key, -, hkey⟩ := Outcome.exists_of_mapM_eq_error hcolumns
      obtain rfl := insertColumn_eq_error hkey
      exact .inr ⟨.invalidKey key, rfl, by simp⟩
    | ok columns =>
      refine .inl ⟨fun hentries => ?_, fun key hkey => ?_⟩
      · simp [RowData.isEmpty, hentries] at hempty
      · obtain ⟨column, -, hcolumn⟩ := Outcome.exists_of_mapM hcolumns key hkey
        exact ⟨column, insertColumn_eq_ok_iff.1 hcolumn⟩

/-- What is inserted if every row has the keys. -/
theorem inserts_insertion {rows : List RowData} (hrows : ∀ row ∈ rows, row.keys.Nodup)
    (hmatches : ∀ row ∈ rows, row.Matches first) {columns : List String}
    (hcolumns : List.Forall₂ NamesColumn first.keys columns) :
    Inserts t table first rows (insertion t table columns (rows.map (tuple t first.keys))) columns
      (rows.map fun row => row.under first.keys) where
  named := hcolumns
  held := by
    rw [List.forall₂_map_right_iff]
    exact List.forall₂_same.2 fun row hrow => RowData.holds_under (hrows row hrow) (hmatches row hrow)
  sql_eq := by
    simp only [insertion, ofFragment, Fragment.sql_append, Fragment.raw, Fragment.join, List.map_map]
    congr 3
    funext row
    exact sql_tuple t first.keys row
  params_eq := by
    simp only [insertion, ofFragment, Fragment.params_append, Fragment.raw, Fragment.params_join, List.flatMap_map,
      params_tuple, List.nil_append]

section Rows
variable {rest : List RowData} (hrows : ∀ row ∈ first :: rest, row.keys.Nodup)
include hrows

/-- An insert that succeeds has a first row that can give columns and its keys in all rows, and inserts just these. -/
theorem inserts_of_insert {s : Statement} (h : insert t table (first :: rest) = .ok s) :
    first.Insertable ∧ (∀ row ∈ first :: rest, row.Matches first) ∧
      ∃ columns items, Inserts t table first (first :: rest) s columns items := by
  obtain hinsertable | ⟨cause, hcause, -⟩ := insertable_or_refused t table first rest
  · obtain ⟨columns, hcolumns, heq⟩ := exists_insert_eq t table hinsertable rest
    rw [heq] at h
    cases htuples : tuples t first 0 (first :: rest) with
    | error cause =>
      rw [htuples] at h
      cases h
    | ok fs =>
      rw [htuples] at h
      cases h
      obtain ⟨hmatches, rfl⟩ := (tuples_eq_ok_iff (hrows first List.mem_cons_self) hrows).1 htuples
      exact ⟨hinsertable, hmatches, columns, _, inserts_insertion hrows hmatches hcolumns⟩
  · rw [hcause] at h
    cases h

theorem exists_insert_of_matches (hinsertable : first.Insertable)
    (hmatches : ∀ row ∈ first :: rest, row.Matches first) : ∃ s, insert t table (first :: rest) = .ok s := by
  obtain ⟨columns, -, heq⟩ := exists_insert_eq t table hinsertable rest
  rw [heq, (tuples_eq_ok_iff (hrows first List.mem_cons_self) hrows).2 ⟨hmatches, rfl⟩]
  exact ⟨_, rfl⟩

/-- The first row with other keys is reported, if the first row can give columns. -/
theorem insert_eq_mismatch_iff {index : Nat} :
    insert t table (first :: rest) = .error (.columnSetMismatch index) ↔
      first.Insertable ∧ ∃ before row after, first :: rest = before ++ row :: after ∧ before.length = index ∧
        (∀ other ∈ before, other.Matches first) ∧ ¬ row.Matches first := by
  by_cases hinsertable : first.Insertable
  · obtain ⟨columns, -, heq⟩ := exists_insert_eq t table hinsertable rest
    -- once the columns are known, an insert can fail for its tuples only
    have herror : insert t table (first :: rest) = .error (.columnSetMismatch index) ↔
        tuples t first 0 (first :: rest) = .error (.columnSetMismatch index) := by
      rw [heq]
      cases tuples t first 0 (first :: rest) <;> simp [Except.map]
    rw [herror, tuples_eq_error_iff (hrows first List.mem_cons_self) hrows]
    constructor
    · rintro ⟨before, row, after, hsplit, hbefore, hrow, hindex⟩
      rw [Nat.zero_add] at hindex
      cases hindex
      exact ⟨hinsertable, before, row, after, hsplit, rfl, hbefore, hrow⟩
    · rintro ⟨-, before, row, after, hsplit, rfl, hbefore, hrow⟩
      exact ⟨before, row, after, hsplit, hbefore, hrow, by rw [Nat.zero_add]⟩
  · obtain ⟨cause, hcause, hne⟩ := (insertable_or_refused t table first rest).resolve_left hinsertable
    simp [hcause, hne index, hinsertable]

/-- The order of the entries in the rows behind the first is not seen. -/
theorem insert_perm {rest' : List RowData}
    (h : List.Forall₂ (fun row row' => row.entries.Perm row'.entries) rest rest') :
    insert t table (first :: rest') = insert t table (first :: rest) := by
  have hfirst := hrows first List.mem_cons_self
  unfold insert
  simp only
  -- the first row stays, and with it the columns and the keys that are compared
  rw [tuples_perm hfirst hrows (.cons (List.Perm.refl _) h)]

end Rows

/-- **An insert of many rows loses and misplaces nothing.**  It succeeds exactly if there is a first row that can give
columns and all rows have its keys.  The first row with other keys is reported by its index, and only if the first row
can give columns.  What is inserted are the columns that the first row names and, for each row, one item under each of
them: the operand that the row holds under the key.  Rearranging the entries of the other rows changes nothing. -/
theorem insert_follows_first_row (t : Target) (table : String) {rows : List RowData}
    (hbuilt : ∀ row ∈ rows, row.Built) :
    ((∃ s, insert t table rows = .ok s) ↔
        ∃ first rest, rows = first :: rest ∧ first.Insertable ∧ ∀ row ∈ rows, row.Matches first) ∧
      (∀ index, insert t table rows = .error (.columnSetMismatch index) ↔
        ∃ first rest, rows = first :: rest ∧ first.Insertable ∧ ∃ before row after, rows = before ++ row :: after ∧
          before.length = index ∧ (∀ other ∈ before, other.Matches first) ∧ ¬ row.Matches first) ∧
      (∀ first rest s, rows = first :: rest → insert t table rows = .ok s →
        ∃ columns items, Inserts t table first rows s columns items) ∧
      ∀ first rest rest', rows = first :: rest →
        List.Forall₂ (fun row row' => row.entries.Perm row'.entries) rest rest' →
          insert t table (first :: rest') = insert t table rows := by
  cases rows with
  | nil => simp [insert]
  | cons first rest =>
    have hrows : ∀ row ∈ first :: rest, row.keys.Nodup := fun row hrow => (hbuilt row hrow).nodup_keys
    refine ⟨?_, fun index => ?_, ?_, ?_⟩
    · constructor
      · rintro ⟨s, hs⟩
        obtain ⟨hinsertable, hmatches, -⟩ := inserts_of_insert hrows hs
        exact ⟨first, rest, rfl, hinsertable, hmatches⟩
      · rintro ⟨_, _, ⟨⟩, hinsertable, hmatches⟩
        exact exists_insert_of_matches hrows hinsertable hmatches
    · rw [insert_eq_mismatch_iff hrows]
      constructor
      · intro h
        exact ⟨first, rest, rfl, h⟩
      · rintro ⟨_, _, ⟨⟩, h⟩
        exact h
    · rintro _ _ s ⟨⟩ hs
      exact (inserts_of_insert hrows hs).2.2
    · rintro _ _ rest' ⟨⟩ hrest
      exact insert_perm hrows hrest

/-- The second row is written in the order of the first, and a third that lacks a key is reported. -/
theorem insert_follows_first_row_mixed :
    let t : Target := ⟨.pgSql, ""⟩
    let first := (RowData.set {} "a" (.value (.int 1))).set " b " (.raw ⟨"now()"⟩)
    let second := (RowData.set {} " b " (.list [.int 2])).set "a" (.value .null)
    let third := RowData.set {} "a" (.value (.int 3))
    let s : Statement := ⟨"INSERT INTO \"t\" (a, b) VALUES (?, now()), (?, ?)", [.int 1, .null, .text "[2]"]⟩
    (∀ row ∈ [first, second, third], row.Built) ∧ insert t "t" [first, second] = .ok s ∧
      (∃ columns items, Inserts t "t" first [first, second] s columns items) ∧
      insert t "t" [first, second, third] = .error (.columnSetMismatch 2) := by
  intro t first second third s
  have hfirst : first.Built := .set _ _ (.set _ _ .empty)
  have hsecond : second.Built := .set _ _ (.set _ _ .empty)
  have hthird : third.Built := .set _ _ .empty
  have hs : insert t "t" [first, second] = .ok s := by decide +kernel
  have hboth : ∀ row ∈ [first, second], row.Built := by simp [hfirst, hsecond]
  have hall : ∀ row ∈ [first, second, third], row.Built := by simp [hfirst, hsecond, hthird]
  have htwo := insert_follows_first_row t "t" hboth
  have hthree := insert_follows_first_row t "t" hall
  refine ⟨hall, hs, htwo.2.2.1 first [second] s rfl hs, ?_⟩
  obtain ⟨head, tail, hrows, hinsertable, hmatches⟩ := htwo.1.1 ⟨s, hs⟩
  obtain ⟨rfl, rfl⟩ := List.cons.inj hrows
  refine (hthree.2.1 2).2 ⟨first, _, rfl, hinsertable, [first, second], third, [], rfl, rfl, hmatches, ?_⟩
  intro hkeys
  exact absurd ((hkeys " b ").2 (by decide)) (by decide)

end Statement
end SqlToolkit
