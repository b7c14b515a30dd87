import SqlToolkit.Proofs.Statement.Clause
import SqlToolkit.Proofs.Statement.Request

/-!
# Values meet placeholders

Which values a statement binds, and in which order, can be read off the request alone (`boundValues`): the data of a
write row by row, column by column or pair by pair, then the conditions on rows, then those on groups.  A statement
that is written without raw operands carries exactly these values, and its text has exactly as many placeholders, so
the n-th placeholder is filled with the n-th value of the request.
-/
namespace SqlToolkit
open Text

/-! ### The data of writes -/

/-- The values that an operand binds in a row; a list is bound as one text. -/
def Operand.bound : Operand → List Value
  | .value v => [v.coerce]
  | .list values => [Value.listText values]
  | .raw _ => []

namespace RowData

/-- No operand of the row is raw SQL. -/
def RawFree (r : RowData) : Prop := ∀ entry ∈ r.entries, ∀ sql, entry.2 ≠ .raw sql

/-- The operands of the row under the given keys, in the order of the keys. -/
def under (r : RowData) (keys : List String) : List Operand := keys.filterMap r.get?

theorem RawFree.under {r : RowData} (h : r.RawFree) {keys : List String} :
    ∀ operand ∈ r.under keys, ∀ sql, operand ≠ .raw sql := by
  intro operand hoperand
  obtain ⟨key, -, hget⟩ := List.mem_filterMap.1 hoperand
  obtain ⟨before, after, hentries, -⟩ := List.lookup_eq_some_iff.1 hget
  exact h (key, operand) (by simp [hentries])

end RowData

namespace Statement

/-- The statement carries the values, and has one placeholder for each. -/
structure Binds (d : Dialect) (s : Statement) (values : List Value) : Prop where
  placeholders : d.placeholders s.sql = s.params.length
  params : s.params = values

theorem binds_ofFragment {d : Dialect} {f : Fragment} {values : List Value} (h : f.Matched d)
    (hparams : f.params = values) : (ofFragment f).Binds d values :=
  ⟨h.holds.placeholders_eq, hparams⟩

variable {t : Target}

theorem params_bind (t : Target) (operand : Operand) : (bind t operand).params = operand.bound := by
  cases operand <;> rfl

theorem matched_bind {operand : Operand} (h : ∀ sql, operand ≠ .raw sql) : (bind t operand).Matched t.dialect := by
  cases operand with
  | value v => exact Fragment.matched_value v
  | list values => exact Fragment.matched_value _
  | raw sql => exact absurd rfl (h sql)

/-! ### Inserts -/

theorem params_tuple (t : Target) (keys : List String) (row : RowData) :
    (tuple t keys row).params = (row.under keys).flatMap Operand.bound := by
  simp only [tuple, Fragment.params_paren, Fragment.params_join, List.flatMap_map, params_bind]
  rfl

theorem matched_tuple {row : RowData} (h : row.RawFree) (keys : List String) :
    (tuple t keys row).Matched t.dialect :=
  (Fragment.matched_join (by decide) (List.forall_mem_map.2 fun operand hoperand =>
    matched_bind (h.under operand hoperand))).paren

/-- Every row gives its tuple, in order. -/
theorem eq_map_of_tuples {first : RowData} {rows : List RowData} {index : Nat} {fs : List Fragment}
    (h : tuples t first index rows = .ok fs) : fs = rows.map (tuple t first.keys) := by
  induction rows generalizing index fs with
  | nil => exact (Except.ok.inj h).symm
  | cons row rest ih =>
    simp only [tuples] at h
    split at h
    · cases h
    · obtain ⟨others, hothers, h⟩ := Outcome.bind_eq_ok.1 h
      obtain rfl := Outcome.pure_eq_ok.1 h
      rw [ih hothers, List.map_cons]

theorem neutral_insertColumn {key column : String} (h : insertColumn key = .ok column) : Neutral column := by
  unfold insertColumn at h
  obtain ⟨⟨name, operator⟩, -, h⟩ := Outcome.bind_eq_ok.1 h
  simp only at h
  split at h
  · cases h
  · exact neutral_of_isColumn (isColumn_of_validateColumn h)

/-- **Inserts bind their rows**, each under the keys of the first. -/
theorem insert_binds {table : String} {rows : List RowData} (hraw : ∀ row ∈ rows, row.RawFree) {s : Statement}
    (h : insert t table rows = .ok s) :
    s.Binds t.dialect (rows.flatMap fun row => (row.under (rows.headD {}).keys).flatMap Operand.bound) := by
  unfold insert at h
  split at h
  · cases h
  · next first rest =>
    split at h
    · cases h
    · simp only [Outcome.bind_eq_ok, Outcome.pure_eq_ok] at h
      obtain ⟨columns, hcolumns, fs, hfs, rfl⟩ := h
      obtain rfl := eq_map_of_tuples hfs
      refine binds_ofFragment ?_ ?_
      · have hlist : Neutral (", ".intercalate columns) := Neutral.intercalate (by decide)
          (Outcome.forall_of_mapM hcolumns fun _ _ _ => neutral_insertColumn)
        have htable := (Dialect.holds_neutral (a := "INSERT INTO ") (by decide)).append
          (t.holds_quoteTable table)
        have hintro := ((htable.then (b := " (") (by decide)).then hlist).then (b := ") VALUES ") (by decide)
        exact (Fragment.matched_raw hintro).append (Fragment.matched_join (by decide)
          (List.forall_mem_map.2 fun row hrow => matched_tuple (hraw row hrow) _))
      · simp [Fragment.raw, List.flatMap_map, params_tuple]

/-! ### Updates -/

theorem neutral_arithmetic (op : Arithmetic) : Neutral op.keyword := by
  cases op <;> decide

/-- An assignment binds its operand, whatever its operator. -/
theorem params_assignment {key : String} {operand : Operand} {f : Fragment}
    (h : assignment t key operand = .ok f) : f.params = operand.bound := by
  unfold assignment at h
  obtain ⟨⟨name, operator⟩, -, h⟩ := Outcome.bind_eq_ok.1 h
  obtain ⟨column, -, h⟩ := Outcome.bind_eq_ok.1 h
  cases operator with
  | none =>
    obtain rfl := Outcome.pure_eq_ok.1 h
    simp [Fragment.raw, params_bind]
  | some token =>
    simp only at h
    split at h
    · cases h
    · obtain rfl := Outcome.pure_eq_ok.1 h
      simp [Fragment.raw, params_bind]
    · cases h

theorem matched_assignment {key : String} {operand : Operand} (hraw : ∀ sql, operand ≠ .raw sql) {f : Fragment}
    (h : assignment t key operand = .ok f) : f.Matched t.dialect := by
  unfold assignment at h
  obtain ⟨⟨name, operator⟩, -, h⟩ := Outcome.bind_eq_ok.1 h
  obtain ⟨column, hcolumn, h⟩ := Outcome.bind_eq_ok.1 h
  have htarget : (Fragment.raw column).Matched t.dialect :=
    Fragment.matched_raw (Dialect.holds_neutral (neutral_of_isColumn (isColumn_of_validateColumn hcolumn)))
  cases operator with
  | none =>
    obtain rfl := Outcome.pure_eq_ok.1 h
    exact htarget.binary (by decide) (matched_bind hraw)
  | some token =>
    simp only at h
    split at h
    · cases h
    · obtain rfl := Outcome.pure_eq_ok.1 h
      exact htarget.binary (by decide) (htarget.binary (neutral_arithmetic _) (matched_bind hraw))
    · cases h

/-- Assignments and conditions bind what each of them binds. -/
theorem updateWith_binds {table : String} {assignments : List Fragment} {criteria : Criteria}
    (hassignments : ∀ f ∈ assignments, f.Matched t.dialect) (hbuilt : criteria.Built)
    (hraw : criteria.RawFree) {s : Statement} (h : updateWith t table assignments criteria = .ok s) :
    s.Binds t.dialect (assignments.flatMap Fragment.params ++ Condition.boundAll criteria.conditions) := by
  simp only [updateWith, Outcome.bind_eq_ok, Outcome.pure_eq_ok] at h
  obtain ⟨conditions, hconditions, rfl⟩ := h
  refine binds_ofFragment ?_ ?_
  · have htable := (Dialect.holds_neutral (a := "UPDATE ") (by decide)).append (t.holds_quoteTable table)
    have hintro := Fragment.matched_raw (htable.then (b := " SET ") (by decide))
    exact (hintro.append (Fragment.matched_join (by decide) hassignments)).append
      (Criteria.matched_whereClause hbuilt.plain hraw hconditions)
  · simp [Fragment.raw, Criteria.params_whereClause hconditions]

/-! ### Replacements -/

/-- The values of one pair, the old one first. -/
def boundPair (pair : Value × Value) : List Value := [pair.1.coerce, pair.2.coerce]

theorem params_replaceAssignment {column : String} {pairs : List (Value × Value)} {f : Fragment}
    (h : replaceAssignment column pairs = .ok f) : f.params = pairs.flatMap boundPair := by
  simp only [replaceAssignment, Outcome.bind_eq_ok, Outcome.pure_eq_ok] at h
  obtain ⟨name, -, rfl⟩ := h
  simp only [Fragment.params_append, Fragment.params_join, Fragment.raw, List.nil_append, List.append_nil,
    List.flatMap_map]
  rfl

theorem matched_replaceAssignment {column : String} {pairs : List (Value × Value)} {f : Fragment}
    (h : replaceAssignment column pairs = .ok f) : f.Matched t.dialect := by
  simp only [replaceAssignment, Outcome.bind_eq_ok, Outcome.pure_eq_ok] at h
  obtain ⟨name, hname, rfl⟩ := h
  have hcolumn : Neutral name := neutral_of_isColumn (isColumn_of_validateColumn hname)
  have hneutral : ∀ {sql : String}, Neutral sql → (Fragment.raw sql).Matched t.dialect := fun hsql =>
    Fragment.matched_raw (Dialect.holds_neutral hsql)
  have hbranch : ∀ pair, (replaceBranch name pair).Matched t.dialect := by
    intro pair
    have hwhen : Neutral " WHEN " := by decide
    have hintro := hneutral ((hwhen.append hcolumn).append (b := " = ") (by decide))
    exact ((hintro.append (Fragment.matched_value _)).append (hneutral (by decide))).append
      (Fragment.matched_value _)
  have helse : Neutral " ELSE " := by decide
  have hbranches := Fragment.matched_join (d := t.dialect) (s := "") (by decide)
    (List.forall_mem_map.2 fun pair (_ : pair ∈ pairs) => hbranch pair)
  exact ((hneutral (hcolumn.append (by decide))).append hbranches).append
    (hneutral ((helse.append hcolumn).append (by decide)))

/-! ### Queries -/

theorem query_binds {select table : String} {joins : List Join} {criteria : Criteria}
    (hselect : t.dialect.Holds select 0) (hjoins : ∀ j ∈ joins, j.Inert t) (hbuilt : criteria.Built)
    (hraw : criteria.RawFree) (hinert : criteria.Inert t) {s : Statement}
    (h : query t select table joins criteria = .ok s) :
    s.Binds t.dialect (Condition.boundAll criteria.conditions ++ Condition.boundAll criteria.having) := by
  simp only [query, Outcome.bind_eq_ok, Outcome.pure_eq_ok] at h
  obtain ⟨tables, htables, clauses, hclauses, rfl⟩ := h
  refine binds_ofFragment ?_ ?_
  · exact (Fragment.matched_raw (hselect.append (holds_fromClause hjoins htables))).append
      (Criteria.matched_clauses hbuilt.plain hraw hinert hclauses)
  · simp [Fragment.raw, Criteria.params_clauses hclauses]

theorem holds_aggregate {function : Aggregate} {column name : String} (h : aggregateColumn column = .ok name) :
    t.dialect.Holds ("SELECT " ++ function.keyword ++ "(" ++ name ++ ") AS " ++ Aggregate.asName) 0 := by
  have hname : Neutral name := by
    unfold aggregateColumn at h
    simp only at h
    split at h
    · obtain rfl := Except.ok.inj h
      decide
    · exact neutral_of_isColumn (isColumn_of_validateColumn h)
  have hintro : Neutral ("SELECT " ++ function.keyword ++ "(") := by cases function <;> decide
  exact Dialect.holds_neutral (((hintro.append hname).append (b := ") AS ") (by decide)).append (by decide))

end Statement

/-! ### All statements -/

namespace Request
open Statement

/-- The values that a request binds, in the order of the statement. -/
def boundValues : Request → List Value
  | select _ _ _ criteria | aggregate _ _ _ _ criteria =>
    Condition.boundAll criteria.conditions ++ Condition.boundAll criteria.having
  | insert _ rows => rows.flatMap fun row => (row.under (rows.headD {}).keys).flatMap Operand.bound
  | update _ data criteria =>
    data.entries.flatMap (fun entry => entry.2.bound) ++ Condition.boundAll criteria.conditions
  | delete _ criteria => Condition.boundAll criteria.conditions
  | replace _ replacements criteria =>
    replacements.columns.flatMap (fun entry => entry.2.flatMap boundPair) ++
      Condition.boundAll criteria.conditions

/-- The request has built criteria without raw operands, raw data or a verbatim select list; joins and orderings may
be raw if they hold no placeholder of their own. -/
def Bindable (t : Target) : Request → Prop
  | select _ joins items criteria =>
    items.Referential ∧ (∀ j ∈ joins, j.Inert t) ∧ criteria.Built ∧ criteria.RawFree ∧ criteria.Inert t
  | aggregate _ _ joins _ criteria =>
    (∀ j ∈ joins, j.Inert t) ∧ criteria.Built ∧ criteria.RawFree ∧ criteria.Inert t
  | insert _ rows => ∀ row ∈ rows, row.RawFree
  | update _ data criteria => data.RawFree ∧ criteria.Built ∧ criteria.RawFree
  | delete _ criteria => criteria.Built ∧ criteria.RawFree
  | replace _ _ criteria => criteria.Built ∧ criteria.RawFree

/-- **Positional binding.**  A statement carries the values of its request in order, and has exactly as many
placeholders, whatever the names of its tables and whatever the values. -/
theorem binds_compile {t : Target} {r : Request} {s : Statement} (hr : r.Bindable t) (h : r.compile t = .ok s) :
    s.Binds t.dialect r.boundValues := by
  cases r with
  | select table joins items criteria =>
    obtain ⟨hitems, hjoins, hbuilt, hraw, hinert⟩ := hr
    have hselect := (Dialect.holds_neutral (a := "SELECT ") (by decide)).append (hitems.holds_render (t := t))
    exact query_binds hselect hjoins hbuilt hraw hinert h
  | aggregate function table joins column criteria =>
    obtain ⟨hjoins, hbuilt, hraw, hinert⟩ := hr
    obtain ⟨name, hname, h⟩ := Outcome.bind_eq_ok.1 h
    exact query_binds (holds_aggregate hname) hjoins hbuilt hraw hinert h
  | insert table rows => exact insert_binds hr h
  | update table data criteria =>
    obtain ⟨hdata, hbuilt, hraw⟩ := hr
    simp only [compile, Statement.update] at h
    split at h
    · cases h
    · obtain ⟨assignments, hassignments, h⟩ := Outcome.bind_eq_ok.1 h
      have hbound : assignments.flatMap Fragment.params = data.entries.flatMap fun entry => entry.2.bound :=
        Outcome.flatMap_eq (Outcome.mapM_eq_ok_iff.1 hassignments) fun _ _ _ => params_assignment
      rw [boundValues, ← hbound]
      exact updateWith_binds (Outcome.forall_of_mapM hassignments fun entry hentry _ =>
        matched_assignment (hdata entry hentry)) hbuilt hraw h
  | delete table criteria =>
    obtain ⟨hbuilt, hraw⟩ := hr
    simp only [compile, Statement.delete, Outcome.bind_eq_ok, Outcome.pure_eq_ok] at h
    obtain ⟨conditions, hconditions, rfl⟩ := h
    have hintro := (Dialect.holds_neutral (a := "DELETE FROM ") (by decide)).append (t.holds_quoteTable table)
    refine binds_ofFragment ((Fragment.matched_raw hintro).append
      (Criteria.matched_whereClause hbuilt.plain hraw hconditions)) ?_
    simpa [Fragment.raw, boundValues] using Criteria.params_whereClause hconditions
  | replace table replacements criteria =>
    obtain ⟨hbuilt, hraw⟩ := hr
    simp only [compile, Statement.replace] at h
    split at h
    · cases h
    · obtain ⟨assignments, hassignments, h⟩ := Outcome.bind_eq_ok.1 h
      have hlisted : assignments.flatMap Fragment.params =
          (replacements.columns.filter fun entry => !entry.2.isEmpty).flatMap fun entry =>
            entry.2.flatMap boundPair :=
        Outcome.flatMap_eq (Outcome.mapM_eq_ok_iff.1 hassignments) fun _ _ _ => params_replaceAssignment
      have hbound : assignments.flatMap Fragment.params =
          replacements.columns.flatMap fun entry => entry.2.flatMap boundPair := by
        rw [hlisted]
        induction replacements.columns with
        | nil => rfl
        | cons entry rest ih => cases hpairs : entry.2 <;> simp [hpairs, ih]
      rw [boundValues, ← hbound]
      exact updateWith_binds (Outcome.forall_of_mapM hassignments fun _ _ _ => matched_replaceAssignment)
        hbuilt hraw h

/-- The question mark and the quote of the table do not count; neither does the test for null. -/
theorem binds_compile_update :
    let t : Target := ⟨.pgSql, "a?"⟩
    let nested := Condition.group .or
      [.compare "b" none (.value .null), .compare "c" (some .notIn) (.list [.int 2, .bool false])]
    let r := update "\"?" ⟨[("n[+]", .value (.bool true)), ("l", .list [.int 1, .null])]⟩
      (({} : Criteria).condition nested)
    let s : Statement :=
      ⟨"UPDATE \"a?\"\"?\" SET n = n + ?, l = ? WHERE (b IS NULL OR c NOT IN (?, ?))",
        [.int 1, .text "[1,null]", .int 2, .int 0]⟩
    r.Bindable t ∧ r.compile t = .ok s ∧ s.Binds t.dialect r.boundValues := by
  intro t nested r s
  have hdata : RowData.RawFree ⟨[("n[+]", .value (.bool true)), ("l", .list [.int 1, .null])]⟩ := by
    simp [RowData.RawFree]
  have hb : Condition.parse "b" (.value .null) = .ok (.compare "b" none (.value .null)) := rfl
  have hc : Condition.parse "c[NOT IN]" (.list [.int 2, .bool false]) =
      .ok (.compare "c" (some .notIn) (.list [.int 2, .bool false])) := rfl
  have hbuilt : nested.Built :=
    .group _ (List.forall_mem_cons.2 ⟨.parse hb, List.forall_mem_singleton.2 (.parse hc)⟩)
  have hraw : nested.RawFree :=
    .group _ (List.forall_mem_cons.2 ⟨.compare (by simp), List.forall_mem_singleton.2 (.compare (by simp))⟩)
  have hr : r.Bindable t :=
    ⟨hdata, .condition .empty hbuilt, List.forall_mem_singleton.2 hraw, by simp [Criteria.condition]⟩
  have hs : r.compile t = .ok s := by decide +kernel
  exact ⟨hr, hs, binds_compile hr hs⟩

end Request
end SqlToolkit
