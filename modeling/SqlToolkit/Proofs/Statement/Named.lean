import SqlToolkit.Proofs.Outcome
import SqlToolkit.Proofs.Statement.Pattern
import SqlToolkit.Proofs.Text.Column
import SqlToolkit.Statement.Query
import SqlToolkit.Statement.Write

/-!
# The table of a query or a write

Queries, writes and joins name their table after their first words, under the prefix and once.
What stands behind the table begins with a space, whatever was asked for, so the name ends
where it should.

A query's table is given as a specification, which may hold an alias or have blanks around
it.  A name that is neither (`PlainName`) is taken as it is.
-/
namespace SqlToolkit
open Text Schema Outcome

/-- A table's name that is not read as anything else where a specification may stand. -/
structure PlainName (name : String) : Prop where
  /-- There are no blanks around it. -/
  trimmed : trim name = name
  /-- It is not a table with an alias in parentheses. -/
  no_alias : Target.readTableAlias name.toList = none

theorem quoting_quotes (d : Dialect) : Quoting d.quotes := by
  cases d <;> exact ⟨by decide, by decide, by decide⟩

namespace Target

theorem parseTable_of_plainName (t : Target) {name : String} (h : PlainName name) :
    t.parseTable name = ⟨t.quoteTable name, none⟩ := by
  unfold parseTable
  rw [h.no_alias]
  show t.tableRef (trim name) none = _
  rw [h.trimmed]
  rfl

end Target

/-! ## What stands behind the table -/

namespace Criteria

theorem spaced_clause (keyword : String) (hkeyword : keyword.toList.head? = some ' ') (content : Fragment) :
    Spaced (clause keyword content).sql := by
  unfold clause
  split
  · exact spaced_empty
  · exact spaced_words hkeyword content.sql

theorem spaced_listClause (keyword : String) (hkeyword : keyword.toList.head? = some ' ') (items : List String) :
    Spaced (listClause keyword items).sql := by
  unfold listClause
  split
  · exact spaced_empty
  · exact spaced_words hkeyword _

theorem spaced_offsetFetch (count offset : Option Nat) : Spaced (Dialect.offsetFetch count offset) := by
  unfold Dialect.offsetFetch
  rw [String.append_assoc, String.append_assoc]
  exact spaced_words (by decide) _

theorem spaced_limitClause (d : Dialect) (count offset : Option Nat) (ordered : Bool) :
    Spaced (d.limitClause count offset ordered) := by
  have hordered : Spaced (if ordered then "" else " ORDER BY (SELECT 0)") := by
    cases ordered
    · exact spaced_of_head (by decide)
    · exact spaced_empty
  cases d with
  | mySql =>
    unfold Dialect.limitClause
    rw [String.append_assoc]
    exact spaced_words (by decide) _
  | pgSql | sqlite =>
    unfold Dialect.limitClause
    rcases count with _ | n
    · rcases offset with _ | m
      · exact spaced_empty
      · exact spaced_words (by decide) _
    · rcases offset with _ | m
      · exact spaced_words (by decide) _
      · simp only [String.append_assoc]
        exact spaced_words (by decide) _
  | oracle => exact spaced_offsetFetch count offset
  | sybase | msSql => exact hordered.append (spaced_offsetFetch count offset)

theorem spaced_windowClause (c : Criteria) (t : Target) : Spaced (c.windowClause t).sql := by
  unfold windowClause
  split
  · exact spaced_limitClause _ _ _ _
  · exact spaced_empty

theorem spaced_whereClause {c : Criteria} {t : Target} {conditions : Fragment}
    (h : c.whereClause t = .ok conditions) : Spaced conditions.sql := by
  unfold whereClause at h
  obtain ⟨predicate, -, h⟩ := bind_eq_ok.1 h
  cases h
  exact spaced_clause " WHERE " (by decide) predicate

theorem spaced_clauses {c : Criteria} {t : Target} {clauses : Fragment} (h : c.clauses t = .ok clauses) :
    Spaced clauses.sql := by
  unfold Criteria.clauses at h
  obtain ⟨conditions, hconditions, h⟩ := bind_eq_ok.1 h
  obtain ⟨having, -, h⟩ := bind_eq_ok.1 h
  cases h
  have hgroup := spaced_listClause " GROUP BY " (by decide) c.groupBy
  have hhaving := spaced_clause " HAVING " (by decide) having
  have horder := spaced_listClause " ORDER BY " (by decide) (c.orderBy.map (orderText t))
  exact ((((spaced_whereClause hconditions).append hgroup).append hhaving).append horder).append
    (c.spaced_windowClause t)

end Criteria

theorem Join.spaced_render {j : Join} {main : TableRef} {t : Target} {text : String} (h : j.render main t = .ok text) :
    Spaced text := by
  unfold Join.render at h
  obtain ⟨constraint, -, h⟩ := bind_eq_ok.1 h
  cases h
  simp only [String.append_assoc]
  exact spaced_words (by decide) _

/-! ## Queries -/

variable {t : Target} {table : String} {statement : Statement}

namespace Statement

/-- **A query** names its table after the select clause. -/
theorem found?_query {select : String} {joins : List Join} {criteria : Criteria} (htable : PlainName table)
    (h : query t select table joins criteria = .ok statement) :
    found? t.dialect.quotes [.words (select ++ " FROM "), .identifier] statement.sql =
      some [t.tablePrefix ++ table] := by
  unfold query at h
  obtain ⟨tables, htables, h⟩ := bind_eq_ok.1 h
  obtain ⟨clauses, hclauses, h⟩ := bind_eq_ok.1 h
  cases h
  unfold fromClause at htables
  obtain ⟨rendered, hrendered, h⟩ := bind_eq_ok.1 htables
  cases h
  have hjoins : Spaced (String.join rendered) := by
    refine spaced_join <| forall_of_mapM hrendered fun j _ text hj => ?_
    exact Join.spaced_render hj
  have hrest := (quoting_quotes t.dialect).free_spaced (hjoins.append (Criteria.spaced_clauses hclauses))
  have hfound := found?_first (select ++ " FROM ") (t.tablePrefix ++ table) hrest
  rw [t.parseTable_of_plainName htable]
  show found? _ _ (select ++ (" FROM " ++ t.quoteTable table ++ String.join rendered) ++ clauses.sql) = _
  simp only [String.append_assoc] at hfound ⊢
  exact hfound

theorem found?_select {joins : List Join} {items : SelectList} {criteria : Criteria} (htable : PlainName table)
    (h : select t table joins items criteria = .ok statement) :
    found? t.dialect.quotes [.words ("SELECT " ++ items.render t ++ " FROM "), .identifier] statement.sql =
      some [t.tablePrefix ++ table] :=
  found?_query htable h

/-- The select clause of an aggregate. -/
def aggregateClause (function : Aggregate) (column : String) : String :=
  "SELECT " ++ function.keyword ++ "(" ++ trim column ++ ") AS " ++ Aggregate.asName

theorem found?_aggregate {function : Aggregate} {joins : List Join} {column : String} {criteria : Criteria}
    (htable : PlainName table) (h : aggregate t function table joins column criteria = .ok statement) :
    found? t.dialect.quotes [.words (aggregateClause function column ++ " FROM "), .identifier] statement.sql =
      some [t.tablePrefix ++ table] := by
  unfold aggregate at h
  obtain ⟨name, hname, h⟩ := bind_eq_ok.1 h
  obtain rfl : name = trim column := by
    unfold aggregateColumn at hname
    dsimp only at hname
    split at hname
    · next hall =>
      cases hname
      exact hall.symm
    · exact (validateColumn_eq_ok.1 hname).1
  exact found?_query htable h

/-! ## Writes -/

theorem found?_insert {rows : List RowData} (h : insert t table rows = .ok statement) :
    found? t.dialect.quotes [.words "INSERT INTO ", .identifier] statement.sql = some [t.tablePrefix ++ table] := by
  unfold insert at h
  split at h
  · cases h
  split at h
  · cases h
  obtain ⟨columns, -, h⟩ := bind_eq_ok.1 h
  obtain ⟨tuples, -, h⟩ := bind_eq_ok.1 h
  cases h
  show found? _ _ ("INSERT INTO " ++ t.quoteTable table ++ " (" ++ ", ".intercalate columns ++ ") VALUES " ++
    (Fragment.join tuples ", ").sql) = _
  simp only [String.append_assoc]
  refine found?_first _ _ ?_
  rw [String.toList_append]
  exact (quoting_quotes t.dialect).free_words (by decide) _

theorem found?_updateWith {assignments : List Fragment} {criteria : Criteria}
    (h : updateWith t table assignments criteria = .ok statement) :
    found? t.dialect.quotes [.words "UPDATE ", .identifier] statement.sql = some [t.tablePrefix ++ table] := by
  unfold updateWith at h
  obtain ⟨conditions, -, h⟩ := bind_eq_ok.1 h
  cases h
  show found? _ _ ("UPDATE " ++ t.quoteTable table ++ " SET " ++ (Fragment.join assignments ", ").sql ++
    conditions.sql) = _
  simp only [String.append_assoc]
  refine found?_first _ _ ?_
  rw [String.toList_append]
  exact (quoting_quotes t.dialect).free_words (by decide) _

theorem found?_update {data : RowData} {criteria : Criteria} (h : update t table data criteria = .ok statement) :
    found? t.dialect.quotes [.words "UPDATE ", .identifier] statement.sql = some [t.tablePrefix ++ table] := by
  unfold update at h
  split at h
  · cases h
  obtain ⟨assignments, -, h⟩ := bind_eq_ok.1 h
  exact found?_updateWith h

theorem found?_replace {replacements : Replacements} {criteria : Criteria}
    (h : replace t table replacements criteria = .ok statement) :
    found? t.dialect.quotes [.words "UPDATE ", .identifier] statement.sql = some [t.tablePrefix ++ table] := by
  unfold replace at h
  split at h
  · cases h
  obtain ⟨assignments, -, h⟩ := bind_eq_ok.1 h
  exact found?_updateWith h

theorem found?_delete {criteria : Criteria} (h : delete t table criteria = .ok statement) :
    found? t.dialect.quotes [.words "DELETE FROM ", .identifier] statement.sql = some [t.tablePrefix ++ table] := by
  unfold delete at h
  obtain ⟨conditions, hconditions, h⟩ := bind_eq_ok.1 h
  cases h
  show found? _ _ ("DELETE FROM " ++ t.quoteTable table ++ conditions.sql) = _
  rw [String.append_assoc]
  exact found?_first _ _ ((quoting_quotes t.dialect).free_spaced (Criteria.spaced_whereClause hconditions))

end Statement

/-! ## Joins -/

theorem Join.found?_render {j : Join} {main : TableRef} {text : String} (h : j.render main t = .ok text) :
    found? t.dialect.quotes [.words (" " ++ j.kind.keyword ++ " "), .identifier] text =
      some [t.tablePrefix ++ j.table] := by
  unfold Join.render at h
  obtain ⟨constraint, -, h⟩ := bind_eq_ok.1 h
  cases h
  have hquotes := quoting_quotes t.dialect
  have hrender : ∃ rest, Spaced rest ∧ (j.tableRef t).render ++ " " ++ constraint = t.quoteTable j.table ++ rest := by
    unfold Join.tableRef TableRef.render Target.tableRef
    cases j.asName with
    | none => exact ⟨" " ++ constraint, spaced_words (by decide) _, by simp [String.append_assoc]⟩
    | some asName =>
      refine ⟨" AS " ++ (t.dialect.quote asName ++ (" " ++ constraint)), spaced_words (by decide) _, ?_⟩
      simp [String.append_assoc]
  obtain ⟨rest, hspaced, hrest⟩ := hrender
  have hfound := found?_first (" " ++ j.kind.keyword ++ " ") (t.tablePrefix ++ j.table) (hquotes.free_spaced hspaced)
  simp only [String.append_assoc] at hfound hrest ⊢
  rw [hrest]
  exact hfound

end SqlToolkit
