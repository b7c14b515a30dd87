import SqlToolkit.Proofs.Condition.Alike
import SqlToolkit.Proofs.Statement.Request

/-!
# Statement text does not depend on values

Requests are alike when they differ in bound values only: their criteria have alike conditions and are else the same,
their rows have the same keys and operands of the same kinds, their replacements the same columns with equally many
pairs.  The data of writes may differ in every value, even in being null.  Alike requests have the same text and
equally many values, or fail with the same cause, so no value is ever written into a statement or into an error.
-/
namespace SqlToolkit
open Outcome

/-! ### Criteria -/

namespace Criteria

/-- Criteria that differ in the values of their conditions only. -/
structure Alike (c d : Criteria) : Prop where
  conditions : Condition.AlikeAll c.conditions d.conditions
  groupBy : c.groupBy = d.groupBy
  having : Condition.AlikeAll c.having d.having
  orderBy : c.orderBy = d.orderBy
  window : c.window = d.window
  error : c.error = d.error

variable {c d : Criteria}

theorem alike_clause (keyword : String) {f g : Fragment} (h : f.Alike g) :
    (clause keyword f).Alike (clause keyword g) := by
  unfold clause
  rw [h.isEmpty]
  split
  · exact .refl _
  · exact (Fragment.Alike.refl _).append h

theorem Alike.agree_whereClause (h : c.Alike d) (t : Target) :
    Agree Fragment.Alike (c.whereClause t) (d.whereClause t) := by
  have hpredicate : Agree Fragment.Alike (c.predicate t.renderRaw) (d.predicate t.renderRaw) := by
    unfold predicate
    rw [h.error]
    split
    · exact .error _
    · exact h.conditions.agree_compileAll _ _
  exact hpredicate.bind fun _ _ hcontent => .ok (alike_clause _ hcontent)

theorem Alike.agree_clauses (h : c.Alike d) (t : Target) : Agree Fragment.Alike (c.clauses t) (d.clauses t) := by
  refine (h.agree_whereClause t).bind fun _ _ hconditions => ?_
  refine (h.having.agree_compileAll _ _).bind fun _ _ hhaving => .ok ?_
  have hwindow : c.windowClause t = d.windowClause t := by
    unfold windowClause
    rw [h.window, h.orderBy]
  rw [h.groupBy, h.orderBy, hwindow]
  exact (((hconditions.append (.refl _)).append (alike_clause _ hhaving)).append (.refl _)).append (.refl _)

/-! #### Steps -/

/-- The cause for which a key is rejected does not depend on its operand. -/
theorem agree_parse (key : String) {x y : Operand} (h : x.Alike y) :
    Agree Condition.Alike (Condition.parse key x) (Condition.parse key y) := by
  unfold Condition.parse
  split
  · exact .error _
  · refine Agree.bind_same _ fun split => ?_
    refine Agree.bind_same _ fun operator => ?_
    exact Agree.bind_same _ fun column => .ok (.compare _ _ h)

/-- **Criteria that are built alike are alike**: fields with alike operands. -/
theorem Alike.field (h : c.Alike d) (key : String) {x y : Operand} (hoperand : x.Alike y) :
    (c.field key x).Alike (d.field key y) := by
  unfold Criteria.field
  obtain ⟨cause, hx, hy⟩ | ⟨a, b, hx, hy, hab⟩ := agree_parse key hoperand
  · rw [hx, hy]
    exact { h with error := by simp only [keepError, h.error] }
  · rw [hx, hy]
    exact { h with conditions := h.conditions.append (.cons hab .nil) }

theorem Alike.absorb (h : c.Alike d) {c' d' : Criteria} (hnested : c'.Alike d') :
    (c.absorb c').Alike (d.absorb d') :=
  { h with error := by simp only [Criteria.absorb, h.error, hnested.error] }

theorem Alike.condition (h : c.Alike d) {x y : Condition} (hadded : x.Alike y) :
    (c.condition x).Alike (d.condition y) :=
  { h with conditions := h.conditions.append (.cons hadded .nil) }

theorem Alike.group (h : c.Alike d) (logic : Logic) {c' d' : Criteria} (hnested : c'.Alike d') :
    (c.group logic c').Alike (d.group logic d') :=
  (h.absorb hnested).condition (.group logic hnested.conditions)

theorem Alike.havingAll (h : c.Alike d) {c' d' : Criteria} (hnested : c'.Alike d') :
    (c.havingAll c').Alike (d.havingAll d') :=
  { h.absorb hnested with having := h.having.append hnested.conditions }

end Criteria

/-! ### The data of writes -/

/-- Operands of a row that are of one kind; raw SQL is the same. -/
inductive Operand.SameKind : Operand → Operand → Prop
  | value (v w : Value) : SameKind (.value v) (.value w)
  | list (values values' : List Value) : SameKind (.list values) (.list values')
  | raw (sql : RawSql) : SameKind (.raw sql) (.raw sql)

/-- Rows with the same keys and operands of the same kinds. -/
def RowData.Alike (r s : RowData) : Prop :=
  List.Forall₂ (fun e e' => e.1 = e'.1 ∧ e.2.SameKind e'.2) r.entries s.entries

/-- Replacements in the same columns, with equally many pairs in each. -/
def Replacements.Alike (r s : Replacements) : Prop :=
  List.Forall₂ (fun e e' => e.1 = e'.1 ∧ e.2.length = e'.2.length) r.columns s.columns

namespace RowData
variable {r s : RowData}

theorem Alike.keys (h : r.Alike s) : r.keys = s.keys := by
  unfold RowData.keys
  unfold Alike at h
  generalize r.entries = entries, s.entries = entries' at h ⊢
  induction h with
  | nil => rfl
  | cons hentry _ ih => rw [List.map_cons, List.map_cons, hentry.1, ih]

theorem Alike.isEmpty (h : r.Alike s) : r.isEmpty = s.isEmpty :=
  isEmpty_eq_of_length_eq h.length_eq

theorem Alike.sameKeys {r' s' : RowData} (h : r.Alike s) (h' : r'.Alike s') : r.sameKeys r' = s.sameKeys s' := by
  unfold RowData.sameKeys
  rw [h.keys, h'.keys, h.length_eq, h'.length_eq]

/-- Under one key both rows have operands of one kind, or none. -/
theorem Alike.get? (h : r.Alike s) (key : String) :
    (r.get? key = none ∧ s.get? key = none) ∨
      ∃ x y, r.get? key = some x ∧ s.get? key = some y ∧ x.SameKind y := by
  unfold RowData.get?
  unfold Alike at h
  generalize r.entries = entries, s.entries = entries' at h ⊢
  induction h with
  | nil => exact .inl ⟨rfl, rfl⟩
  | @cons e e' _ _ hentry _ ih =>
    rw [List.lookup_cons, List.lookup_cons, ← hentry.1]
    cases hkey : key == e.1 with
    | true => exact .inr ⟨_, _, rfl, rfl, hentry.2⟩
    | false => exact ih

end RowData

namespace Replacements
variable {r s : Replacements}

theorem Alike.isEmpty (h : r.Alike s) : r.isEmpty = s.isEmpty := by
  unfold Replacements.isEmpty
  unfold Alike at h
  generalize r.columns = columns, s.columns = columns' at h ⊢
  induction h with
  | nil => rfl
  | cons hentry _ ih => rw [List.all_cons, List.all_cons, isEmpty_eq_of_length_eq hentry.2, ih]

/-- The same columns have pairs. -/
theorem Alike.listed (h : r.Alike s) :
    List.Forall₂ (fun e e' => e.1 = e'.1 ∧ e.2.length = e'.2.length)
      (r.columns.filter fun entry => !entry.2.isEmpty) (s.columns.filter fun entry => !entry.2.isEmpty) := by
  unfold Alike at h
  generalize r.columns = columns, s.columns = columns' at h ⊢
  induction h with
  | nil => exact .nil
  | @cons e e' _ _ hentry _ ih =>
    rw [List.filter_cons, List.filter_cons, isEmpty_eq_of_length_eq hentry.2]
    split
    · exact .cons hentry ih
    · exact ih

end Replacements

namespace Statement

/-- Statements with the same text and equally many values. -/
structure Alike (s s' : Statement) : Prop where
  sql : s.sql = s'.sql
  params : s.params.length = s'.params.length

theorem alike_ofFragment {f g : Fragment} (h : f.Alike g) : (ofFragment f).Alike (ofFragment g) := ⟨h.sql, h.params⟩

variable (t : Target)

/-- An operand in a row is written by its kind. -/
theorem alike_bind {x y : Operand} (h : x.SameKind y) : (bind t x).Alike (bind t y) := by
  cases h with
  | value v w => exact Fragment.alike_value v w
  | list values values' => exact Fragment.alike_value _ _
  | raw sql => exact .refl _

theorem alike_tuple (keys : List String) {r s : RowData} (h : r.Alike s) :
    (tuple t keys r).Alike (tuple t keys s) := by
  refine (Fragment.alike_join ?_ _).paren
  induction keys with
  | nil => exact .nil
  | cons key keys ih =>
    obtain ⟨hr, hs⟩ | ⟨x, y, hr, hs, hxy⟩ := h.get? key
    · rw [List.filterMap_cons_none hr, List.filterMap_cons_none hs]
      exact ih
    · rw [List.filterMap_cons_some hr, List.filterMap_cons_some hs]
      exact .cons (alike_bind t hxy) ih

theorem agree_tuples {first first' : RowData} (hfirst : first.Alike first') {rows rows' : List RowData}
    (h : List.Forall₂ RowData.Alike rows rows') (index : Nat) :
    Agree (List.Forall₂ Fragment.Alike) (tuples t first index rows) (tuples t first' index rows') := by
  induction h generalizing index with
  | nil => exact .ok .nil
  | cons hrow _ ih =>
    simp only [tuples, hrow.sameKeys hfirst, hfirst.keys]
    split
    · exact .error _
    · exact (ih (index + 1)).bind fun _ _ hothers => .ok (.cons (alike_tuple t _ hrow) hothers)

theorem agree_insert (table : String) {rows rows' : List RowData} (h : List.Forall₂ RowData.Alike rows rows') :
    Agree Alike (insert t table rows) (insert t table rows') := by
  cases h with
  | nil => exact .error _
  | @cons first first' rest rest' hfirst hrest =>
    simp only [insert, hfirst.isEmpty, hfirst.keys]
    split
    · exact .error _
    · refine Agree.bind_same _ fun columns => ?_
      refine (agree_tuples t hfirst (.cons hfirst hrest) 0).bind fun _ _ htuples => .ok ?_
      exact alike_ofFragment ((Fragment.Alike.refl _).append (Fragment.alike_join htuples _))

/-- The cause for which an assignment is rejected depends on the kind of its operand only. -/
theorem agree_assignment (key : String) {x y : Operand} (h : x.SameKind y) :
    Agree Fragment.Alike (assignment t key x) (assignment t key y) := by
  unfold assignment
  refine Agree.bind_same _ fun split => ?_
  refine Agree.bind_same _ fun column => ?_
  have htarget := Fragment.Alike.refl (.raw column)
  cases split.2 with
  | none => exact .ok (htarget.binary _ (alike_bind t h))
  | some token =>
    simp only
    cases Arithmetic.ofToken? token with
    | none => exact .error _
    | some op =>
      cases h with
      | value v w => exact .ok (htarget.binary _ (htarget.binary _ (alike_bind t (.value v w))))
      | list values values' => exact .error _
      | raw sql => exact .ok (.refl _)

theorem agree_updateWith (table : String) {fs gs : List Fragment} (h : List.Forall₂ Fragment.Alike fs gs)
    {c d : Criteria} (hcriteria : c.Alike d) : Agree Alike (updateWith t table fs c) (updateWith t table gs d) := by
  refine (hcriteria.agree_whereClause t).bind fun _ _ hconditions => .ok ?_
  exact alike_ofFragment (((Fragment.Alike.refl _).append (Fragment.alike_join h _)).append hconditions)

theorem agree_update (table : String) {r s : RowData} (h : r.Alike s) {c d : Criteria} (hcriteria : c.Alike d) :
    Agree Alike (update t table r c) (update t table s d) := by
  unfold update
  rw [h.isEmpty]
  split
  · exact .error _
  · refine (Agree.mapM h fun e e' hentry => ?_).bind fun _ _ hassignments =>
      agree_updateWith t table hassignments hcriteria
    rw [hentry.1]
    exact agree_assignment t _ hentry.2

theorem agree_delete (table : String) {c d : Criteria} (hcriteria : c.Alike d) :
    Agree Alike (delete t table c) (delete t table d) :=
  (hcriteria.agree_whereClause t).bind fun _ _ hconditions =>
    .ok (alike_ofFragment ((Fragment.Alike.refl _).append hconditions))

theorem agree_replaceAssignment (column : String) {pairs pairs' : List (Value × Value)}
    (h : pairs.length = pairs'.length) :
    Agree Fragment.Alike (replaceAssignment column pairs) (replaceAssignment column pairs') := by
  refine Agree.bind_same _ fun name => .ok ?_
  have hbranch : ∀ pair pair', (replaceBranch name pair).Alike (replaceBranch name pair') := fun pair pair' =>
    (((Fragment.Alike.refl _).append (Fragment.alike_value _ _)).append (.refl _)).append (Fragment.alike_value _ _)
  have hbranches : List.Forall₂ Fragment.Alike (pairs.map (replaceBranch name)) (pairs'.map (replaceBranch name)) := by
    rw [List.forall₂_map_left_iff, List.forall₂_map_right_iff, List.forall₂_iff_get]
    exact ⟨h, fun _ _ _ => hbranch _ _⟩
  exact ((Fragment.Alike.refl _).append (Fragment.alike_join hbranches _)).append (.refl _)

theorem agree_replace (table : String) {r s : Replacements} (h : r.Alike s) {c d : Criteria}
    (hcriteria : c.Alike d) : Agree Alike (replace t table r c) (replace t table s d) := by
  unfold replace
  rw [h.isEmpty]
  split
  · exact .error _
  · refine (Agree.mapM h.listed fun e e' hentry => ?_).bind fun _ _ hassignments =>
      agree_updateWith t table hassignments hcriteria
    rw [hentry.1]
    exact agree_replaceAssignment _ hentry.2

theorem agree_query (select table : String) (joins : List Join) {c d : Criteria} (hcriteria : c.Alike d) :
    Agree Alike (query t select table joins c) (query t select table joins d) := by
  refine Agree.bind_same _ fun tables => ?_
  exact (hcriteria.agree_clauses t).bind fun _ _ hclauses =>
    .ok (alike_ofFragment ((Fragment.Alike.refl _).append hclauses))

end Statement

/-! ### All statements -/

namespace Request
open Statement

/-- Requests that differ in bound values only. -/
inductive Alike : Request → Request → Prop
  | select (table : String) (joins : List Join) (items : SelectList) {c d : Criteria} :
      c.Alike d → Alike (.select table joins items c) (.select table joins items d)
  | aggregate (function : Aggregate) (table : String) (joins : List Join) (column : String) {c d : Criteria} :
      c.Alike d → Alike (.aggregate function table joins column c) (.aggregate function table joins column d)
  | insert (table : String) {rows rows' : List RowData} :
      List.Forall₂ RowData.Alike rows rows' → Alike (.insert table rows) (.insert table rows')
  | update (table : String) {r s : RowData} {c d : Criteria} :
      r.Alike s → c.Alike d → Alike (.update table r c) (.update table s d)
  | delete (table : String) {c d : Criteria} : c.Alike d → Alike (.delete table c) (.delete table d)
  | replace (table : String) {r s : Replacements} {c d : Criteria} :
      r.Alike s → c.Alike d → Alike (.replace table r c) (.replace table s d)

/-- **No value reaches the text.**  Two requests that differ in bound values only are either rejected with one cause,
or written with the same text and equally many values. -/
theorem agree_of_alike (t : Target) {r s : Request} (h : r.Alike s) :
    Agree Statement.Alike (r.compile t) (s.compile t) := by
  cases h with
  | select table joins items hcriteria => exact agree_query t _ table joins hcriteria
  | aggregate function table joins column hcriteria =>
    exact Agree.bind_same _ fun name => agree_query t _ table joins hcriteria
  | insert table hrows => exact agree_insert t table hrows
  | update table hdata hcriteria => exact agree_update t table hdata hcriteria
  | delete table hcriteria => exact agree_delete t table hcriteria
  | replace table hreplacements hcriteria => exact agree_replace t table hreplacements hcriteria

/-- A hostile text and a number, under a list of two values each, give one statement. -/
theorem agree_of_alike_update :
    let c := Criteria.condition {} (.compare "id" (some .isIn) (.list [.int 1, .null]))
    let d := Criteria.condition {} (.compare "id" (some .isIn) (.list [.text "1) OR (1 = 1", .int 2]))
    let r := update "users" ⟨[("name", .value (.text "x' --"))]⟩ c
    let s := update "users" ⟨[("name", .value .null)]⟩ d
    r.Alike s ∧ Agree Statement.Alike (r.compile ⟨.pgSql, ""⟩) (s.compile ⟨.pgSql, ""⟩) ∧
      r.compile ⟨.pgSql, ""⟩ =
        .ok ⟨"UPDATE \"users\" SET name = ? WHERE id IN (?, ?)", [.text "x' --", .int 1, .null]⟩ := by
  intro c d r s
  have hcriteria : c.Alike d := ⟨.cons (.compare _ _ (.list rfl)) .nil, rfl, .nil, rfl, rfl, rfl⟩
  have h : r.Alike s := .update _ (.cons ⟨rfl, .value _ _⟩ .nil) hcriteria
  have hr : r.compile ⟨.pgSql, ""⟩ =
      .ok ⟨"UPDATE \"users\" SET name = ? WHERE id IN (?, ?)", [.text "x' --", .int 1, .null]⟩ := by decide +kernel
  exact ⟨h, agree_of_alike _ h, hr⟩

end Request
end SqlToolkit
