import SqlToolkit.Proofs.Condition.Binding
import SqlToolkit.Proofs.Criteria.Built
import SqlToolkit.Statement.Query
import SqlToolkit.Statement.Write

/-!
# The placeholders of clauses

Tables, aliases, joins, select items and row windows hold no placeholder: names are quoted or bare, and numbers are
digits.  Raw SQL is written as it is, so it must hold none itself (`Inert`).  What is left are the two clauses of
conditions, so the clauses of criteria carry the values of these, and have one placeholder for each.
-/
namespace SqlToolkit
open Text

/-! ### Tables -/

namespace TableRef

/-- Neither the table nor its alias holds a placeholder. -/
structure Closed (d : Dialect) (ref : TableRef) : Prop where
  table : d.Holds ref.table 0
  asName : ∀ name, ref.asName = some name → d.Holds name 0

variable {d : Dialect} {ref : TableRef}

theorem Closed.render (h : ref.Closed d) : d.Holds ref.render 0 := by
  unfold TableRef.render
  split
  · next name hname => exact (h.table.then (b := " AS ") (by decide)).append (h.asName name hname)
  · exact h.table

theorem Closed.reference (h : ref.Closed d) : d.Holds ref.reference 0 := by
  unfold TableRef.reference
  cases hname : ref.asName with
  | none => exact h.table
  | some name => exact h.asName name hname

end TableRef

namespace Target
variable {t : Target}

theorem holds_quoteTable (t : Target) (table : String) : t.dialect.Holds (t.quoteTable table) 0 :=
  Dialect.holds_quote _ _

/-- A table holds no placeholder, whatever its name, prefix and alias. -/
theorem closed_tableRef (t : Target) (table : String) (asName : Option String) :
    (t.tableRef table asName).Closed t.dialect := by
  refine ⟨t.holds_quoteTable table, fun name hname => ?_⟩
  obtain ⟨given, -, rfl⟩ := Option.map_eq_some_iff.1 hname
  exact Dialect.holds_quote _ _

theorem closed_parseTable (t : Target) (spec : String) : (t.parseTable spec).Closed t.dialect := by
  unfold Target.parseTable
  split <;> exact t.closed_tableRef _ _

theorem holds_qualifiedColumn {column : String} (h : isColumn column = true) :
    t.dialect.Holds (t.qualifiedColumn column) 0 := by
  unfold Target.qualifiedColumn
  split
  · next table name hsplit =>
    have hname := neutral_ofList (splitDot_bare (isColumn_bare h).2 hsplit)
    exact ((t.holds_quoteTable _).then (b := ".") (by decide)).then hname
  · exact Dialect.holds_neutral (neutral_of_isColumn h)

/-- Raw SQL that holds no placeholder where it is written, and leaves no identifier open. -/
def Inert (t : Target) (sql : RawSql) : Prop := t.dialect.Holds (t.renderRaw sql) 0

/-- Raw SQL without question marks and quotes is inert, however its identifier tokens are expanded. -/
theorem inert_of_neutral {sql : RawSql} (h : Neutral sql.text) : t.Inert sql := by
  unfold Inert Target.renderRaw RawSql.expand
  refine Dialect.holds_join_zero fun text htext => ?_
  obtain ⟨piece, hpiece, rfl⟩ := List.mem_map.1 htext
  have hsource : ∀ c ∈ piece.source, isNeutral c = true := by
    intro c hc
    refine h c ?_
    rw [← RawSql.source_pieces none sql.text.toList]
    exact List.mem_flatMap.2 ⟨piece, hpiece, hc⟩
  have hkeyword : ∀ keyword : List Char, (∀ c ∈ keyword, c ∈ piece.source) →
      Neutral (String.ofList keyword) := by
    intro keyword hsub c hc
    rw [String.toList_ofList] at hc
    exact hsource c (hsub c hc)
  have hname : ∀ (name : String) (isTable : Bool), t.dialect.Holds
      (if isTable then t.quoteTable name else t.dialect.quote name) 0 := by
    intro name isTable
    cases isTable
    · exact Dialect.holds_quote _ _
    · exact t.holds_quoteTable _
  cases piece with
  | plain c =>
    refine Dialect.holds_neutral fun c' hc' => hsource c' ?_
    simpa [RawSql.Piece.render, RawSql.Piece.source] using hc'
  | name keyword identifier =>
    exact (Dialect.holds_neutral (hkeyword keyword fun c hc => by simp [RawSql.Piece.source, hc])).append
      (hname _ _)
  | qualified keyword table column =>
    have hintro := Dialect.holds_neutral (d := t.dialect)
      (hkeyword keyword fun c hc => by simp [RawSql.Piece.source, hc])
    exact ((hintro.append (hname _ true)).then (b := ".") (by decide)).append (hname _ false)

end Target

/-! ### Joins -/

namespace Join
variable {t : Target} {main : TableRef} {j : Join}

/-- The constraint of the join, if it is raw SQL, holds no placeholder. -/
def Inert (t : Target) (j : Join) : Prop := ∀ sql, j.constraint = some (.raw sql) → t.Inert sql

theorem holds_leftColumn (hmain : main.Closed t.dialect) {column : String} (h : isColumn column = true) :
    t.dialect.Holds (leftColumn main t column) 0 := by
  unfold leftColumn
  split
  · exact Target.holds_qualifiedColumn h
  · exact (hmain.reference.then (b := ".") (by decide)).then (neutral_of_isColumn h)

theorem holds_pairText (hmain : main.Closed t.dialect) {left right text : String}
    (h : j.pairText main t left right = .ok text) : t.dialect.Holds text 0 := by
  simp only [pairText, Outcome.bind_eq_ok, Outcome.pure_eq_ok] at h
  obtain ⟨l, hl, r, hr, rfl⟩ := h
  have hleft := holds_leftColumn hmain (isColumn_of_validateColumn hl)
  have hjoined := (t.closed_tableRef j.table j.asName).reference
  exact (((hleft.then (b := " = ") (by decide)).append hjoined).then (b := ".") (by decide)).then
    (neutral_of_isColumn (isColumn_of_validateColumn hr))

theorem holds_constraintText (hmain : main.Closed t.dialect) (hj : j.Inert t) {text : String}
    (h : j.constraintText main t = .ok text) : t.dialect.Holds text 0 := by
  unfold constraintText at h
  split at h
  · cases h
  · cases h
  · cases h
  · obtain ⟨names, hnames, h⟩ := Outcome.bind_eq_ok.1 h
    obtain rfl := Outcome.pure_eq_ok.1 h
    have hlist : Neutral (", ".intercalate names) := Neutral.intercalate (by decide)
      (Outcome.forall_of_mapM hnames fun _ _ _ hname => neutral_of_isColumn (isColumn_of_validateColumn hname))
    have hopen : Neutral "USING (" := by decide
    exact Dialect.holds_neutral ((hopen.append hlist).append (by decide))
  · obtain ⟨parts, hparts, h⟩ := Outcome.bind_eq_ok.1 h
    obtain rfl := Outcome.pure_eq_ok.1 h
    have hlist : t.dialect.Holds (" AND ".intercalate parts) 0 := Dialect.holds_intercalate_zero (by decide)
      (Outcome.forall_of_mapM hparts fun _ _ _ hpart => holds_pairText hmain hpart)
    exact (Dialect.holds_neutral (a := "ON ") (by decide)).append hlist
  · next sql hconstraint =>
    obtain rfl := Except.ok.inj h
    exact (Dialect.holds_neutral (a := "ON ") (by decide)).append (hj sql hconstraint)

theorem holds_render (hmain : main.Closed t.dialect) (hj : j.Inert t) {text : String}
    (h : j.render main t = .ok text) : t.dialect.Holds text 0 := by
  simp only [render, Outcome.bind_eq_ok, Outcome.pure_eq_ok] at h
  obtain ⟨constraint, hconstraint, rfl⟩ := h
  have hspace : Neutral " " := by decide
  have hkeyword : Neutral j.kind.keyword := by cases j.kind <;> decide
  have hintro := Dialect.holds_neutral (d := t.dialect) ((hspace.append hkeyword).append hspace)
  have htable := (t.closed_tableRef j.table j.asName).render
  exact ((hintro.append htable).then hspace).append (holds_constraintText hmain hj hconstraint)

end Join

/-! ### Queries -/

namespace SelectItem

/-- A column reference holds no placeholder, nor does its alias. -/
theorem holds_render_parse {t : Target} {reference name : String} {asName : Option String} {distinct : Bool}
    (h : parse reference = .column name asName distinct) : t.dialect.Holds ((parse reference).render t) 0 := by
  have hname : Neutral name ∧ ∀ a, asName = some a → Neutral a := by
    unfold parse at h
    simp only at h
    split at h
    · next column rest hcolumn =>
      split at h
      · next found hfound =>
        simp only [SelectItem.column.injEq] at h
        obtain ⟨rfl, rfl, -⟩ := h
        refine ⟨neutral_ofList (readColumn_bare hcolumn).2, fun a ha => ?_⟩
        obtain ⟨given, rfl, rfl⟩ := Option.map_eq_some_iff.1 ha
        exact neutral_ofList (readAliasEnd_bare hfound)
      · cases h
    · cases h
  have hmark : Neutral (if distinct then "DISTINCT " else "") := by cases distinct <;> decide
  rw [h]
  refine Dialect.holds_neutral ((hmark.append hname.1).append ?_)
  split
  · next a =>
    have has : Neutral " AS " := by decide
    exact has.append (hname.2 a rfl)
  · decide

end SelectItem

namespace SelectList

/-- The list selects everything, or column references only. -/
inductive Referential : SelectList → Prop
  | all : Referential all
  | references {columns : List String} :
      (∀ reference ∈ columns, ∃ name asName distinct,
        SelectItem.parse reference = .column name asName distinct) →
      Referential (.references columns)

theorem Referential.holds_render {t : Target} {s : SelectList} (h : s.Referential) :
    t.dialect.Holds (s.render t) 0 := by
  have hwildcard : ∀ item ∈ wildcard, t.dialect.Holds (item.render t) 0 := by
    intro item hitem
    obtain rfl := List.mem_singleton.1 hitem
    exact Dialect.holds_neutral (a := "*") (by decide)
  have hitems : ∀ item ∈ s.items, t.dialect.Holds (item.render t) 0 := by
    cases h with
    | all => exact hwildcard
    | references hcolumns =>
      simp only [items, orWildcard]
      split
      · exact hwildcard
      · refine List.forall_mem_map.2 fun reference hreference => ?_
        obtain ⟨name, asName, distinct, hparse⟩ := hcolumns reference hreference
        exact SelectItem.holds_render_parse hparse
  refine Dialect.holds_intercalate_zero (by decide) fun text htext => ?_
  obtain ⟨item, hitem, rfl⟩ := List.mem_map.1 htext
  exact hitems item hitem

end SelectList

namespace Statement
variable {t : Target}

/-- The tables of a query hold no placeholder. -/
theorem holds_fromClause {table text : String} {joins : List Join} (hjoins : ∀ j ∈ joins, j.Inert t)
    (h : fromClause t table joins = .ok text) : t.dialect.Holds text 0 := by
  simp only [fromClause, Outcome.bind_eq_ok, Outcome.pure_eq_ok] at h
  obtain ⟨rendered, hrendered, rfl⟩ := h
  have hmain := t.closed_parseTable table
  have hjoined : t.dialect.Holds (String.join rendered) 0 := Dialect.holds_join_zero
    (Outcome.forall_of_mapM hrendered fun j hj _ htext => Join.holds_render hmain (hjoins j hj) htext)
  exact ((Dialect.holds_neutral (a := " FROM ") (by decide)).append hmain.render).append hjoined

end Statement

/-! ### Criteria -/

namespace Dialect

theorem neutral_offsetFetch (count offset : Option Nat) : Neutral (offsetFetch count offset) := by
  have hoffset : Neutral " OFFSET " := by decide
  have hrows : Neutral " ROWS" := by decide
  refine ((hoffset.append (neutral_toString _)).append hrows).append ?_
  cases count with
  | none => decide
  | some n =>
    have hfetch : Neutral " FETCH NEXT " := by decide
    exact (hfetch.append (neutral_toString n)).append (by decide)

/-- A window is written with words and digits. -/
theorem neutral_limitClause (d : Dialect) (count offset : Option Nat) (ordered : Bool) :
    Neutral (d.limitClause count offset ordered) := by
  have hlimit : ∀ n : Nat, Neutral (" LIMIT " ++ toString n) := fun n =>
    Neutral.append (by decide) (neutral_toString n)
  have hoffset : ∀ n : Nat, Neutral (" OFFSET " ++ toString n) := fun n =>
    Neutral.append (by decide) (neutral_toString n)
  have hboth : ∀ n m : Nat, Neutral (" LIMIT " ++ toString n ++ " OFFSET " ++ toString m) := by
    intro n m
    rw [String.append_assoc]
    exact (hlimit n).append (hoffset m)
  have hordered : Neutral (if ordered then "" else " ORDER BY (SELECT 0)") := by cases ordered <;> decide
  have hfetch := hordered.append (neutral_offsetFetch count offset)
  have hnone : Neutral "" := by decide
  cases d with
  | mySql =>
    refine (hlimit _).append ?_
    cases offset with
    | none => exact hnone
    | some m => exact hoffset m
  | pgSql =>
    cases count <;> cases offset
    · exact hnone
    · exact hoffset _
    · exact hlimit _
    · exact hboth _ _
  | sqlite =>
    cases count <;> cases offset
    · exact hnone
    · exact Neutral.append (by decide) (neutral_toString _)
    · exact hlimit _
    · exact hboth _ _
  | oracle => exact neutral_offsetFetch count offset
  | sybase => exact hfetch
  | msSql => exact hfetch

end Dialect

namespace Criteria
variable {t : Target} {c : Criteria}

/-- Every ordering by raw SQL holds no placeholder. -/
def Inert (t : Target) (c : Criteria) : Prop := ∀ sql, OrderItem.raw sql ∈ c.orderBy → t.Inert sql

theorem holds_orderText (hplain : c.Plain) (hinert : c.Inert t) {item : OrderItem} (h : item ∈ c.orderBy) :
    t.dialect.Holds (orderText t item) 0 := by
  have hitem := hplain.orderBy item h
  cases item with
  | column name direction =>
    have hname := neutral_of_isColumn hitem
    match direction with
    | none => exact Dialect.holds_neutral hname
    | some .ascending => exact Dialect.holds_neutral (hname.append (by decide))
    | some .descending => exact Dialect.holds_neutral (hname.append (by decide))
  | raw sql => exact hinert sql h

theorem matched_clause {d : Dialect} {keyword : String} (hkeyword : Neutral keyword) {content : Fragment}
    (h : content.Matched d) : (clause keyword content).Matched d := by
  unfold clause
  split
  · exact Fragment.matched_empty
  · exact (Fragment.matched_raw (Dialect.holds_neutral hkeyword)).append h

/-- A clause of conditions carries what the conditions carry. -/
theorem params_clause {render : RawSql → String} {logic : Logic} {conditions : List Condition}
    {content : Fragment} (h : Condition.compileAll render logic conditions = .ok content) (keyword : String) :
    (clause keyword content).params = Condition.boundAll conditions := by
  rw [← Condition.params_compileAll h]
  unfold clause
  split
  · next hempty => exact (Condition.params_eq_nil_of_compileAll h hempty).symm
  · rfl

theorem matched_listClause {d : Dialect} {keyword : String} (hkeyword : Neutral keyword) {items : List String}
    (h : ∀ item ∈ items, d.Holds item 0) : (listClause keyword items).Matched d := by
  unfold listClause
  split
  · exact Fragment.matched_empty
  · have hitems := Dialect.holds_intercalate_zero (s := ", ") (by decide) h
    exact Fragment.matched_raw ((Dialect.holds_neutral hkeyword).append hitems)

theorem params_listClause (keyword : String) (items : List String) : (listClause keyword items).params = [] := by
  unfold listClause
  split <;> rfl

theorem matched_windowClause (c : Criteria) (t : Target) : (c.windowClause t).Matched t.dialect := by
  unfold windowClause
  split
  · exact Fragment.matched_raw (Dialect.holds_neutral (Dialect.neutral_limitClause _ _ _ _))
  · exact Fragment.matched_empty

theorem params_windowClause (c : Criteria) (t : Target) : (c.windowClause t).params = [] := by
  unfold windowClause
  split <;> rfl

theorem predicate_eq_ok {render : RawSql → String} {f : Fragment} :
    c.predicate render = .ok f ↔ c.error = none ∧ Condition.compileAll render .and c.conditions = .ok f := by
  unfold predicate
  cases c.error <;> simp

/-- What a write takes from criteria carries the values of their conditions. -/
theorem params_whereClause {f : Fragment} (h : c.whereClause t = .ok f) :
    f.params = Condition.boundAll c.conditions := by
  simp only [whereClause, Outcome.bind_eq_ok, Outcome.pure_eq_ok] at h
  obtain ⟨content, hcontent, rfl⟩ := h
  exact params_clause (predicate_eq_ok.1 hcontent).2 _

theorem matched_whereClause (hplain : c.Plain) (hraw : c.RawFree) {f : Fragment}
    (h : c.whereClause t = .ok f) : f.Matched t.dialect := by
  simp only [whereClause, Outcome.bind_eq_ok, Outcome.pure_eq_ok] at h
  obtain ⟨content, hcontent, rfl⟩ := h
  exact matched_clause (by decide)
    (Condition.matched_compileAll hplain.conditions hraw.conditions (predicate_eq_ok.1 hcontent).2)

/-- The clauses of a query carry the values of the conditions on rows, then of those on groups. -/
theorem params_clauses {f : Fragment} (h : c.clauses t = .ok f) :
    f.params = Condition.boundAll c.conditions ++ Condition.boundAll c.having := by
  simp only [clauses, Outcome.bind_eq_ok, Outcome.pure_eq_ok] at h
  obtain ⟨conditions, hconditions, having, hhaving, rfl⟩ := h
  simp [params_whereClause hconditions, params_clause hhaving, params_listClause, params_windowClause]

theorem matched_clauses (hplain : c.Plain) (hraw : c.RawFree) (hinert : c.Inert t) {f : Fragment}
    (h : c.clauses t = .ok f) : f.Matched t.dialect := by
  simp only [clauses, Outcome.bind_eq_ok, Outcome.pure_eq_ok] at h
  obtain ⟨conditions, hconditions, having, hhaving, rfl⟩ := h
  have hwhere := matched_whereClause hplain hraw hconditions
  have hgroup : (listClause " GROUP BY " c.groupBy).Matched t.dialect := matched_listClause (by decide)
    fun name hname => Dialect.holds_neutral (neutral_of_isColumn (hplain.groupBy name hname))
  have hgroups : (clause " HAVING " having).Matched t.dialect := matched_clause (by decide)
    (Condition.matched_compileAll hplain.having hraw.having hhaving)
  have horder : (listClause " ORDER BY " (c.orderBy.map (orderText t))).Matched t.dialect :=
    matched_listClause (by decide) (List.forall_mem_map.2 fun _ => holds_orderText hplain hinert)
  exact (((hwhere.append hgroup).append hgroups).append horder).append (matched_windowClause c t)

end Criteria
end SqlToolkit
