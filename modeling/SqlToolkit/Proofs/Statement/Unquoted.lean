import SqlToolkit.Proofs.Schema.Token
import SqlToolkit.Proofs.Statement.Binding
import SqlToolkit.Proofs.Text.Over

/-!
# What is written without quotes

Values are bound and columns are bare, so the parts of a statement where placeholders stand have no quotes in them:
the conditions of its criteria, the rows of an insert, and the assignments of an update.
-/
namespace SqlToolkit
open Text Schema Outcome

namespace Text

/-- There are no quotes in a text, neither of identifiers nor of literals. -/
abbrev Quoteless (text : String) : Prop := Over (fun c => !isSchemaQuote c) text

theorem not_isSchemaQuote_of_isBareChar : ∀ c, isBareChar c = true → (!isSchemaQuote c) = true := by
  refine forall_bare_of_ne ['\'', '"', '\x60', '[', ']'] (by decide) fun c hc => ?_
  simpa [isSchemaQuote, not_or, and_assoc] using hc

theorem not_mem_of_quoteless {text : String} (h : Quoteless text) {c : Char} (hc : isSchemaQuote c = true) :
    c ∉ text.toList := fun hmem => by
  have hfree := over_iff.1 h c hmem
  rw [hc] at hfree
  cases hfree

theorem quoteless_of_isColumn {name : String} (h : isColumn name = true) : Quoteless name :=
  over_of_isColumn not_isSchemaQuote_of_isBareChar h

end Text

namespace Fragment
variable {f g : Fragment}

/-- The fragment has no quotes. -/
def Quoteless (f : Fragment) : Prop := Text.Quoteless f.sql

theorem quoteless_value (v : Value) : (value v).Quoteless := (by decide : Text.Quoteless "?")

theorem Quoteless.append (hf : f.Quoteless) (hg : g.Quoteless) : (f ++ g).Quoteless := Over.append hf hg

theorem Quoteless.paren (hf : f.Quoteless) : f.paren.Quoteless :=
  (Over.append (a := "(") (by decide) hf).append (by decide)

theorem Quoteless.trailing (hf : f.Quoteless) {op : String} (hop : Text.Quoteless op) : (f.trailing op).Quoteless :=
  (Over.append hf (b := " ") (by decide)).append hop

theorem Quoteless.binary (hf : f.Quoteless) {op : String} (hop : Text.Quoteless op) (hg : g.Quoteless) :
    (f.binary op g).Quoteless :=
  (Over.append (hf.trailing hop) (b := " ") (by decide)).append hg

theorem Quoteless.between (hf : f.Quoteless) (low high : Value) (negated : Bool) :
    (f.between low high negated).Quoteless := by
  have hkeyword : Text.Quoteless (if negated then " NOT BETWEEN " else " BETWEEN ") := by cases negated <;> decide
  exact (Over.append hf hkeyword).append (by decide)

theorem Quoteless.inList (hf : f.Quoteless) (values : List Value) (negated : Bool) :
    (f.inList values negated).Quoteless := by
  unfold Fragment.inList
  split
  · show Text.Quoteless (if negated then "1 = 1" else "1 = 0")
    cases negated <;> decide
  · have hkeyword : Text.Quoteless (if negated then " NOT IN (" else " IN (") := by cases negated <;> decide
    have hmarks : Text.Quoteless (", ".intercalate (values.map fun _ => "?")) :=
      over_intercalate (by decide) (List.forall_mem_map.2 fun _ _ => by decide)
    exact ((Over.append hf hkeyword).append hmarks).append (by decide)

theorem quoteless_join {separator : String} (hseparator : Text.Quoteless separator) {parts : List Fragment}
    (h : ∀ f ∈ parts, f.Quoteless) : (join parts separator).Quoteless :=
  over_intercalate hseparator (List.forall_mem_map.2 h)

end Fragment

/-! ### Conditions -/

namespace Condition
variable {column : String} {operator : Option Operator} {operand : Operand} {f : Fragment}

theorem Leaf.quoteless (h : Leaf column operator operand f) (hcolumn : isColumn column = true)
    (hraw : ∀ sql, operand ≠ .raw sql) : f.Quoteless := by
  have hname : (Fragment.raw column).Quoteless := quoteless_of_isColumn hcolumn
  have hkeyword (op : Operator) : Text.Quoteless op.keyword := by cases op <;> decide
  cases h with
  | equal => exact hname.binary (by decide) (Fragment.quoteless_value _)
  | null => exact hname.trailing (by decide)
  | notNull => exact hname.trailing (by decide)
  | scalar => exact hname.binary (hkeyword _) (Fragment.quoteless_value _)
  | member => exact hname.inList _ _
  | range => exact hname.between _ _ _
  | raw => exact absurd rfl (hraw _)

theorem closed_quoteless : Closed Fragment.Quoteless where
  join logic _ h := Fragment.quoteless_join (by cases logic <;> decide) h
  paren h := h.paren

/-- **Conditions have no quotes**, since their values are bound. -/
theorem quoteless_compileAll {render : RawSql → String} {logic : Logic} {conditions : List Condition}
    (hplain : ∀ c ∈ conditions, c.Plain) (hraw : ∀ c ∈ conditions, c.RawFree)
    (h : compileAll render logic conditions = .ok f) : f.Quoteless :=
  closed_quoteless.compileAll (fun _ _ _ _ hleaf hf => hf.quoteless hleaf.1 hleaf.2)
    (fun c hc => (hplain c hc).and (hraw c hc)) h

end Condition

/-! ### Criteria -/

namespace Criteria
variable {t : Target} {c : Criteria} {f : Fragment}

theorem quoteless_clause {keyword : String} (hkeyword : Text.Quoteless keyword) (h : f.Quoteless) :
    (clause keyword f).Quoteless := by
  unfold clause
  split
  · exact (by decide : Text.Quoteless "")
  · exact Over.append hkeyword h

theorem quoteless_whereClause (hplain : c.Plain) (hraw : c.RawFree) (h : c.whereClause t = .ok f) : f.Quoteless := by
  simp only [whereClause, bind_eq_ok, pure_eq_ok] at h
  obtain ⟨content, hcontent, rfl⟩ := h
  exact quoteless_clause (by decide)
    (Condition.quoteless_compileAll hplain.conditions hraw.conditions (predicate_eq_ok.1 hcontent).2)

theorem quoteless_groupBy (hplain : c.Plain) : (listClause " GROUP BY " c.groupBy).Quoteless := by
  unfold listClause
  split
  · exact (by decide : Text.Quoteless "")
  · have hcolumns : Text.Quoteless (", ".intercalate c.groupBy) :=
      over_intercalate (by decide) fun name hname => quoteless_of_isColumn (hplain.groupBy name hname)
    exact Over.append (a := " GROUP BY ") (by decide) hcolumns

end Criteria

/-! ### Rows and assignments -/

namespace Statement
variable {t : Target} {f : Fragment}

theorem quoteless_bind {operand : Operand} (h : ∀ sql, operand ≠ .raw sql) : (bind t operand).Quoteless := by
  cases operand with
  | value v => exact Fragment.quoteless_value v
  | list values => exact Fragment.quoteless_value _
  | raw sql => exact absurd rfl (h sql)

theorem quoteless_tuple {row : RowData} (h : row.RawFree) (keys : List String) : (tuple t keys row).Quoteless := by
  refine (Fragment.quoteless_join (by decide) (List.forall_mem_map.2 fun operand hoperand => ?_)).paren
  exact quoteless_bind (h.under operand hoperand)

theorem quoteless_insertColumn {key column : String} (h : insertColumn key = .ok column) : Text.Quoteless column := by
  unfold insertColumn at h
  obtain ⟨⟨name, operator⟩, -, h⟩ := bind_eq_ok.1 h
  simp only at h
  split at h
  · cases h
  · exact quoteless_of_isColumn (isColumn_of_validateColumn h)

theorem quoteless_assignment {key : String} {operand : Operand} (hraw : ∀ sql, operand ≠ .raw sql)
    (h : assignment t key operand = .ok f) : f.Quoteless := by
  have harithmetic (op : Arithmetic) : Text.Quoteless op.keyword := by cases op <;> decide
  unfold assignment at h
  obtain ⟨⟨name, operator⟩, -, h⟩ := bind_eq_ok.1 h
  obtain ⟨column, hcolumn, h⟩ := bind_eq_ok.1 h
  have htarget : (Fragment.raw column).Quoteless := quoteless_of_isColumn (isColumn_of_validateColumn hcolumn)
  cases operator with
  | none =>
    obtain rfl := pure_eq_ok.1 h
    exact htarget.binary (by decide) (quoteless_bind hraw)
  | some token =>
    simp only at h
    split at h
    · cases h
    · obtain rfl := pure_eq_ok.1 h
      exact htarget.binary (by decide) (htarget.binary (harithmetic _) (quoteless_bind hraw))
    · cases h

theorem quoteless_replaceAssignment {column : String} {pairs : List (Value × Value)}
    (h : replaceAssignment column pairs = .ok f) : f.Quoteless := by
  simp only [replaceAssignment, bind_eq_ok, pure_eq_ok] at h
  obtain ⟨name, hname, rfl⟩ := h
  have hcolumn : Text.Quoteless name := quoteless_of_isColumn (isColumn_of_validateColumn hname)
  have hbranch (pair : Value × Value) : (replaceBranch name pair).Quoteless := by
    have hintro : (Fragment.raw (" WHEN " ++ name ++ " = ")).Quoteless :=
      (Over.append (a := " WHEN ") (by decide) hcolumn).append (by decide)
    have hthen : (Fragment.raw " THEN ").Quoteless := (by decide : Text.Quoteless " THEN ")
    exact ((hintro.append (Fragment.quoteless_value _)).append hthen).append (Fragment.quoteless_value _)
  have hbranches := Fragment.quoteless_join (show Text.Quoteless "" by decide)
    (List.forall_mem_map.2 fun pair (_ : pair ∈ pairs) => hbranch pair)
  have hcase : (Fragment.raw (name ++ " = CASE")).Quoteless := Over.append hcolumn (by decide)
  have helse : (Fragment.raw (" ELSE " ++ name ++ " END")).Quoteless :=
    (Over.append (a := " ELSE ") (by decide) hcolumn).append (by decide)
  exact (hcase.append hbranches).append helse

end Statement
end SqlToolkit
