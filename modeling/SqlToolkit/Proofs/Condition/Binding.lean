import SqlToolkit.Proofs.Condition.Tree
import SqlToolkit.Proofs.Statement.Placeholder

/-!
# What a condition tree binds

The values that a tree binds can be read off the tree: the coerced operands of its comparisons from left to right,
however the comparisons are grouped.  A test for null binds nothing, and so do an empty list and raw SQL.  A compiled
tree carries exactly these values, and has one placeholder for each of them.
-/
namespace SqlToolkit
open Text

namespace Condition

/-! ### The values of a tree -/

/-- The values that a comparison binds. -/
def boundLeaf (operator : Option Operator) : Operand → List Value
  | .value v => if testsNull operator v then [] else [v.coerce]
  | .list values => values.map Value.coerce
  | .raw _ => []

mutual

/-- The values that a condition binds, depth first. -/
def bound : Condition → List Value
  | compare _ operator operand => boundLeaf operator operand
  | group _ children => boundAll children

/-- The values that conditions side by side bind. -/
def boundAll : List Condition → List Value
  | [] => []
  | condition :: rest => bound condition ++ boundAll rest

end

theorem boundAll_eq_flatMap (conditions : List Condition) : boundAll conditions = conditions.flatMap bound := by
  induction conditions with
  | nil => rfl
  | cons c cs ih => rw [boundAll, List.flatMap_cons, ih]

/-! ### The values of a compiled tree -/

variable {column : String} {operator : Option Operator} {operand : Operand} {f : Fragment}

/-- The predicate of a comparison carries the values of the comparison. -/
theorem Leaf.params (h : Leaf column operator operand f) : f.params = boundLeaf operator operand := by
  cases h with
  | equal hv => simp [boundLeaf, testsNull, hv, Fragment.raw, Fragment.value]
  | null => rfl
  | notNull hop => simp [boundLeaf, testsNull, Value.isNull, hop, Fragment.raw, Fragment.trailing]
  | scalar _ hnull => simp [boundLeaf, hnull, Fragment.raw, Fragment.value]
  | member values _ =>
    cases values with
    | nil => rfl
    | cons v values => simp [boundLeaf, Fragment.inList, Fragment.raw]
  | range low high _ => rfl
  | raw op hraw => simpa [boundLeaf, Fragment.raw] using hraw

/-- A predicate without text carries nothing, so leaving it out loses nothing. -/
theorem params_eq_nil_of_compileAll {render : RawSql → String} {logic : Logic} {conditions : List Condition}
    (h : compileAll render logic conditions = .ok f) (hempty : f.isEmpty = true) : f.params = [] := by
  obtain ⟨fs, -, rfl⟩ := compileAll_eq_ok.1 h
  rw [isEmpty_joinFilter, List.all_eq_true] at hempty
  rw [List.filter_eq_nil_iff.2 fun f hf => by simp [hempty f hf]]
  rfl

theorem params_eq_nil_of_compile {render : RawSql → String} {c : Condition} (h : compile render c = .ok f)
    (hempty : f.isEmpty = true) : f.params = [] := by
  cases c with
  | compare column operator operand =>
    rw [(leaf_of_compileCompare h).isEmpty] at hempty
    cases hempty
  | group logic children =>
    obtain ⟨inner, hinner, rfl⟩ := compile_group_eq_ok.1 h
    split at hempty
    · next hvoid =>
      rw [if_pos hvoid]
      exact params_eq_nil_of_compileAll hinner hvoid
    · rw [Fragment.isEmpty_paren] at hempty
      cases hempty

/-- Several conditions carry the values of each, in order. -/
theorem params_joinFilter {render : RawSql → String} {conditions : List Condition} {fs : List Fragment}
    (h : List.Forall₂ (fun c f => compile render c = .ok f) conditions fs) (separator : String) :
    (Fragment.join (fs.filter fun f => !f.isEmpty) separator).params = fs.flatMap Fragment.params := by
  rw [Fragment.params_join]
  induction h with
  | nil => rfl
  | @cons c f _ _ hf _ ih =>
    rw [List.flatMap_cons, ← ih]
    cases hempty : f.isEmpty with
    | true => simp [hempty, params_eq_nil_of_compile hf hempty]
    | false => simp [hempty]

theorem params_compile {render : RawSql → String} (c : Condition) :
    ∀ f, compile render c = .ok f → f.params = bound c := by
  induction c using inductionOn with
  | compare column operator operand =>
    intro f h
    exact (leaf_of_compileCompare h).params
  | group logic children ih =>
    intro f h
    obtain ⟨inner, hinner, rfl⟩ := compile_group_eq_ok.1 h
    obtain ⟨fs, hfs, rfl⟩ := compileAll_eq_ok.1 hinner
    rw [bound, boundAll_eq_flatMap, ← Outcome.flatMap_eq hfs ih, ← params_joinFilter hfs logic.separator]
    split <;> rfl

/-- **Conditions side by side carry the values of the trees**, depth first. -/
theorem params_compileAll {render : RawSql → String} {logic : Logic} {conditions : List Condition}
    (h : compileAll render logic conditions = .ok f) : f.params = boundAll conditions := by
  obtain ⟨fs, hfs, rfl⟩ := compileAll_eq_ok.1 h
  rw [boundAll_eq_flatMap, params_joinFilter hfs]
  exact Outcome.flatMap_eq hfs fun c _ => params_compile c

/-! ### The placeholders of a compiled tree -/

variable {d : Dialect}

theorem neutral_keyword (op : Operator) : Neutral op.keyword := by
  cases op <;> decide

/-- One placeholder for each value of a comparison without raw SQL. -/
theorem Leaf.matched (h : Leaf column operator operand f) (hcolumn : isColumn column = true)
    (hraw : ∀ sql, operand ≠ .raw sql) : f.Matched d := by
  have hname : (Fragment.raw column).Matched d :=
    Fragment.matched_raw (Dialect.holds_neutral (neutral_of_isColumn hcolumn))
  cases h with
  | equal => exact hname.binary (by decide) (Fragment.matched_value _)
  | null => exact hname.trailing (by decide)
  | notNull => exact hname.trailing (by decide)
  | scalar => exact hname.binary (neutral_keyword _) (Fragment.matched_value _)
  | member => exact hname.inList _ _
  | range => exact hname.between _ _ _
  | raw => exact absurd rfl (hraw _)

theorem closed_matched : Closed fun f => f.Matched d where
  join logic _ h := Fragment.matched_join (by cases logic <;> decide) h
  paren h := h.paren

/-- **Conditions side by side have one placeholder for each value.** -/
theorem matched_compileAll {render : RawSql → String} {logic : Logic} {conditions : List Condition}
    (hplain : ∀ c ∈ conditions, c.Plain) (hraw : ∀ c ∈ conditions, c.RawFree)
    (h : compileAll render logic conditions = .ok f) : f.Matched d :=
  closed_matched.compileAll (fun _ _ _ _ hleaf hf => hf.matched hleaf.1 hleaf.2)
    (fun c hc => (hplain c hc).and (hraw c hc)) h

end Condition
end SqlToolkit
