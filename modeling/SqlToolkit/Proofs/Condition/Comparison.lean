import SqlToolkit.Proofs.Condition.Tree

/-!
# The comparisons of a tree

Whatever groups a tree is made of, what it says and what can be wrong with it lies in its comparisons, taken depth
first.  A tree compiles to no text exactly when it has no comparison (`isEmpty_compileAll`), since a comparison always
has text and a group with text keeps it.  A tree fails to compile exactly when the operand of some comparison has a shape
that the operator does not take, and the first such comparison is the one reported (`failure?_compileAll`).
-/
namespace SqlToolkit
open Outcome

/-- A comparison of a tree. -/
structure Comparison where
  column : String
  operator : Option Operator
  operand : Operand

/-- The cause for which an operand does not fit its operator.  Membership takes no single value, a range takes two
bounds, and every other operator takes no list.  Without an operator every operand fits. -/
def Comparison.misfit? (c : Comparison) : Option CompileError :=
  match c.operator with
  | none => none
  | some op =>
    match op.shape, c.operand with
    | .membership _, .value _ => some (.expectedList c.column op.keyword)
    | .range _, .list values =>
      if values.length = 2 then none else some (.betweenArity c.column op.keyword values.length)
    | .range _, .value _ | .range _, .raw _ => some (.expectedList c.column op.keyword)
    | .scalar, .list _ => some (.expectedScalar c.column op.keyword)
    | _, _ => none

namespace Condition

mutual

/-- The comparisons of a condition, depth first. -/
def comparisons : Condition → List Comparison
  | compare column operator operand => [⟨column, operator, operand⟩]
  | group _ children => comparisonsAll children

/-- The comparisons of several conditions, in order. -/
def comparisonsAll : List Condition → List Comparison
  | [] => []
  | condition :: rest => comparisons condition ++ comparisonsAll rest

end

theorem comparisonsAll_append (cs ds : List Condition) :
    comparisonsAll (cs ++ ds) = comparisonsAll cs ++ comparisonsAll ds := by
  induction cs with
  | nil => rfl
  | cons c cs ih => rw [List.cons_append, comparisonsAll, comparisonsAll, ih, List.append_assoc]

/-- The cause that a tree fails for: what is wrong with its first comparison that does not fit. -/
def firstMisfit (conditions : List Condition) : Option CompileError :=
  (comparisonsAll conditions).findSome? Comparison.misfit?

theorem firstMisfit_append (cs ds : List Condition) :
    firstMisfit (cs ++ ds) = (firstMisfit cs).or (firstMisfit ds) := by
  rw [firstMisfit, comparisonsAll_append, List.findSome?_append]
  rfl

/-! ### What compiles to no text -/

/-- Conditions side by side have no text only when they have no comparison, if this holds of each. -/
theorem isEmpty_joined {render : RawSql → String} {conditions : List Condition} {fs : List Fragment}
    (h : List.Forall₂ (fun c f => compile render c = .ok f) conditions fs)
    (hempty : ∀ c ∈ conditions, ∀ f, compile render c = .ok f → (f.isEmpty = true ↔ comparisons c = []))
    (separator : String) :
    (Fragment.join (fs.filter fun f => !f.isEmpty) separator).isEmpty = true ↔ comparisonsAll conditions = [] := by
  rw [isEmpty_joinFilter]
  induction h with
  | nil => simp [comparisonsAll]
  | cons hf _ ih =>
    obtain ⟨hc, hcs⟩ := List.forall_mem_cons.1 hempty
    rw [List.all_cons, Bool.and_eq_true, hc _ hf, ih hcs, comparisonsAll, List.append_eq_nil_iff]

theorem isEmpty_compile {render : RawSql → String} (c : Condition) :
    ∀ f, compile render c = .ok f → (f.isEmpty = true ↔ comparisons c = []) := by
  induction c using inductionOn with
  | compare column operator operand =>
    intro f h
    simp [(leaf_of_compileCompare h).isEmpty, comparisons]
  | group logic children ih =>
    intro f h
    obtain ⟨inner, hinner, rfl⟩ := compile_group_eq_ok.1 h
    obtain ⟨fs, hfs, rfl⟩ := compileAll_eq_ok.1 hinner
    rw [comparisons, ← isEmpty_joined hfs ih logic.separator]
    -- parentheses stand only around an inside with text
    split
    · rfl
    · next hinner => simp [hinner, Fragment.isEmpty_paren]

/-- **Only a tree without comparisons has no text.** -/
theorem isEmpty_compileAll {render : RawSql → String} {logic : Logic} {conditions : List Condition} {f : Fragment}
    (h : compileAll render logic conditions = .ok f) : f.isEmpty = true ↔ comparisonsAll conditions = [] := by
  obtain ⟨fs, hfs, rfl⟩ := compileAll_eq_ok.1 h
  exact isEmpty_joined hfs (fun c _ => isEmpty_compile c) logic.separator

/-! ### What fails to compile -/

/-- A comparison fails exactly when its operand does not fit. -/
theorem failure?_compileCompare (render : RawSql → String) (column : String) (operator : Option Operator)
    (operand : Operand) :
    failure? (compileCompare render column operator operand) = Comparison.misfit? ⟨column, operator, operand⟩ := by
  cases operator with
  | none => rfl
  | some op =>
    simp only [compileCompare, Comparison.misfit?]
    cases op.shape with
    | scalar =>
      cases operand with
      | value v =>
        simp only [compileScalar]
        split <;> rfl
      | list values | raw sql => rfl
    | membership negated => cases operand <;> rfl
    | range negated =>
      match operand with
      | .value _ | .raw _ => rfl
      -- two bounds are told from any other number of them by their shape, and here by their length
      | .list [] | .list [_] | .list [_, _] => rfl
      | .list (_ :: _ :: _ :: _) => simp [compileRange]

mutual

theorem failure?_compile (render : RawSql → String) (c : Condition) :
    failure? (compile render c) = (comparisons c).findSome? Comparison.misfit? := by
  match c with
  | .compare column operator operand =>
    simp only [compile, comparisons, List.findSome?_singleton]
    exact failure?_compileCompare render column operator operand
  | .group logic children =>
    simp only [compile, comparisons]
    exact (failure?_bind_pure _ _).trans (failure?_compileParts render children)

theorem failure?_compileParts (render : RawSql → String) (cs : List Condition) :
    failure? (compileParts render cs) = firstMisfit cs := by
  match cs with
  | [] => rfl
  | c :: cs =>
    rw [compileParts, firstMisfit, comparisonsAll, List.findSome?_append]
    refine (failure?_both _ _ _).trans ?_
    rw [failure?_compile render c, failure?_compileParts render cs, firstMisfit]

end

/-- **A tree fails for its first comparison that does not fit**, and only then. -/
theorem failure?_compileAll (render : RawSql → String) (logic : Logic) (conditions : List Condition) :
    failure? (compileAll render logic conditions) = firstMisfit conditions :=
  (failure?_bind_pure _ _).trans (failure?_compileParts render conditions)

end Condition
end SqlToolkit
