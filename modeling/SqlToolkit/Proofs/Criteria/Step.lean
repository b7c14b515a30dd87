import SqlToolkit.Proofs.Statement.Usage

/-!
# The steps that build criteria

The calls that build criteria are taken as data here, with the steps of nested criteria inside them, so that something
can be said of every sequence of calls.  A malformed step leaves its cause, and a cause that is there already stays
(`error_apply`): what is recorded after all steps is the first cause in the order in which the steps are applied, those
of nested criteria in the place of the step that takes them over (`error_ofSteps`).  A recorded cause comes before
everything that can be wrong with the operands of the tree, wherever the criteria are used.
-/
namespace SqlToolkit
open Outcome

/-- A call that adds to criteria. -/
inductive BuildStep where
  | field (key : String) (operand : Operand)
  | condition (added : Condition)
  | group (logic : Logic) (nested : List BuildStep)
  | groupBy (column : String)
  | having (nested : List BuildStep)
  | order (column : String) (direction : Direction)
  | orderRaw (sql : RawSql)
  | limit (count : Nat)
  | skip (offset : Nat)

namespace BuildStep

mutual

/-- The criteria after a step.  Nested criteria are built from nothing. -/
def apply : BuildStep → Criteria → Criteria
  | field key operand, c => c.field key operand
  | condition added, c => c.condition added
  | group logic nested, c => c.group logic (applyAll nested {})
  | groupBy column, c => c.groupByColumn column
  | having nested, c => c.havingAll (applyAll nested {})
  | order column direction, c => c.orderByColumn column (some direction)
  | orderRaw sql, c => c.orderByRaw sql
  | limit count, c => c.limit count
  | skip offset, c => c.skip offset

/-- The criteria after several steps. -/
def applyAll : List BuildStep → Criteria → Criteria
  | [], c => c
  | step :: rest, c => applyAll rest (apply step c)

end

mutual

/-- The causes for which a step, or a step nested in it, is malformed, in the order in which they are applied. -/
def faults : BuildStep → List CompileError
  | field key operand => (failure? (Condition.parse key operand)).toList
  | groupBy column | order column _ => (failure? (validateColumn column)).toList
  | limit n | skip n => (failure? (checkRowCount n)).toList
  | group _ nested | having nested => faultsAll nested
  | condition _ | orderRaw _ => []

/-- The causes for which steps are malformed. -/
def faultsAll : List BuildStep → List CompileError
  | [] => []
  | step :: rest => faults step ++ faultsAll rest

end

end BuildStep

/-- The criteria that steps build from nothing. -/
def Criteria.ofSteps (steps : List BuildStep) : Criteria := BuildStep.applyAll steps {}

namespace BuildStep
open Criteria

theorem applyAll_append (steps more : List BuildStep) (c : Criteria) :
    applyAll (steps ++ more) c = applyAll more (applyAll steps c) := by
  induction steps generalizing c with
  | nil => rfl
  | cons step steps ih => exact ih (step.apply c)

/-! ### The recorded cause -/

/-- A step with a check leaves the recorded cause alone if the check is passed, and records the cause if not. -/
theorem error_checked {α : Type} (x : Outcome α) {c d : Criteria} (hok : ∀ a, x = .ok a → d.error = c.error)
    (herror : ∀ cause, x = .error cause → d = c.keepError cause) : d.error = c.error.or (failure? x) := by
  cases hx : x with
  | error cause =>
    rw [herror cause hx]
    rfl
  | ok a => exact (hok a hx).trans Option.or_none.symm

theorem error_field (c : Criteria) (key : String) (operand : Operand) :
    (c.field key operand).error = c.error.or (failure? (Condition.parse key operand)) := by
  refine error_checked _ (fun added h => ?_) fun cause h => ?_ <;> rw [Criteria.field, h]

theorem error_groupByColumn (c : Criteria) (column : String) :
    (c.groupByColumn column).error = c.error.or (failure? (validateColumn column)) := by
  refine error_checked _ (fun name h => ?_) fun cause h => ?_ <;> rw [groupByColumn, h]

theorem error_orderByColumn (c : Criteria) (column : String) (direction : Option Direction) :
    (c.orderByColumn column direction).error = c.error.or (failure? (validateColumn column)) := by
  refine error_checked _ (fun name h => ?_) fun cause h => ?_ <;> rw [orderByColumn, h]

theorem error_checkCount (c : Criteria) (n : Nat) :
    (c.checkCount n).error = c.error.or (failure? (checkRowCount n)) := by
  refine error_checked _ (fun count h => ?_) fun cause h => ?_ <;> rw [checkCount, h]

mutual

/-- **A step keeps the cause that is recorded**, and else records its own first cause. -/
theorem error_apply (step : BuildStep) (c : Criteria) : (step.apply c).error = c.error.or step.faults.head? := by
  match step with
  | .field key operand =>
    rw [faults, Option.head?_toList]
    exact error_field c key operand
  | .groupBy column =>
    rw [faults, Option.head?_toList]
    exact error_groupByColumn c column
  | .order column direction =>
    rw [faults, Option.head?_toList]
    exact error_orderByColumn c column _
  | .limit n | .skip n =>
    rw [faults, Option.head?_toList]
    exact error_checkCount c n
  | .group logic nested | .having nested =>
    -- nested criteria start without a cause, so what they hand over is their own first one
    show c.error.or (applyAll nested {}).error = _
    rw [error_applyAll nested {}]
    rfl
  | .condition added | .orderRaw sql => exact (Option.or_none).symm

theorem error_applyAll (steps : List BuildStep) (c : Criteria) :
    (applyAll steps c).error = c.error.or (faultsAll steps).head? := by
  match steps with
  | [] => exact (Option.or_none).symm
  | step :: rest =>
    rw [applyAll, error_applyAll rest, error_apply step, faultsAll, List.head?_append, Option.or_assoc]

end

/-- The cause recorded in built criteria is that of the first malformed step. -/
theorem error_ofSteps (steps : List BuildStep) : (ofSteps steps).error = (faultsAll steps).head? :=
  error_applyAll steps {}

/-! ### What is reported -/

/-- **The first malformed step is reported** wherever the criteria are used, if all else is sound there: whatever steps
follow it and whatever is wrong with the operands.  If no step is malformed, a use fails exactly when some operand does
not fit its operator, and reports the first comparison of which this is so. -/
theorem first_fault_reported (steps : List BuildStep) {u : Usage} (hu : u.Sound) :
    (∀ cause, (faultsAll steps).head? = some cause → u.outcome (ofSteps steps) = .error cause) ∧
      (faultsAll steps = [] → ∀ cause, u.outcome (ofSteps steps) = .error cause ↔
        Condition.firstMisfit (u.conditions (ofSteps steps)) = some cause) := by
  have hfailure := Usage.failure?_outcome hu (ofSteps steps)
  rw [error_ofSteps] at hfailure
  refine ⟨fun cause hcause => ?_, fun hnone cause => ?_⟩
  · rw [hcause] at hfailure
    exact failure?_eq_some.1 hfailure
  · rw [hnone] at hfailure
    rw [← failure?_eq_some, hfailure]
    rfl

/-- A bad column three steps deep is reported, though an operand before it does not fit and a key after it is malformed.
Without these two the operand is reported, and the one in the conditions on groups only after it: a deletion, which does
not compile them, fails for neither when that one is alone. -/
theorem first_fault_reported_nested :
    let t : Target := ⟨.mySql, ""⟩
    let deletion : Usage := .write t "users" .delete
    let misfit : BuildStep := .group .or [.field "a" (.value .null), .field "id[IN]" (.value (.int 3))]
    let grouped : BuildStep := .having [.field "n[between]" (.list [.int 1])]
    let faulty : BuildStep := .group .and [.having [.groupBy "x y"], .limit 5]
    let malformed := [misfit, faulty, .field "age[+]" (.value (.int 1)), grouped]
    deletion.Sound ∧ (Usage.clauses t).Sound ∧
      (faultsAll malformed).head? = some (.invalidIdentifier "x y") ∧
      deletion.outcome (ofSteps malformed) = .error (.invalidIdentifier "x y") ∧
      faultsAll [grouped, misfit] = [] ∧
      (Usage.clauses t).outcome (ofSteps [grouped, misfit]) = .error (.expectedList "id" "IN") ∧
      (Usage.clauses t).outcome (ofSteps [grouped]) = .error (.betweenArity "n" "BETWEEN" 1) ∧
      ∀ cause, deletion.outcome (ofSteps [grouped]) ≠ .error cause := by
  intro t deletion misfit grouped faulty malformed
  have hdeletion : deletion.Sound := ⟨_, rfl⟩
  have hclauses : (Usage.clauses t).Sound := ⟨_, rfl⟩
  have hmalformed : (faultsAll malformed).head? = some (.invalidIdentifier "x y") := by decide +kernel
  have hboth : faultsAll [grouped, misfit] = [] := by decide +kernel
  have hgrouped : faultsAll [grouped] = [] := by decide +kernel
  refine ⟨hdeletion, hclauses, hmalformed, (first_fault_reported malformed hdeletion).1 _ hmalformed, hboth, ?_, ?_, ?_⟩
  · exact ((first_fault_reported [grouped, misfit] hclauses).2 hboth _).2 (by decide +kernel)
  · exact ((first_fault_reported [grouped] hclauses).2 hgrouped _).2 (by decide +kernel)
  · intro cause herror
    have hmisfit := ((first_fault_reported [grouped] hdeletion).2 hgrouped cause).1 herror
    cases hmisfit

end BuildStep
end SqlToolkit
