import SqlToolkit.Proofs.Condition.Comparison
import SqlToolkit.Statement.Query
import SqlToolkit.Statement.Write

/-!
# What criteria are used for

Criteria are compiled on their own, as the clauses of a query, or within a statement.  Every use does all else first and
puts what it takes from the criteria behind (`outcome_eq`): a write takes the condition clause, a query all clauses.  So
a use whose other parts are sound fails exactly for the criteria (`failure?_outcome`), for the cause recorded in them or
else for the first comparison that does not fit, and with sound criteria its text is the text without criteria followed
by the clauses.
-/
namespace SqlToolkit
open Outcome

/-- A write that criteria may restrict, with its data. -/
inductive Write where
  | update (data : RowData)
  | delete
  | replace (replacements : Replacements)

/-- The statement of a write. -/
def Write.compile (t : Target) (table : String) (c : Criteria) : Write → Outcome Statement
  | update data => Statement.update t table data c
  | delete => Statement.delete t table c
  | replace replacements => Statement.replace t table replacements c

/-- A place where criteria are compiled, with all else that is compiled there. -/
inductive Usage where
  /-- The predicate on its own. -/
  | predicate
  /-- The clauses on their own. -/
  | clauses (t : Target)
  | write (t : Target) (table : String) (w : Write)
  | select (t : Target) (table : String) (joins : List Join) (items : SelectList)
  | aggregate (t : Target) (function : Aggregate) (table : String) (joins : List Join) (column : String)

namespace Statement

/-- A statement with a fragment behind it. -/
def followedBy (s : Statement) (f : Fragment) : Statement := ⟨s.sql ++ f.sql, s.params ++ f.params⟩

theorem followedBy_empty (s : Statement) : s.followedBy {} = s := by
  simp [followedBy]

end Statement

namespace Usage

/-- What comes of criteria in a place. -/
def outcome : Usage → Criteria → Outcome Statement
  | predicate, c => Statement.ofFragment <$> c.compile
  | clauses t, c => Statement.ofFragment <$> c.clauses t
  | write t table w, c => w.compile t table c
  | select t table joins items, c => Statement.select t table joins items c
  | aggregate t function table joins column, c => Statement.aggregate t function table joins column c

/-- What a place takes from the criteria. -/
def taken : Usage → Criteria → Outcome Fragment
  | predicate, c => c.compile
  | write t _ _, c => c.whereClause t
  | clauses t, c | select t _ _ _, c | aggregate t _ _ _ _, c => c.clauses t

/-- The conditions that a place compiles: those on rows, and for a query those on groups after them. -/
def conditions : Usage → Criteria → List Condition
  | predicate, c | write _ _ _, c => c.conditions
  | clauses _, c | select _ _ _ _, c | aggregate _ _ _ _ _, c => c.conditions ++ c.having

/-- All but the criteria is sound: without criteria there is a statement. -/
def Sound (u : Usage) : Prop := ∃ bare, u.outcome {} = .ok bare

/-! ### The criteria come last -/

/-- What is compiled before the criteria, and what is taken from them. -/
def Ends (compiled : Criteria → Outcome Statement) (taken : Criteria → Outcome Fragment) : Prop :=
  ∃ head : Outcome Statement, ∀ c, compiled c = head >>= fun bare => bare.followedBy <$> taken c

section
variable {t : Target} {compiled : Criteria → Outcome Statement} {taken : Criteria → Outcome Fragment}

theorem ends_fragment (taken : Criteria → Outcome Fragment) :
    Ends (fun c => Statement.ofFragment <$> taken c) taken := by
  refine ⟨.ok (.ofFragment {}), fun c => ?_⟩
  dsimp only
  cases taken c with
  | error cause => rfl
  | ok f =>
    have hbare : (Statement.ofFragment {}).followedBy f = Statement.ofFragment f := by
      simp [Statement.followedBy, Statement.ofFragment]
    exact (congrArg Except.ok hbare).symm

theorem ends_behind (head : Fragment) :
    Ends (fun c => taken c >>= fun f => pure (Statement.ofFragment (head ++ f))) taken := by
  refine ⟨.ok (.ofFragment head), fun c => ?_⟩
  dsimp only
  cases taken c <;> rfl

theorem Ends.after {α : Type} {next : α → Criteria → Outcome Statement} (h : ∀ a, Ends (next a) taken)
    (first : Outcome α) : Ends (fun c => first >>= fun a => next a c) taken := by
  cases first with
  | error cause => exact ⟨.error cause, fun _ => rfl⟩
  | ok a => exact h a

theorem Ends.unless (h : Ends compiled taken) (condition : Bool) (cause : CompileError) :
    Ends (fun c => if condition then .error cause else compiled c) taken := by
  cases condition with
  | true => exact ⟨.error cause, fun _ => rfl⟩
  | false => exact h

theorem ends_query (clause table : String) (joins : List Join) :
    Ends (Statement.query t clause table joins) fun c => c.clauses t :=
  Ends.after (fun tables => ends_behind (.raw (clause ++ tables))) _

theorem ends_updateWith (table : String) (assignments : List Fragment) :
    Ends (Statement.updateWith t table assignments) fun c => c.whereClause t := by
  unfold Statement.updateWith
  exact ends_behind _

end

theorem ends_write (t : Target) (table : String) (w : Write) :
    Ends (fun c => w.compile t table c) fun c => c.whereClause t := by
  cases w with
  | update data => exact .unless (.after (ends_updateWith table) _) _ _
  | delete => exact ends_behind _
  | replace replacements => exact .unless (.after (ends_updateWith table) _) _ _

theorem ends_outcome (u : Usage) : Ends u.outcome u.taken := by
  cases u with
  | predicate => exact ends_fragment _
  | clauses t => exact ends_fragment _
  | write t table w => exact ends_write t table w
  | select t table joins items => exact ends_query _ table joins
  | aggregate t function table joins column => exact .after (fun name => ends_query _ table joins) _

/-- Empty criteria give nothing. -/
theorem taken_empty (u : Usage) : u.taken {} = .ok {} := by
  cases u <;> rfl

/-- **The criteria come last**: what a place takes from them stands behind the statement without criteria. -/
theorem outcome_eq (u : Usage) (c : Criteria) :
    u.outcome c = u.outcome {} >>= fun bare => bare.followedBy <$> u.taken c := by
  -- without criteria what is compiled before them is the whole statement
  obtain ⟨head, hhead⟩ := u.ends_outcome
  rw [hhead c, hhead {}, taken_empty]
  cases head with
  | error cause => rfl
  | ok bare =>
    show _ = Statement.followedBy (bare.followedBy {}) <$> u.taken c
    rw [Statement.followedBy_empty]
    rfl

/-! ### Failure -/

theorem failure?_predicate (c : Criteria) (render : RawSql → String) :
    failure? (c.predicate render) = c.error.or (Condition.firstMisfit c.conditions) := by
  unfold Criteria.predicate
  cases c.error with
  | some cause => rfl
  | none => exact Condition.failure?_compileAll render .and c.conditions

/-- What is taken from criteria fails for the recorded cause, or else for the first comparison that does not fit. -/
theorem failure?_taken (u : Usage) (c : Criteria) :
    failure? (u.taken c) = c.error.or (Condition.firstMisfit (u.conditions c)) := by
  have hwhere : ∀ t, failure? (c.whereClause t) = c.error.or (Condition.firstMisfit c.conditions) := fun t =>
    (failure?_bind_pure _ _).trans (failure?_predicate c t.renderRaw)
  have hclauses : ∀ t, failure? (c.clauses t) = c.error.or (Condition.firstMisfit (c.conditions ++ c.having)) := by
    intro t
    refine (failure?_both _ _ _).trans ?_
    rw [hwhere, Condition.failure?_compileAll, Condition.firstMisfit_append, Option.or_assoc]
  cases u with
  | predicate => exact failure?_predicate c _
  | write t _ _ => exact hwhere t
  | clauses t | select t _ _ _ | aggregate t _ _ _ _ => exact hclauses t

/-- **A sound use fails exactly for its criteria.** -/
theorem failure?_outcome {u : Usage} (hu : u.Sound) (c : Criteria) :
    failure? (u.outcome c) = c.error.or (Condition.firstMisfit (u.conditions c)) := by
  obtain ⟨bare, hbare⟩ := hu
  rw [outcome_eq, hbare, ← failure?_taken]
  exact failure?_bind_pure (u.taken c) bare.followedBy

end Usage
end SqlToolkit
