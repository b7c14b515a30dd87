import SqlToolkit.Proofs.Session.Routine

/-!
# What an operation hands over

An operation hands to the backend the statements of its plan, one after another and up to
the first that fails (`Command.handed_prefix`, `Lookup.handed_prefix`).  So whatever holds of
all statements of a plan holds of what is handed over, and an operation with one statement
hands over that one.
-/
namespace SqlToolkit
namespace Session

variable {σ : Type} {s : Session σ}

/-- The statements among the entries of a watched run. -/
def statementsOf (es : List (Entry Unit)) : List Statement := es.filterMap Entry.statement?

/-- The statements that a command hands to the backend. -/
def Command.handed (c : Command) (s : Session σ) : List Statement := statementsOf (entriesOf c.run s)

/-- The statements that a lookup hands to the backend. -/
def Lookup.handed (l : Lookup) (s : Session σ) : List Statement :=
  statementsOf (entriesOf (ExceptT.lift l.look : Operation (Recorder Unit σ) Result) s)

/-- The statements of a plan. -/
def Plan.statements : Plan → List Statement
  | query statement _ => [statement]
  | execute statement => [statement]
  | insert statement => [statement]
  | executeAll sqls => sqls.map (⟨·, []⟩)
  | start | commit | rollback => []

/-- The statements of a plan are begun, and handed over in order. -/
structure Begun (all handed : List Statement) : Prop where
  isPrefix : handed <+: all
  ne_nil : all ≠ [] → handed ≠ []

theorem begun_nil : Begun [] [] := ⟨List.prefix_rfl, fun h => h⟩

theorem begun_one (statement : Statement) : Begun [statement] [statement] := ⟨List.prefix_rfl, fun h => h⟩

/-- If there is only one, it is handed over. -/
theorem Begun.eq {statement : Statement} {handed : List Statement} (h : Begun [statement] handed) :
    handed = [statement] := by
  rcases List.prefix_cons_iff.1 h.isPrefix with hnil | ⟨rest, rfl, hrest⟩
  · exact absurd hnil (h.ne_nil (by simp))
  · rw [List.prefix_nil.1 hrest]

theorem begun_of_inTurn {sqls : List String} {es : List (Entry Unit)} {r : Except DatabaseError Unit}
    (h : InTurn Executed sqls es r) : Begun (sqls.map (⟨·, []⟩)) (statementsOf es) := by
  induction h with
  | nil => exact begun_nil
  | failed hdone =>
    obtain ⟨answer, rfl, -⟩ := hdone
    exact ⟨by simp [statementsOf, Entry.statement?], by simp [statementsOf, Entry.statement?]⟩
  | next hdone _ ih =>
    obtain ⟨answer, rfl, -⟩ := hdone
    refine ⟨?_, by simp [statementsOf, Entry.statement?]⟩
    rw [statementsOf, List.filterMap_append]
    exact (List.prefix_cons_inj _).2 ih.isPrefix

/-- What is made of the answer makes no entry. -/
theorem records_answer {α β : Type} {cond : List (Entry Unit) → Prop} {p : Operation (Recorder Unit σ) α}
    {q : Operation σ α} (f : α → β) (h : Records p q s fun es _ => cond es) :
    Records (do let a ← p; return f a) (do let a ← q; return f a) s fun es _ => cond es := by
  refine h.bind (fun _ _ hes => hes) fun es a u _ _ hes => ?_
  refine .pure ?_
  rw [List.append_nil]
  exact hes

theorem records_inserted (statement : Statement) :
    Records (inserted statement) (inserted statement) s fun es _ => Begun [statement] (statementsOf es) := by
  refine (records_run statement).bind ?_ ?_
  · rintro _ _ rfl
    exact begun_one statement
  · rintro _ result u - - rfl
    -- the new key goes into the diary alone
    by_cases hpos : 0 < result.rowsAffected
    · simp only [if_pos hpos]
      exact .silent rfl ⟨rfl, rfl⟩ (fun _ => rfl) (begun_one statement)
    · simp only [if_neg hpos]
      exact .pure (begun_one statement)

theorem records_plan (p : Plan) (s : Session σ) :
    Records p.run p.run s fun es _ => Begun p.statements (statementsOf es) := by
  cases p with
  | query statement result =>
    refine records_answer result ((records_fetch statement).imp ?_)
    rintro _ _ rfl
    exact begun_one statement
  | execute statement =>
    refine records_answer (fun written => Result.touched written.rowsAffected) ((records_run statement).imp ?_)
    rintro _ _ rfl
    exact begun_one statement
  | insert statement => exact records_answer Result.written (records_inserted statement)
  | executeAll sqls =>
    exact records_answer (fun _ => Result.done) ((records_runAll sqls s).imp fun _ _ h => begun_of_inTurn h)
  | start =>
    refine records_answer (fun _ => Result.done) (records_start.imp ?_)
    rintro _ _ rfl
    exact begun_nil
  | commit =>
    refine records_answer (fun _ => Result.done) (records_commit.imp ?_)
    rintro _ _ rfl
    exact begun_nil
  | rollback =>
    refine records_answer (fun _ => Result.done) (records_rollback.imp ?_)
    rintro _ _ rfl
    exact begun_nil

theorem begun_carryOut {plan : Target → Except CompileError Plan} {p : Plan} (h : plan s.target = .ok p) :
    Begun p.statements (statementsOf (entriesOf (carryOut plan) s)) := by
  have hrecords : Records (carryOut plan) (carryOut plan) s fun es _ => Begun p.statements (statementsOf es) :=
    .get_bind (fun _ => rfl) (records_compiled_bind h fun u _ => records_plan p u)
  exact hrecords.entriesOf

theorem statementsOf_carryOut_error {plan : Target → Except CompileError Plan} {cause : CompileError}
    (h : plan s.target = .error cause) : statementsOf (entriesOf (carryOut plan) s) = [] := by
  rw [entriesOf, carryOut_error (s := s.recorded []) h]
  rfl

namespace Command

theorem handed_eq (c : Command) (s : Session σ) :
    c.handed s = statementsOf (entriesOf (carryOut (c.plan ·)) s) := by
  rw [handed, entriesOf, entriesOf, c.ending_run]

/-- **A command hands over the statements of its plan.** -/
theorem begun_handed {c : Command} {p : Plan} (h : c.plan s.target = .ok p) : Begun p.statements (c.handed s) := by
  rw [handed_eq]
  exact begun_carryOut h

/-- What holds of all statements of the plan holds of what is handed over. -/
theorem forall_handed {c : Command} {property : Statement → Prop}
    (h : ∀ p, c.plan s.target = .ok p → ∀ statement ∈ p.statements, property statement) :
    ∀ statement ∈ c.handed s, property statement := by
  intro statement hstatement
  cases hplan : c.plan s.target with
  | ok p => exact h p hplan statement ((begun_handed hplan).isPrefix.subset hstatement)
  | error cause =>
    rw [handed_eq, statementsOf_carryOut_error hplan] at hstatement
    cases hstatement

end Command

namespace Lookup

theorem handed_eq (l : Lookup) (s : Session σ) : l.handed s = statementsOf (entriesOf (carryOut l.plan) s) := by
  have hrun : (l.look.run (s.recorded [])).2 = (ending (carryOut l.plan) (s.recorded ([] : List (Entry Unit)))).2 := by
    rw [l.look_run, orEmpty_run]
    rcases ending (carryOut l.plan) (s.recorded []) with ⟨_ | _, u⟩
    · rfl
    · rfl
  show statementsOf (l.look.run (s.recorded [])).2.connection.entries = _
  rw [hrun]
  rfl

/-- **A lookup hands over its query** or nothing. -/
theorem forall_handed {l : Lookup} {property : Statement → Prop}
    (h : ∀ statement, l.statement s.target = .ok statement → property statement) :
    ∀ statement ∈ l.handed s, property statement := by
  intro statement hstatement
  rw [handed_eq] at hstatement
  cases hquery : l.statement s.target with
  | ok query =>
    rw [(begun_carryOut (plan_eq_ok hquery)).eq, List.mem_singleton] at hstatement
    subst hstatement
    exact h _ hquery
  | error cause =>
    rw [statementsOf_carryOut_error (plan_eq_error hquery)] at hstatement
    cases hstatement

end Lookup
end Session
end SqlToolkit
