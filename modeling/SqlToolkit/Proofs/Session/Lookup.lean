import SqlToolkit.Proofs.Session.Command

/-!
# The lookups of a session

A lookup answers even when it fails, and then with what it would make of no rows at all.
It compiles one query and reads its answer off the rows, so it does what a plan says like
any command (`Lookup.look_run`).
-/
namespace SqlToolkit
namespace Session

variable {σ α β : Type} {s : Session σ}

/-- An operation that always answers. -/
inductive Lookup where
  | select (table : String) (joins : List Join) (items : SelectList) (criteria : Criteria)
  | selectOne (table : String) (joins : List Join) (items : SelectList) (criteria : Criteria)
  | selectValue (table column : String) (criteria : Criteria)
  | getOne (table : String) (joins : List Join) (items : SelectList) (criteria : Criteria)
  | selectRandom (table : String) (joins : List Join) (items : SelectList) (criteria : Criteria)
  | query (sql : String) (params : List Value)
  | queryValue (sql : String) (params : List Value)
  | aggregate (function : Aggregate) (table : String) (joins : List Join) (column : String) (criteria : Criteria)
  | count (table : String) (joins : List Join) (column : String) (criteria : Criteria)
  | has (table : String) (joins : List Join) (criteria : Criteria)

namespace Lookup

/-- The operation of a lookup. -/
def look : Lookup → Reader σ Result
  | select table joins items criteria => do return .rows (← Session.select table joins items criteria)
  | selectOne table joins items criteria => do return .row (← Session.selectOne table joins items criteria)
  | selectValue table column criteria => do return .value (← Session.selectValue table column criteria)
  | getOne table joins items criteria => do return .row (← Session.getOne table joins items criteria)
  | selectRandom table joins items criteria => do return .rows (← Session.selectRandom table joins items criteria)
  | query sql params => do return .rows (← Session.query sql params)
  | queryValue sql params => do return .value (← Session.queryValue sql params)
  | aggregate function table joins column criteria => do
    return .value (← Session.aggregate function table joins column criteria)
  | count table joins column criteria => do return .number (← Session.count table joins column criteria)
  | has table joins criteria => do return .yes (← Session.has table joins criteria)

/-- The query that a lookup compiles to. -/
def statement (t : Target) : Lookup → Except CompileError Statement
  | select table joins items criteria => Statement.select t table joins items criteria
  | selectOne table joins items criteria => Statement.select t table joins items criteria
  | selectValue table column criteria => Statement.select t table [] (.ofText column) criteria
  | getOne table joins items criteria => Statement.select t table joins items (criteria.limit 1)
  | selectRandom table joins items criteria =>
    Statement.select t table joins items (criteria.orderByRaw ⟨t.dialect.randomFunction⟩)
  | query sql params => .ok ⟨t.renderRaw ⟨sql⟩, params.map Value.coerce⟩
  | queryValue sql params => .ok ⟨t.renderRaw ⟨sql⟩, params.map Value.coerce⟩
  | aggregate function table joins column criteria => Statement.aggregate t function table joins column criteria
  | count table joins column criteria => Statement.aggregate t .count table joins column criteria
  | has table joins criteria => Statement.aggregate t .count table joins "*" criteria

/-- The first value of the first row. -/
def first? (rows : List Row) : Option Value := rows.head?.bind Row.first?

/-- The first value of the first row, unless it is null. -/
def single? (rows : List Row) : Option Value := (first? rows).filter fun v => !v.isNull

/-- The number that a count comes to. -/
def counted (rows : List Row) : Int64 := ((single? rows).bind Value.asInt?).getD 0

/-- What a lookup makes of the rows. -/
def result : Lookup → List Row → Result
  | select .. => .rows
  | selectOne .. => fun rows => .row rows.head?
  | selectValue .. => fun rows => .value (first? rows)
  | getOne .. => fun rows => .row rows.head?
  | selectRandom .. => .rows
  | query .. => .rows
  | queryValue .. => fun rows => .value (first? rows)
  | aggregate .. => fun rows => .value (single? rows)
  | count .. => fun rows => .number (counted rows)
  | has .. => fun rows => .yes (0 < counted rows)

/-- The rows hold nothing that a lookup could answer with. -/
def Barren : Lookup → List Row → Prop
  | select .. | selectOne .. | getOne .. | selectRandom .. | query .. => fun rows => rows = []
  | selectValue .. | queryValue .. => fun rows => first? rows = none
  | aggregate .. => fun rows => ∀ v, first? rows = some v → v = .null
  | count .. => fun rows => ∀ v n, first? rows = some v → v.asInt? = some n → n = 0
  | has .. => fun rows => ∀ v n, first? rows = some v → v.asInt? = some n → n ≤ 0

/-- What remains to be done by a lookup that has compiled. -/
def plan (l : Lookup) (t : Target) : Except CompileError Plan := (l.statement t).map (.query · l.result)

end Lookup

/-! ## Nothing found -/

namespace Lookup

/-- A null is not an aggregate. -/
theorem single?_eq_none_iff (rows : List Row) :
    single? rows = none ↔ ∀ v, first? rows = some v → v = .null := by
  unfold single?
  cases first? rows with
  | none => simp
  | some v =>
    cases v with
    | null => simp [Value.isNull]
    | _ => simp [Value.isNull]

/-- A null is no number either, so the count of one is that of no value. -/
theorem counted_eq (rows : List Row) : counted rows = ((first? rows).bind Value.asInt?).getD 0 := by
  unfold counted single?
  cases first? rows with
  | none => rfl
  | some v =>
    cases v with
    | null => rfl
    | _ => rfl

/-- What is counted is the number in the rows, or zero. -/
theorem counted_iff (q : Int64 → Prop) (hzero : q 0) (rows : List Row) :
    q (counted rows) ↔ ∀ v n, first? rows = some v → v.asInt? = some n → q n := by
  rw [counted_eq]
  constructor
  · intro h v n hv hn
    rw [hv, Option.bind_some, hn] at h
    exact h
  · intro h
    cases hv : first? rows with
    | none => exact hzero
    | some v =>
      rw [Option.bind_some]
      cases hn : v.asInt? with
      | none => exact hzero
      | some n => exact h v n hv hn

/-- A lookup answers as if there were no rows exactly when they hold nothing for it. -/
theorem result_eq_nothing_iff (l : Lookup) (rows : List Row) : l.result rows = l.result [] ↔ l.Barren rows := by
  cases l with
  | select | selectRandom | query => exact ⟨Result.rows.inj, congrArg Result.rows⟩
  | selectOne | getOne =>
    show Result.row rows.head? = .row none ↔ rows = []
    rw [Result.row.injEq, List.head?_eq_none_iff]
  | selectValue | queryValue => exact ⟨Result.value.inj, congrArg Result.value⟩
  | aggregate =>
    show Result.value (single? rows) = .value none ↔ _
    rw [Result.value.injEq]
    exact single?_eq_none_iff rows
  | count =>
    show Result.number (counted rows) = .number 0 ↔ _
    rw [Result.number.injEq]
    exact counted_iff (· = 0) rfl rows
  | has =>
    show Result.yes (0 < counted rows) = .yes false ↔ _
    rw [Result.yes.injEq, decide_eq_false_iff_not, Int64.not_lt]
    exact counted_iff (· ≤ 0) (Int64.le_refl 0) rows

end Lookup

/-! ## Answers in place of failures -/

theorem orEmpty_run (p : Operation σ α) (empty : α) (s : Session σ) :
    (orEmpty p empty).run s =
      match ending p s with
      | (.ok a, u) => (a, u)
      | (.error _, u) => (empty, u) := by
  unfold orEmpty ending
  rw [StateT.run_bind]
  rcases p.run.run s with ⟨_ | _, u⟩
  · rfl
  · rfl

/-- What is made of the answer may be made before a failure is replaced. -/
theorem orEmpty_bind_pure (p : Operation σ α) (empty : α) (f : α → β) :
    (do let a ← orEmpty p empty; return f a) = orEmpty (do let a ← p; return f a) (f empty) := by
  refine StateT.ext fun s => ?_
  rw [StateT.run_bind, orEmpty_run, orEmpty_run, ending_bind]
  rcases ending p s with ⟨_ | _, u⟩
  · rfl
  · rfl

theorem run_get_bind (f : Session σ → Reader σ α) (s : Session σ) : (get >>= f).run s = (f s).run s := rfl

theorem orEmpty_congr {p q : Operation σ α} (empty : α) (h : ending p s = ending q s) :
    (orEmpty p empty).run s = (orEmpty q empty).run s := by
  rw [orEmpty_run, orEmpty_run, h]

/-! ## What lookups are made of -/

theorem ending_trySelect (table : String) (joins : List Join) (items : SelectList) (criteria : Criteria)
    (f : List Row → Result) (s : Session σ) :
    ending (do let rows ← trySelect table joins items criteria; return f rows) s =
      ending (carryOut fun t => (Statement.select t table joins items criteria).map (.query · f)) s := by
  simp only [trySelect, carryOut, compiled_map_bind, bind_assoc, Plan.run]

theorem ending_tryAggregate (function : Aggregate) (table : String) (joins : List Join) (column : String)
    (criteria : Criteria) (f : Option Value → Result) (s : Session σ) :
    ending (do let value ← tryAggregate function table joins column criteria; return f value) s =
      ending (carryOut fun t => (Statement.aggregate t function table joins column criteria).map
        (.query · fun rows => f (Lookup.single? rows))) s := by
  simp only [tryAggregate, carryOut, compiled_map_bind, bind_assoc, pure_bind, Plan.run, Lookup.single?,
    Lookup.first?]

/-- Raw SQL compiles to itself. -/
theorem ending_tryQuery (sql : String) (params : List Value) (f : List Row → Result) (s : Session σ) :
    ending (do let rows ← tryQuery sql params; return f rows) s =
      ending (carryOut fun t => .ok (.query ⟨t.renderRaw ⟨sql⟩, params.map Value.coerce⟩ f)) s := by
  refine Command.ending_direct rfl nofun ?_
  simp only [tryQuery, rawStatement, bind_assoc, Plan.run]
  rw [ending_get_bind]

namespace Lookup

/-- **A lookup does what its plan says**, and answers a failure with what it makes of no rows. -/
theorem look_run (l : Lookup) (s : Session σ) :
    l.look.run s = (orEmpty (carryOut l.plan) (l.result [])).run s := by
  cases l with
  | select table joins items criteria =>
    simp only [look, Session.select, orEmpty_bind_pure]
    exact orEmpty_congr _ (ending_trySelect table joins items criteria _ s)
  | selectOne table joins items criteria =>
    simp only [look, Session.selectOne, Session.select, orEmpty_bind_pure]
    simp only [bind_assoc, pure_bind]
    exact orEmpty_congr _ (ending_trySelect table joins items criteria _ s)
  | selectValue table column criteria =>
    simp only [look, Session.selectValue, Session.selectOne, Session.select, orEmpty_bind_pure]
    simp only [bind_assoc, pure_bind]
    exact orEmpty_congr _ (ending_trySelect table [] (.ofText column) criteria _ s)
  | getOne table joins items criteria =>
    simp only [look, Session.getOne, Session.selectOne, Session.select, orEmpty_bind_pure]
    simp only [bind_assoc, pure_bind]
    exact orEmpty_congr _ (ending_trySelect table joins items (criteria.limit 1) _ s)
  | selectRandom table joins items criteria =>
    -- the order is asked of the dialect before anything is compiled
    simp only [look, Session.selectRandom, bind_assoc]
    rw [run_get_bind]
    simp only [Session.select, orEmpty_bind_pure]
    refine orEmpty_congr _ ((ending_trySelect table joins items _ _ s).trans ?_)
    refine carryOut_congr ?_
    simp only [plan, statement, result]
  | query sql params =>
    simp only [look, Session.query, orEmpty_bind_pure]
    exact orEmpty_congr _ (ending_tryQuery sql params _ s)
  | queryValue sql params =>
    simp only [look, Session.queryValue, Session.query, orEmpty_bind_pure]
    simp only [bind_assoc, pure_bind]
    exact orEmpty_congr _ (ending_tryQuery sql params _ s)
  | aggregate function table joins column criteria =>
    simp only [look, Session.aggregate, orEmpty_bind_pure]
    exact orEmpty_congr _ (ending_tryAggregate function table joins column criteria _ s)
  | count table joins column criteria =>
    simp only [look, Session.count, Session.aggregate, orEmpty_bind_pure]
    simp only [bind_assoc, pure_bind]
    exact orEmpty_congr _ (ending_tryAggregate .count table joins column criteria _ s)
  | has table joins criteria =>
    simp only [look, Session.has, Session.count, Session.aggregate, orEmpty_bind_pure]
    simp only [bind_assoc, pure_bind]
    exact orEmpty_congr _ (ending_tryAggregate .count table joins "*" criteria _ s)

/-! ## Found or missed -/

/-- The rows that the backend gives for a lookup, or why there are none. -/
def answer (l : Lookup) (s : Session σ) : Except DatabaseError (List Row) := do
  let statement ← (l.statement s.target).mapError .compile
  (s.backend.query statement s.connection).1

theorem plan_eq_error {l : Lookup} {t : Target} {cause : CompileError} (h : l.statement t = .error cause) :
    l.plan t = .error cause := by
  rw [plan, h]
  rfl

theorem plan_eq_ok {l : Lookup} {t : Target} {statement : Statement} (h : l.statement t = .ok statement) :
    l.plan t = .ok (.query statement l.result) := by
  rw [plan, h]
  rfl

theorem outcome_carryOut (l : Lookup) (s : Session σ) :
    (ending (carryOut l.plan) s).1 = (l.answer s).map l.result := by
  unfold answer
  cases hstatement : l.statement s.target with
  | error cause =>
    rw [carryOut_error (plan_eq_error hstatement)]
    rfl
  | ok statement =>
    have hfetch : (ending (fetch statement) (s.remembering none)).1 = (s.backend.query statement s.connection).1 :=
      outcome_record _
    rw [carryOut_ok (plan_eq_ok hstatement), Plan.run, ending_bind]
    show _ = (s.backend.query statement s.connection).1.map l.result
    rw [← hfetch]
    rcases ending (fetch statement) (s.remembering none) with ⟨_ | _, u⟩
    · rfl
    · rfl

/-- A lookup answers with the result of its rows, or as if there were none, and remembers what became of them. -/
theorem exists_look_run (l : Lookup) (s : Session σ) :
    ∃ u, l.look.run s = (((l.answer s).map l.result).toOption.getD (l.result []), u) ∧
      Mirrored ((l.answer s).map l.result, u) := by
  have houtcome := l.outcome_carryOut s
  have hmirrored := mirrored_carryOut l.plan (s := s)
  rw [look_run, orEmpty_run, ← houtcome]
  generalize ending (carryOut l.plan) s = run at hmirrored ⊢
  rcases run with ⟨_ | _, u⟩
  · exact ⟨u, rfl, hmirrored⟩
  · exact ⟨u, rfl, hmirrored⟩

/-- A lookup that finds rows answers with them, and remembers no failure. -/
theorem look_found {l : Lookup} {rows : List Row} (h : l.answer s = .ok rows) :
    (l.look.run s).1 = l.result rows ∧ (l.look.run s).2.error = none := by
  obtain ⟨u, hrun, hmirrored⟩ := l.exists_look_run s
  rw [h] at hrun hmirrored
  rw [hrun]
  exact ⟨rfl, hmirrored.of_ok _ rfl⟩

/-- A lookup that fails answers as if there were no rows, and remembers the failure. -/
theorem look_missed {l : Lookup} {e : DatabaseError} (h : l.answer s = .error e) :
    (l.look.run s).1 = l.result [] ∧ (l.look.run s).2.error = some e.info := by
  obtain ⟨u, hrun, hmirrored⟩ := l.exists_look_run s
  rw [h] at hrun hmirrored
  rw [hrun]
  exact ⟨rfl, hmirrored.of_error _ rfl⟩

/-- What was remembered before does not matter to a lookup. -/
theorem look_remembering (l : Lookup) (s : Session σ) (failure : Option ErrorInfo) :
    l.look.run (s.remembering failure) = l.look.run s := by
  rw [look_run, look_run, orEmpty_run, orEmpty_run, unswayed_carryOut l.plan failure]

end Lookup
end Session
end SqlToolkit
