import SqlToolkit.Proofs.Session.Slot

/-!
# The operations of a session

What a session offers is written down here as data, apart from actions: commands, which
may fail, and lookups, which answer with something empty when they fail.

**Every operation compiles before it calls the backend.**  What a command compiles to is
its plan, and a command does what its plan says and nothing else (`Command.ending_run`).
A lookup compiles one query; what it answers is a function of the rows, or of no rows if
there was a failure (`Lookup.look_run`).
-/
namespace SqlToolkit
namespace Session

variable {σ α β γ : Type} {s : Session σ}

/-- What an operation answers. -/
inductive Result where
  | rows (rows : List Row)
  | row (row : Option Row)
  | value (value : Option Value)
  | number (n : Int64)
  | yes (b : Bool)
  | written (result : WriteResult)
  | touched (count : Nat)
  | done

/-! ## Plans -/

/-- What remains to be done by an operation that has compiled. -/
inductive Plan where
  /-- A statement is run for its rows. -/
  | query (statement : Statement) (result : List Row → Result)
  /-- A statement is run for its effect. -/
  | execute (statement : Statement)
  /-- A statement is run that may give a new key. -/
  | insert (statement : Statement)
  /-- Statements without values are run, up to the first that fails. -/
  | executeAll (sqls : List String)
  | start
  | commit
  | rollback

/-- Runs a statement that may give a new key, which is kept if rows were added. -/
def inserted (statement : Statement) : Operation σ WriteResult := do
  let result ← run statement
  if 0 < result.rowsAffected then
    modify fun s => { s with lastInsertId := result.lastInsertId }
  return result

/-- Does what a plan says. -/
def Plan.run : Plan → Operation σ Result
  | query statement result => do
    let rows ← fetch statement
    return result rows
  | execute statement => do
    let written ← Session.run statement
    return .touched written.rowsAffected
  | insert statement => do
    let written ← inserted statement
    return .written written
  | executeAll sqls => do
    runAll sqls
    return .done
  | start => do
    Session.start
    return .done
  | commit => do
    Session.commit
    return .done
  | rollback => do
    Session.rollback
    return .done

/-- A plan is carried out in the same way whatever was remembered, unless there is nothing to do. -/
theorem Plan.unswayed (p : Plan) (h : p ≠ .executeAll []) : Unswayed p.run s := by
  cases p with
  | query statement result => exact (unswayed_fetch statement).bind _
  | execute statement => exact (unswayed_run statement).bind _
  | insert statement => exact ((unswayed_run statement).bind _).bind _
  | executeAll sqls =>
    cases sqls with
    | nil => exact absurd rfl h
    | cons sql rest => exact ((unswayed_run ⟨sql, []⟩).bind _).bind _
  | start => exact (unswayed_call Backend.start).bind _
  | commit => exact (unswayed_call Backend.commit).bind _
  | rollback => exact (unswayed_call Backend.rollback).bind _

/-- What is remembered after a plan is how it ended, and nothing if there was nothing to do. -/
theorem Plan.mirrored (p : Plan) (h : s.error = none) : Mirrored (ending p.run s) := by
  cases p with
  | query statement result => exact (mirrored_fetch statement).bind fun _ _ hu => mirrored_pure hu
  | execute statement => exact (mirrored_run statement).bind fun _ _ hu => mirrored_pure hu
  | insert statement =>
    refine Mirrored.bind ((mirrored_run statement).bind fun result u hu => ?_) fun _ _ hu => mirrored_pure hu
    by_cases hpos : 0 < result.rowsAffected
    · rw [if_pos hpos]
      exact .ok hu
    · rw [if_neg hpos]
      exact mirrored_pure hu
  | executeAll sqls => exact (mirrored_runAll sqls h).bind fun _ _ hu => mirrored_pure hu
  | start => exact (mirrored_call Backend.start).bind fun _ _ hu => mirrored_pure hu
  | commit => exact (mirrored_call Backend.commit).bind fun _ _ hu => mirrored_pure hu
  | rollback => exact (mirrored_call Backend.rollback).bind fun _ _ hu => mirrored_pure hu

/-- Compiles a plan and does what it says. -/
def carryOut (plan : Target → Except CompileError Plan) : Operation σ Result := do
  let s ← get
  let plan ← compiled (plan s.target)
  plan.run

/-- What is compiled may be read as a plan before or after it is looked at. -/
theorem compiled_map_bind (x : Except CompileError α) (f : α → β) (g : β → Operation σ γ) :
    (compiled (x.map f) >>= g) = compiled x >>= fun a => g (f a) := by
  cases x with
  | ok _ => rfl
  | error _ => rfl

theorem ending_get_bind (f : Session σ → Operation σ α) (s : Session σ) :
    ending (get >>= f) s = ending (f s) s := rfl

/-- What is compiled for another target does not matter. -/
theorem carryOut_congr {plan other : Target → Except CompileError Plan} (h : plan s.target = other s.target) :
    ending (carryOut plan) s = ending (carryOut other) s := by
  unfold carryOut
  rw [ending_get_bind, ending_get_bind, h]

/-- A plan that does not compile is not begun. -/
theorem carryOut_error {plan : Target → Except CompileError Plan} {cause : CompileError}
    (h : plan s.target = .error cause) : ending (carryOut plan) s =
      (.error (.compile cause), s.remembering (some (DatabaseError.compile cause).info)) := by
  unfold carryOut
  rw [ending_get_bind, h]
  exact ending_compiled_error cause Plan.run s

/-- A plan that compiles is begun with nothing remembered. -/
theorem carryOut_ok {plan : Target → Except CompileError Plan} {p : Plan} (h : plan s.target = .ok p) :
    ending (carryOut plan) s = ending p.run (s.remembering none) := by
  unfold carryOut
  rw [ending_get_bind, h]
  exact ending_compiled_ok p Plan.run s

theorem mirrored_carryOut (plan : Target → Except CompileError Plan) : Mirrored (ending (carryOut plan) s) := by
  cases hplan : plan s.target with
  | ok p =>
    rw [carryOut_ok hplan]
    exact p.mirrored rfl
  | error cause =>
    rw [carryOut_error hplan]
    exact .error rfl

/-- Compiling leaves nothing of what was remembered, whether it succeeds or fails. -/
theorem unswayed_carryOut (plan : Target → Except CompileError Plan) : Unswayed (carryOut plan) s := by
  intro failure
  unfold carryOut
  rw [ending_get_bind, ending_get_bind]
  exact (unswayed_compiled (plan s.target)).bind Plan.run failure

/-- A session that is looked at twice is the same both times. -/
theorem get_bind_get (f : Session σ → Session σ → Operation σ β) :
    (get >>= fun s => get >>= fun u => f s u) = get >>= fun s => f s s := rfl

/-! ## Commands -/

/-- An operation that may fail. -/
inductive Command where
  | trySelect (table : String) (joins : List Join) (items : SelectList) (criteria : Criteria)
  | tryQuery (sql : String) (params : List Value)
  | insert (table : String) (rows : List RowData)
  | update (table : String) (data : RowData) (criteria : Criteria)
  | delete (table : String) (criteria : Criteria)
  | replace (table : String) (replacements : Replacements) (criteria : Criteria)
  | execute (sql : String) (params : List Value)
  | create (table : String) (columns : List (String × String)) (options : List String)
  | createTable (table : String) (declare : Schema.Blueprint → Schema.Blueprint)
  | alterTable (table : String) (declare : Schema.Blueprint → Schema.Blueprint)
  | renameTable (table name : String)
  | dropTable (table : String)
  | dropTableIfExists (table : String)
  | hasTable (table : String)
  | start
  | commit
  | rollback

namespace Command

/-- The operation of a command. -/
def run : Command → Operation σ Result
  | trySelect table joins items criteria => do return .rows (← Session.trySelect table joins items criteria)
  | tryQuery sql params => do return .rows (← Session.tryQuery sql params)
  | insert table rows => do return .written (← Session.insert table rows)
  | update table data criteria => do return .touched (← Session.update table data criteria)
  | delete table criteria => do return .touched (← Session.delete table criteria)
  | replace table replacements criteria => do return .touched (← Session.replace table replacements criteria)
  | execute sql params => do return .touched (← Session.execute sql params)
  | create table columns options => do Session.create table columns options; return .done
  | createTable table declare => do Session.createTable table declare; return .done
  | alterTable table declare => do Session.alterTable table declare; return .done
  | renameTable table name => do Session.renameTable table name; return .done
  | dropTable table => do Session.dropTable table; return .done
  | dropTableIfExists table => do Session.dropTableIfExists table; return .done
  | hasTable table => do return .yes (← Session.hasTable table)
  | start => do Session.start; return .done
  | commit => do Session.commit; return .done
  | rollback => do Session.rollback; return .done

/-- The statements of a blueprint that is declared under the prefix of a target. -/
def built (t : Target) (blueprint : Schema.Blueprint) (declare : Schema.Blueprint → Schema.Blueprint) :
    Except CompileError (List String) :=
  (declare { blueprint with tablePrefix := t.tablePrefix }).build t.dialect

/-- What a command compiles to. -/
def plan (t : Target) : Command → Except CompileError Plan
  | trySelect table joins items criteria => (Statement.select t table joins items criteria).map (.query · .rows)
  | tryQuery sql params => .ok (.query ⟨t.renderRaw ⟨sql⟩, params.map Value.coerce⟩ .rows)
  | insert table rows => (Statement.insert t table rows).map .insert
  | update table data criteria => (Statement.update t table data criteria).map .execute
  | delete table criteria => (Statement.delete t table criteria).map .execute
  | replace table replacements criteria => (Statement.replace t table replacements criteria).map .execute
  | execute sql params => .ok (.execute ⟨t.renderRaw ⟨sql⟩, params.map Value.coerce⟩)
  | create table columns options =>
    (built t (.create table) fun b =>
      { b with
        columns := columns.map fun c => Schema.Column.ofDefinition c.1 c.2
        options := options.map RawSql.mk
        ifNotExists := t.dialect.supportsIfNotExists }).map .executeAll
  | createTable table declare => (built t (.create table) declare).map .executeAll
  | alterTable table declare => (built t (.alter table) declare).map .executeAll
  | renameTable table name =>
    .ok (.executeAll [t.dialect.renameTable (t.tablePrefix ++ table) (t.tablePrefix ++ name)])
  | dropTable table => .ok (.executeAll ["DROP TABLE " ++ t.dialect.quoteSchema (t.tablePrefix ++ table)])
  | dropTableIfExists table => .ok (.executeAll [t.dialect.dropTableIfExists (t.tablePrefix ++ table)])
  | hasTable table =>
    .ok (.query ⟨t.dialect.tableExistsQuery, [.text (t.tablePrefix ++ table)]⟩ fun rows => .yes !rows.isEmpty)
  | start => .ok .start
  | commit => .ok .commit
  | rollback => .ok .rollback

/-- An operation that has nothing to compile begins at once, and does not look at the memory. -/
theorem ending_direct {p : Operation σ Result} {plan : Target → Except CompileError Plan} {direct : Plan}
    (hplan : plan s.target = .ok direct) (hsome : direct ≠ .executeAll [])
    (h : ending p s = ending direct.run s) : ending p s = ending (carryOut plan) s := by
  rw [h, carryOut_ok hplan]
  exact (direct.unswayed hsome none).symm

/-- **A command does what its plan says**, and nothing before it has compiled. -/
theorem ending_run (c : Command) (s : Session σ) : ending c.run s = ending (carryOut (plan · c)) s := by
  cases c with
  | trySelect table joins items criteria =>
    simp only [run, Session.trySelect, carryOut, plan, compiled_map_bind, bind_assoc, Plan.run]
  | tryQuery sql params =>
    refine ending_direct rfl nofun ?_
    simp only [run, Session.tryQuery, rawStatement, bind_assoc, Plan.run]
    rw [ending_get_bind]
  | insert table rows =>
    have hinsert : (Session.insert table rows : Operation σ WriteResult) =
        get >>= fun s => compiled (Statement.insert s.target table rows) >>= inserted := rfl
    simp only [run, hinsert, carryOut, plan, compiled_map_bind, bind_assoc, Plan.run]
  | update table data criteria =>
    simp only [run, Session.update, write, carryOut, plan, compiled_map_bind, bind_assoc, Plan.run, pure_bind]
  | delete table criteria =>
    simp only [run, Session.delete, write, carryOut, plan, compiled_map_bind, bind_assoc, Plan.run, pure_bind]
  | replace table replacements criteria =>
    simp only [run, Session.replace, write, carryOut, plan, compiled_map_bind, bind_assoc, Plan.run, pure_bind]
  | execute sql params =>
    refine ending_direct rfl nofun ?_
    simp only [run, Session.execute, rawStatement, bind_assoc, pure_bind, Plan.run]
    rw [ending_get_bind]
  | create table columns options =>
    simp only [run, Session.create, Session.createTable, runBlueprint, carryOut, plan, built, compiled_map_bind,
      bind_assoc, Plan.run]
    rw [get_bind_get]
  | createTable table declare =>
    simp only [run, Session.createTable, runBlueprint, carryOut, plan, built, compiled_map_bind, bind_assoc, Plan.run]
  | alterTable table declare =>
    simp only [run, Session.alterTable, runBlueprint, carryOut, plan, built, compiled_map_bind, bind_assoc, Plan.run]
  | renameTable table name =>
    refine ending_direct rfl nofun ?_
    simp only [run, Session.renameTable, fullName, bind_assoc, Plan.run]
    rw [ending_get_bind]
  | dropTable table =>
    refine ending_direct rfl nofun ?_
    simp only [run, Session.dropTable, fullName, bind_assoc, Plan.run]
    rw [ending_get_bind]
  | dropTableIfExists table =>
    refine ending_direct rfl nofun ?_
    simp only [run, Session.dropTableIfExists, fullName, bind_assoc, Plan.run]
    rw [ending_get_bind]
  | hasTable table =>
    refine ending_direct rfl nofun ?_
    simp only [run, Session.hasTable, fullName, bind_assoc, pure_bind, Plan.run]
    rw [ending_get_bind]
  | start => exact ending_direct rfl nofun rfl
  | commit => exact ending_direct rfl nofun rfl
  | rollback => exact ending_direct rfl nofun rfl

end Command
end Session
end SqlToolkit
