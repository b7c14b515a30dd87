import SqlToolkit.Proofs.Session.Diary
import SqlToolkit.Proofs.Session.Service

/-!
# Routines

A routine is what a program may do with a session: it asks for one operation after another
and chooses each by the outcomes so far and by what it reads off the session in between.
An action's callback is a routine again.

In a session that has just been opened, the log of a routine is that of the statements it
hands to the backend, the newest of them is the last, and both agree with what a watch on
the backend sees (`Faithful`).  Since a routine may be done after any operation, this is so
at every moment.  What does not compile is not begun (`Uncompiled`), and the
statements of a blueprint are handed over in turn (`Built`).
-/
namespace SqlToolkit
namespace Session

variable {π σ : Type}

/-- What can be read off a session at any time. -/
structure Reading where
  target : Target
  log : List String
  last : Option String
  error : Option ErrorInfo
  lastInsertId : Option Int64
  inTransaction : Bool

def reading (s : Session σ) : Reading where
  target := s.target
  log := s.log
  last := s.last
  error := s.error
  lastInsertId := s.lastInsertId
  inTransaction := s.inTransaction

/-- Operations chosen one after another, and an outcome in the end. -/
inductive Routine where
  | done (outcome : Except DatabaseError Bool)
  | command (c : Command) (next : Except DatabaseError Result → Routine)
  | lookup (l : Lookup) (next : Result → Routine)
  | action (callback : Routine) (next : Except DatabaseError Bool → Routine)
  | read (next : Reading → Routine)

/-- The operations of a routine, on any session. -/
def Routine.run : Routine → Operation σ Bool
  | done outcome => MonadExcept.ofExcept outcome
  | command c next => do
    let outcome ← attempt c.run
    (next outcome).run
  | lookup l next => do
    let answer ← ExceptT.lift l.look
    (next answer).run
  | action callback next => do
    let outcome ← attempt (Session.action callback.run)
    (next outcome).run
  | read next => do
    let s ← get
    (next s.reading).run

/-- **A routine writes what it hands over.** -/
theorem Routine.writes (routine : Routine) (s : Session σ) : Writes (π := π) routine.run routine.run s := by
  -- the callback of an action is a routine before it, so the induction covers actions in actions
  induction routine generalizing s with
  | done outcome =>
    refine .blank (.ofExcept rfl) ?_
    cases outcome with
    | ok _ => exact .blank rfl rfl rfl
    | error _ => exact .blank rfl rfl rfl
  | command c next ih => exact (writes_command c).attempt.bind fun outcome u => ih outcome u
  | lookup l next ih => exact (writes_lookup l).bind fun answer u => ih answer u
  | action callback next ihcallback ih =>
    exact (writes_action ihcallback).attempt.bind fun outcome u => ih outcome u
  | read next ih => exact .get_bind (fun _ => rfl) (ih s.reading s)

/-! ## Statements of a blueprint -/

/-- A statement without values is handed over for its effect. -/
def Executed (sql : String) (es : List (Entry π)) (r : Except DatabaseError Unit) : Prop :=
  ∃ answer, es = [.execute ⟨sql, []⟩ answer] ∧ r = answer.map fun _ => ()

theorem records_runAll (sqls : List String) (s : Session σ) :
    Records (runAll sqls) (runAll sqls) s (InTurn (Executed (π := π)) sqls) := by
  induction sqls generalizing s with
  | nil => exact .pure .nil
  | cons sql rest ih =>
    refine (records_run ⟨sql, []⟩).bind ?_ ?_
    · rintro _ e rfl
      exact .failed ⟨.error e, rfl, rfl⟩
    · rintro _ result u - - rfl
      exact (ih u).imp fun es r h => .next ⟨.ok result, rfl, rfl⟩ h

theorem records_runBlueprint {blueprint : Schema.Blueprint} {declare : Schema.Blueprint → Schema.Blueprint}
    {s : Session σ} {sqls : List String} (hbuilt : Command.built s.target blueprint declare = .ok sqls) :
    Records (runBlueprint blueprint declare) (runBlueprint blueprint declare) s
      (InTurn (Executed (π := π)) sqls) :=
  .get_bind (fun _ => rfl) (records_compiled_bind hbuilt fun u _ => records_runAll sqls u)

/-- In this session the statements of a blueprint are handed over in turn, up to the first that fails. -/
structure Built (s : Session σ) : Prop where
  create (table : String) (declare : Schema.Blueprint → Schema.Blueprint) (sqls : List String) :
    Command.built s.target (.create table) declare = .ok sqls →
      InTurn (Executed (π := Unit)) sqls (entriesOf (createTable table declare) s)
        (ending (createTable table declare) s).1
  alter (table : String) (declare : Schema.Blueprint → Schema.Blueprint) (sqls : List String) :
    Command.built s.target (.alter table) declare = .ok sqls →
      InTurn (Executed (π := Unit)) sqls (entriesOf (alterTable table declare) s)
        (ending (alterTable table declare) s).1

theorem built (s : Session σ) : Built s where
  create _ _ _ hbuilt := (records_runBlueprint hbuilt).entriesOf
  alter _ _ _ hbuilt := (records_runBlueprint hbuilt).entriesOf

/-! ## What does not compile -/

/-- In this session what does not compile is not begun: no call is made and only the memory changes. -/
structure Uncompiled (s : Session σ) : Prop where
  command (c : Command) (cause : CompileError) : c.plan s.target = .error cause →
    entriesOf (π := Unit) c.run s = [] ∧ ending c.run s =
      (.error (.compile cause), s.remembering (some (DatabaseError.compile cause).info))
  lookup (l : Lookup) (cause : CompileError) : l.statement s.target = .error cause →
    entriesOf (π := Unit) (ExceptT.lift l.look : Operation (Recorder Unit σ) Result) s = [] ∧ l.look.run s =
      (l.result [], s.remembering (some (DatabaseError.compile cause).info))

theorem look_uncompiled {l : Lookup} {s : Session σ} {cause : CompileError}
    (hstatement : l.statement s.target = .error cause) :
    l.look.run s = (l.result [], s.remembering (some (DatabaseError.compile cause).info)) := by
  rw [l.look_run, orEmpty_run, carryOut_error (Lookup.plan_eq_error hstatement)]

theorem uncompiled (s : Session σ) : Uncompiled s where
  command c cause hplan := by
    constructor
    · rw [entriesOf, c.ending_run, carryOut_error hplan]
      rfl
    · rw [c.ending_run, carryOut_error hplan]
  lookup l cause hstatement := by
    constructor
    · show (l.look.run (s.recorded [])).2.connection.entries = []
      rw [look_uncompiled (s := s.recorded []) hstatement]
      rfl
    · exact look_uncompiled hstatement

/-! ## An opened session -/

/-- The diary of a session that was opened with these options, after a routine. -/
structure Faithful (options : Options) (s : Session σ) (routine : Routine) : Prop where
  /-- The watch changes nothing. -/
  watched : ending routine.run (s.recorded []) = ((ending routine.run s).1,
    (ending routine.run s).2.recorded (entriesOf (π := Unit) routine.run s))
  logged : options.logging = true →
    (ending routine.run s).2.log = texts (entriesOf (π := Unit) routine.run s)
  unlogged : options.logging = false → (ending routine.run s).2.log = []
  last : (ending routine.run s).2.last = (texts (entriesOf (π := Unit) routine.run s)).getLast?

/-- A session is opened with an empty diary. -/
theorem open?_eq_ok {backend : Backend σ} {connection : σ} {options : Options} {s : Session σ}
    (h : open? backend connection options = .ok s) : s.log = [] ∧ s.last = none ∧ s.logging = options.logging := by
  unfold open? at h
  cases hdialect : options.dialect with
  | error e =>
    rw [hdialect] at h
    cases h
  | ok dialect =>
    rw [hdialect] at h
    change (if backend.dialect ≠ dialect then Except.error _ else Except.ok _) = _ at h
    by_cases hspeaks : backend.dialect ≠ dialect
    · rw [if_pos hspeaks] at h
      cases h
    · rw [if_neg hspeaks] at h
      cases h
      exact ⟨rfl, rfl, rfl⟩

/-- **The diary, the watch and the statements agree**, for every routine and every backend: the log holds what was
handed over, failures included, and what does not compile is never handed over. -/
theorem routine_faithful {backend : Backend σ} {connection : σ} {options : Options} {s : Session σ}
    (hopen : open? backend connection options = .ok s) (routine : Routine) :
    Faithful options s routine ∧ ∀ u : Session σ, Uncompiled u ∧ Built u := by
  obtain ⟨hlog, hlast, hlogging⟩ := open?_eq_ok hopen
  obtain ⟨es, hes, -, hrun⟩ := routine.writes (π := Unit) s
  have hentries : entriesOf (π := Unit) routine.run s = es := by
    unfold entriesOf
    rw [hrun]
    rfl
  refine ⟨⟨?_, ?_, ?_, ?_⟩, fun u => ⟨uncompiled u, built u⟩⟩
  · rw [hentries]
    exact hrun []
  · intro hon
    rw [hentries, hes.log, if_pos (hlogging.trans hon), hlog]
    rfl
  · intro hoff
    rw [hes.log, hlogging, hoff, hlog]
    rfl
  · rw [hentries, hes.last, hlast, Option.or_none]

/-- A write that is refused is logged before the query that follows it. -/
theorem routine_faithful_hollow :
    let options : Options := ⟨"sqlite", none, "", true⟩
    let s : Session Unit := ⟨hollow, (), ⟨.sqlite, ""⟩, true, [], none, none, none⟩
    let routine : Routine :=
      .command (.execute "DELETE" []) fun _ => .lookup (.query "SELECT" []) fun _ => .done (.ok true)
    open? hollow () options = .ok s ∧ Faithful options s routine ∧
      (ending routine.run s).2.log = ["DELETE", "SELECT"] := by
  intro options s routine
  have hdialect : options.dialect = .ok .sqlite := congrArg (Except.mapError _) (Dialect.ofTag?_tag .sqlite)
  have hopen : open? hollow () options = .ok s := by
    unfold open?
    rw [hdialect]
    rfl
  exact ⟨hopen, (routine_faithful hopen routine).1, by decide +kernel⟩

end Session
end SqlToolkit
