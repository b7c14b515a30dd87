import SqlToolkit.Migration.Batch
import SqlToolkit.Proofs.Migration.Statement
import SqlToolkit.Proofs.Outcome
import SqlToolkit.Proofs.Session.Record

/-!
# The calls of a migrator

A migrator checks its table, reads the history and then does its task in one transaction.
This module says which calls of the backend that takes, for every backend: whichever call
is refused, the entries of the run follow one protocol (`Followed`).

What the migrations do is left open.  A `Roster` says of each registered migration which
entries its two steps make, and a `Cast` is a pair of registries, one for plain and one
for watched sessions, that keep to it.
-/
namespace SqlToolkit

open Migration

/-- A step of a migration. -/
inductive Step where
  | up (name : String)
  | down (name : String)
deriving DecidableEq, Repr

/-- How a program behaves: which entries come with which outcome. -/
abbrev Conduct := List (Entry Step) → Except MigrationError Unit → Prop

/-- The outcome of a call whose answer is not looked at. -/
def settled {α : Type} (answer : Except DatabaseError α) : Except MigrationError Unit :=
  (answer.map fun _ => ()).mapError .database

/-! ## Single calls -/

section Called

variable {σ α β γ : Type} {s : Session σ} {entry : Except DatabaseError γ → Entry Step} {f : γ → α}

/-- One call of the backend is made, and a function of its answer is the outcome. -/
def Called (entry : Except DatabaseError γ → Entry Step) (f : γ → α) :
    List (Entry Step) → Except MigrationError α → Prop :=
  fun es r => ∃ answer, es = [entry answer] ∧ r = (answer.map f).mapError .database

/-- An operation of one call as a part of a migration. -/
theorem Records.lift_called {p : Session.Operation (Recorder Step σ) α} {q : Session.Operation σ α}
    (h : Records p q s fun es r => ∃ answer, es = [entry answer] ∧ r = answer.map f) :
    Records (Migration.lift p) (Migration.lift q) s (Called entry f) := by
  refine .adapt (h.imp ?_)
  rintro _ _ ⟨answer, rfl, rfl⟩
  exact ⟨answer, rfl, rfl⟩

/-- What follows a call starts from its answer, if there is one. -/
theorem Records.called_bind {p : Program (Recorder Step σ) α} {q : Program σ α}
    {k : α → Program (Recorder Step σ) β} {k' : α → Program σ β}
    {cond : List (Entry Step) → Except MigrationError β → Prop} (h : Records p q s (Called entry f))
    (herror : ∀ e, cond [entry (.error e)] (.error (.database e)))
    (hok : ∀ c u, ending q s = (.ok (f c), u) → s.Keeps u →
      Records (k (f c)) (k' (f c)) u fun es => cond (entry (.ok c) :: es)) :
    Records (p >>= k) (q >>= k') s cond := by
  refine h.bind ?_ ?_
  · rintro _ e ⟨answer, rfl, he⟩
    cases answer with
    | ok c => cases he
    | error cause =>
      cases he
      exact herror cause
  · rintro _ a u hq hu ⟨answer, rfl, ha⟩
    cases answer with
    | error cause => cases ha
    | ok c =>
      cases ha
      exact hok c u hq hu

theorem Records.called_map {p : Program (Recorder Step σ) α} {q : Program σ α} (h : Records p q s (Called entry f))
    (g : α → β) :
    Records (do let a ← p; return g a) (do let a ← q; return g a) s (Called entry fun c => g (f c)) :=
  h.called_bind (fun e => ⟨.error e, rfl, rfl⟩) fun c _ _ _ => .pure ⟨.ok c, rfl, rfl⟩

end Called

/-! ## The history -/

namespace History

variable {σ : Type} {h : History} {s : Session σ}

/-- One statement makes the table. -/
theorem exists_createStatements (h : History) (t : Target) : ∃ sql, h.createStatements t = .ok [sql] :=
  ⟨_, rfl⟩

/-- The table is looked for, and made if there is none. -/
inductive Ensured (h : History) (t : Target) : Conduct
  | unknown {e : DatabaseError} :
    Ensured h t [.query (h.existsStatement t) (.error e)] (.error (.database e))
  | present {rows : List Row} : rows ≠ [] →
    Ensured h t [.query (h.existsStatement t) (.ok rows)] (.ok ())
  | made {sql : String} {answer : Except DatabaseError WriteResult} : h.createStatements t = .ok [sql] →
    Ensured h t [.query (h.existsStatement t) (.ok []), .execute ⟨sql, []⟩ answer] (settled answer)

theorem records_createTable : Records (Session.createTable h.table declare)
    (Session.createTable h.table declare) s fun (es : List (Entry Step)) r => ∃ sql answer,
      h.createStatements s.target = .ok [sql] ∧ es = [.execute ⟨sql, []⟩ answer] ∧
        r = answer.map fun _ => () := by
  obtain ⟨sql, hsql⟩ := exists_createStatements h s.target
  unfold Session.createTable Session.runBlueprint
  refine .get_bind (fun _ => rfl) (Session.records_compiled_bind hsql fun u _ => ?_)
  refine (Session.records_run ⟨sql, []⟩).bind ?_ ?_
  · rintro _ e rfl
    exact ⟨sql, .error e, hsql, rfl, rfl⟩
  · rintro _ result v - - rfl
    exact .pure ⟨sql, .ok result, hsql, rfl, rfl⟩

theorem records_ensureTable : Records h.ensureTable h.ensureTable s (Ensured h s.target) := by
  unfold ensureTable
  refine (Records.lift_called (Session.records_hasTable h.table)).called_bind (fun _ => .unknown) ?_
  intro rows u _ hkeeps
  by_cases hrows : rows = []
  · subst hrows
    refine .adapt (records_createTable.imp ?_)
    rintro _ _ ⟨sql, answer, hsql, rfl, rfl⟩
    rw [hkeeps.target] at hsql
    exact .made hsql
  · rw [if_neg (by simpa using hrows), if_neg (by simpa using hrows)]
    exact .pure (.present hrows)

theorem records_applied : Records h.applied h.applied s
    (Called (.query (h.readStatement s.target)) fun rows => rows.map AppliedMigration.ofRow) :=
  (Records.lift_called (Session.records_trySelect (h.select_eq s.target)).of_answer).called_map
    fun rows : List Row => rows.map AppliedMigration.ofRow

theorem records_lastBatch : Records h.lastBatch h.lastBatch s (Called (.query (h.readStatement s.target))
    fun rows => AppliedMigration.lastBatch (rows.map AppliedMigration.ofRow)) :=
  records_applied.called_map AppliedMigration.lastBatch

theorem records_recordApplied (name : String) (batch : Int64) :
    Records (h.recordApplied name batch) (h.recordApplied name batch) s
      (Called (.execute (h.insertStatement s.target name batch)) fun _ => ()) :=
  (Records.lift_called (Session.records_insert (h.insert_eq s.target name batch)).of_answer).called_map
    fun _ => ()

theorem records_recordReverted (name : String) :
    Records (h.recordReverted name) (h.recordReverted name) s
      (Called (.execute (h.deleteStatement s.target name)) fun _ => ()) := by
  have hdelete : Statement.delete s.target h.table (named name) = .ok (h.deleteStatement s.target name) :=
    h.delete_eq s.target name
  have hcalled : Records (lift (Session.delete h.table (named name))) (lift (Session.delete h.table (named name))) s
      (Called (.execute (h.deleteStatement s.target name)) WriteResult.rowsAffected) :=
    .lift_called (Session.records_write hdelete)
  exact hcalled.called_map fun _ => ()

end History

/-! ## Transactions -/

/-- A migration in a transaction: what its step does, and the statement that notes it in
the history. -/
structure Job where
  name : String
  work : Conduct
  note : Statement

/-- A job is worked and then noted; work that fails is not noted. -/
inductive Job.Done (job : Job) : Conduct
  | failed {es : List (Entry Step)} {e : MigrationError} :
    job.work es (.error e) → job.Done es (.error e)
  | noted {es : List (Entry Step)} {answer : Except DatabaseError WriteResult} :
    job.work es (.ok ()) → job.Done (es ++ [.execute job.note answer]) (settled answer)

/-- What a failure comes to after an attempt to undo the transaction. -/
def undone (failure : MigrationError) : Except DatabaseError Unit → MigrationError
  | .ok _ => failure
  | .error rollback => .rollbackFailed failure rollback

/-- **One transaction for all jobs.**  It is kept when every job is done, in order; the
first failure, be it of a job or of the commit, is followed by one attempt to undo and by
nothing else. -/
inductive Transacted (jobs : List Job) : List (Entry Step) → Except MigrationError (List String) → Prop
  | refused {e : DatabaseError} : Transacted jobs [.start (.error e)] (.error (.database e))
  | kept {es : List (Entry Step)} : InTurn Job.Done jobs es (.ok ()) →
    Transacted jobs (.start (.ok ()) :: es ++ [.commit (.ok ())]) (.ok (jobs.map Job.name))
  | unkept {es : List (Entry Step)} {e : DatabaseError} {answer : Except DatabaseError Unit} :
    InTurn Job.Done jobs es (.ok ()) →
    Transacted jobs (.start (.ok ()) :: es ++ [.commit (.error e), .rollback answer])
      (.error (undone (.database e) answer))
  | failed {es : List (Entry Step)} {e : MigrationError} {answer : Except DatabaseError Unit} :
    InTurn Job.Done jobs es (.error e) →
    Transacted jobs (.start (.ok ()) :: es ++ [.rollback answer]) (.error (undone e answer))

namespace Migrator

variable {σ : Type} {s : Session σ} {jobs : List Job}

theorem records_undo {α : Type} (failure : MigrationError) :
    Records (undo failure : Program (Recorder Step σ) α) (undo failure) s fun es r =>
      ∃ answer, es = [.rollback answer] ∧ r = .error (undone failure answer) := by
  have hrollback : Records (ExceptT.lift Session.rollback.run : Program (Recorder Step σ) _)
      (ExceptT.lift Session.rollback.run : Program σ _) s fun es r =>
        ∃ answer, es = [.rollback answer] ∧ r = .ok answer :=
    .lift (Session.records_rollback.imp fun _ answer hes => ⟨answer, hes, rfl⟩)
  unfold undo
  refine hrollback.bind ?_ ?_
  · rintro _ e ⟨answer, rfl, ⟨⟩⟩
  · rintro _ answer u - - ⟨_, rfl, ⟨⟩⟩
    cases answer with
    | ok _ => exact .throw ⟨.ok (), rfl, rfl⟩
    | error rollback => exact .throw ⟨.error rollback, rfl, rfl⟩

/-- The jobs and then the commit, before a failure is looked at. -/
inductive Attempted (jobs : List Job) : List (Entry Step) → Except MigrationError (List String) → Prop
  | failed {es : List (Entry Step)} {e : MigrationError} :
    InTurn Job.Done jobs es (.error e) → Attempted jobs es (.error e)
  | worked {es : List (Entry Step)} {answer : Except DatabaseError Unit} : InTurn Job.Done jobs es (.ok ()) →
    Attempted jobs (es ++ [.commit answer]) ((answer.map fun _ => jobs.map Job.name).mapError .database)

theorem Attempted.transacted_ok {es : List (Entry Step)} {names : List String}
    (h : Attempted jobs es (.ok names)) : Transacted jobs (.start (.ok ()) :: es) (.ok names) := by
  generalize hr : (Except.ok names : Except MigrationError (List String)) = r at h
  cases h with
  | failed _ => cases hr
  | @worked es answer hworked =>
    cases answer with
    | error e => cases hr
    | ok _ =>
      cases hr
      exact .kept hworked

theorem Attempted.transacted_error {es : List (Entry Step)} {e : MigrationError}
    (h : Attempted jobs es (.error e)) (answer : Except DatabaseError Unit) :
    Transacted jobs (.start (.ok ()) :: es ++ [.rollback answer]) (.error (undone e answer)) := by
  generalize hr : (Except.error e : Except MigrationError (List String)) = r at h
  cases h with
  | failed hfailed =>
    cases hr
    exact .failed hfailed
  | @worked es commit hworked =>
    cases commit with
    | ok _ => cases hr
    | error cause =>
      cases hr
      show Transacted jobs (.start (.ok ()) :: (es ++ [.commit (.error cause)] ++ [.rollback answer])) _
      rw [List.append_assoc]
      exact .unkept hworked

theorem records_inTransaction {p : Program (Recorder Step σ) (List String)} {q : Program σ (List String)}
    (h : ∀ u, s.Keeps u → Records p q u fun es r =>
      InTurn Job.Done jobs es (r.map fun _ => ()) ∧ ∀ names, r = .ok names → names = jobs.map Job.name) :
    Records (inTransaction p) (inTransaction q) s (Transacted jobs) := by
  have hkept (u : Session σ) (hu : s.Keeps u) :
      Records (do let result ← p; lift Session.commit; return result)
        (do let result ← q; lift Session.commit; return result) u (Attempted jobs) := by
    refine (h u hu).bind ?_ ?_
    · rintro es e ⟨hfailed, -⟩
      exact .failed hfailed
    rintro es names v - - ⟨hworked, hnames⟩
    obtain rfl := hnames names rfl
    refine (Records.lift_called Session.records_commit.of_answer).called_bind (fun _ => .worked hworked) ?_
    exact fun _ _ _ _ => .pure (.worked hworked)
  unfold inTransaction
  refine (Records.lift_called Session.records_start.of_answer).called_bind (fun _ => .refused) ?_
  intro _ u _ hu
  have hlooked : Records (ExceptT.lift (do let result ← p; lift Session.commit; return result).run)
      (ExceptT.lift (do let result ← q; lift Session.commit; return result).run : Program σ _) u
      fun es r => ∃ r', Attempted jobs es r' ∧ r = .ok r' :=
    .lift ((hkept u hu).imp fun _ r hr => ⟨r, hr, rfl⟩)
  -- the attempt itself does not fail: its outcome says whether to undo
  refine hlooked.bind ?_ ?_
  · rintro es e ⟨_, -, ⟨⟩⟩
  rintro es result v - - ⟨_, hattempted, ⟨⟩⟩
  cases result with
  | ok names =>
    refine .pure ?_
    rw [List.append_nil]
    exact hattempted.transacted_ok
  | error failure =>
    refine (records_undo failure).imp ?_
    rintro _ _ ⟨answer, rfl, rfl⟩
    exact hattempted.transacted_error answer

end Migrator
end SqlToolkit
