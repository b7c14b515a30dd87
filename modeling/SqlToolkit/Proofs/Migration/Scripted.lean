import SqlToolkit.Proofs.Migration.Task

/-!
# One transaction for each call

Scripted migrations have no other effect than the statements of their scripts, so every
call of the backend in a run of their migrator is known.  Whatever the backend answers,
`migrate`, `rollback` and `reset` follow the protocol: nothing is sent when there is nothing
to do or when that is known to fail, and otherwise everything is sent inside one
transaction, which is kept if and only if nothing failed and is undone once if anything did.
-/
namespace SqlToolkit

open Migration

/-! ## Transaction control -/

namespace Entry

variable {π : Type}

/-- The entry is about a transaction as a whole. -/
def isControl : Entry π → Bool
  | start _ => true
  | commit _ => true
  | rollback _ => true
  | _ => false

def isStart : Entry π → Bool
  | start _ => true
  | _ => false

def isRollback : Entry π → Bool
  | rollback _ => true
  | _ => false

end Entry

/-- A failure is not itself the failure to undo a transaction. -/
def MigrationError.IsFirst (e : MigrationError) : Prop := ∀ failure rollback, e ≠ .rollbackFailed failure rollback

/-- What the transaction control of a call may look like, and the outcome of the call. -/
inductive Controlled : List (Entry Step) → Except MigrationError (List String) → Prop
  | failed {e : MigrationError} : e.IsFirst → Controlled [] (.error e)
  | idle : Controlled [] (.ok [])
  | refused {e : DatabaseError} : Controlled [.start (.error e)] (.error (.database e))
  | kept {names : List String} : Controlled [.start (.ok ()), .commit (.ok ())] (.ok names)
  | unkept {e : DatabaseError} {answer : Except DatabaseError Unit} :
    Controlled [.start (.ok ()), .commit (.error e), .rollback answer] (.error (undone (.database e) answer))
  | reverted {e : MigrationError} {answer : Except DatabaseError Unit} : e.IsFirst →
    Controlled [.start (.ok ()), .rollback answer] (.error (undone e answer))

/-- How the outcome of a call hangs on its transaction. -/
structure Bracketed (es : List (Entry Step)) (r : Except MigrationError (List String)) : Prop where
  /-- At most one transaction is asked for. -/
  starts_le_one : es.countP Entry.isStart ≤ 1
  rollbacks_le_one : es.countP Entry.isRollback ≤ 1
  /-- A transaction that was started is undone exactly when it was not kept. -/
  rollback_iff : (∃ answer, .rollback answer ∈ es) ↔ .start (.ok ()) ∈ es ∧ .commit (.ok ()) ∉ es
  /-- Once a transaction was asked for, the call succeeds exactly when it was kept. -/
  ok_iff : (∃ answer, .start answer ∈ es) → ((∃ names, r = .ok names) ↔ .commit (.ok ()) ∈ es)
  /-- Both failures are told exactly when undoing failed too. -/
  rollbackFailed_iff (e : DatabaseError) :
    (∃ failure, r = .error (.rollbackFailed failure e)) ↔ .rollback (.error e) ∈ es

theorem undone_eq_rollbackFailed_iff {e failure : MigrationError} {answer : Except DatabaseError Unit}
    {rollback : DatabaseError} (he : e.IsFirst) :
    undone e answer = .rollbackFailed failure rollback ↔ answer = .error rollback ∧ failure = e := by
  cases answer with
  | ok _ =>
    constructor
    · intro heq
      exact absurd heq (he failure rollback)
    · rintro ⟨⟨⟩, -⟩
  | error cause =>
    constructor
    · rintro ⟨⟩
      exact ⟨rfl, rfl⟩
    · rintro ⟨⟨⟩, rfl⟩
      rfl

theorem isFirst_database (e : DatabaseError) : (MigrationError.database e).IsFirst := by
  rintro _ _ ⟨⟩

theorem Controlled.bracketed {cs : List (Entry Step)} {r : Except MigrationError (List String)}
    (h : Controlled cs r) : Bracketed cs r := by
  cases h with
  | failed he =>
    refine ⟨Nat.zero_le 1, Nat.zero_le 1, by simp, by simp, fun e' => ?_⟩
    simpa using fun failure => he failure e'
  | idle => exact ⟨Nat.zero_le 1, Nat.zero_le 1, by simp, by simp, by simp⟩
  | refused => exact ⟨Nat.le_refl 1, Nat.zero_le 1, by simp, by simp, by simp⟩
  | kept => exact ⟨Nat.le_refl 1, Nat.zero_le 1, by simp, by simp, by simp⟩
  | unkept =>
    refine ⟨Nat.le_refl 1, Nat.le_refl 1, by simp, by simp, fun e' => ?_⟩
    simp [undone_eq_rollbackFailed_iff (isFirst_database _), eq_comm]
  | reverted he =>
    refine ⟨Nat.le_refl 1, Nat.le_refl 1, by simp, by simp, fun e' => ?_⟩
    simp [undone_eq_rollbackFailed_iff he, eq_comm]

/-- The bracket depends on the transaction control alone. -/
theorem Bracketed.of_filter {es : List (Entry Step)} {r : Except MigrationError (List String)}
    (h : Bracketed (es.filter Entry.isControl) r) : Bracketed es r := by
  -- every entry that a bracket speaks of is one of transaction control
  have hmem (x : Entry Step) (hx : x.isControl = true) : x ∈ es.filter Entry.isControl ↔ x ∈ es := by
    rw [List.mem_filter]
    exact and_iff_left hx
  have hcount {p : Entry Step → Bool} (hp : ∀ x, p x = true → x.isControl = true) :
      (es.filter Entry.isControl).countP p = es.countP p := by
    rw [List.countP_filter]
    refine List.countP_congr fun x _ => ?_
    constructor
    · intro hx
      exact (Bool.and_eq_true_iff.1 hx).1
    · intro hx
      exact Bool.and_eq_true_iff.2 ⟨hx, hp x hx⟩
  have hstart (answer : Except DatabaseError Unit) := hmem (.start answer) rfl
  have hcommit (answer : Except DatabaseError Unit) := hmem (.commit answer) rfl
  have hrollback (answer : Except DatabaseError Unit) := hmem (.rollback answer) rfl
  obtain ⟨hstarts, hrollbacks, hiff, hok, hboth⟩ := h
  simp only [hstart, hcommit, hrollback] at hiff hok hboth
  refine ⟨?_, ?_, hiff, hok, hboth⟩
  · rwa [← hcount fun x hx => by cases x <;> simp_all [Entry.isStart, Entry.isControl]]
  · rwa [← hcount fun x hx => by cases x <;> simp_all [Entry.isRollback, Entry.isControl]]

/-! ### Work inside a transaction -/

/-- Work that leaves the transaction it is done in alone, and fails for a reason of its own. -/
def Conduct.Inner (work : Conduct) : Prop :=
  ∀ es r, work es r → (es.filter Entry.isControl = []) ∧ ∀ e, r = .error e → e.IsFirst

theorem isFirst_of_settled {α : Type} {answer : Except DatabaseError α} {e : MigrationError}
    (h : settled answer = .error e) : e.IsFirst := by
  cases answer with
  | ok _ => cases h
  | error cause =>
    cases h
    exact isFirst_database cause

theorem Conduct.Inner.inTurn {α : Type} {done : α → Conduct} {xs : List α}
    (h : ∀ x ∈ xs, (done x).Inner) : Conduct.Inner (InTurn done xs) := by
  intro es r hturn
  induction hturn with
  | nil => exact ⟨rfl, by rintro _ ⟨⟩⟩
  | failed hfailed => exact h _ List.mem_cons_self _ _ hfailed
  | next hdone _ ih =>
    obtain ⟨hrest, hfirst⟩ := ih fun x hx => h x (List.mem_cons_of_mem _ hx)
    refine ⟨?_, hfirst⟩
    rw [List.filter_append, (h _ List.mem_cons_self _ _ hdone).1, hrest]
    rfl

theorem Job.inner_done {job : Job} (h : job.work.Inner) : Conduct.Inner job.Done := by
  intro es r hdone
  cases hdone with
  | failed hfailed => exact h _ _ hfailed
  | noted hworked =>
    refine ⟨?_, fun e he => isFirst_of_settled he⟩
    rw [List.filter_append, (h _ _ hworked).1]
    rfl

theorem Transacted.controlled {jobs : List Job} {es : List (Entry Step)}
    {r : Except MigrationError (List String)} (hjobs : ∀ job ∈ jobs, job.work.Inner)
    (h : Transacted jobs es r) : Controlled (es.filter Entry.isControl) r := by
  have hinner : Conduct.Inner (InTurn Job.Done jobs) :=
    .inTurn fun job hjob => Job.inner_done (hjobs job hjob)
  cases h with
  | refused => exact .refused
  | kept hworked =>
    rw [List.filter_append, List.filter_cons_of_pos rfl, (hinner _ _ hworked).1]
    exact .kept
  | unkept hworked =>
    rw [List.filter_append, List.filter_cons_of_pos rfl, (hinner _ _ hworked).1]
    exact .unkept
  | failed hfailed =>
    rw [List.filter_append, List.filter_cons_of_pos rfl, (hinner _ _ hfailed).1]
    exact .reverted ((hinner _ _ hfailed).2 _ rfl)

theorem Carried.controlled {task : Except MigrationError (List Job)} {es : List (Entry Step)}
    {r : Except MigrationError (List String)} (herror : ∀ e, task = .error e → e.IsFirst)
    (hjobs : ∀ jobs, task = .ok jobs → ∀ job ∈ jobs, job.work.Inner) (h : Carried task es r) :
    Controlled (es.filter Entry.isControl) r := by
  cases h with
  | refused => exact .failed (herror _ rfl)
  | idle => exact .idle
  | transacted _ htransacted => exact htransacted.controlled (hjobs _ rfl)

theorem History.inner_ensured (h : History) (t : Target) : Conduct.Inner (h.Ensured t) := by
  intro es r hensured
  cases hensured with
  | unknown => exact ⟨rfl, fun e he => by cases he; exact isFirst_database _⟩
  | present _ => exact ⟨rfl, by rintro _ ⟨⟩⟩
  | made _ => exact ⟨rfl, fun e he => isFirst_of_settled he⟩

/-- The protocol brackets a call, whatever its task. -/
theorem Followed.bracketed {h : History} {t : Target}
    {task : List AppliedMigration → Except MigrationError (List Job)} {es : List (Entry Step)}
    {r : Except MigrationError (List String)} (herror : ∀ applied e, task applied = .error e → e.IsFirst)
    (hjobs : ∀ applied jobs, task applied = .ok jobs → ∀ job ∈ jobs, job.work.Inner)
    (hfollowed : Followed h t task es r) : Bracketed es r := by
  have hinner := h.inner_ensured t
  refine .of_filter (Controlled.bracketed ?_)
  cases hfollowed with
  | unchecked hensured =>
    obtain ⟨hnone, hfirst⟩ := hinner _ _ hensured
    rw [hnone]
    exact .failed (hfirst _ rfl)
  | unread hensured =>
    rw [List.filter_append, (hinner _ _ hensured).1]
    exact .failed (isFirst_database _)
  | read hensured hcarried =>
    rw [List.filter_append, (hinner _ _ hensured).1, List.filter_cons_of_neg Bool.false_ne_true]
    exact hcarried.controlled (herror _) (hjobs _)

/-! ## Scripts -/

/-- A statement of a script is sent. -/
def Sent (t : Target) (sql : String) : Conduct := Called (.execute ⟨t.renderRaw ⟨sql⟩, []⟩) fun _ => ()

theorem inner_sent (t : Target) (sql : String) : (Sent t sql).Inner := by
  rintro _ _ ⟨answer, rfl, rfl⟩
  exact ⟨rfl, fun e he => isFirst_of_settled he⟩

namespace ScriptedMigration

/-- The statements of a script are sent one after another. -/
def scriptConduct (t : Target) (script : String) : Conduct := InTurn (Sent t) (Script.statements script)

/-- The script to revert with is sent, if there is one. -/
def downConduct (t : Target) (m : ScriptedMigration) : Conduct :=
  match m.down with
  | some script => scriptConduct t script
  | none => fun es r => es = [] ∧ r = .error (.notReversible m.name)

theorem inner_scriptConduct (t : Target) (script : String) : (scriptConduct t script).Inner :=
  .inTurn fun sql _ => inner_sent t sql

theorem inner_downConduct (t : Target) (m : ScriptedMigration) : (m.downConduct t).Inner := by
  unfold downConduct
  cases m.down with
  | some script => exact inner_scriptConduct t script
  | none =>
    rintro _ _ ⟨rfl, rfl⟩
    exact ⟨rfl, by rintro _ ⟨⟩ _ _ ⟨⟩⟩

end ScriptedMigration

namespace Migration

variable {σ : Type} {s : Session σ}

theorem records_runStatements (sqls : List String) :
    Records (runStatements sqls) (runStatements sqls) s (InTurn (Sent s.target) sqls) := by
  induction sqls generalizing s with
  | nil => exact .pure .nil
  | cons sql rest ih =>
    refine (Records.lift_called (Session.records_execute sql [])).called_bind
      (fun e => .failed ⟨.error e, rfl, rfl⟩) ?_
    intro result u _ hu
    refine ih.imp fun es r hrest => ?_
    rw [hu.target] at hrest
    exact .next ⟨.ok result, rfl, rfl⟩ hrest

theorem records_runScript (script : String) :
    Records (runScript script) (runScript script) s (ScriptedMigration.scriptConduct s.target script) :=
  records_runStatements (Script.statements script)

theorem records_down_ofScripts (m : ScriptedMigration) :
    Records (ofScripts m).down (ofScripts m).down s (m.downConduct s.target) := by
  unfold ofScripts ScriptedMigration.downConduct
  cases m.down with
  | some script => exact records_runScript script
  | none => exact .throw ⟨rfl, rfl⟩

end Migration

/-! ## Registries of scripts -/

/-- Scripts in the strictly increasing order of their names. -/
structure ScriptedRegistry where
  scripts : List ScriptedMigration
  increasing : scripts.Pairwise fun a b => a.name < b.name

namespace ScriptedRegistry

variable {σ : Type} (R : ScriptedRegistry) (h : History) (t : Target)

/-- The scripts as a registry. -/
def registry (σ : Type) : Registry σ := ⟨R.scripts.map Migration.ofScripts, List.pairwise_map.2 R.increasing⟩

/-- Scripts have no effects but their statements. -/
def roster : Roster ScriptedMigration where
  members := R.scripts
  name := ScriptedMigration.name
  up m := ScriptedMigration.scriptConduct t m.up
  down m := m.downConduct t

/-- One registry of scripts for plain and for watched sessions. -/
def cast (s : Session σ) : Cast (R.roster s.target) s (R.registry σ) (R.registry (Recorder Step σ)) where
  plain := Migration.ofScripts
  watched := Migration.ofScripts
  lists_plain := ⟨rfl, fun _ => rfl⟩
  lists_watched := ⟨rfl, fun _ => rfl⟩
  up m _ u hu := by
    show Records _ _ u (ScriptedMigration.scriptConduct s.target m.up)
    rw [← hu.target]
    exact Migration.records_runScript m.up
  down m _ u hu := by
    show Records _ _ u (m.downConduct s.target)
    rw [← hu.target]
    exact Migration.records_down_ofScripts m

end ScriptedRegistry

theorem Registry.mem_of_register {σ : Type} {r r' : Registry σ} {m x : Migration σ}
    (h : r.register m = .ok r') : x ∈ r'.migrations ↔ x = m ∨ x ∈ r.migrations := by
  unfold register at h
  split at h
  · rename_i placed hplaced
    cases h
    exact mem_of_place hplaced
  · cases h

theorem Registry.mem_of_registered {σ : Type} {r r' : Registry σ} {ms : List (Migration σ)} {x : Migration σ}
    (h : ms.foldlM register r = .ok r') (hx : x ∈ r'.migrations) : x ∈ r.migrations ∨ x ∈ ms := by
  induction ms generalizing r with
  | nil =>
    cases h
    exact .inl hx
  | cons m ms ih =>
    rw [List.foldlM_cons] at h
    obtain ⟨next, hnext, h⟩ := Outcome.bind_eq_ok.1 h
    rcases ih h with hx | hx
    · rcases (mem_of_register hnext).1 hx with rfl | hx
      · exact .inr List.mem_cons_self
      · exact .inl hx
    · exact .inr (List.mem_cons_of_mem m hx)

namespace ScriptedRegistry

variable {σ : Type}

/-- A list of images is the image of a list. -/
theorem exists_map_eq {α β : Type} {f : α → β} {xs : List α} {ys : List β} (h : ∀ y ∈ ys, y ∈ xs.map f) :
    ∃ zs : List α, zs.map f = ys ∧ ∀ z ∈ zs, z ∈ xs := by
  induction ys with
  | nil => exact ⟨[], rfl, by simp⟩
  | cons y ys ih =>
    obtain ⟨hy, hys⟩ := List.forall_mem_cons.1 h
    obtain ⟨x, hx, rfl⟩ := List.mem_map.1 hy
    obtain ⟨zs, rfl, hzs⟩ := ih hys
    exact ⟨x :: zs, rfl, List.forall_mem_cons.2 ⟨hx, hzs⟩⟩

/-- Every registry that is made from scripts is one of some of them. -/
theorem exists_of_ofList {scripts : List ScriptedMigration} {r : Registry σ}
    (hr : Registry.ofList (scripts.map Migration.ofScripts) = .ok r) :
    ∃ R : ScriptedRegistry, R.registry σ = r ∧ ∀ m ∈ R.scripts, m ∈ scripts := by
  have hmem : ∀ x ∈ r.migrations, x ∈ scripts.map Migration.ofScripts := fun x hx => by
    rcases Registry.mem_of_registered hr hx with hnone | hx
    · cases hnone
    · exact hx
  obtain ⟨migrations, hincreasing⟩ := r
  obtain ⟨listed, rfl, hlisted⟩ := exists_map_eq hmem
  have hlt := List.pairwise_map.1 hincreasing
  exact ⟨⟨listed, hlt⟩, rfl, hlisted⟩

/-! ## Calls -/

/-- A program that sends what its task needs, in one transaction. -/
def InOneTransaction (h : History) (s : Session σ)
    (task : List AppliedMigration → Except MigrationError (List Job))
    (call : (τ : Type) → Program τ (List String)) : Prop :=
  Followed h s.target task (entriesOf (call (Recorder Step σ)) s) (ending (call σ) s).1 ∧
    Bracketed (entriesOf (call (Recorder Step σ)) s) (ending (call σ) s).1

theorem InOneTransaction.of_records {h : History} {s : Session σ}
    {task : List AppliedMigration → Except MigrationError (List Job)} {call : (τ : Type) → Program τ (List String)}
    (hrecords : Records (call (Recorder Step σ)) (call σ) s (Followed h s.target task))
    (herror : ∀ applied e, task applied = .error e → e.IsFirst)
    (hjobs : ∀ applied jobs, task applied = .ok jobs → ∀ job ∈ jobs, job.work.Inner) :
    InOneTransaction h s task call :=
  ⟨hrecords.entriesOf, hrecords.entriesOf.bracketed herror hjobs⟩

variable (R : ScriptedRegistry) (h : History) (t : Target)

/-- A migrator of the scripts. -/
def migrator (σ : Type) : Migrator σ := ⟨R.registry σ, h⟩

theorem isFirst_applying {floor : Int64} {applied : List AppliedMigration} {e : MigrationError}
    (he : (R.roster t).applying h t floor applied = .error e) : e.IsFirst := by
  obtain ⟨-, -, rfl⟩ := Roster.applying_eq_error he
  rintro _ _ ⟨⟩

theorem inner_applying {floor : Int64} {applied : List AppliedMigration} {jobs : List Job}
    (hjobs : (R.roster t).applying h t floor applied = .ok jobs) : ∀ job ∈ jobs, job.work.Inner := by
  obtain ⟨batch, rfl, -⟩ := Roster.applying_eq_ok hjobs
  intro job hjob
  obtain ⟨m, -, rfl⟩ := List.mem_map.1 hjob
  exact ScriptedMigration.inner_scriptConduct t m.up

theorem isFirst_reverting {targets : List AppliedMigration} {e : MigrationError}
    (he : (R.roster t).reverting h t targets = .error e) : e.IsFirst := by
  obtain ⟨a, -, hfind⟩ := Roster.reverting_eq_error he
  obtain ⟨-, rfl⟩ := Roster.find_eq_error hfind
  rintro _ _ ⟨⟩

theorem inner_reverting {targets : List AppliedMigration} {jobs : List Job}
    (hjobs : (R.roster t).reverting h t targets = .ok jobs) : ∀ job ∈ jobs, job.work.Inner := by
  obtain ⟨members, -, rfl⟩ := Roster.reverting_eq_ok hjobs
  intro job hjob
  obtain ⟨m, -, rfl⟩ := List.mem_map.1 hjob
  exact ScriptedMigration.inner_downConduct t m

/-- **One transaction for each call.**  Whatever the backend answers and whatever it
refuses, a call ensures the table and reads the history.  Without anything to do, with a
migration to be reverted that is not registered, or with one to be applied when the last
batch is the greatest number of 64 bits, no transaction is asked for.  Otherwise one is,
and in it every migration, in order, has its statements sent and its row recorded;
the first failure is followed by one attempt to undo and by nothing else.  The call
succeeds exactly when the transaction was kept, with the names of all migrations, and
tells both failures exactly when undoing failed too. -/
theorem in_one_transaction (s : Session σ) :
    InOneTransaction h s ((R.roster s.target).applying h s.target 0) (fun τ => (R.migrator h τ).migrate) ∧
      (∀ steps, InOneTransaction h s
        (fun applied => (R.roster s.target).reverting h s.target
          (applied.filter fun a => ((Migrator.batches applied).take steps).contains a.batch))
        fun τ => (R.migrator h τ).rollback steps) ∧
      InOneTransaction h s ((R.roster s.target).reverting h s.target) fun τ => (R.migrator h τ).reset := by
  refine ⟨?_, fun steps => ?_, ?_⟩
  · refine .of_records ?_ (fun _ _ he => R.isFirst_applying h s.target he)
      fun _ _ hjobs => R.inner_applying h s.target hjobs
    exact Migrator.records_migrateAfter (R.cast s) fun _ _ _ => rfl
  · refine .of_records ?_ (fun _ _ he => R.isFirst_reverting h s.target he)
      fun _ _ hjobs => R.inner_reverting h s.target hjobs
    exact Migrator.records_rollback (R.cast s) fun _ _ _ => rfl
  · refine .of_records ?_ (fun _ _ he => R.isFirst_reverting h s.target he)
      fun _ _ hjobs => R.inner_reverting h s.target hjobs
    exact Migrator.records_reset (R.cast s) fun _ _ _ => rfl

/-- The row of a migration in the last batch that there can be. -/
def finalRow : Row :=
  ⟨["id", "migration", "batch", "executed_at"], [.int 1, .text "a", .int Int64.maxValue, .null]⟩

/-- A backend that accepts all statements and finds that row for every query. -/
def exhausted : Backend Unit where
  dialect := .sqlite
  query _ c := (.ok [finalRow], c)
  execute _ c := (.ok {}, c)
  start c := (.ok (), c)
  commit c := (.ok (), c)
  rollback c := (.ok (), c)
  inTransaction _ := false

/-- A session on it. -/
def countedOut : Session Unit where
  backend := exhausted
  connection := ()
  target := ⟨.sqlite, ""⟩

/-- Two scripts, the second of which was not applied. -/
def pairOfScripts : ScriptedRegistry := ⟨[⟨"a", "", none⟩, ⟨"b", "", none⟩], List.pairwise_pair.2 (by decide)⟩

/-- A migration is pending and the backend refuses nothing, but no transaction is asked for:
there is no batch after the last, and the call fails. -/
theorem in_no_transaction_exhausted :
    ((pairOfScripts.roster countedOut.target).pending [AppliedMigration.ofRow finalRow]).map ScriptedMigration.name =
        ["b"] ∧
      entriesOf (pairOfScripts.migrator {} (Recorder Step Unit)).migrate countedOut =
        [.query (({} : History).existsStatement countedOut.target) (.ok [finalRow]),
          .query (({} : History).readStatement countedOut.target) (.ok [finalRow])] ∧
      (ending (pairOfScripts.migrator {} Unit).migrate countedOut).1 = .error .overflow :=
  ⟨by decide +kernel, rfl, by decide +kernel⟩

end ScriptedRegistry

end SqlToolkit
