import SqlToolkit.Proofs.Migration.Newest
import SqlToolkit.Proofs.Migration.Task

/-!
# Watched calls

A migrator can be watched: every step of a migration is entered as it is run, among the
calls of the backend (`Migrator.recorded`).  A call that is answered, then, had its steps
run in the order of its jobs and nothing refused; and one where nothing was refused is
answered, unless its task was refused (`Followed.ok_iff`).

On a `HistoryStore` the task of a call is known from the rows (`records_migrateAfter`,
`records_rollback`, `records_reset`).
-/
namespace SqlToolkit

open Migration AppliedMigration Migrator

/-! ## The watch -/

section Watch

variable {σ : Type}

/-- A step is entered with its outcome. -/
def Walked (step : Step) : Conduct := fun es r => es = [.part step r.isOk]

/-- A migration whose steps are entered as they are run. -/
def Migration.recorded (m : Migration σ) : Migration (Recorder Step σ) where
  name := m.name
  up := Session.watch (.up m.name) m.up
  down := Session.watch (.down m.name) m.down

/-- The migrations of a registry under the watch. -/
def Registry.recorded (r : Registry σ) : Registry (Recorder Step σ) :=
  ⟨r.migrations.map Migration.recorded, List.pairwise_map.2 r.increasing⟩

/-- What is seen of the migrations of a registry. -/
def Registry.roster (r : Registry σ) : Roster (Migration σ) where
  members := r.migrations
  name := Migration.name
  up m := Walked (.up m.name)
  down m := Walked (.down m.name)

/-- A migrator under the watch. -/
def Migrator.recorded (m : Migrator σ) : Migrator (Recorder Step σ) := ⟨m.registry.recorded, m.history⟩

/-- What a call answers. -/
def Migrator.answer (m : Migrator σ) (c : Call) (s : Session σ) : Except MigrationError (List String) :=
  (ending (c.program m) s).1

/-- Where a call leads. -/
def Migrator.after (m : Migrator σ) (c : Call) (s : Session σ) : Session σ := (ending (c.program m) s).2

/-- What is entered during a call. -/
def Migrator.entries (m : Migrator σ) (c : Call) (s : Session σ) : List (Entry Step) :=
  entriesOf (c.program m.recorded) s

end Watch

/-! ## Entries -/

/-- The steps that were run, in order. -/
def stepsOf (es : List (Entry Step)) : List Step := es.filterMap Entry.part?

/-- No call was refused and no step failed. -/
def Flawless (es : List (Entry Step)) : Prop := ∀ x ∈ es, x.succeeded = true

/-- No transaction was asked for, and no step was run. -/
structure Untouched (es : List (Entry Step)) : Prop where
  start_notMem (answer : Except DatabaseError Unit) : .start answer ∉ es
  stepsOf_eq : stepsOf es = []

variable {h : History} {t : Target} {es es' : List (Entry Step)} {r : Except MigrationError (List String)}
  {jobs : List Job} {task : List AppliedMigration → Except MigrationError (List Job)}

theorem stepsOf_append : stepsOf (es ++ es') = stepsOf es ++ stepsOf es' := List.filterMap_append

theorem flawless_append : Flawless (es ++ es') ↔ Flawless es ∧ Flawless es' := List.forall_mem_append

theorem flawless_cons {x : Entry Step} : Flawless (x :: es) ↔ x.succeeded = true ∧ Flawless es :=
  List.forall_mem_cons

theorem flawless_nil : Flawless [] := by
  rintro _ ⟨⟩

theorem untouched_nil : Untouched [] := ⟨by simp, rfl⟩

theorem Untouched.append (hes : Untouched es) (hes' : Untouched es') : Untouched (es ++ es') where
  start_notMem answer := by
    rw [List.mem_append, not_or]
    exact ⟨hes.start_notMem answer, hes'.start_notMem answer⟩
  stepsOf_eq := by
    rw [stepsOf_append, hes.stepsOf_eq, hes'.stepsOf_eq]
    rfl

theorem untouched_query {statement : Statement} {answer : Except DatabaseError (List Row)} :
    Untouched [.query statement answer] := ⟨by simp, rfl⟩

theorem untouched_execute {statement : Statement} {answer : Except DatabaseError WriteResult} :
    Untouched [.execute statement answer] := ⟨by simp, rfl⟩

/-! ## What the outcome tells of the entries -/

/-- A program that succeeds exactly when nothing in it was refused. -/
def Conduct.Honest (work : Conduct) : Prop := ∀ es r, work es r → (Flawless es ↔ r = .ok ())

theorem flawless_execute_iff {statement : Statement} {answer : Except DatabaseError WriteResult} :
    Flawless [.execute statement answer] ↔ settled answer = .ok () := by
  cases answer with
  | ok _ => simp [Flawless, Entry.succeeded, settled, Except.map, Except.mapError, Except.isOk, Except.toBool]
  | error e => simp [Flawless, Entry.succeeded, settled, Except.map, Except.mapError, Except.isOk, Except.toBool]

theorem honest_walked (step : Step) : (Walked step).Honest := by
  rintro _ r rfl
  cases r with
  | ok _ => simp [Flawless, Entry.succeeded, Except.isOk, Except.toBool]
  | error e => simp [Flawless, Entry.succeeded, Except.isOk, Except.toBool]

theorem Conduct.Honest.inTurn {α : Type} {done : α → Conduct} {xs : List α}
    (hdone : ∀ x ∈ xs, (done x).Honest) : Conduct.Honest (InTurn done xs) := by
  intro es r hturn
  induction hturn with
  | nil => exact iff_of_true flawless_nil rfl
  | failed hfailed => exact hdone _ List.mem_cons_self _ _ hfailed
  | next hfirst _ ih =>
    rw [flawless_append, ih fun x hx => hdone x (List.mem_cons_of_mem _ hx)]
    exact and_iff_right ((hdone _ List.mem_cons_self _ _ hfirst).2 rfl)

theorem Job.honest_done {job : Job} (hwork : job.work.Honest) : Conduct.Honest job.Done := by
  intro es r hdone
  cases hdone with
  | failed hfailed => exact hwork _ _ hfailed
  | noted hworked =>
    rw [flawless_append, flawless_execute_iff]
    exact and_iff_right ((hwork _ _ hworked).2 rfl)

theorem History.honest_ensured (h : History) (t : Target) : Conduct.Honest (h.Ensured t) := by
  intro es r hensured
  cases hensured with
  | unknown => simp [Flawless, Entry.succeeded, Except.isOk, Except.toBool]
  | present _ => simp [Flawless, Entry.succeeded, Except.isOk, Except.toBool]
  | made _ =>
    rw [flawless_cons, flawless_execute_iff]
    exact and_iff_right rfl

theorem History.untouched_ensured {r : Except MigrationError Unit} (hensured : h.Ensured t es r) :
    Untouched es := by
  cases hensured with
  | unknown => exact untouched_query
  | present _ => exact untouched_query
  | made _ => exact untouched_query.append untouched_execute

/-- Before its task a call runs no step. -/
theorem stepsOf_read {statement : Statement} {rows : List Row} (hensured : h.Ensured t es (.ok ())) :
    stepsOf (es ++ .query statement (.ok rows) :: es') = stepsOf es' := by
  rw [stepsOf_append, (History.untouched_ensured hensured).stepsOf_eq]
  rfl

theorem Transacted.flawless_iff (hjobs : ∀ job ∈ jobs, job.work.Honest) (h : Transacted jobs es r) :
    Flawless es ↔ r = .ok (jobs.map Job.name) := by
  have honest : Conduct.Honest (InTurn Job.Done jobs) := .inTurn fun job hjob => Job.honest_done (hjobs job hjob)
  cases h with
  | refused => simp [Flawless, Entry.succeeded, Except.isOk, Except.toBool]
  | kept hworked =>
    rw [flawless_append, flawless_cons, honest _ _ hworked, flawless_cons]
    exact iff_of_true ⟨⟨rfl, rfl⟩, rfl, flawless_nil⟩ rfl
  | unkept _ =>
    rw [flawless_append, flawless_cons (x := .commit _)]
    exact iff_of_false (fun hall => Bool.false_ne_true hall.2.1) (by simp)
  | failed hfailed =>
    rw [flawless_append, flawless_cons, honest _ _ hfailed]
    exact iff_of_false (fun hall => by simpa using hall.1.2) (by simp)

/-- **An answer is given exactly when nothing was refused.** -/
theorem Followed.ok_iff (hjobs : ∀ job ∈ jobs, job.work.Honest)
    (hfollowed : Followed h t (fun _ => .ok jobs) es r) : Flawless es ↔ r = .ok (jobs.map Job.name) := by
  have honest := h.honest_ensured t
  cases hfollowed with
  | unchecked hensured =>
    rw [honest _ _ hensured]
    exact iff_of_false (by simp) (by simp)
  | unread _ =>
    rw [flawless_append, flawless_cons]
    exact iff_of_false (fun hall => Bool.false_ne_true hall.2.1) (by simp)
  | read hensured hcarried =>
    rw [flawless_append, honest _ _ hensured, flawless_cons]
    refine (and_iff_right rfl).trans ((and_iff_right rfl).trans ?_)
    generalize htask : (Except.ok jobs : Except MigrationError (List Job)) = task at hcarried
    cases hcarried with
    | refused => cases htask
    | idle =>
      cases htask
      exact iff_of_true flawless_nil rfl
    | transacted _ htransacted =>
      cases htask
      exact htransacted.flawless_iff hjobs

/-- The jobs are worked by one step each. -/
def Walking (step : String → Step) (jobs : List Job) : Prop := ∀ job ∈ jobs, job.work = Walked (step job.name)

variable {step : String → Step}

theorem Walking.honest (hwalking : Walking step jobs) : ∀ job ∈ jobs, job.work.Honest := by
  intro job hjob
  rw [hwalking job hjob]
  exact honest_walked _

theorem Job.stepsOf_done {job : Job} (hwork : job.work = Walked (step job.name))
    (hdone : job.Done es (.ok ())) : stepsOf es = [step job.name] := by
  generalize hr : (Except.ok () : Except MigrationError Unit) = r at hdone
  cases hdone with
  | failed _ => cases hr
  | noted hworked =>
    rw [hwork] at hworked
    obtain rfl : _ = _ := hworked
    rfl

theorem Walking.stepsOf_inTurn (hwalking : Walking step jobs) (hturn : InTurn Job.Done jobs es (.ok ())) :
    stepsOf es = (jobs.map Job.name).map step := by
  generalize hr : (Except.ok () : Except MigrationError Unit) = r at hturn
  induction hturn with
  | nil => rfl
  | failed _ => cases hr
  | next hdone _ ih =>
    obtain ⟨hwork, hrest⟩ := List.forall_mem_cons.1 hwalking
    rw [stepsOf_append, Job.stepsOf_done hwork hdone, ih hrest hr]
    rfl

/-- **A call that answers ran one step for each name**, in order. -/
theorem Followed.stepsOf_eq {task : Except MigrationError (List Job)} {names : List String}
    (hwalking : ∀ jobs, task = .ok jobs → Walking step jobs)
    (hfollowed : Followed h t (fun _ => task) es (.ok names)) :
    stepsOf es = names.map step ∧ ∃ jobs, task = .ok jobs ∧ names = jobs.map Job.name := by
  generalize hr : (Except.ok names : Except MigrationError (List String)) = r at hfollowed
  cases hfollowed with
  | unchecked _ => cases hr
  | unread _ => cases hr
  | read hensured hcarried =>
    rw [stepsOf_read hensured]
    cases hcarried with
    | refused => cases hr
    | idle =>
      cases hr
      exact ⟨rfl, [], rfl, rfl⟩
    | transacted _ htransacted =>
      cases htransacted with
      | refused => cases hr
      | unkept _ => cases hr
      | failed _ => cases hr
      | kept hworked =>
        cases hr
        refine ⟨?_, _, rfl, rfl⟩
        rw [stepsOf_append, ← (hwalking _ rfl).stepsOf_inTurn hworked]
        exact List.append_nil _

theorem Followed.flawless {task : Except MigrationError (List Job)} {names : List String}
    (hwalking : ∀ jobs, task = .ok jobs → Walking step jobs)
    (hfollowed : Followed h t (fun _ => task) es (.ok names)) : Flawless es := by
  obtain ⟨-, jobs, rfl, rfl⟩ := hfollowed.stepsOf_eq hwalking
  exact (hfollowed.ok_iff (hwalking jobs rfl).honest).2 rfl

/-- Without jobs a call runs no step and asks for no transaction. -/
theorem Followed.untouched (hnone : ∀ applied jobs, task applied = .ok jobs → jobs = [])
    (hfollowed : Followed h t task es r) : Untouched es := by
  cases hfollowed with
  | unchecked hensured => exact History.untouched_ensured hensured
  | unread hensured => exact (History.untouched_ensured hensured).append untouched_query
  | @read es es' rows _ hensured hcarried =>
    refine (History.untouched_ensured hensured).append ?_
    show Untouched ([.query (h.readStatement t) (.ok rows)] ++ es')
    refine untouched_query.append ?_
    generalize htask : task (rows.map AppliedMigration.ofRow) = task' at hcarried
    cases hcarried with
    | refused => exact untouched_nil
    | idle => exact untouched_nil
    | transacted hsome _ => exact absurd (hnone _ _ htask) hsome

/-- A call whose task is refused fails, and for that reason unless another came before. -/
theorem Followed.refused {e : MigrationError} (hfollowed : Followed h t (fun _ => .error e) es r) :
    (∃ failure, r = .error failure) ∧ (Flawless es → r = .error e) := by
  have honest := h.honest_ensured t
  cases hfollowed with
  | unchecked hensured =>
    refine ⟨⟨_, rfl⟩, fun hall => ?_⟩
    rw [honest _ _ hensured] at hall
    cases hall
  | unread _ =>
    refine ⟨⟨_, rfl⟩, fun hall => ?_⟩
    rw [flawless_append, flawless_cons] at hall
    exact absurd hall.2.1 Bool.false_ne_true
  | read _ hcarried =>
    generalize htask : (Except.error e : Except MigrationError (List Job)) = task at hcarried
    cases hcarried with
    | refused =>
      cases htask
      exact ⟨⟨e, rfl⟩, fun _ => rfl⟩
    | idle => cases htask
    | transacted _ _ => cases htask

/-! ## Tasks of a registry -/

namespace Registry

variable {σ : Type} {r : Registry σ} {targets : List AppliedMigration}

theorem pending_roster (r : Registry σ) (rows : List AppliedMigration) :
    (r.roster.pending rows).map Migration.name = r.names.filter fun name => name ∉ rows.map AppliedMigration.name := by
  unfold Registry.names
  rw [List.filter_map]
  congr 1
  refine List.filter_congr fun m _ => ?_
  show (!(rows.map AppliedMigration.name).contains m.name) = _
  rw [Bool.eq_iff_iff]
  simp

/-- Rows with all names of the registry lack none. -/
theorem lacking_eq_nil {rows : List AppliedMigration} (hall : ∀ name ∈ r.names, name ∈ rows.map AppliedMigration.name) :
    (r.names.filter fun name => name ∉ rows.map AppliedMigration.name) = [] :=
  List.filter_eq_nil_iff.2 fun name hname => by simpa using hall name hname

/-- To apply what the rows lack. -/
theorem applying_roster {floor : Int64} {rows : List AppliedMigration} {jobs : List Job}
    (hjobs : r.roster.applying h t floor rows = .ok jobs) : Walking .up jobs ∧
      jobs.map Job.name = r.names.filter fun name => name ∉ rows.map AppliedMigration.name := by
  obtain ⟨batch, rfl, -⟩ := Roster.applying_eq_ok hjobs
  refine ⟨fun job hjob => ?_, ?_⟩
  · obtain ⟨m, -, rfl⟩ := List.mem_map.1 hjob
    rfl
  · rw [List.map_map, ← pending_roster]
    rfl

/-- Without anything pending there is nothing to do. -/
theorem applying_nothing (h : History) (t : Target) (floor : Int64) {rows : List AppliedMigration}
    (hall : ∀ name ∈ r.names, name ∈ rows.map AppliedMigration.name) :
    r.roster.applying h t floor rows = .ok [] := by
  have hnone : (r.roster.pending rows).map Migration.name = [] := by
    rw [pending_roster, lacking_eq_nil hall]
  unfold Roster.applying
  rw [List.map_eq_nil_iff.1 hnone]
  rfl

/-- To revert targets that are registered. -/
theorem reverting_roster {jobs : List Job} (hjobs : r.roster.reverting h t targets = .ok jobs) :
    Walking .down jobs ∧ jobs.map Job.name = (reversal targets).map AppliedMigration.name := by
  obtain ⟨members, hall, rfl⟩ := Roster.reverting_eq_ok hjobs
  refine ⟨fun job hjob => ?_, ?_⟩
  · obtain ⟨m, -, rfl⟩ := List.mem_map.1 hjob
    rfl
  · rw [List.map_map]
    show members.map Migration.name = (targets.mergeSort newerFirst).map AppliedMigration.name
    generalize targets.mergeSort newerFirst = ordered at hall
    clear hjobs
    induction hall with
    | nil => rfl
    | @cons a m _ _ hfind _ ih =>
      have hname : m.name = a.name := (Roster.find_eq_ok hfind).2
      rw [List.map_cons, List.map_cons, ih, hname]

/-- Targets that cannot be reverted hold one that is not registered. -/
theorem reverting_eq_error {e : MigrationError} (herror : r.roster.reverting h t targets = .error e) :
    ∃ a ∈ targets, a.name ∉ r.names ∧ e = .missing a.name := by
  obtain ⟨a, ha, hfind⟩ := Roster.reverting_eq_error herror
  obtain ⟨hnone, he⟩ := Roster.find_eq_error hfind
  refine ⟨a, ha, fun hmem => ?_, he⟩
  obtain ⟨m, hm, hname⟩ := List.mem_map.1 hmem
  exact hnone m hm hname

/-- Targets that can be reverted are registered. -/
theorem registered_of_reverting {jobs : List Job} (hjobs : r.roster.reverting h t targets = .ok jobs) :
    ∀ a ∈ targets, a.name ∈ r.names := by
  obtain ⟨members, hall, -⟩ := Roster.reverting_eq_ok hjobs
  have hordered : ∀ a ∈ targets.mergeSort newerFirst, a.name ∈ r.names := by
    refine Outcome.forall_right hall.flip fun m _ a hfind => ?_
    obtain ⟨hm, hname⟩ := Roster.find_eq_ok hfind
    exact List.mem_map.2 ⟨m, hm, hname⟩
  exact fun a ha => hordered a (List.mem_mergeSort.2 ha)

/-- Targets of which one is not registered cannot be reverted. -/
theorem reverting_missing (h : History) (t : Target) {a : AppliedMigration} (ha : a ∈ targets)
    (hmissing : a.name ∉ r.names) :
    ∃ b ∈ targets, b.name ∉ r.names ∧ r.roster.reverting h t targets = .error (.missing b.name) := by
  cases hjobs : r.roster.reverting h t targets with
  | ok jobs => exact absurd (registered_of_reverting hjobs a ha) hmissing
  | error e =>
    obtain ⟨b, hb, hnot, rfl⟩ := reverting_eq_error hjobs
    exact ⟨b, hb, hnot, rfl⟩

theorem exists_reverting (h : History) (t : Target) (hall : ∀ a ∈ targets, a.name ∈ r.names) :
    ∃ jobs, r.roster.reverting h t targets = .ok jobs := by
  cases hjobs : r.roster.reverting h t targets with
  | ok jobs => exact ⟨jobs, rfl⟩
  | error e =>
    obtain ⟨a, ha, hnot, -⟩ := reverting_eq_error hjobs
    exact absurd (hall a ha) hnot

end Registry

/-- Registered targets are reverted in their order, if nothing is refused. -/
theorem Followed.reverted {σ : Type} {r : Registry σ} {targets : List AppliedMigration}
    {result : Except MigrationError (List String)} (hall : ∀ a ∈ targets, a.name ∈ r.names)
    (hfollowed : Followed h t (fun _ => r.roster.reverting h t targets) es result)
    (hflawless : Flawless es) : result = .ok ((reversal targets).map AppliedMigration.name) ∧
      stepsOf es = ((reversal targets).map AppliedMigration.name).map .down := by
  obtain ⟨jobs, hjobs⟩ := Registry.exists_reverting h t hall
  obtain ⟨hwalking, hnames⟩ := Registry.reverting_roster hjobs
  rw [hjobs] at hfollowed
  obtain rfl : result = _ := (hfollowed.ok_iff hwalking.honest).1 hflawless
  rw [← hnames]
  refine ⟨rfl, (hfollowed.stepsOf_eq fun jobs' hjobs' => ?_).1⟩
  cases hjobs'
  exact hwalking

/-! ## Calls on a store -/

namespace HistoryStore

variable {σ : Type} {store : HistoryStore σ} {s u : Session σ} {rows : List AppliedMigration}
  {saved : Option (List AppliedMigration)} {r : Registry σ}

theorem keeps_of_quiet {p : Program σ Unit} (hquiet : store.Quiet p) (h : store.At s rows saved)
    (hu : s.Keeps u) : u.Keeps (ending p u).2 := by
  have hat : store.At u (store.rows u.connection) (store.saved u.connection) := h.keeps hu rfl rfl
  have hafter := (hquiet u _ _ hat).state
  exact ⟨hafter.backend.trans hat.backend.symm, hafter.target.trans hat.target.symm⟩

/-- The steps of a registry are entered as they are run. -/
def quietCast (h : store.At s rows saved) (hquiet : store.QuietAll r) : Cast r.roster s r r.recorded where
  plain m := m
  watched := Migration.recorded
  lists_plain := ⟨(List.map_id _).symm, fun _ => rfl⟩
  lists_watched := ⟨rfl, fun _ => rfl⟩
  up m hm _ hu := Session.records_watch (Step.up m.name) (keeps_of_quiet (hquiet m hm).1 h hu)
  down m hm _ hu := Session.records_watch (Step.down m.name) (keeps_of_quiet (hquiet m hm).2 h hu)

theorem perm_of_reads {applied : List AppliedMigration} (h : store.At s rows saved)
    (hread : store.history.Reads s applied u) : applied.Perm rows := by
  obtain ⟨v, hensure, happlied⟩ := hread
  have hv := (settles_ensureTable h).of_run hensure
  exact ((settles_applied hv).of_run happlied).1

/-- What is applied does not depend on the order of the rows. -/
theorem applying_perm {h : History} {t : Target} {floor : Int64} {rows' : List AppliedMigration}
    (hperm : rows'.Perm rows) : r.roster.applying h t floor rows' = r.roster.applying h t floor rows := by
  have hpending : r.roster.pending rows' = r.roster.pending rows := by
    unfold Roster.pending
    congr 1
    funext m
    rw [(hperm.map AppliedMigration.name).contains_eq]
  unfold Roster.applying
  rw [lastBatch_perm hperm, hpending]

theorem records_migrateAfter (h : store.At s rows none) (hquiet : store.QuietAll r) (floor : Int64) :
    Records ((store.migrator r).recorded.migrateAfter floor) ((store.migrator r).migrateAfter floor) s
      (Followed store.history store.target fun _ =>
        r.roster.applying store.history store.target floor rows) := by
  rw [← h.target]
  refine Migrator.records_migrateAfter (quietCast h hquiet) fun applied u hread => ?_
  exact applying_perm (perm_of_reads h hread)

/-- What is reverted does not depend on the order of the rows. -/
theorem reverting_perm {h : History} {t : Target} {targets targets' : List AppliedMigration}
    (hd : Distinct rows) (hsub : ∀ a ∈ targets, a ∈ rows) (hperm : targets'.Perm targets) :
    r.roster.reverting h t targets' = r.roster.reverting h t targets := by
  unfold Roster.reverting
  rw [show targets'.mergeSort newerFirst = targets.mergeSort newerFirst from reversal_perm hd hsub hperm]

theorem records_rollback (h : store.At s rows none) (hd : Distinct rows) (hquiet : store.QuietAll r)
    (steps : Nat) :
    Records ((store.migrator r).recorded.rollback steps) ((store.migrator r).rollback steps) s
      (Followed store.history store.target fun _ =>
        r.roster.reverting store.history store.target (newest steps rows)) := by
  rw [← h.target]
  refine Migrator.records_rollback (quietCast h hquiet) fun applied u hread => ?_
  exact reverting_perm hd (newest_subset steps rows) (newest_perm (perm_of_reads h hread) steps)

theorem records_reset (h : store.At s rows none) (hd : Distinct rows) (hquiet : store.QuietAll r) :
    Records (store.migrator r).recorded.reset (store.migrator r).reset s
      (Followed store.history store.target fun _ =>
        r.roster.reverting store.history store.target rows) := by
  rw [← h.target]
  refine Migrator.records_reset (quietCast h hquiet) fun applied u hread => ?_
  exact reverting_perm hd (fun _ ha => ha) (perm_of_reads h hread)

/-- Nothing was refused in a call that answers. -/
theorem flawless_of_migrate (h : store.At s rows none) (hquiet : store.QuietAll r) {names : List String}
    (hanswer : (store.migrator r).answer .migrate s = .ok names) :
    Flawless ((store.migrator r).entries .migrate s) := by
  have hfollowed := (records_migrateAfter h hquiet 0).entriesOf
  rw [show (ending ((store.migrator r).migrateAfter 0) s).1 = .ok names from hanswer] at hfollowed
  exact hfollowed.flawless fun _ hjobs => (Registry.applying_roster hjobs).1

theorem flawless_of_rollback (h : store.At s rows none) (hd : Distinct rows) (hquiet : store.QuietAll r)
    {steps : Nat} {names : List String} (hanswer : (store.migrator r).answer (.rollback steps) s = .ok names) :
    Flawless ((store.migrator r).entries (.rollback steps) s) := by
  have hfollowed := (records_rollback h hd hquiet steps).entriesOf
  rw [show (ending ((store.migrator r).rollback steps) s).1 = .ok names from hanswer] at hfollowed
  exact hfollowed.flawless fun _ hjobs => (Registry.reverting_roster hjobs).1

theorem flawless_of_reset (h : store.At s rows none) (hd : Distinct rows) (hquiet : store.QuietAll r)
    {names : List String} (hanswer : (store.migrator r).answer .reset s = .ok names) :
    Flawless ((store.migrator r).entries .reset s) := by
  have hfollowed := (records_reset h hd hquiet).entriesOf
  rw [show (ending (store.migrator r).reset s).1 = .ok names from hanswer] at hfollowed
  exact hfollowed.flawless fun _ hjobs => (Registry.reverting_roster hjobs).1

/-- A rollback in which nothing was refused. -/
theorem rollback_flawless (h : store.At s rows none) (hd : Distinct rows) (hquiet : store.QuietAll r)
    {steps : Nat} (hall : ∀ a ∈ newest steps rows, a.name ∈ r.names)
    (hflawless : Flawless ((store.migrator r).entries (.rollback steps) s)) :
    (store.migrator r).answer (.rollback steps) s =
        .ok ((reversal (newest steps rows)).map AppliedMigration.name) ∧
      stepsOf ((store.migrator r).entries (.rollback steps) s) =
        ((reversal (newest steps rows)).map AppliedMigration.name).map .down ∧
      store.At ((store.migrator r).after (.rollback steps) s) (remaining steps rows) none := by
  have hfollowed := (records_rollback h hd hquiet steps).entriesOf
  obtain ⟨hanswer, hsteps⟩ := hfollowed.reverted hall hflawless
  obtain ⟨_, _, _, -, hafter⟩ := (settles_rollback_steps h hquiet steps).of_ok _ hanswer
  rw [without_newest hd] at hafter
  exact ⟨hanswer, hsteps, hafter⟩

/-- A reset in which nothing was refused. -/
theorem reset_flawless (h : store.At s rows none) (hd : Distinct rows) (hquiet : store.QuietAll r)
    (hall : ∀ a ∈ rows, a.name ∈ r.names) (hflawless : Flawless ((store.migrator r).entries .reset s)) :
    (store.migrator r).answer .reset s = .ok ((reversal rows).map AppliedMigration.name) ∧
      stepsOf ((store.migrator r).entries .reset s) =
        ((reversal rows).map AppliedMigration.name).map .down ∧
      store.At ((store.migrator r).after .reset s) [] none := by
  have hfollowed := (records_reset h hd hquiet).entriesOf
  obtain ⟨hanswer, hsteps⟩ := hfollowed.reverted hall hflawless
  obtain ⟨_, _, _, -, hafter⟩ := (settles_reset h hquiet).of_ok _ hanswer
  exact ⟨hanswer, hsteps, hafter⟩

/-! ## Runs in memory -/

section Memory

variable {t : Target} {h : History} {s : Session Memory} {rows : List MemoryRow} {registry : Registry Memory}
  {k : Nat}

/-- A memory refuses no rollback of registered rows. -/
theorem memory_flawless_rollback (hreached : (Memory.store t h).Reached k s) (hover : Memory.Over t h s ⟨rows, none⟩)
    (hidle : ∀ migration ∈ registry.migrations, ∃ name, migration = Memory.idle name)
    (hall : ∀ row ∈ rows, row.name ∈ registry.names) (steps : Nat) :
    Flawless (((Memory.store t h).migrator registry).entries (.rollback steps) s) := by
  obtain ⟨_, hs, hd, -⟩ := invariant hreached
  obtain ⟨names, hanswer, -⟩ := (Memory.over_rollback hover hidle hall steps).exists_ok
  exact flawless_of_rollback hs hd (Memory.quiet_idle hidle) hanswer

theorem memory_flawless_reset (hreached : (Memory.store t h).Reached k s) (hover : Memory.Over t h s ⟨rows, none⟩)
    (hidle : ∀ migration ∈ registry.migrations, ∃ name, migration = Memory.idle name)
    (hall : ∀ row ∈ rows, row.name ∈ registry.names) :
    Flawless (((Memory.store t h).migrator registry).entries .reset s) := by
  obtain ⟨_, hs, hd, -⟩ := invariant hreached
  obtain ⟨names, hanswer, -⟩ := (Memory.over_reset hover hidle hall).exists_ok
  exact flawless_of_reset hs hd (Memory.quiet_idle hidle) hanswer

end Memory

end HistoryStore

namespace Memory

/-- Two idle migrations. -/
def pair : Registry Memory := both "a" "b" (by decide)

theorem idle_of_pair : ∀ migration ∈ pair.migrations, ∃ name, migration = idle name := by simp [pair, both]

theorem mem_names_pair {name : String} : name ∈ pair.names ↔ name = "a" ∨ name = "b" := by
  simp [pair, both, idle, Registry.names]

/-- One of two migrations is applied, and then the other. -/
theorem reached_second :
    ∃ s, sqlite.Reached 1 s ∧ Over ⟨.sqlite, ""⟩ {} s ⟨[⟨1, "a", 1⟩], none⟩ ∧
      (sqlite.migrator pair).answer .migrate s = .ok ["b"] ∧
      Over ⟨.sqlite, ""⟩ {} ((sqlite.migrator pair).after .migrate s) ⟨[⟨1, "a", 1⟩, ⟨2, "b", 2⟩], none⟩ := by
  obtain ⟨s, hs, hover⟩ := HistoryStore.reached_migrated (t := ⟨.sqlite, ""⟩) (h := {}) "a"
  have hpending : (sqlite.migrator pair).pending ([⟨1, "a", 1⟩].map MemoryRow.applied) = [idle "b"] := rfl
  have hroom : topId [⟨1, "a", 1⟩] < Int64.maxValue.toInt := by decide
  have hbatch : nextBatch (max (lastBatch ([⟨1, "a", 1⟩].map MemoryRow.applied)) 0) = .ok 2 := rfl
  obtain ⟨names, hanswer, hafter⟩ := (over_migrateAfter hover hroom hbatch hpending).exists_ok
  refine ⟨s, hs, hover, ?_, hafter⟩
  have hnames := (HistoryStore.settles_migrateAfter hover.at (quiet_idle idle_of_pair) 0).of_ok names hanswer
  obtain ⟨_, ⟨rfl, -⟩, -⟩ := hnames
  exact hanswer

end Memory

end SqlToolkit
