import SqlToolkit.Proofs.Migration.Batch
import SqlToolkit.Proofs.Migration.Protocol

/-!
# The tasks of a migrator

What a call has to do follows from the history that it reads: the jobs of one transaction,
or a failure if a migration to be reverted is not registered or no number is left for a new
batch.  What the migrations do is left open.  A `Roster` says of each registered migration
which entries its two steps make, and a `Cast` is a pair of registries, one for plain and
one for watched sessions, that keeps to it.

Each call of a migrator then follows one protocol (`Followed`): the table is ensured, the
history is read, and the task is carried out.
-/
namespace SqlToolkit

open Migration

/-! ## Protocols -/

/-- A task is carried out: without a job nothing is sent, and all jobs are done in one
transaction. -/
inductive Carried : Except MigrationError (List Job) → List (Entry Step) →
    Except MigrationError (List String) → Prop
  | refused {e : MigrationError} : Carried (.error e) [] (.error e)
  | idle : Carried (.ok []) [] (.ok [])
  | transacted {jobs : List Job} {es : List (Entry Step)} {r : Except MigrationError (List String)} :
    jobs ≠ [] → Transacted jobs es r → Carried (.ok jobs) es r

/-- **The protocol of a call.**  The table is ensured and the history is read; when both
succeed, the task that the history sets is carried out. -/
inductive Followed (h : History) (t : Target)
    (task : List AppliedMigration → Except MigrationError (List Job)) :
    List (Entry Step) → Except MigrationError (List String) → Prop
  | unchecked {es : List (Entry Step)} {e : MigrationError} : h.Ensured t es (.error e) →
    Followed h t task es (.error e)
  | unread {es : List (Entry Step)} {e : DatabaseError} : h.Ensured t es (.ok ()) →
    Followed h t task (es ++ [.query (h.readStatement t) (.error e)]) (.error (.database e))
  | read {es es' : List (Entry Step)} {rows : List Row} {r : Except MigrationError (List String)} :
    h.Ensured t es (.ok ()) → Carried (task (rows.map AppliedMigration.ofRow)) es' r →
    Followed h t task (es ++ .query (h.readStatement t) (.ok rows) :: es') r

/-! ## Rosters -/

/-- Registered migrations, as they are seen: which entries the steps of each make. -/
structure Roster (ι : Type) where
  members : List ι
  name : ι → String
  up : ι → Conduct
  down : ι → Conduct

namespace Roster

variable {ι : Type} (R : Roster ι) (h : History) (t : Target)

/-- A migration to apply in a batch. -/
def applyJob (batch : Int64) (i : ι) : Job := ⟨R.name i, R.up i, h.insertStatement t (R.name i) batch⟩

/-- A migration to revert. -/
def revertJob (i : ι) : Job := ⟨R.name i, R.down i, h.deleteStatement t (R.name i)⟩

/-- The members that were not applied. -/
def pending (applied : List AppliedMigration) : List ι :=
  R.members.filter fun i => !(applied.map AppliedMigration.name).contains (R.name i)

/-- To apply what is pending, if anything is, in the batch after those applied and `floor`. -/
def applying (floor : Int64) (applied : List AppliedMigration) : Except MigrationError (List Job) :=
  if (R.pending applied).isEmpty then .ok [] else
    (Migrator.nextBatch (max (AppliedMigration.lastBatch applied) floor)).map fun batch =>
      (R.pending applied).map (R.applyJob h t batch)

/-- The member of an applied migration. -/
def find (a : AppliedMigration) : Except MigrationError ι :=
  match R.members.find? fun i => R.name i = a.name with
  | some i => .ok i
  | none => .error (.missing a.name)

/-- To revert applied migrations, the newest first. -/
def reverting (targets : List AppliedMigration) : Except MigrationError (List Job) :=
  ((targets.mergeSort Migrator.newerFirst).mapM R.find).map (List.map (R.revertJob h t))

end Roster

/-- A registry of the members of a roster, in their order. -/
structure Roster.Lists {σ ι : Type} (R : Roster ι) (r : Registry σ) (migration : ι → Migration σ) : Prop where
  migrations_eq : r.migrations = R.members.map migration
  name_eq (i : ι) : (migration i).name = R.name i

/-- Two registries that keep to a roster in a session. -/
structure Cast {σ ι : Type} (R : Roster ι) (s : Session σ) (r : Registry σ)
    (r' : Registry (Recorder Step σ)) where
  plain : ι → Migration σ
  watched : ι → Migration (Recorder Step σ)
  lists_plain : R.Lists r plain
  lists_watched : R.Lists r' watched
  up (i : ι) : i ∈ R.members → ∀ u, s.Keeps u → Records (watched i).up (plain i).up u (R.up i)
  down (i : ι) : i ∈ R.members → ∀ u, s.Keeps u → Records (watched i).down (plain i).down u (R.down i)

/-- A cast keeps to its roster wherever the session goes. -/
def Cast.after {σ ι : Type} {R : Roster ι} {s u : Session σ} {r : Registry σ}
    {r' : Registry (Recorder Step σ)} (c : Cast R s r r') (hkeeps : s.Keeps u) : Cast R u r r' :=
  { c with
    up := fun i hi v hv => c.up i hi v (hkeeps.trans hv)
    down := fun i hi v hv => c.down i hi v (hkeeps.trans hv) }

/-! ## Jobs -/

section Jobs

variable {σ : Type} {s : Session σ} (job : Job)

/-- Work that is noted afterwards and answers with the name of its job. -/
theorem records_job {work note : Program σ Unit} {work' note' : Program (Recorder Step σ) Unit}
    (hwork : Records work' work s job.work)
    (hnote : ∀ u, s.Keeps u → Records note' note u (Called (.execute job.note) fun _ => ())) :
    Records (do work'; note'; return job.name) (do work; note; return job.name) s fun es r =>
      job.Done es (r.map fun _ => ()) ∧ ∀ name, r = .ok name → name = job.name := by
  refine hwork.bind ?_ ?_
  · rintro es e hfailed
    exact ⟨.failed hfailed, by rintro _ ⟨⟩⟩
  rintro es _ u - hu hworked
  refine (hnote u hu).called_bind (fun e => ⟨.noted hworked, by rintro _ ⟨⟩⟩) ?_
  intro result v _ _
  refine .pure ⟨.noted hworked, ?_⟩
  rintro _ ⟨⟩
  rfl

end Jobs

/-! ## Lists of members -/

namespace Roster.Lists

variable {σ ι : Type} {R : Roster ι} {r : Registry σ} {migration : ι → Migration σ} {h : History}

theorem pending_eq (hr : R.Lists r migration) (applied : List AppliedMigration) :
    Migrator.pending ⟨r, h⟩ applied = (R.pending applied).map migration := by
  unfold Migrator.pending Roster.pending
  rw [hr.migrations_eq, List.filter_map]
  congr 2
  funext i
  show (!(applied.map AppliedMigration.name).contains (migration i).name) = _
  rw [hr.name_eq]

theorem registered_eq (hr : R.Lists r migration) (a : AppliedMigration) :
    Migrator.registered ⟨r, h⟩ a = (R.find a).map migration := by
  have hget : r.get? a.name = (R.members.find? fun i => R.name i = a.name).map migration := by
    unfold Registry.get?
    rw [hr.migrations_eq, List.find?_map]
    congr 2
    funext i
    show decide ((migration i).name = a.name) = _
    rw [hr.name_eq]
  unfold Migrator.registered Roster.find
  simp only [hget]
  cases R.members.find? fun i => R.name i = a.name with
  | none => rfl
  | some i => rfl

/-- A list of steps that each succeed with the image of another's result. -/
theorem mapM_map {ε α β γ : Type} (f : α → Except ε β) (g : β → γ) (xs : List α) :
    xs.mapM (fun x => (f x).map g) = (xs.mapM f).map (List.map g) := by
  induction xs with
  | nil => rfl
  | cons x xs ih =>
    rw [List.mapM_cons, List.mapM_cons, ih]
    cases f x with
    | error e => rfl
    | ok b =>
      cases xs.mapM f with
      | error e => rfl
      | ok bs => rfl

theorem mapM_registered (hr : R.Lists r migration) (targets : List AppliedMigration) :
    targets.mapM (Migrator.registered ⟨r, h⟩) = (targets.mapM R.find).map (List.map migration) := by
  rw [← mapM_map, funext hr.registered_eq]

end Roster.Lists

/-! ## What a task tells of its members -/

namespace Roster

variable {ι : Type} {R : Roster ι} {h : History} {t : Target} {targets : List AppliedMigration}
  {a : AppliedMigration}

theorem find_eq_ok {i : ι} (hfind : R.find a = .ok i) : i ∈ R.members ∧ R.name i = a.name := by
  unfold find at hfind
  split at hfind
  · rename_i found hfound
    cases hfind
    have hname := List.find?_some hfound
    exact ⟨List.mem_of_find?_eq_some hfound, of_decide_eq_true hname⟩
  · cases hfind

theorem find_eq_error {e : MigrationError} (hfind : R.find a = .error e) :
    (∀ i ∈ R.members, R.name i ≠ a.name) ∧ e = .missing a.name := by
  unfold find at hfind
  split at hfind
  · cases hfind
  · rename_i hnone
    cases hfind
    exact ⟨fun i hi hname => List.find?_eq_none.1 hnone i hi (decide_eq_true hname), rfl⟩

/-- The jobs of an application are those of what is pending, all in the next batch. -/
theorem applying_eq_ok {floor : Int64} {applied : List AppliedMigration} {jobs : List Job}
    (hjobs : R.applying h t floor applied = .ok jobs) :
    ∃ batch, jobs = (R.pending applied).map (R.applyJob h t batch) ∧ (R.pending applied ≠ [] →
      Migrator.nextBatch (max (AppliedMigration.lastBatch applied) floor) = .ok batch) := by
  unfold applying at hjobs
  split at hjobs
  · rename_i hnone
    cases hjobs
    have hnone : R.pending applied = [] := List.isEmpty_iff.1 hnone
    exact ⟨floor, by rw [hnone]; rfl, fun hsome => absurd hnone hsome⟩
  · cases hnext : Migrator.nextBatch (max (AppliedMigration.lastBatch applied) floor) with
    | error e =>
      rw [hnext] at hjobs
      cases hjobs
    | ok batch =>
      rw [hnext] at hjobs
      cases hjobs
      exact ⟨batch, rfl, fun _ => rfl⟩

/-- An application is refused because there is no next batch. -/
theorem applying_eq_error {floor : Int64} {applied : List AppliedMigration} {e : MigrationError}
    (herror : R.applying h t floor applied = .error e) :
    R.pending applied ≠ [] ∧ max (AppliedMigration.lastBatch applied) floor = Int64.maxValue ∧ e = .overflow := by
  unfold applying at herror
  split at herror
  · cases herror
  · rename_i hsome
    cases hnext : Migrator.nextBatch (max (AppliedMigration.lastBatch applied) floor) with
    | ok batch =>
      rw [hnext] at herror
      cases herror
    | error cause =>
      rw [hnext] at herror
      cases herror
      exact ⟨fun hnone => hsome (List.isEmpty_iff.2 hnone), Migrator.nextBatch_eq_error_iff.1 hnext⟩

/-- The jobs of a reversion are those of the members found, in the order of the rows. -/
theorem reverting_eq_ok {jobs : List Job} (hjobs : R.reverting h t targets = .ok jobs) :
    ∃ members, List.Forall₂ (fun a i => R.find a = .ok i) (targets.mergeSort Migrator.newerFirst) members ∧
      jobs = members.map (R.revertJob h t) := by
  unfold reverting at hjobs
  cases hfound : (targets.mergeSort Migrator.newerFirst).mapM R.find with
  | error e =>
    rw [hfound] at hjobs
    cases hjobs
  | ok members =>
    rw [hfound] at hjobs
    cases hjobs
    exact ⟨members, Outcome.mapM_eq_ok_iff.1 hfound, rfl⟩

/-- A reversion is refused because some member is not found. -/
theorem reverting_eq_error {e : MigrationError} (herror : R.reverting h t targets = .error e) :
    ∃ a ∈ targets, R.find a = .error e := by
  unfold reverting at herror
  cases hfound : (targets.mergeSort Migrator.newerFirst).mapM R.find with
  | ok members =>
    rw [hfound] at herror
    cases herror
  | error cause =>
    rw [hfound] at herror
    cases herror
    obtain ⟨a, ha, hfind⟩ := Outcome.exists_of_mapM_eq_error hfound
    exact ⟨a, List.mem_mergeSort.1 ha, hfind⟩

end Roster

/-! ## Reading the history -/

section Reading

variable {σ : Type} {h : History} {s : Session σ}

/-- Rows that a session gets for its history, once the table is ensured. -/
def History.Reads (h : History) (s : Session σ) (applied : List AppliedMigration) (u : Session σ) : Prop :=
  ∃ v, ending h.ensureTable s = (.ok (), v) ∧ ending h.applied v = (.ok applied, u)

/-- What follows the reading of the history carries out the task that the history sets. -/
theorem records_reading {f : List AppliedMigration → Program (Recorder Step σ) (List String)}
    {g : List AppliedMigration → Program σ (List String)}
    {task : List AppliedMigration → Except MigrationError (List Job)}
    (hrest : ∀ applied u, h.Reads s applied u → s.Keeps u →
      Records (f applied) (g applied) u (Carried (task applied))) :
    Records (do h.ensureTable; let applied ← h.applied; f applied)
      (do h.ensureTable; let applied ← h.applied; g applied) s (Followed h s.target task) := by
  refine History.records_ensureTable.bind (fun _ _ hunchecked => .unchecked hunchecked) ?_
  rintro es _ v hensure hv hensured
  have happlied := History.records_applied (h := h) (s := v)
  rw [hv.target] at happlied
  refine happlied.called_bind (fun _ => .unread hensured) ?_
  intro rows u hread hu
  exact (hrest _ u ⟨v, hensure, hread⟩ (hv.trans hu)).imp fun _ _ hcarried => .read hensured hcarried

end Reading

/-! ## Calls -/

namespace Migrator

variable {σ ι : Type} {R : Roster ι} {s : Session σ} {r : Registry σ} {r' : Registry (Recorder Step σ)}
  {h : History} (c : Cast R s r r')

include c

theorem records_apply (batch : Int64) {i : ι} (hi : i ∈ R.members) {u : Session σ} (hu : s.Keeps u) :
    Records (apply ⟨r', h⟩ batch (c.watched i)) (apply ⟨r, h⟩ batch (c.plain i)) u fun es result =>
      (R.applyJob h s.target batch i).Done es (result.map fun _ => ()) ∧
        ∀ name, result = .ok name → name = R.name i := by
  unfold apply
  rw [c.lists_watched.name_eq, c.lists_plain.name_eq]
  refine records_job (R.applyJob h s.target batch i) (c.up i hi u hu) fun v hv => ?_
  show Records _ _ v (Called (.execute (h.insertStatement s.target (R.name i) batch)) fun _ => ())
  rw [← (hu.trans hv).target]
  exact History.records_recordApplied (R.name i) batch

theorem records_unapply {i : ι} (hi : i ∈ R.members) {u : Session σ} (hu : s.Keeps u) :
    Records (unapply ⟨r', h⟩ (c.watched i)) (unapply ⟨r, h⟩ (c.plain i)) u fun es result =>
      (R.revertJob h s.target i).Done es (result.map fun _ => ()) ∧
        ∀ name, result = .ok name → name = R.name i := by
  unfold unapply
  rw [c.lists_watched.name_eq, c.lists_plain.name_eq]
  refine records_job (R.revertJob h s.target i) (c.down i hi u hu) fun v hv => ?_
  show Records _ _ v (Called (.execute (h.deleteStatement s.target (R.name i))) fun _ => ())
  rw [← (hu.trans hv).target]
  exact History.records_recordReverted (R.name i)

omit c in
/-- The jobs of some members in one transaction. -/
theorem records_members {is : List ι} {job : ι → Job} {f : ι → Program (Recorder Step σ) String}
    {g : ι → Program σ String} (hjob : ∀ i ∈ is, ∀ u, s.Keeps u → Records (f i) (g i) u fun es result =>
      (job i).Done es (result.map fun _ => ()) ∧ ∀ name, result = .ok name → name = (job i).name) :
    Records (inTransaction (is.mapM f)) (inTransaction (is.mapM g)) s (Transacted (is.map job)) := by
  refine records_inTransaction fun u hu => ?_
  refine (Records.mapM fun i hi v hv => hjob i hi v (hu.trans hv)).imp ?_
  rintro es result ⟨hturn, hnames⟩
  refine ⟨hturn.map, fun names hok => ?_⟩
  rw [List.map_map]
  exact hnames names hok

/-! ### Applying -/

/-- To apply what the history lacks. -/
theorem records_applying (floor : Int64) (applied : List AppliedMigration) :
    Records
      (applyAfter ⟨r', h⟩ (max (AppliedMigration.lastBatch applied) floor) (pending ⟨r', h⟩ applied))
      (applyAfter ⟨r, h⟩ (max (AppliedMigration.lastBatch applied) floor) (pending ⟨r, h⟩ applied)) s
      (Carried (R.applying h s.target floor applied)) := by
  unfold Roster.applying
  rw [c.lists_plain.pending_eq, c.lists_watched.pending_eq]
  by_cases hnone : R.pending applied = []
  · rw [hnone]
    exact .pure .idle
  have hsome {α : Type} (f : ι → α) : (R.pending applied).map f ≠ [] := by simpa using hnone
  rw [if_neg (by simpa using hnone)]
  cases hnext : nextBatch (max (AppliedMigration.lastBatch applied) floor) with
  | error e =>
    rw [applyAfter_error (hsome _) hnext, applyAfter_error (hsome _) hnext]
    exact .throw .refused
  | ok batch =>
    rw [applyAfter_ok (hsome _) hnext, applyAfter_ok (hsome _) hnext, List.mapM_map, List.mapM_map]
    refine (records_members fun i hi u hu => records_apply c batch (List.mem_of_mem_filter hi) hu).imp ?_
    exact fun _ _ htransacted => .transacted (hsome _) htransacted

/-! ### Reverting -/

theorem records_revert (targets : List AppliedMigration) :
    Records (revert ⟨r', h⟩ targets) (revert ⟨r, h⟩ targets) s (Carried (R.reverting h s.target targets)) := by
  unfold revert Roster.reverting
  rw [c.lists_plain.mapM_registered, c.lists_watched.mapM_registered]
  by_cases hnone : targets = []
  · subst hnone
    rw [List.mergeSort_nil]
    exact .pure .idle
  have hsome : ¬ targets.isEmpty = true := by simpa using hnone
  rw [if_neg hsome, if_neg hsome]
  cases hfound : (targets.mergeSort newerFirst).mapM R.find with
  | error e => exact .throw .refused
  | ok is =>
    have hall := Outcome.mapM_eq_ok_iff.1 hfound
    have hmembers : ∀ i ∈ is, i ∈ R.members :=
      Outcome.forall_right hall fun a _ i hi => (Roster.find_eq_ok hi).1
    have hne : is ≠ [] := by
      rintro rfl
      have hlength := hall.length_eq
      rw [List.length_mergeSort] at hlength
      exact hnone (List.length_eq_zero_iff.1 hlength)
    show Records (inTransaction ((is.map c.watched).mapM _)) (inTransaction ((is.map c.plain).mapM _)) s _
    rw [List.mapM_map, List.mapM_map]
    refine (records_members fun i hi u hu => records_unapply c (hmembers i hi) hu).imp ?_
    exact fun _ _ htransacted => .transacted (by simpa using hne) htransacted

/-! ### Calls

The task of a call may be known from elsewhere; it has to agree with the history that is
read.
-/

variable {task : List AppliedMigration → Except MigrationError (List Job)}

theorem records_migrateAfter {floor : Int64}
    (htask : ∀ applied u, h.Reads s applied u → R.applying h s.target floor applied = task applied) :
    Records (migrateAfter ⟨r', h⟩ floor) (migrateAfter ⟨r, h⟩ floor) s (Followed h s.target task) := by
  unfold migrateAfter
  refine records_reading fun applied u hread hu => ?_
  rw [← htask applied u hread, ← hu.target]
  exact records_applying (c.after hu) floor applied

theorem records_rollback {steps : Nat}
    (htask : ∀ applied u, h.Reads s applied u →
      R.reverting h s.target (applied.filter fun a => ((batches applied).take steps).contains a.batch) =
        task applied) :
    Records (rollback ⟨r', h⟩ steps) (rollback ⟨r, h⟩ steps) s (Followed h s.target task) := by
  unfold rollback
  refine records_reading fun applied u hread hu => ?_
  rw [← htask applied u hread, ← hu.target]
  exact records_revert (c.after hu) _

theorem records_reset
    (htask : ∀ applied u, h.Reads s applied u → R.reverting h s.target applied = task applied) :
    Records (reset ⟨r', h⟩) (reset ⟨r, h⟩) s (Followed h s.target task) := by
  unfold reset
  refine records_reading fun applied u hread hu => ?_
  rw [← htask applied u hread, ← hu.target]
  exact records_revert (c.after hu) _

end Migrator
end SqlToolkit
