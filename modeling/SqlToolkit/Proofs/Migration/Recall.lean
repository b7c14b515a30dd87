import SqlToolkit.Proofs.Migration.Scripted
import SqlToolkit.Proofs.Migration.Watched
import SqlToolkit.Proofs.Session.Slot

/-!
# What a failed call leaves to be read

When a call of a migrator fails because its database did, the session may or may not still
remember the failure.  A failure outside the transaction is remembered.  After one inside
it the transaction is undone through the session, which then remembers how that went: if
the transaction was undone, nothing (`Recalled`).  Which of the two happened can be seen
from the last entry of the call.

The steps of the migrations may be any programs that keep the session's backend and target.
-/
namespace SqlToolkit

open Migration Migrator

variable {π σ ι α β : Type}

/-- What a session remembers after a failure of the database, by the entries of the run: the
failure, unless the last entry is a rollback that succeeded. -/
inductive Recalled : List (Entry π) → Except MigrationError α → Session σ → Prop
  | other {es : List (Entry π)} {r : Except MigrationError α} {u : Session σ} :
    (∀ e, r ≠ .error (.database e)) → Recalled es r u
  | kept {es : List (Entry π)} {x : Entry π} {e : DatabaseError} {u : Session σ} : x.isRollback = false →
    u.error = some e.info → Recalled (es ++ [x]) (.error (.database e)) u
  | forgotten {es : List (Entry π)} {e : DatabaseError} {u : Session σ} : u.error = none →
    Recalled (es ++ [.rollback (.ok ())]) (.error (.database e)) u

namespace Recalled

variable {es : List (Entry π)} {r : Except MigrationError α} {u : Session σ}

/-- What came before does not matter. -/
theorem after (before : List (Entry π)) (h : Recalled es r u) : Recalled (before ++ es) r u := by
  cases h with
  | other hother => exact .other hother
  | kept hlast hu =>
    rw [← List.append_assoc]
    exact .kept hlast hu
  | forgotten hu =>
    rw [← List.append_assoc]
    exact .forgotten hu

/-- A failure is the same whatever the answer would have been. -/
theorem of_error {e : MigrationError} (h : Recalled es (.error e : Except MigrationError α) u) :
    Recalled es (.error e : Except MigrationError β) u := by
  generalize hr : (.error e : Except MigrationError α) = r at h
  cases h with
  | other hother =>
    refine .other fun cause hcause => hother cause ?_
    cases hcause
    exact hr.symm
  | kept hlast hu =>
    cases hr
    exact .kept hlast hu
  | forgotten hu =>
    cases hr
    exact .forgotten hu

end Recalled

/-- A program that behaves alike under the watch, and what it leaves to be read. -/
def Recalls (p : Program (Recorder π σ) α) (q : Program σ α) (s : Session σ) : Prop :=
  Records p q s fun es r => Recalled es r (ending q s).2

namespace Recalls

variable {p : Program (Recorder π σ) α} {q : Program σ α} {f : α → Program (Recorder π σ) β}
  {g : α → Program σ β} {s : Session σ}

/-- A program that does not fail because of the database. -/
theorem other (h : Records p q s fun _ r => ∀ e, r ≠ .error (.database e)) : Recalls p q s :=
  h.imp fun _ _ hr => .other hr

theorem pure (a : α) : Recalls (pure a : Program (Recorder π σ) α) (pure a) s := other (.pure (by simp))

/-- The program that fails has the last word. -/
theorem bind (h : Recalls p q s) (hrest : ∀ a u, s.Keeps u → Recalls (f a) (g a) u) :
    Recalls (p >>= f) (q >>= g) s := by
  have hp : Records p q s fun es r => Recalled es r (ending q s).2 := h
  refine hp.bind_ending (fun _ _ _ hes => hes.of_error) fun es a u hu _ => ?_
  exact (hrest a u hu).imp fun es' _ hes' => hes'.after es

/-- An operation that remembers its failure, and whose last entry then is no rollback. -/
theorem lift {p : Session.Operation (Recorder π σ) α} {q : Session.Operation σ α}
    (h : Records p q s fun es r => ∀ e, r = .error e → ∃ before x, es = before ++ [x] ∧ x.isRollback = false)
    (hmirrored : Session.Mirrored (ending q s)) : Recalls (Migration.lift p) (Migration.lift q) s := by
  obtain ⟨es, hes, hkeeps, hrun⟩ := h
  refine .adapt ⟨es, ?_, hkeeps, hrun⟩
  show Recalled es _ (ending q s).2
  cases hq : (ending q s).1 with
  | ok a => exact .other (by rintro _ ⟨⟩)
  | error e =>
    obtain ⟨before, x, rfl, hx⟩ := hes e hq
    exact .kept hx (hmirrored.of_error e hq)

/-- An operation of one call that is no rollback. -/
theorem lift_called {γ : Type} {entry : Except DatabaseError γ → Entry π} {f : γ → α}
    {p : Session.Operation (Recorder π σ) α} {q : Session.Operation σ α}
    (h : Records p q s fun es r => ∃ answer, es = [entry answer] ∧ r = answer.map f)
    (hentry : ∀ answer, (entry answer).isRollback = false) (hmirrored : Session.Mirrored (ending q s)) :
    Recalls (Migration.lift p) (Migration.lift q) s := by
  refine .lift (h.imp ?_) hmirrored
  rintro _ _ ⟨answer, rfl, -⟩ _ -
  exact ⟨[], entry answer, rfl, hentry answer⟩

end Recalls

/-! ## The history -/

namespace History

variable {h : History} {s : Session σ}

theorem recalls_ensureTable : Recalls (h.ensureTable : Program (Recorder Step σ) Unit) h.ensureTable s := by
  have hpresent : Session.Mirrored (ending (Session.hasTable h.table) s) := by
    unfold Session.hasTable
    exact .get_bind ((Session.mirrored_fetch _).bind fun _ _ hu => Session.mirrored_pure hu)
  have hmade (u : Session σ) : Session.Mirrored (ending (Session.createTable h.table declare) u) := by
    unfold Session.createTable Session.runBlueprint
    exact .get_bind ((Session.mirrored_compiled _).bind fun sqls _ hv => Session.mirrored_runAll sqls hv)
  unfold ensureTable
  refine .bind (.lift_called (Session.records_hasTable h.table) (fun _ => rfl) hpresent) fun present u _ => ?_
  cases present with
  | true => exact .pure ()
  | false =>
    refine .lift (records_createTable.imp ?_) (hmade u)
    rintro _ _ ⟨sql, answer, -, rfl, -⟩ _ -
    exact ⟨[], .execute ⟨sql, []⟩ answer, rfl, rfl⟩

theorem recalls_applied : Recalls (h.applied : Program (Recorder Step σ) (List AppliedMigration)) h.applied s := by
  have hread : Session.Mirrored (ending (Session.trySelect h.table [] columns applicationOrder) s) := by
    unfold Session.trySelect
    exact .get_bind ((Session.mirrored_compiled _).bind fun statement _ _ => Session.mirrored_fetch statement)
  refine .bind ?_ fun _ _ _ => .pure _
  exact .lift_called (Session.records_trySelect (h.select_eq s.target)).of_answer (fun _ => rfl) hread

/-- What follows the reading of the history has the last word. -/
theorem recalls_reading {f : List AppliedMigration → Program (Recorder Step σ) α}
    {g : List AppliedMigration → Program σ α} (hrest : ∀ applied u, s.Keeps u → Recalls (f applied) (g applied) u) :
    Recalls (do h.ensureTable; let applied ← h.applied; f applied)
      (do h.ensureTable; let applied ← h.applied; g applied) s :=
  recalls_ensureTable.bind fun _ _ hu => recalls_applied.bind fun applied v hv => hrest applied v (hu.trans hv)

theorem recalls_lastBatch : Recalls (h.lastBatch : Program (Recorder Step σ) Int64) h.lastBatch s :=
  recalls_applied.bind fun _ _ _ => .pure _

end History

/-! ## Transactions -/

namespace Migrator

variable {s : Session σ}

theorem ending_undo (failure : MigrationError) (s : Session σ) : ending (undo failure : Program σ α) s =
    (.error (undone failure (ending Session.rollback s).1), (ending Session.rollback s).2) := by
  unfold undo
  rw [ending_bind, ending_lift]
  cases (ending Session.rollback s).1 with
  | ok _ => rfl
  | error rollback => rfl

/-- What is remembered after an attempt to undo is how the attempt ended. -/
theorem recalls_undo (failure : MigrationError) :
    Recalls (undo failure : Program (Recorder Step σ) α) (undo failure) s := by
  have hmirrored : Session.Mirrored (ending Session.rollback s) := Session.mirrored_call Backend.rollback
  obtain ⟨es, rfl, hkeeps, hrun⟩ := Session.records_rollback (π := Step) (s := s)
  refine ⟨[.rollback (ending Session.rollback s).1], ?_, ?_, fun before => ?_⟩
  · rw [ending_undo]
    cases hanswer : (ending Session.rollback s).1 with
    | error rollback => exact .other (by rintro _ ⟨⟩)
    | ok _ =>
      cases failure with
      | database e =>
        show Recalled ([] ++ [Entry.rollback (.ok ())]) _ _
        exact .forgotten (hmirrored.of_ok _ hanswer)
      | _ => exact .other (by rintro _ ⟨⟩)
  · rw [ending_undo]
    exact hkeeps
  · rw [ending_undo, ending_undo, hrun]

/-- A transaction that was started is undone before a failure is reported. -/
theorem recalls_inTransaction {p : Program (Recorder Step σ) α} {q : Program σ α}
    (h : ∀ u, s.Keeps u → Records p q u fun _ _ => True) : Recalls (inTransaction p) (inTransaction q) s := by
  have hstart : Recalls (lift Session.start : Program (Recorder Step σ) Unit) (lift Session.start) s :=
    .lift_called Session.records_start.of_answer (fun _ => rfl) (Session.mirrored_call Backend.start)
  unfold inTransaction
  refine hstart.bind fun _ u hu => ?_
  have hcommit (v : Session σ) : Records (lift Session.commit : Program (Recorder Step σ) Unit)
      (lift Session.commit) v fun _ _ => True := .adapt (Session.records_commit.imp fun _ _ _ => trivial)
  have hkept : Records (do let result ← p; lift Session.commit; return result)
      (do let result ← q; lift Session.commit; return result) u fun _ _ => True :=
    (h u hu).bind (fun _ _ _ => trivial) fun _ _ v _ _ _ =>
      (hcommit v).bind (fun _ _ _ => trivial) fun _ _ _ _ _ _ => .pure trivial
  -- the attempt itself does not fail: its outcome says whether to undo
  refine .bind (.other (.lift (hkept.imp fun _ _ _ => by rintro _ ⟨⟩))) fun result v _ => ?_
  cases result with
  | ok a => exact .pure a
  | error failure => exact recalls_undo failure

/-! ## Calls -/

section Calls

theorem recalls_members {is : List ι} {job : ι → Job} {f : ι → Program (Recorder Step σ) String}
    {g : ι → Program σ String} (hjob : ∀ i ∈ is, ∀ u, s.Keeps u → Records (f i) (g i) u fun es result =>
      (job i).Done es (result.map fun _ => ()) ∧ ∀ name, result = .ok name → name = (job i).name) :
    Recalls (inTransaction (is.mapM f)) (inTransaction (is.mapM g)) s :=
  recalls_inTransaction fun _ hu =>
    (Records.mapM fun i hi v hv => hjob i hi v (hu.trans hv)).imp fun _ _ _ => trivial

variable {R : Roster ι} {r : Registry σ} {r' : Registry (Recorder Step σ)} {h : History} (c : Cast R s r r')

include c

theorem recalls_applying (last : Int64) (applied : List AppliedMigration) :
    Recalls (applyAfter ⟨r', h⟩ last (pending ⟨r', h⟩ applied))
      (applyAfter ⟨r, h⟩ last (pending ⟨r, h⟩ applied)) s := by
  rw [c.lists_plain.pending_eq, c.lists_watched.pending_eq]
  by_cases hnone : R.pending applied = []
  · rw [hnone]
    exact .pure []
  have hsome {α : Type} (f : ι → α) : (R.pending applied).map f ≠ [] := by simpa using hnone
  cases hnext : nextBatch last with
  | error e =>
    rw [applyAfter_error (hsome _) hnext, applyAfter_error (hsome _) hnext]
    obtain ⟨-, rfl⟩ := nextBatch_eq_error_iff.1 hnext
    exact .other (.throw (by rintro _ ⟨⟩))
  | ok batch =>
    rw [applyAfter_ok (hsome _) hnext, applyAfter_ok (hsome _) hnext, List.mapM_map, List.mapM_map]
    exact recalls_members fun i hi u hu => records_apply c batch (List.mem_of_mem_filter hi) hu

theorem recalls_migrateAfter (floor : Int64) : Recalls (migrateAfter ⟨r', h⟩ floor) (migrateAfter ⟨r, h⟩ floor) s := by
  unfold migrateAfter
  exact History.recalls_reading fun applied u hu => recalls_applying (c.after hu) _ applied

theorem recalls_revert (targets : List AppliedMigration) :
    Recalls (revert ⟨r', h⟩ targets) (revert ⟨r, h⟩ targets) s := by
  unfold revert
  rw [c.lists_plain.mapM_registered, c.lists_watched.mapM_registered]
  by_cases hnone : targets.isEmpty
  · rw [if_pos hnone, if_pos hnone]
    exact .pure []
  rw [if_neg hnone, if_neg hnone]
  cases hfound : (targets.mergeSort newerFirst).mapM R.find with
  | error e =>
    obtain ⟨a, -, hfind⟩ := Outcome.exists_of_mapM_eq_error hfound
    obtain ⟨-, rfl⟩ := Roster.find_eq_error hfind
    exact .other (.throw (by rintro _ ⟨⟩))
  | ok is =>
    have hmembers : ∀ i ∈ is, i ∈ R.members :=
      Outcome.forall_right (Outcome.mapM_eq_ok_iff.1 hfound) fun a _ i hi => (Roster.find_eq_ok hi).1
    show Recalls (inTransaction ((is.map c.watched).mapM _)) (inTransaction ((is.map c.plain).mapM _)) s
    rw [List.mapM_map, List.mapM_map]
    exact recalls_members fun i hi u hu => records_unapply c (hmembers i hi) hu

theorem recalls_rollback (steps : Nat) : Recalls (rollback ⟨r', h⟩ steps) (rollback ⟨r, h⟩ steps) s := by
  unfold rollback
  exact History.recalls_reading fun applied u hu => recalls_revert (c.after hu) _

theorem recalls_reset : Recalls (reset ⟨r', h⟩) (reset ⟨r, h⟩) s := by
  unfold reset
  exact History.recalls_reading fun applied u hu => recalls_revert (c.after hu) applied

theorem recalls_refresh : Recalls (refresh ⟨r', h⟩) (refresh ⟨r, h⟩) s := by
  unfold refresh
  refine History.recalls_ensureTable.bind fun _ u hu => ?_
  refine History.recalls_lastBatch.bind fun last v hv => ?_
  refine (recalls_reset (c.after (hu.trans hv))).bind fun _ w hw => ?_
  exact recalls_migrateAfter (c.after ((hu.trans hv).trans hw)) last

theorem recalls_call (call : Call) : Recalls (call.program ⟨r', h⟩) (call.program ⟨r, h⟩) s := by
  cases call with
  | migrate => exact recalls_migrateAfter c 0
  | rollback steps => exact recalls_rollback c steps
  | reset => exact recalls_reset c
  | refresh => exact recalls_refresh c

end Calls

end Migrator

/-- Migrations whose steps keep the backend and the target of their session. -/
def Registry.Steady (r : Registry σ) : Prop :=
  ∀ migration ∈ r.migrations, ∀ s : Session σ, s.Keeps (ending migration.up s).2 ∧ s.Keeps (ending migration.down s).2

theorem Registry.lists_plain (r : Registry σ) : r.roster.Lists r fun m => m := ⟨(List.map_id _).symm, fun _ => rfl⟩

theorem Registry.lists_recorded (r : Registry σ) : r.roster.Lists r.recorded Migration.recorded := ⟨rfl, fun _ => rfl⟩

/-- The steps of a registry are entered as they are run. -/
def Registry.Steady.cast {r : Registry σ} (h : r.Steady) (s : Session σ) : Cast r.roster s r r.recorded where
  plain m := m
  watched := Migration.recorded
  lists_plain := r.lists_plain
  lists_watched := r.lists_recorded
  up m hm u _ := Session.records_watch (Step.up m.name) (h m hm u).1
  down m hm u _ := Session.records_watch (Step.down m.name) (h m hm u).2

/-- Scripts have no effects but their statements. -/
theorem ScriptedRegistry.steady (R : ScriptedRegistry) : (R.registry σ).Steady := by
  intro migration hmem s
  obtain ⟨m, -, rfl⟩ := List.mem_map.1 hmem
  exact ⟨(Migration.records_runScript m.up).keeps, (Migration.records_down_ofScripts m).keeps⟩

namespace Migrator

/-- **A failure of the database is remembered unless the transaction was undone after it**,
whatever the backend answers and whatever the migrations do. -/
theorem remembered_unless_undone {m : Migrator σ} (hsteady : m.registry.Steady) (call : Call) (s : Session σ) :
    Recalled (m.entries call s) (m.answer call s) (m.after call s) :=
  (recalls_call (h := m.history) (hsteady.cast s) call).entriesOf

/-- A backend that refuses all writes and finds one row without values for every query. -/
def readOnly : Backend Unit where
  dialect := .sqlite
  query _ c := (.ok [⟨[], []⟩], c)
  execute _ c := (.error (.driver none "read only"), c)
  start c := (.ok (), c)
  commit c := (.ok (), c)
  rollback c := (.ok (), c)
  inTransaction _ := false

/-- A session on it. -/
def unwritable : Session Unit where
  backend := readOnly
  connection := ()
  target := ⟨.sqlite, ""⟩

/-- One script of one statement. -/
def oneScript : ScriptedRegistry := ⟨[⟨"a", "boom", none⟩], List.pairwise_singleton _ _⟩

theorem remembered_unless_undone_script :
    (oneScript.registry Unit).Steady ∧ Recalled ((oneScript.migrator {} Unit).entries .migrate unwritable)
      ((oneScript.migrator {} Unit).answer .migrate unwritable)
      ((oneScript.migrator {} Unit).after .migrate unwritable) :=
  ⟨oneScript.steady, remembered_unless_undone (m := oneScript.migrator {} Unit) oneScript.steady .migrate unwritable⟩

/-- The statement of the script is refused, the transaction is undone, and the failure is reported; but it cannot be
read any more. -/
theorem forgotten_script :
    (oneScript.migrator {} Unit).answer .migrate unwritable = .error (.database (.driver none "read only")) ∧
      ((oneScript.migrator {} Unit).after .migrate unwritable).error = none := by
  decide +kernel

end Migrator
end SqlToolkit
