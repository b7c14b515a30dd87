import SqlToolkit.Proofs.Migration.Watched

/-!
# Refreshing

A refresh reads the last batch, reverts everything and applies everything, each half in
its own transaction (`Refreshed`).  The batch is read before the history is emptied, so the
second half starts one above it.  When something cannot be reverted the first half asks for
no transaction, and there is no second half.
-/
namespace SqlToolkit

open Migration AppliedMigration Migrator

/-! ## The protocol -/

/-- **The protocol of a refresh.**  The table is ensured and the history is read for its last
batch; then one task after the other is carried out, the second if the first succeeded. -/
inductive Refreshed (h : History) (t : Target) (down up : Except MigrationError (List Job)) :
    List (Entry Step) → Except MigrationError (List String) → Prop
  | unchecked {es : List (Entry Step)} {e : MigrationError} : h.Ensured t es (.error e) →
    Refreshed h t down up es (.error e)
  | unread {es : List (Entry Step)} {e : DatabaseError} : h.Ensured t es (.ok ()) →
    Refreshed h t down up (es ++ [.query (h.readStatement t) (.error e)]) (.error (.database e))
  | unreverted {es es' : List (Entry Step)} {rows : List Row} {e : MigrationError} :
    h.Ensured t es (.ok ()) → Followed h t (fun _ => down) es' (.error e) →
    Refreshed h t down up (es ++ .query (h.readStatement t) (.ok rows) :: es') (.error e)
  | reverted {es es' es'' : List (Entry Step)} {rows : List Row} {names : List String}
    {r : Except MigrationError (List String)} :
    h.Ensured t es (.ok ()) → Followed h t (fun _ => down) es' (.ok names) → Followed h t (fun _ => up) es'' r →
    Refreshed h t down up (es ++ .query (h.readStatement t) (.ok rows) :: (es' ++ es'')) r

section Protocol

variable {h : History} {t : Target} {es : List (Entry Step)} {r : Except MigrationError (List String)}
  {down up : Except MigrationError (List Job)}

/-- A refresh that answers ran the steps of both its tasks. -/
theorem Refreshed.stepsOf_eq {names : List String} (hdown : ∀ jobs, down = .ok jobs → Walking .down jobs)
    (hup : ∀ jobs, up = .ok jobs → Walking .up jobs) (hrefreshed : Refreshed h t down up es (.ok names)) :
    ∃ jobs jobs', down = .ok jobs ∧ up = .ok jobs' ∧ names = jobs'.map Job.name ∧
      stepsOf es = (jobs.map Job.name).map .down ++ names.map .up := by
  generalize hr : (Except.ok names : Except MigrationError (List String)) = r at hrefreshed
  cases hrefreshed with
  | unchecked _ => cases hr
  | unread _ => cases hr
  | unreverted _ _ => cases hr
  | reverted hensured hfirst hsecond =>
    subst hr
    obtain ⟨hdowns, jobs, hjobs, rfl⟩ := hfirst.stepsOf_eq hdown
    obtain ⟨hups, jobs', hjobs', hnames⟩ := hsecond.stepsOf_eq hup
    refine ⟨jobs, jobs', hjobs, hjobs', hnames, ?_⟩
    rw [stepsOf_read hensured, stepsOf_append, hdowns, hups]

/-- A refresh whose first task is refused runs no step and asks for no transaction. -/
theorem Refreshed.refused {e : MigrationError} (hrefreshed : Refreshed h t (.error e) up es r) :
    Untouched es ∧ (∃ failure, r = .error failure) ∧ (Flawless es → r = .error e) := by
  have honest := h.honest_ensured t
  cases hrefreshed with
  | unchecked hensured =>
    refine ⟨History.untouched_ensured hensured, ⟨_, rfl⟩, fun hall => ?_⟩
    rw [honest _ _ hensured] at hall
    cases hall
  | unread hensured =>
    refine ⟨(History.untouched_ensured hensured).append untouched_query, ⟨_, rfl⟩, fun hall => ?_⟩
    rw [flawless_append, flawless_cons] at hall
    exact absurd hall.2.1 Bool.false_ne_true
  | @unreverted es es' rows failure hensured hfirst =>
    refine ⟨(History.untouched_ensured hensured).append ?_, ⟨_, rfl⟩, fun hall => ?_⟩
    · show Untouched ([.query (h.readStatement t) (.ok rows)] ++ es')
      refine untouched_query.append (hfirst.untouched fun _ _ hjobs => ?_)
      cases hjobs
    · rw [flawless_append, flawless_cons] at hall
      exact hfirst.refused.2 hall.2.2
  | reverted _ hfirst _ =>
    obtain ⟨⟨_, hfailure⟩, -⟩ := hfirst.refused
    cases hfailure

end Protocol

namespace HistoryStore

variable {σ : Type} {store : HistoryStore σ} {s : Session σ} {rows : List AppliedMigration}
  {r : Registry σ} {n : Nat} {names : List String}

theorem records_refresh (h : store.At s rows none) (hd : Distinct rows) (hquiet : store.QuietAll r) :
    Records (store.migrator r).recorded.refresh (store.migrator r).refresh s
      (Refreshed store.history store.target (r.roster.reverting store.history store.target rows)
        (r.roster.applying store.history store.target (lastBatch rows) [])) := by
  -- every part starts where the part before it left the store
  unfold refresh
  have hensure := History.records_ensureTable (h := store.history) (s := s)
  rw [h.target] at hensure
  refine hensure.bind (fun _ _ hunchecked => .unchecked hunchecked) ?_
  rintro es _ u hu hkeeps hensured
  have hat := (settles_ensureTable h).of_run hu
  have hlast := History.records_lastBatch (h := store.history) (s := u)
  rw [hat.target] at hlast
  refine hlast.called_bind (fun _ => .unread hensured) ?_
  intro read v hv hkeeps'
  obtain ⟨hread, hat'⟩ := (settles_lastBatch hat).of_run hv
  rw [hread]
  refine (records_reset hat' hd hquiet).bind (fun _ _ hfirst => .unreverted hensured hfirst) ?_
  rintro es' reverted w hw hkeeps'' hfirst
  obtain ⟨_, _, _, _, hat''⟩ := (settles_reset hat' hquiet).of_run hw
  -- the history is empty by now, and only the floor remembers the last batch
  refine (records_migrateAfter hat'' hquiet (lastBatch rows)).imp fun es'' result hsecond => ?_
  show Refreshed _ _ _ _ (es ++ .query (store.history.readStatement store.target) (.ok read) :: (es' ++ es'')) result
  exact .reverted hensured hfirst hsecond

/-- A refresh that answers. -/
structure Renewed (store : HistoryStore σ) (r : Registry σ) (s : Session σ) (names : List String) : Prop where
  names_eq : names = r.names
  /-- All that was applied is reverted, the last first, and then all that is registered is
  applied, in the order of the names. -/
  stepsOf_eq : stepsOf ((store.migrator r).entries .refresh s) =
    ((store.rows s.connection).reverse.map AppliedMigration.name).map .down ++ r.names.map .up
  /-- Every step is run once. -/
  nodup_stepsOf : (stepsOf ((store.migrator r).entries .refresh s)).Nodup
  /-- The history holds what is registered. -/
  rows_names : (store.rows ((store.migrator r).after .refresh s).connection).map AppliedMigration.name = r.names
  /-- It is one batch, the next after the last. -/
  batch_eq : ∀ a ∈ store.rows ((store.migrator r).after .refresh s).connection,
    a.batch.toInt = (lastBatch (store.rows s.connection)).toInt + 1

/-- Rows whose batches ascend are reverted from the last to the first. -/
theorem reversal_ascending (hd : Distinct rows) (hascending : rows.Pairwise fun a b => a.batch ≤ b.batch) :
    reversal rows = rows.reverse := by
  refine (eq_reversal hd (fun _ ha => ha) (List.reverse_perm rows) ?_).symm
  rw [List.pairwise_reverse]
  refine (hascending.and hd.ids_lt).imp fun {a b} hab => ?_
  rw [newerFirst_iff, Before]
  grind

theorem nodup_steps {downs ups : List String} (hdowns : downs.Nodup) (hups : ups.Nodup) :
    (downs.map Step.down ++ ups.map Step.up).Nodup := by
  refine List.nodup_append.2 ⟨hdowns.map ?_, hups.map ?_, ?_⟩
  · rintro _ _ ⟨⟩
    rfl
  · rintro _ _ ⟨⟩
    rfl
  · intro x hx y hy hxy
    obtain ⟨_, -, rfl⟩ := List.mem_map.1 hx
    obtain ⟨_, -, rfl⟩ := List.mem_map.1 hy
    cases hxy

theorem renewed (h : store.At s rows none) (hd : Distinct rows) (hascending : Ascending n rows)
    (hquiet : store.QuietAll r) (hanswer : (store.migrator r).answer .refresh s = .ok names) :
    Renewed store r s names := by
  have hnothing : (r.names.filter fun name => name ∉ ([] : List AppliedMigration).map AppliedMigration.name) =
      r.names := List.filter_eq_self.2 (by simp)
  have hrefreshed := (records_refresh h hd hquiet).entriesOf
  rw [show (ending (store.migrator r).refresh s).1 = .ok names from hanswer] at hrefreshed
  obtain ⟨jobs, jobs', hjobs, hjobs', rfl, hsteps⟩ := hrefreshed.stepsOf_eq
    (fun _ hjobs => (Registry.reverting_roster hjobs).1) fun _ hjobs => (Registry.applying_roster hjobs).1
  have hnames := (Registry.applying_roster hjobs').2
  rw [hnothing] at hnames
  rw [(Registry.reverting_roster hjobs).2, hnames, reversal_ascending hd hascending.batches_le] at hsteps
  obtain ⟨_, ⟨hpending, hgrown⟩, hafter⟩ := (settles_refresh h hquiet).of_ok _ hanswer
  obtain ⟨added, batch, hgrew, hadded, hbatch⟩ := hgrown.exists_added
  have hrows : store.rows ((store.migrator r).after .refresh s).connection = added := hafter.rows.trans hgrew
  refine ⟨hnames, ?_, ?_, ?_, ?_⟩
  · rw [h.rows]
    exact hsteps
  · show (stepsOf (entriesOf (store.migrator r).recorded.refresh s)).Nodup
    rw [hsteps]
    exact nodup_steps (((List.reverse_perm rows).map _).nodup_iff.2 hd.names_nodup) r.nodup_names
  · rw [hrows, hadded, hnames]
  · rw [hrows, h.rows]
    intro a ha
    obtain ⟨rfl, hnext⟩ := hbatch a ha
    rw [hascending.max_lastBatch_nil] at hnext
    exact nextBatch_eq_ok_iff.1 hnext

/-- A refresh without the migration of some row: what was applied is left applied. -/
structure Refused (store : HistoryStore σ) (r : Registry σ) (s : Session σ) : Prop where
  untouched : Untouched ((store.migrator r).entries .refresh s)
  rows_eq : store.rows ((store.migrator r).after .refresh s).connection = store.rows s.connection
  answer_error : ∃ e, (store.migrator r).answer .refresh s = .error e
  /-- If nothing was refused, the failure names such a row. -/
  answer_missing : Flawless ((store.migrator r).entries .refresh s) →
    ∃ a ∈ store.rows s.connection, a.name ∉ r.names ∧
      (store.migrator r).answer .refresh s = .error (.missing a.name)

theorem refused (h : store.At s rows none) (hd : Distinct rows) (hquiet : store.QuietAll r)
    {a : AppliedMigration} (ha : a ∈ rows) (hmissing : a.name ∉ r.names) : Refused store r s := by
  obtain ⟨b, hb, hnot, herror⟩ := Registry.reverting_missing store.history store.target ha hmissing
  have hrefreshed := (records_refresh h hd hquiet).entriesOf
  rw [herror] at hrefreshed
  obtain ⟨huntouched, ⟨e, he⟩, hfailure⟩ := hrefreshed.refused
  refine ⟨huntouched, ?_, ⟨e, he⟩, fun hflawless => ?_⟩
  · rw [h.rows]
    rcases (settles_refresh h hquiet).of_error e he with hsame | ⟨u, names, _, hreset, hu, -⟩
    · exact hsame.rows
    · -- the reset before it would have been refused too
      have hreverted := (records_reset hu hd hquiet).entriesOf
      rw [herror] at hreverted
      obtain ⟨_, hfailed⟩ := hreverted.refused.1
      rw [hreset] at hfailed
      cases hfailed
  · rw [h.rows]
    exact ⟨b, hb, hnot, hfailure hflawless⟩

/-- **A refresh starts over.**  If it answers, all that was applied was reverted, the last
first, and all that is registered was applied in order, and the history holds just that, as
the batch after the last.  If something that was applied is not registered it fails, and
nothing is run or begun. -/
theorem refresh_renews (hreached : store.Reached n s) (hquiet : store.QuietAll r) :
    (∀ names, (store.migrator r).answer .refresh s = .ok names → Renewed store r s names) ∧
      ∀ a ∈ store.rows s.connection, a.name ∉ r.names → Refused store r s := by
  obtain ⟨rows, hs, hd, hascending⟩ := invariant hreached
  refine ⟨fun names hanswer => renewed hs hd hascending hquiet hanswer, ?_⟩
  rw [hs.rows]
  exact fun a ha hmissing => refused hs hd hquiet ha hmissing

/-- After one migration a refresh runs it again in the next batch, and one without it fails. -/
theorem refresh_renews_migrated :
    ∃ s, Memory.sqlite.Reached 1 s ∧ Renewed Memory.sqlite (Memory.only "a") s ["a"] ∧
      (∀ a ∈ Memory.sqlite.rows ((Memory.sqlite.migrator (Memory.only "a")).after .refresh s).connection,
        a.batch = 2) ∧
      Refused Memory.sqlite {} s := by
  obtain ⟨s, hs, hover⟩ := reached_migrated (t := ⟨.sqlite, ""⟩) (h := {}) "a"
  have hquiet : Memory.sqlite.QuietAll (Memory.only "a") := Memory.quiet_idle (Memory.idle_of_only "a")
  have hnext : nextBatch (max 0 1) = .ok 2 := rfl
  obtain ⟨names, hanswer, -⟩ := (Memory.over_refresh hover hnext).exists_ok
  have hrenewed := (refresh_renews hs hquiet).1 names hanswer
  obtain rfl : names = ["a"] := hrenewed.names_eq
  have hone : lastBatch (Memory.sqlite.rows s.connection) = 1 := by
    rw [hover.at.rows]
    rfl
  have hbatch := hrenewed.batch_eq
  rw [hone] at hbatch
  have hempty : Memory.sqlite.QuietAll {} := Memory.quiet_idle (by simp)
  have hrefused := (refresh_renews hs hempty).2 ⟨1, "a", 1, none⟩ (by rw [hover.at.rows]; decide) (by decide)
  exact ⟨s, hs, hrenewed, fun a ha => Int64.toInt_inj.1 (hbatch a ha), hrefused⟩

end HistoryStore

end SqlToolkit
