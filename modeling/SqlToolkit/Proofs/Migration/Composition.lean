import SqlToolkit.Proofs.Migration.Watched

/-!
# Rollbacks compose

A rollback takes the newest batches from the history and leaves the rest in place, so
rollbacks one after another are one rollback of as many steps together, and with enough
steps a rollback is a reset.  Both are facts about the rows (`reversal_newest_add`,
`newest_of_length_le`), carried over to the calls by what a call does when nothing is
refused.
-/
namespace SqlToolkit

open AppliedMigration Migrator

namespace HistoryStore

variable {σ : Type} {store : HistoryStore σ} {s : Session σ} {rows : List AppliedMigration}
  {r : Registry σ} {k : Nat}

/-- Two rollbacks one after another, and the rollback of all their steps. -/
structure Composed (store : HistoryStore σ) (r : Registry σ) (s : Session σ) (first second : Nat) : Prop where
  /-- The names of the first are followed by those of the second. -/
  answer_eq : ∃ names names',
    (store.migrator r).answer (.rollback first) s = .ok names ∧
    (store.migrator r).answer (.rollback second) ((store.migrator r).after (.rollback first) s) = .ok names' ∧
    (store.migrator r).answer (.rollback (first + second)) s = .ok (names ++ names')
  /-- So are the steps that were run. -/
  stepsOf_eq : stepsOf ((store.migrator r).entries (.rollback (first + second)) s) =
    stepsOf ((store.migrator r).entries (.rollback first) s) ++
      stepsOf ((store.migrator r).entries (.rollback second) ((store.migrator r).after (.rollback first) s))
  /-- The history is the same. -/
  rows_eq : store.rows ((store.migrator r).after (.rollback (first + second)) s).connection =
    store.rows ((store.migrator r).after (.rollback second)
      ((store.migrator r).after (.rollback first) s)).connection

theorem composed (h : store.At s rows none) (hd : Distinct rows) (hquiet : store.QuietAll r)
    (hall : ∀ a ∈ rows, a.name ∈ r.names) {first second : Nat}
    (hfirst : Flawless ((store.migrator r).entries (.rollback first) s))
    (hsecond : Flawless
      ((store.migrator r).entries (.rollback second) ((store.migrator r).after (.rollback first) s)))
    (honce : Flawless ((store.migrator r).entries (.rollback (first + second)) s)) :
    Composed store r s first second := by
  have hregistered (n : Nat) : ∀ a ∈ newest n rows, a.name ∈ r.names :=
    fun a ha => hall a (newest_subset n rows a ha)
  obtain ⟨hanswer, hsteps, hafter⟩ := rollback_flawless h hd hquiet (hregistered first) hfirst
  -- the second rollback starts from what the first left
  have hd' : Distinct (remaining first rows) := by
    rw [← without_newest hd]
    exact hd.without _
  have hregistered' : ∀ a ∈ newest second (remaining first rows), a.name ∈ r.names :=
    fun a ha => hall a (List.mem_of_mem_filter (newest_subset second _ a ha))
  obtain ⟨hanswer', hsteps', hafter'⟩ := rollback_flawless hafter hd' hquiet hregistered' hsecond
  obtain ⟨hanswer'', hsteps'', hafter''⟩ :=
    rollback_flawless h hd hquiet (hregistered (first + second)) honce
  rw [← reversal_newest_add hd, List.map_append] at hanswer'' hsteps''
  refine ⟨⟨_, _, hanswer, hanswer', hanswer''⟩, ?_, ?_⟩
  · rw [hsteps'', hsteps, hsteps', List.map_append]
  · rw [hafter''.rows, hafter'.rows, remaining_add]

/-- A rollback of as many steps as there are batches does what a reset does. -/
theorem rollback_eq_reset (h : store.At s rows none) (hd : Distinct rows) (hquiet : store.QuietAll r)
    (hall : ∀ a ∈ rows, a.name ∈ r.names) {steps : Nat} (hsteps : (rows.map batch).dedup.length ≤ steps)
    (hrollback : Flawless ((store.migrator r).entries (.rollback steps) s))
    (hreset : Flawless ((store.migrator r).entries .reset s)) :
    (∃ names, (store.migrator r).answer (.rollback steps) s = .ok names ∧
      (store.migrator r).answer .reset s = .ok names) ∧
    store.rows ((store.migrator r).after (.rollback steps) s).connection =
      store.rows ((store.migrator r).after .reset s).connection := by
  rw [← length_batches] at hsteps
  have hnewest := newest_of_length_le hsteps
  have hregistered : ∀ a ∈ newest steps rows, a.name ∈ r.names := by
    rw [hnewest]
    exact hall
  obtain ⟨hanswer, -, hafter⟩ := rollback_flawless h hd hquiet hregistered hrollback
  obtain ⟨hanswer', -, hafter'⟩ := reset_flawless h hd hquiet hall hreset
  rw [hnewest] at hanswer
  refine ⟨⟨_, hanswer, hanswer'⟩, ?_⟩
  rw [hafter.rows, hafter'.rows, remaining_of_length_le hsteps]

/-- **Rollbacks compose.**  When every migration of a history is registered and nothing is
refused, a rollback after a rollback reverts the same migrations in the same order as the
rollback of all their steps, and leaves the same history; and a rollback of at least as
many steps as there are batches answers and leaves what a reset does. -/
theorem rollbacks_compose (hreached : store.Reached k s) (hquiet : store.QuietAll r)
    (hall : ∀ a ∈ store.rows s.connection, a.name ∈ r.names) :
    (∀ first second : Nat, Flawless ((store.migrator r).entries (.rollback first) s) →
      Flawless ((store.migrator r).entries (.rollback second)
        ((store.migrator r).after (.rollback first) s)) →
      Flawless ((store.migrator r).entries (.rollback (first + second)) s) →
      Composed store r s first second) ∧
    ∀ steps : Nat, ((store.rows s.connection).map batch).dedup.length ≤ steps →
      Flawless ((store.migrator r).entries (.rollback steps) s) →
      Flawless ((store.migrator r).entries .reset s) →
      (∃ names, (store.migrator r).answer (.rollback steps) s = .ok names ∧
        (store.migrator r).answer .reset s = .ok names) ∧
      store.rows ((store.migrator r).after (.rollback steps) s).connection =
        store.rows ((store.migrator r).after .reset s).connection := by
  obtain ⟨rows, hs, hd, -⟩ := invariant hreached
  rw [hs.rows] at hall ⊢
  constructor
  · intro first second hfirst hsecond honce
    exact composed hs hd hquiet hall hfirst hsecond honce
  · intro steps hsteps hrollback hreset
    exact rollback_eq_reset hs hd hquiet hall hsteps hrollback hreset

/-- Two migrations in two batches are taken back one after the other, and all at once. -/
theorem rollbacks_compose_pair :
    ∃ s, Memory.sqlite.Reached 2 s ∧ Composed Memory.sqlite Memory.pair s 1 1 ∧
      ∃ names, (Memory.sqlite.migrator Memory.pair).answer (.rollback 2) s = .ok names ∧
        (Memory.sqlite.migrator Memory.pair).answer .reset s = .ok names := by
  obtain ⟨s, hs, -, -, hover⟩ := Memory.reached_second
  have hquiet : Memory.sqlite.QuietAll Memory.pair := Memory.quiet_idle Memory.idle_of_pair
  have hreached : Memory.sqlite.Reached 2 ((Memory.sqlite.migrator Memory.pair).after .migrate s) :=
    hs.call .migrate hquiet
  have hregistered : ∀ row ∈ [(⟨1, "a", 1⟩ : MemoryRow), ⟨2, "b", 2⟩], row.name ∈ Memory.pair.names := by
    simp [Memory.mem_names_pair]
  have hflawless (steps : Nat) := memory_flawless_rollback hreached hover Memory.idle_of_pair hregistered steps
  obtain ⟨_, -, rows, hnext, hsub⟩ := (Memory.over_rollback hover Memory.idle_of_pair hregistered 1).exists_ok
  have hsecond := memory_flawless_rollback (hreached.call (.rollback 1) hquiet) hnext Memory.idle_of_pair
    (fun row hrow => hregistered row (hsub row hrow)) 1
  obtain ⟨hcomposed, hall⟩ := rollbacks_compose hreached hquiet (by rw [hover.at.rows]; decide)
  have hsteps : ((Memory.sqlite.rows ((Memory.sqlite.migrator Memory.pair).after .migrate s).connection).map
      batch).dedup.length ≤ 2 := by
    rw [hover.at.rows]
    decide
  refine ⟨_, hreached, hcomposed 1 1 (hflawless 1) hsecond (hflawless 2), ?_⟩
  exact (hall 2 hsteps (hflawless 2)
    (memory_flawless_reset hreached hover Memory.idle_of_pair hregistered)).1

end HistoryStore
end SqlToolkit
