import SqlToolkit.Proofs.Session.Record
import SqlToolkit.Proofs.Session.Slot

/-!
# Actions

An action asks for a transaction, runs its callback inside it, and then has the transaction
kept or undone.  The callback may be any program on the session, so it is watched as one
part of the run (`Session.watch`): what it sends itself is its own affair, and all other
entries are those of the action.

There are five ways for an action to close, by what its callback answers and by which of
its own calls are refused (`Closing`).  From them follows what can be said of every action:
when it asks to commit, when it asks to undo, what it answers, and that its failure is
remembered (`action_encloses`).
-/
namespace SqlToolkit

variable {π σ : Type}

/-- The failure to report after an attempt to undo the transaction. -/
def DatabaseError.reported (failure : DatabaseError) : Except DatabaseError Unit → DatabaseError
  | .ok _ => failure
  | .error rollback => .rollbackFailed failure rollback

namespace Session

/-! ## How an action closes -/

/-- What an action does with the answer of its callback. -/
def conclude : Except DatabaseError Bool → Operation σ Bool
  | .ok true => do
    match ← attempt commit with
    | .ok _ => return true
    | .error failure => abort failure
  | .ok false => do
    rollback
    return false
  | .error failure => abort failure

theorem action_eq (callback : Operation σ Bool) :
    action callback = (do start; let answer ← attempt callback; conclude answer) := rfl

/-- The answer of the callback, what is sent after it, and the outcome of the action. -/
inductive Closing : Except DatabaseError Bool → List (Entry π) → Except DatabaseError Bool → Prop
  | kept : Closing (.ok true) [.commit (.ok ())] (.ok true)
  | unkept (failure : DatabaseError) (undone : Except DatabaseError Unit) :
    Closing (.ok true) [.commit (.error failure), .rollback undone] (.error (failure.reported undone))
  | declined : Closing (.ok false) [.rollback (.ok ())] (.ok false)
  | undeclined (failure : DatabaseError) : Closing (.ok false) [.rollback (.error failure)] (.error failure)
  | failed (failure : DatabaseError) (undone : Except DatabaseError Unit) :
    Closing (.error failure) [.rollback undone] (.error (failure.reported undone))

/-- What can be said of the entries after the callback and of the outcome. -/
structure Enclosed (answer : Except DatabaseError Bool) (es : List (Entry π))
    (outcome : Except DatabaseError Bool) : Prop where
  /-- Nothing is sent but a commit, at most once, and after it a rollback, at most once. -/
  shape : ∃ commits rollbacks : List (Except DatabaseError Unit),
    es = commits.map .commit ++ rollbacks.map .rollback ∧ commits.length ≤ 1 ∧ rollbacks.length ≤ 1
  /-- The transaction is to be kept exactly when the callback says so. -/
  commit_iff : (∃ kept, .commit kept ∈ es) ↔ answer = .ok true
  /-- It is undone exactly when it was not kept. -/
  rollback_iff : (∃ undone, .rollback undone ∈ es) ↔ .commit (.ok ()) ∉ es
  ok_true_iff : outcome = .ok true ↔ .commit (.ok ()) ∈ es
  ok_false_iff : outcome = .ok false ↔ answer = .ok false ∧ .rollback (.ok ()) ∈ es
  /-- A transaction that the callback gave up may fail to be undone. -/
  undeclined (failure : DatabaseError) :
    answer = .ok false → .rollback (.error failure) ∈ es → outcome = .error failure
  /-- A failure of the callback or of the commit is reported as it is once the transaction is undone, -/
  undone (failure : DatabaseError) :
    answer = .error failure ∨ .commit (.error failure) ∈ es → .rollback (.ok ()) ∈ es → outcome = .error failure
  /-- and together with the failure to undo it otherwise. -/
  not_undone (failure rollback : DatabaseError) :
    answer = .error failure ∨ .commit (.error failure) ∈ es → .rollback (.error rollback) ∈ es →
      outcome = .error (.rollbackFailed failure rollback)

theorem Closing.enclosed {answer outcome : Except DatabaseError Bool} {es : List (Entry π)}
    (h : Closing answer es outcome) : Enclosed answer es outcome := by
  cases h with
  | kept =>
    refine ⟨⟨[.ok ()], [], rfl, Nat.le_refl 1, Nat.zero_le 1⟩, ?_, ?_, ?_, ?_, ?_, ?_, ?_⟩ <;> simp
  | unkept failure undone =>
    refine ⟨⟨[.error failure], [undone], rfl, Nat.le_refl 1, Nat.le_refl 1⟩, ?_, ?_, ?_, ?_, ?_, ?_, ?_⟩ <;>
      simp +contextual [DatabaseError.reported, eq_comm]
  | declined =>
    refine ⟨⟨[], [.ok ()], rfl, Nat.zero_le 1, Nat.le_refl 1⟩, ?_, ?_, ?_, ?_, ?_, ?_, ?_⟩ <;> simp
  | undeclined failure =>
    refine ⟨⟨[], [.error failure], rfl, Nat.zero_le 1, Nat.le_refl 1⟩, ?_, ?_, ?_, ?_, ?_, ?_, ?_⟩ <;> simp +contextual
  | failed failure undone =>
    refine ⟨⟨[], [undone], rfl, Nat.zero_le 1, Nat.le_refl 1⟩, ?_, ?_, ?_, ?_, ?_, ?_, ?_⟩ <;>
      simp +contextual [DatabaseError.reported, eq_comm]

/-! ## The steps of an action -/

section Steps

variable {s : Session σ}

theorem ending_abort (failure : DatabaseError) (s : Session σ) :
    ending (abort failure) s =
      (.error (failure.reported (s.backend.rollback s.connection).1),
        { s with
          connection := (s.backend.rollback s.connection).2
          error := some (failure.reported (s.backend.rollback s.connection).1).info }) := by
  have habort : ending (abort failure) s =
      ending (record (.error (match (s.backend.rollback s.connection).1 with
        | .ok _ => failure
        | .error rollback => .rollbackFailed failure rollback)))
        { s with connection := (s.backend.rollback s.connection).2 } := rfl
  rw [habort]
  cases (s.backend.rollback s.connection).1 with
  | ok _ => rfl
  | error rollback => rfl

theorem mirrored_abort (failure : DatabaseError) : Mirrored (ending (abort failure) s) := by
  rw [ending_abort]
  exact .error rfl

theorem records_abort (failure : DatabaseError) :
    Records (abort failure) (abort failure) s fun (es : List (Entry π)) r =>
      ∃ undone, es = [.rollback undone] ∧ r = .error (failure.reported undone) := by
  refine ⟨[.rollback (s.backend.rollback s.connection).1], ?_, ?_, fun before => ?_⟩
  · rw [ending_abort]
    exact ⟨_, rfl, rfl⟩
  · rw [ending_abort]
    exact ⟨rfl, rfl⟩
  · rw [ending_abort, ending_abort]
    rfl

/-- However the callback ended, the action remembers how it ended itself. -/
theorem mirrored_conclude (answer : Except DatabaseError Bool) : Mirrored (ending (conclude answer) s) := by
  rcases answer with failure | _ | _
  · exact mirrored_abort failure
  · exact (mirrored_call Backend.rollback).bind fun _ _ hu => mirrored_pure hu
  · have hcommit : Mirrored (ending commit s) := mirrored_call Backend.commit
    have hattempt : Settles (ending (attempt commit) s) (fun kept u => kept = .ok () → u.error = none)
        fun failure u => u.error = some failure.info := by
      refine .lift (fun kept u => kept = .ok () → u.error = none) (hcommit.imp (fun _ _ hu _ => hu) ?_)
      rintro _ _ _ ⟨⟩
    refine Settles.bind hattempt (fun _ _ hu => hu) fun kept u hu => ?_
    rcases kept with failure | _
    · exact mirrored_abort failure
    · exact mirrored_pure (hu rfl)

theorem mirrored_action (callback : Operation σ Bool) : Mirrored (ending (action callback) s) := by
  rw [action_eq]
  refine (mirrored_call Backend.start).bind fun _ u _ => ?_
  rw [ending_bind, attempt, ending_lift]
  exact mirrored_conclude _

theorem records_conclude (answer : Except DatabaseError Bool) :
    Records (conclude answer) (conclude answer) s fun (es : List (Entry π)) r => Closing answer es r := by
  rcases answer with failure | _ | _
  · refine (records_abort failure).imp ?_
    rintro _ _ ⟨undone, rfl, rfl⟩
    exact .failed failure undone
  · refine records_rollback.bind ?_ ?_
    · rintro _ failure rfl
      exact .undeclined failure
    · rintro _ _ u - - rfl
      exact .pure .declined
  · have hattempt : Records (attempt commit) (attempt commit) s fun (es : List (Entry π)) r =>
        ∃ kept, es = [.commit kept] ∧ r = .ok kept :=
      .lift (records_commit.imp fun _ kept hes => ⟨kept, hes, rfl⟩)
    refine hattempt.bind ?_ ?_
    · rintro _ _ ⟨_, -, ⟨⟩⟩
    rintro _ kept u - - ⟨_, rfl, ⟨⟩⟩
    rcases kept with failure | _
    · refine (records_abort failure).imp ?_
      rintro _ _ ⟨undone, rfl, rfl⟩
      exact .unkept failure undone
    · exact .pure .kept

end Steps

/-! ## The whole action -/

/-- Without a transaction there is nothing more to do. -/
theorem ending_action_refused {s u : Session σ} {callback : Operation σ Bool} {failure : DatabaseError}
    (hstart : ending start s = (.error failure, u)) : ending (action callback) s = (.error failure, u) := by
  rw [action_eq, ending_bind, hstart]

/-- With one the callback is run and the action concluded. -/
theorem ending_action_started {s u : Session σ} {callback : Operation σ Bool}
    (hstart : ending start s = (.ok (), u)) :
    ending (action callback) s = ending (conclude (ending callback u).1) (ending callback u).2 := by
  rw [action_eq, ending_bind, hstart]
  show ending (attempt callback >>= conclude) u = _
  rw [ending_bind, attempt, ending_lift]

/-- What an action does for its callback in a session. -/
structure Encloses (s : Session σ) (callback : Operation σ Bool) : Prop where
  /-- The watch changes nothing. -/
  watched (before : List (Entry Unit)) : ending (action (watch () callback)) (s.recorded before) =
    ((ending (action callback) s).1,
      (ending (action callback) s).2.recorded (before ++ entriesOf (action (watch () callback)) s))
  /-- Without a transaction the callback is not run and nothing else is sent. -/
  refused (failure : DatabaseError) : (ending start s).1 = .error failure →
    entriesOf (action (watch () callback)) s = [.start (.error failure)] ∧
      ending (action callback) s = (.error failure, (ending start s).2)
  /-- With one the callback is run once, and what is sent after it follows from its answer. -/
  started : (ending start s).1 = .ok () → ∃ es,
    entriesOf (action (watch () callback)) s =
      .start (.ok ()) :: .part () (ending callback (ending start s).2).1.isOk :: es ∧
    Enclosed (ending callback (ending start s).2).1 es (ending (action callback) s).1
  /-- A failure is remembered as it is reported. -/
  remembered (failure : DatabaseError) : (ending (action callback) s).1 = .error failure →
    (ending (action callback) s).2.error = some failure.info

/-- **An action encloses its callback in a transaction**, whatever the backend answers and
whatever the callback does: the transaction is kept exactly when the callback asks for it
and the commit succeeds, and is undone once in all other cases. -/
theorem action_encloses (s : Session σ) (callback : Operation σ Bool) : Encloses s callback := by
  obtain ⟨_, rfl, -, hstart⟩ := records_start (π := Unit) (s := s)
  have hremembered := (mirrored_action callback (s := s)).of_error
  rcases hs : ending start s with ⟨failure | _, u⟩
  · -- the transaction is refused
    rw [hs] at hstart
    have hplain : ending (action callback) s = (.error failure, u) := ending_action_refused hs
    have hwatched (before : List (Entry Unit)) : ending (action (watch () callback)) (s.recorded before) =
        (.error failure, u.recorded (before ++ [.start (.error failure)])) :=
      ending_action_refused (hstart before)
    have hentries : entriesOf (action (watch () callback)) s = [.start (.error failure)] := by
      rw [entriesOf, hwatched]
      rfl
    refine ⟨fun before => ?_, fun e he => ?_, ?_, hremembered⟩
    · rw [hwatched, hplain, hentries]
    · rw [hs] at he ⊢
      cases he
      exact ⟨hentries, hplain⟩
    · rw [hs]
      rintro ⟨⟩
  · -- the callback is run, and then the action is concluded
    rw [hs] at hstart
    obtain ⟨es, hclosing, -, hconclude⟩ :=
      records_conclude (π := Unit) (s := (ending callback u).2) (ending callback u).1
    have hplain : ending (action callback) s = ending (conclude (ending callback u).1) (ending callback u).2 :=
      ending_action_started hs
    have hwatched (before : List (Entry Unit)) : ending (action (watch () callback)) (s.recorded before) =
        ((ending (action callback) s).1, (ending (action callback) s).2.recorded
          (before ++ .start (.ok ()) :: .part () (ending callback u).1.isOk :: es)) := by
      rw [ending_action_started (hstart before), ending_watch, hconclude, hplain, List.append_assoc,
        List.append_assoc]
      rfl
    have hentries : entriesOf (action (watch () callback)) s =
        .start (.ok ()) :: .part () (ending callback u).1.isOk :: es := by
      rw [entriesOf, hwatched]
      rfl
    refine ⟨fun before => ?_, fun e he => ?_, fun _ => ⟨es, ?_, ?_⟩, hremembered⟩
    · rw [hwatched, hentries]
    · rw [hs] at he
      cases he
    · rw [hs]
      exact hentries
    · rw [hs, hplain]
      exact hclosing.enclosed

end Session
end SqlToolkit
