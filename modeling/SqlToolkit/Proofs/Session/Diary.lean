import SqlToolkit.Proofs.Session.Action
import SqlToolkit.Proofs.Session.Lookup

/-!
# The diary and the backend

A session writes every statement into its diary before it hands it to the backend.  So
the diary can be compared with the entries of a watched run: the log grows by the texts of
the statements among them, in order, and the newest of them is the last (`Diarized`).

`Writes` says that a run does so.  It holds of the few steps that operations are made of
and is kept by sequencing, hence of every command, lookup and action, whether its steps
succeed or fail.
-/
namespace SqlToolkit

variable {π σ ε ε' α β : Type}

/-- The statement that was handed to the backend, if one was. -/
def Entry.statement? : Entry π → Option Statement
  | .query statement _ => some statement
  | .execute statement _ => some statement
  | _ => none

/-- The statements among the entries, with their values filled in. -/
def texts (es : List (Entry π)) : List String := (es.filterMap Entry.statement?).map Statement.inlineText

theorem texts_append (es es' : List (Entry π)) : texts (es ++ es') = texts es ++ texts es' := by
  unfold texts
  rw [List.filterMap_append, List.map_append]

/-- From one session to another these texts were written into the diary. -/
structure Diarized (s : Session σ) (written : List String) (u : Session σ) : Prop where
  logging : u.logging = s.logging
  log : u.log = if s.logging then s.log ++ written else s.log
  last : u.last = written.getLast?.or s.last

namespace Diarized

variable {s u v : Session σ}

/-- Nothing is written. -/
theorem blank (hlogging : u.logging = s.logging) (hlog : u.log = s.log) (hlast : u.last = s.last) :
    Diarized s [] u where
  logging := hlogging
  log := by
    rw [hlog, List.append_nil]
    split
    · rfl
    · rfl
  last := by
    rw [hlast]
    rfl

theorem trans {xs ys : List String} (h : Diarized s xs u) (h' : Diarized u ys v) : Diarized s (xs ++ ys) v where
  logging := h'.logging.trans h.logging
  log := by
    rw [h'.log, h.log, h.logging]
    split
    · exact List.append_assoc s.log xs ys
    · rfl
  last := by
    rw [h'.last, h.last, List.getLast?_append]
    exact Option.or_assoc.symm

end Diarized

/-! ## Runs that write -/

/-- A program that behaves alike under the watch, and writes what it hands over. -/
def Writes (p : ExceptT ε (StateM (Session (Recorder π σ))) α) (q : ExceptT ε (StateM (Session σ)) α)
    (s : Session σ) : Prop :=
  Records p q s fun es _ => Diarized s (texts es) (ending q s).2

namespace Writes

variable {p p' : ExceptT ε (StateM (Session (Recorder π σ))) α} {q q' : ExceptT ε (StateM (Session σ)) α}
  {f : α → ExceptT ε (StateM (Session (Recorder π σ))) β} {g : α → ExceptT ε (StateM (Session σ)) β}
  {s : Session σ}

/-- A run that makes no entry and leaves the diary alone. -/
theorem blank (h : Records p q s fun es _ => es = []) (hdiary : Diarized s [] (ending q s).2) : Writes p q s := by
  refine h.imp ?_
  rintro _ _ rfl
  exact hdiary

theorem pure (a : α) : Writes (pure a : ExceptT ε (StateM (Session (Recorder π σ))) α) (pure a) s :=
  .blank (.pure rfl) (.blank rfl rfl rfl)

/-- What is written by one program after another. -/
theorem bind (h : Writes p q s) (hrest : ∀ a u, Writes (f a) (g a) u) : Writes (p >>= f) (q >>= g) s := by
  have hp : Records p q s fun es _ => Diarized s (texts es) (ending q s).2 := h
  refine hp.bind_ending (fun _ _ _ hes => hes) fun es a u _ hes => ?_
  refine (hrest a u).imp fun es' _ hes' => ?_
  rw [texts_append]
  exact hes.trans hes'

/-- A program that looks at its session sees the same under the watch. -/
theorem get_bind {f : Session (Recorder π σ) → ExceptT ε (StateM (Session (Recorder π σ))) β}
    {g : Session σ → ExceptT ε (StateM (Session σ)) β} {p : ExceptT ε (StateM (Session (Recorder π σ))) β}
    (hf : ∀ before, f (s.recorded before) = p) (h : Writes p (g s) s) : Writes (get >>= f) (get >>= g) s :=
  Records.get_bind hf h

/-- A program whose outcome is looked at does not fail. -/
theorem attempt {p : Session.Operation (Recorder π σ) α} {q : Session.Operation σ α} (h : Writes p q s) :
    Writes (Session.attempt p) (Session.attempt q) s :=
  Records.lift h

theorem congr (hp : ∀ before, ending p (s.recorded before) = ending p' (s.recorded before))
    (hq : ending q s = ending q' s) (h : Writes p' q' s) : Writes p q s := by
  obtain ⟨es, hes, hkeeps, hrun⟩ := h
  refine ⟨es, ?_, ?_, fun before => ?_⟩
  · rw [hq]
    exact hes
  · rw [hq]
    exact hkeeps
  · rw [hp, hq]
    exact hrun before

end Writes

/-! ## Steps -/

namespace Session

variable {s : Session σ}

theorem diarized_record (result : Except DatabaseError α) : Diarized s [] (ending (record result) s).2 := by
  cases result with
  | ok a => exact .blank rfl rfl rfl
  | error e => exact .blank rfl rfl rfl

theorem diarized_trace (statement : Statement) :
    Diarized s [statement.inlineText] (ending (trace statement) s).2 where
  logging := rfl
  log := rfl
  last := rfl

theorem diarized_call (run : Backend σ → σ → Except DatabaseError α × σ) :
    Diarized s [] (ending (call run) s).2 := by
  have hconnection : Diarized s [] { s with connection := (run s.backend s.connection).2 } := .blank rfl rfl rfl
  exact hconnection.trans (diarized_record (run s.backend s.connection).1)

theorem writes_compiled (result : Except CompileError α) :
    Writes (π := π) (compiled result) (compiled result) s :=
  .blank ((records_compiled result).imp fun _ _ h => h.1) (diarized_record _)

theorem writes_fetch (statement : Statement) : Writes (π := π) (fetch statement) (fetch statement) s := by
  refine (records_fetch statement).imp ?_
  rintro _ r rfl
  exact (diarized_trace statement).trans (diarized_call fun backend => backend.query statement)

theorem writes_run (statement : Statement) : Writes (π := π) (run statement) (run statement) s := by
  refine (records_run statement).imp ?_
  rintro _ r rfl
  exact (diarized_trace statement).trans (diarized_call fun backend => backend.execute statement)

theorem writes_runAll (sqls : List String) : Writes (π := π) (runAll sqls) (runAll sqls) s := by
  induction sqls generalizing s with
  | nil => exact .pure ()
  | cons sql rest ih => exact (writes_run ⟨sql, []⟩).bind fun _ _ => ih

/-- Nothing is written about a transaction. -/
theorem writes_control {p : Operation (Recorder π σ) Unit} {run : Backend σ → σ → Except DatabaseError Unit × σ}
    {entry : Except DatabaseError Unit → Entry π} (hentry : ∀ answer, (entry answer).statement? = none)
    (h : Records p (call run) s fun es r => es = [entry r]) : Writes p (call run) s := by
  refine h.imp ?_
  rintro _ r rfl
  have hnone : texts [entry r] = [] := by simp [texts, hentry]
  rw [hnone]
  exact diarized_call run

theorem writes_start : Writes (π := π) start start s := writes_control (fun _ => rfl) records_start

theorem writes_commit : Writes (π := π) commit commit s := writes_control (fun _ => rfl) records_commit

theorem writes_rollback : Writes (π := π) rollback rollback s := writes_control (fun _ => rfl) records_rollback

theorem writes_abort (failure : DatabaseError) : Writes (π := π) (abort failure) (abort failure) s := by
  refine (records_abort failure).imp ?_
  rintro _ _ ⟨undone, rfl, -⟩
  rw [ending_abort]
  exact .blank rfl rfl rfl

/-! ## Operations -/

theorem writes_inserted (statement : Statement) :
    Writes (π := π) (inserted statement) (inserted statement) s := by
  refine (writes_run statement).bind fun result u => ?_
  by_cases hpos : 0 < result.rowsAffected
  · simp only [if_pos hpos]
    exact .blank (.silent rfl ⟨rfl, rfl⟩ (fun _ => rfl) rfl) (.blank rfl rfl rfl)
  · simp only [if_neg hpos]
    exact .pure result

theorem writes_plan (plan : Plan) : Writes (π := π) plan.run plan.run s := by
  cases plan with
  | query statement result => exact (writes_fetch statement).bind fun _ _ => .pure _
  | execute statement => exact (writes_run statement).bind fun _ _ => .pure _
  | insert statement => exact (writes_inserted statement).bind fun _ _ => .pure _
  | executeAll sqls => exact (writes_runAll sqls).bind fun _ _ => .pure _
  | start => exact writes_start.bind fun _ _ => .pure _
  | commit => exact writes_commit.bind fun _ _ => .pure _
  | rollback => exact writes_rollback.bind fun _ _ => .pure _

theorem writes_carryOut (plan : Target → Except CompileError Plan) :
    Writes (π := π) (carryOut plan) (carryOut plan) s :=
  .get_bind (fun _ => rfl) ((writes_compiled (plan s.target)).bind fun p _ => writes_plan p)

theorem writes_command (c : Command) : Writes (π := π) c.run c.run s :=
  .congr (fun _ => c.ending_run _) (c.ending_run s) (writes_carryOut (c.plan ·))

theorem ending_look (l : Lookup) (s : Session σ) :
    ending (ExceptT.lift l.look : Operation σ Result) s = ending (do
      let outcome ← attempt (carryOut l.plan)
      return outcome.toOption.getD (l.result [])) s := by
  have hlook : ending (ExceptT.lift l.look : Operation σ Result) s = (.ok (l.look.run s).1, (l.look.run s).2) := rfl
  rw [hlook, l.look_run, orEmpty_run, ending_bind, attempt, ending_lift]
  rcases ending (carryOut l.plan) s with ⟨_ | _, u⟩
  · rfl
  · rfl

theorem writes_lookup (l : Lookup) :
    Writes (π := π) (ExceptT.lift l.look : Operation (Recorder π σ) Result) (ExceptT.lift l.look) s :=
  .congr (fun _ => ending_look l _) (ending_look l s) ((writes_carryOut l.plan).attempt.bind fun _ _ => .pure _)

theorem writes_conclude (answer : Except DatabaseError Bool) :
    Writes (π := π) (conclude answer) (conclude answer) s := by
  rcases answer with failure | _ | _
  · exact writes_abort failure
  · exact writes_rollback.bind fun _ _ => .pure false
  · refine writes_commit.attempt.bind fun kept u => ?_
    rcases kept with failure | _
    · exact writes_abort failure
    · exact .pure true

/-- An action writes what its callback writes. -/
theorem writes_action {p : Operation (Recorder π σ) Bool} {q : Operation σ Bool} (h : ∀ u, Writes p q u) :
    Writes (action p) (action q) s := by
  rw [action_eq, action_eq]
  exact writes_start.bind fun _ u => (h u).attempt.bind fun answer _ => writes_conclude answer

end Session
end SqlToolkit
