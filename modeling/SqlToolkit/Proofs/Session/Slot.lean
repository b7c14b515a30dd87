import SqlToolkit.Proofs.Session.Run
import SqlToolkit.Session.Schema
import SqlToolkit.Session.Transaction

/-!
# The remembered failure

A session remembers how its last operation failed, or that it did not fail.  Two things make
that memory worth reading.  An operation leaves behind what it ends with itself
(`Mirrored`): the summary of its failure, or nothing after a success.  And what it leaves
does not depend on what was remembered before, nor does anything else that it does
(`Unswayed`).

Both are shown of the few steps that operations are made of, and each has one rule for a
step that follows another.
-/
namespace SqlToolkit
namespace Session

variable {σ α β : Type} {s : Session σ}

/-- The same session, with this remembered. -/
def remembering (s : Session σ) (failure : Option ErrorInfo) : Session σ := { s with error := failure }

/-- What is remembered after a run is how the run ended. -/
def Mirrored (run : Except DatabaseError α × Session σ) : Prop :=
  Settles run (fun _ u => u.error = none) fun e u => u.error = some e.info

/-- A program does the same whatever was remembered before. -/
def Unswayed (p : Operation σ α) (s : Session σ) : Prop :=
  ∀ failure, ending p (s.remembering failure) = ending p s

/-! ## Rules -/

/-- The second of two programs has the last word, unless the first fails. -/
theorem Mirrored.bind {p : Operation σ α} {f : α → Operation σ β} (h : Mirrored (ending p s))
    (hrest : ∀ a u, u.error = none → Mirrored (ending (f a) u)) : Mirrored (ending (p >>= f) s) :=
  Settles.bind h (fun _ _ hu => hu) hrest

theorem Mirrored.get_bind {f : Session σ → Operation σ β} (h : Mirrored (ending (f s) s)) :
    Mirrored (ending (get >>= f) s) := h

theorem mirrored_pure {a : α} (h : s.error = none) : Mirrored (ending (pure a : Operation σ α) s) := .pure h

/-- After the first of two programs nothing is left of what was remembered before. -/
theorem Unswayed.bind {p : Operation σ α} (h : Unswayed p s) (f : α → Operation σ β) : Unswayed (p >>= f) s := by
  intro failure
  rw [ending_bind, ending_bind, h failure]

/-! ## Steps -/

theorem mirrored_record (result : Except DatabaseError α) : Mirrored (ending (record result) s) := by
  cases result with
  | ok a => exact .ok rfl
  | error e => exact .error rfl

theorem outcome_record (result : Except DatabaseError α) : (ending (record result) s).1 = result := by
  cases result with
  | ok a => rfl
  | error e => rfl

theorem mirrored_compiled (result : Except CompileError α) : Mirrored (ending (compiled result) s) :=
  mirrored_record (result.mapError .compile)

theorem mirrored_call (run : Backend σ → σ → Except DatabaseError α × σ) : Mirrored (ending (call run) s) :=
  mirrored_record (run s.backend s.connection).1

theorem mirrored_fetch (statement : Statement) : Mirrored (ending (fetch statement) s) :=
  mirrored_record (s.backend.query statement s.connection).1

theorem mirrored_run (statement : Statement) : Mirrored (ending (run statement) s) :=
  mirrored_record (s.backend.execute statement s.connection).1

/-- Where there is no statement to run, what was remembered stays. -/
theorem mirrored_runAll (sqls : List String) (h : s.error = none) : Mirrored (ending (runAll sqls) s) := by
  induction sqls generalizing s with
  | nil => exact mirrored_pure h
  | cons sql rest ih => exact (mirrored_run ⟨sql, []⟩).bind fun _ u hu => ih hu

theorem unswayed_compiled (result : Except CompileError α) : Unswayed (compiled result) s := fun _ => rfl

theorem unswayed_call (run : Backend σ → σ → Except DatabaseError α × σ) : Unswayed (call run) s := fun _ => rfl

theorem unswayed_fetch (statement : Statement) : Unswayed (fetch statement) s := fun _ => rfl

theorem unswayed_run (statement : Statement) : Unswayed (run statement) s := fun _ => rfl

/-- What follows a successful compilation starts with nothing remembered. -/
theorem ending_compiled_ok (a : α) (f : α → Operation σ β) (s : Session σ) :
    ending (compiled (.ok a) >>= f) s = ending (f a) (s.remembering none) := rfl

/-- Nothing but the memory changes when something does not compile. -/
theorem ending_compiled_error (cause : CompileError) (f : α → Operation σ β) (s : Session σ) :
    ending (compiled (.error cause) >>= f) s =
      (.error (.compile cause), s.remembering (some (DatabaseError.compile cause).info)) := rfl

end Session
end SqlToolkit
