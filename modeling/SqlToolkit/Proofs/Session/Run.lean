import SqlToolkit.Session.Read
import SqlToolkit.Session.Write

/-!
# What a run comes to

A program on a session ends with an answer or with a failure, and leaves a state
behind either way.  `Settles` says both at once: the answer and the state meet one
condition, or the failure and the state meet another.  Each construct of a program
has its rule, so the rules follow the text of the program.

A call of the backend moves the connection and writes the diary, and nothing else
(`Session.Keeps`); what the backend does to the connection is what the call does to
the session's (`settles_call`).
-/
namespace SqlToolkit

variable {ε ε' τ α β : Type}

/-- How a program ends that starts in a state: its answer or its failure, and the state
it leaves behind. -/
def ending (p : ExceptT ε (StateM τ) α) (t : τ) : Except ε α × τ := p.run.run t

theorem ending_bind (p : ExceptT ε (StateM τ) α) (f : α → ExceptT ε (StateM τ) β) (t : τ) :
    ending (p >>= f) t =
      match ending p t with
      | (.ok a, u) => ending (f a) u
      | (.error e, u) => (.error e, u) := by
  unfold ending
  rw [ExceptT.run_bind, StateT.run_bind]
  rcases p.run.run t with ⟨_ | _, u⟩
  · rfl
  · rfl

theorem ending_adapt (g : ε → ε') (p : ExceptT ε (StateM τ) α) (t : τ) :
    ending (p.adapt g) t = ((ending p t).1.mapError g, (ending p t).2) := rfl

theorem ending_lift (p : ExceptT ε (StateM τ) α) (t : τ) :
    ending (ExceptT.lift p.run : ExceptT ε' (StateM τ) (Except ε α)) t =
      (.ok (ending p t).1, (ending p t).2) := rfl

/-- The answer of a run and the state after it meet `good`, or its failure and that
state meet `bad`. -/
structure Settles (run : Except ε α × τ) (good : α → τ → Prop) (bad : ε → τ → Prop) : Prop where
  of_ok : ∀ a, run.1 = .ok a → good a run.2
  of_error : ∀ e, run.1 = .error e → bad e run.2

namespace Settles

variable {p : ExceptT ε (StateM τ) α} {f : α → ExceptT ε (StateM τ) β} {t : τ}
  {good good' : α → τ → Prop} {bad bad' : ε → τ → Prop}

theorem ok {a : α} (h : good a t) : Settles (.ok a, t) good bad where
  of_ok := by
    rintro _ ⟨⟩
    exact h
  of_error := by
    rintro _ ⟨⟩

theorem error {e : ε} (h : bad e t) : Settles (.error e, t) good bad where
  of_ok := by
    rintro _ ⟨⟩
  of_error := by
    rintro _ ⟨⟩
    exact h

theorem imp {run : Except ε α × τ} (h : Settles run good bad)
    (hgood : ∀ a u, good a u → good' a u) (hbad : ∀ e u, bad e u → bad' e u) :
    Settles run good' bad' where
  of_ok a ha := hgood a run.2 (h.of_ok a ha)
  of_error e he := hbad e run.2 (h.of_error e he)

/-- What holds of the state however the run ends. -/
theorem state {run : Except ε α × τ} {q : τ → Prop} (h : Settles run (fun _ => q) fun _ => q) :
    q run.2 := by
  cases hr : run.1 with
  | ok a => exact h.of_ok a hr
  | error e => exact h.of_error e hr

theorem of_run {run : Except ε α × τ} {a : α} {u : τ} (h : Settles run good bad) (hrun : run = (.ok a, u)) :
    good a u := by
  subst hrun
  exact h.of_ok a rfl

/-- A run that cannot fail has an answer. -/
theorem exists_ok {run : Except ε α × τ} (h : Settles run good fun _ _ => False) :
    ∃ a, run.1 = .ok a ∧ good a run.2 := by
  cases hr : run.1 with
  | ok a => exact ⟨a, rfl, h.of_ok a hr⟩
  | error e => exact (h.of_error e hr).elim

/-! ## Rules -/

theorem pure {a : α} (h : good a t) : Settles (ending (pure a) t) good bad := ok h

theorem throw {e : ε} (h : bad e t) : Settles (ending (throw e) t) good bad := error h

theorem modify {g : τ → τ} {good : PUnit → τ → Prop} (h : good ⟨⟩ (g t)) :
    Settles (ending (modify g : ExceptT ε (StateM τ) PUnit) t) good bad := ok h

theorem ofExcept {r : Except ε α} (hok : ∀ a, r = .ok a → good a t)
    (herror : ∀ e, r = .error e → bad e t) :
    Settles (ending (MonadExcept.ofExcept r : ExceptT ε (StateM τ) α) t) good bad := by
  cases r with
  | ok a => exact ok (hok a rfl)
  | error e => exact error (herror e rfl)

/-- One program after another: the second starts where the first ended well. -/
theorem bind {middle : α → τ → Prop} {good : β → τ → Prop} (h : Settles (ending p t) middle bad')
    (hbad : ∀ e u, bad' e u → bad e u)
    (hrest : ∀ a u, middle a u → Settles (ending (f a) u) good bad) :
    Settles (ending (p >>= f) t) good bad := by
  rw [ending_bind]
  rcases hp : ending p t with ⟨e | a, u⟩ <;> rw [hp] at h
  · exact error (hbad e u (h.of_error e rfl))
  · exact hrest a u (h.of_ok a rfl)

theorem get_bind {f : τ → ExceptT ε (StateM τ) β} {good : β → τ → Prop}
    (h : Settles (ending (f t) t) good bad) : Settles (ending (get >>= f) t) good bad := h

theorem set_bind {u : τ} {f : PUnit → ExceptT ε (StateM τ) β} {good : β → τ → Prop}
    (h : Settles (ending (f ⟨⟩) u) good bad) : Settles (ending (set u >>= f) t) good bad := h

/-- A program whose outcome is looked at does not fail. -/
theorem lift (good : Except ε α → τ → Prop) {bad : ε' → τ → Prop}
    (h : Settles (ending p t) (fun a u => good (.ok a) u) fun e u => good (.error e) u) :
    Settles (ending (ExceptT.lift p.run : ExceptT ε' (StateM τ) (Except ε α)) t) good bad := by
  rw [ending_lift]
  rcases hp : ending p t with ⟨e | a, u⟩ <;> rw [hp] at h
  · exact ok (h.of_error e rfl)
  · exact ok (h.of_ok a rfl)

theorem adapt {g : ε → ε'} {bad : ε' → τ → Prop}
    (h : Settles (ending p t) good fun e u => bad (g e) u) :
    Settles (ending (p.adapt g) t) good bad := by
  rw [ending_adapt]
  rcases hp : ending p t with ⟨e | a, u⟩ <;> rw [hp] at h
  · exact error (h.of_error e rfl)
  · exact ok (h.of_ok a rfl)

/-- A program run for each member of a list: `inv` relates the members so far to their
answers and the state, and each run carries it on. -/
theorem mapM (inv : List α → List β → τ → Prop) {xs : List α} (hinv : inv [] [] t)
    (hstep : ∀ x ∈ xs, ∀ before bs u, inv before bs u →
      Settles (ending (f x) u) (fun b v => inv (before ++ [x]) (bs ++ [b]) v) bad) :
    Settles (ending (xs.mapM f) t) (inv xs) bad := by
  -- the induction is on the members to come, after any that came before
  suffices h : ∀ before bs u, inv before bs u →
      Settles (ending (xs.mapM f) u) (fun cs v => inv (before ++ xs) (bs ++ cs) v) bad from
    h [] [] t hinv
  clear hinv
  induction xs with
  | nil =>
    intro before bs u hu
    rw [List.mapM_nil]
    refine pure ?_
    rw [List.append_nil, List.append_nil]
    exact hu
  | cons x xs ih =>
    intro before bs u hu
    rw [List.mapM_cons]
    refine bind (hstep x List.mem_cons_self before bs u hu) (fun _ _ h => h) fun b v hv => ?_
    have hrest := ih (fun y hy => hstep y (List.mem_cons_of_mem x hy)) (before ++ [x]) (bs ++ [b]) v hv
    refine bind hrest (fun _ _ h => h) fun cs w hw => pure ?_
    rw [List.append_assoc, List.append_assoc] at hw
    exact hw

/-- A run is known together with what is known of it. -/
theorem with_run {run : Except ε α × τ} (h : Settles run good bad) :
    Settles run (fun a u => run = (.ok a, u) ∧ good a u) (fun e u => run = (.error e, u) ∧ bad e u) where
  of_ok a ha := ⟨Prod.ext ha rfl, h.of_ok a ha⟩
  of_error e he := ⟨Prod.ext he rfl, h.of_error e he⟩

end Settles

/-! ## Calls of the backend -/

namespace Session

variable {σ : Type} {s u v : Session σ}

/-- A session over the same backend that writes for the same target. -/
structure Keeps (s u : Session σ) : Prop where
  backend : u.backend = s.backend
  target : u.target = s.target

theorem Keeps.trans (h : s.Keeps u) (h' : u.Keeps v) : s.Keeps v :=
  ⟨h'.backend.trans h.backend, h'.target.trans h.target⟩

/-- Remembering an outcome changes the diary alone. -/
theorem settles_record (result : Except DatabaseError α) :
    Settles (ending (record result) s)
      (fun a u => result = .ok a ∧ s.Keeps u ∧ u.connection = s.connection)
      (fun e u => result = .error e ∧ s.Keeps u ∧ u.connection = s.connection) := by
  cases result with
  | ok a => exact .ok ⟨rfl, ⟨rfl, rfl⟩, rfl⟩
  | error e => exact .error ⟨rfl, ⟨rfl, rfl⟩, rfl⟩

theorem settles_compiled (result : Except CompileError α) :
    Settles (ending (compiled result) s)
      (fun a u => result = .ok a ∧ s.Keeps u ∧ u.connection = s.connection)
      (fun _ u => (∃ cause, result = .error cause) ∧ s.Keeps u ∧ u.connection = s.connection) := by
  cases result with
  | ok a => exact .ok ⟨rfl, ⟨rfl, rfl⟩, rfl⟩
  | error cause => exact .error ⟨⟨cause, rfl⟩, ⟨rfl, rfl⟩, rfl⟩

theorem settles_call (run : Backend σ → σ → Except DatabaseError α × σ) {good : α → σ → Prop}
    {bad : DatabaseError → σ → Prop} (h : Settles (run s.backend s.connection) good bad) :
    Settles (ending (call run) s) (fun a u => s.Keeps u ∧ good a u.connection)
      (fun e u => s.Keeps u ∧ bad e u.connection) := by
  obtain ⟨result, c, hr⟩ : ∃ result c, run s.backend s.connection = (result, c) := ⟨_, _, rfl⟩
  rw [hr] at h
  refine .get_bind ?_
  simp only [hr]
  refine .set_bind ?_
  have hrecord := settles_record (s := { s with connection := c }) result
  cases result with
  | ok a =>
    refine hrecord.imp (fun b u hu => ?_) fun e u hu => ?_
    · obtain ⟨hb, hkeeps, hc⟩ := hu
      cases hb
      exact ⟨⟨hkeeps.backend, hkeeps.target⟩, hc ▸ h.of_ok a rfl⟩
    · exact absurd hu.1 (by simp)
  | error e =>
    refine hrecord.imp (fun b u hu => ?_) fun e' u hu => ?_
    · exact absurd hu.1 (by simp)
    · obtain ⟨he, hkeeps, hc⟩ := hu
      cases he
      exact ⟨⟨hkeeps.backend, hkeeps.target⟩, hc ▸ h.of_error e rfl⟩

theorem settles_trace (statement : Statement) :
    Settles (ending (trace statement) s) (fun _ u => s.Keeps u ∧ u.connection = s.connection)
      (fun _ _ => False) :=
  .ok ⟨⟨rfl, rfl⟩, rfl⟩

/-- A call of the backend after its statement was written into the diary. -/
theorem settles_traced {statement : Statement} (run : Backend σ → σ → Except DatabaseError α × σ)
    {good : α → σ → Prop} {bad : DatabaseError → σ → Prop}
    (h : Settles (run s.backend s.connection) good bad) :
    Settles (ending (do trace statement; call run : Operation σ α) s)
      (fun a u => s.Keeps u ∧ good a u.connection) (fun e u => s.Keeps u ∧ bad e u.connection) := by
  refine .bind (settles_trace statement) (fun _ _ h => h.elim) fun _ u hu => ?_
  obtain ⟨hkeeps, hc⟩ := hu
  have h' : Settles (run u.backend u.connection) good bad := by
    rw [hkeeps.backend, hc]
    exact h
  exact (settles_call run h').imp (fun _ v hv => ⟨hkeeps.trans hv.1, hv.2⟩)
    fun _ v hv => ⟨hkeeps.trans hv.1, hv.2⟩

theorem settles_fetch {statement : Statement} {good : List Row → σ → Prop}
    {bad : DatabaseError → σ → Prop} (h : Settles (s.backend.query statement s.connection) good bad) :
    Settles (ending (fetch statement) s) (fun rows u => s.Keeps u ∧ good rows u.connection)
      (fun e u => s.Keeps u ∧ bad e u.connection) :=
  settles_traced (fun backend => backend.query statement) h

theorem settles_run {statement : Statement} {good : WriteResult → σ → Prop}
    {bad : DatabaseError → σ → Prop}
    (h : Settles (s.backend.execute statement s.connection) good bad) :
    Settles (ending (run statement) s) (fun result u => s.Keeps u ∧ good result u.connection)
      (fun e u => s.Keeps u ∧ bad e u.connection) :=
  settles_traced (fun backend => backend.execute statement) h

/-- Statements run one after another keep what each of them keeps. -/
theorem settles_runAll {inv : Session σ → Prop} {statements : List String}
    (hstep : ∀ sql ∈ statements, ∀ u, inv u →
      Settles (ending (run ⟨sql, []⟩) u) (fun _ => inv) fun _ => inv) (hs : inv s) :
    Settles (ending (runAll statements) s) (fun _ => inv) fun _ => inv := by
  induction statements generalizing s with
  | nil => exact .pure hs
  | cons sql rest ih =>
    refine .bind (hstep sql List.mem_cons_self s hs) (fun _ _ h => h) fun _ u hu => ?_
    exact ih (fun other hother => hstep other (List.mem_cons_of_mem sql hother)) hu

/-! ## Operations of one statement

A statement that compiles is run, and the operation does to the connection what the
backend does for the statement.
-/

variable {statement : Statement}

theorem settles_compiled_ok {result : Except CompileError α} {a : α} (h : result = .ok a) :
    Settles (ending (compiled result) s)
      (fun b u => b = a ∧ s.Keeps u ∧ u.connection = s.connection) (fun _ _ => False) := by
  subst h
  exact .ok ⟨rfl, ⟨rfl, rfl⟩, rfl⟩

theorem settles_trySelect {table : String} {joins : List Join} {items : SelectList}
    {criteria : Criteria} {good : List Row → σ → Prop} {bad : DatabaseError → σ → Prop}
    (hselect : Statement.select s.target table joins items criteria = .ok statement)
    (h : Settles (s.backend.query statement s.connection) good bad) :
    Settles (ending (trySelect table joins items criteria) s)
      (fun rows u => s.Keeps u ∧ good rows u.connection)
      (fun e u => s.Keeps u ∧ bad e u.connection) := by
  unfold trySelect
  refine .get_bind (.bind (settles_compiled_ok hselect) (fun _ _ hu => hu.elim) fun _ u hu => ?_)
  obtain ⟨rfl, hkeeps, hc⟩ := hu
  rw [← hkeeps.backend, ← hc] at h
  exact (settles_fetch h).imp (fun _ _ hv => ⟨hkeeps.trans hv.1, hv.2⟩)
    fun _ _ hv => ⟨hkeeps.trans hv.1, hv.2⟩

theorem settles_insert {table : String} {rows : List RowData} {good : WriteResult → σ → Prop}
    {bad : DatabaseError → σ → Prop}
    (hinsert : Statement.insert s.target table rows = .ok statement)
    (h : Settles (s.backend.execute statement s.connection) good bad) :
    Settles (ending (insert table rows) s) (fun result u => s.Keeps u ∧ good result u.connection)
      (fun e u => s.Keeps u ∧ bad e u.connection) := by
  unfold insert
  refine .get_bind (.bind (settles_compiled_ok hinsert) (fun _ _ hu => hu.elim) fun _ u hu => ?_)
  obtain ⟨rfl, hkeeps, hc⟩ := hu
  rw [← hkeeps.backend, ← hc] at h
  refine .bind (settles_run h) (fun _ _ hv => ⟨hkeeps.trans hv.1, hv.2⟩) fun result v hv => ?_
  have hv' : s.Keeps v ∧ good result v.connection := ⟨hkeeps.trans hv.1, hv.2⟩
  -- the new key is written into the diary, which no view of the store sees
  by_cases hpos : 0 < result.rowsAffected
  · rw [if_pos hpos]
    exact .ok ⟨⟨hv'.1.backend, hv'.1.target⟩, hv'.2⟩
  · rw [if_neg hpos]
    exact .pure hv'

theorem settles_write (compile : Target → Except CompileError Statement)
    {good : WriteResult → σ → Prop} {bad : DatabaseError → σ → Prop}
    (hcompile : compile s.target = .ok statement)
    (h : Settles (s.backend.execute statement s.connection) good bad) :
    Settles (ending (write compile) s)
      (fun count u => s.Keeps u ∧ ∃ result, count = result.rowsAffected ∧ good result u.connection)
      (fun e u => s.Keeps u ∧ bad e u.connection) := by
  unfold write
  refine .get_bind (.bind (settles_compiled_ok hcompile) (fun _ _ hu => hu.elim) fun _ u hu => ?_)
  obtain ⟨rfl, hkeeps, hc⟩ := hu
  rw [← hkeeps.backend, ← hc] at h
  refine .bind (settles_run h) (fun _ _ hv => ⟨hkeeps.trans hv.1, hv.2⟩) fun result v hv => ?_
  exact .pure ⟨hkeeps.trans hv.1, result, rfl, hv.2⟩

theorem settles_delete {table : String} {criteria : Criteria} {good : WriteResult → σ → Prop}
    {bad : DatabaseError → σ → Prop}
    (hdelete : Statement.delete s.target table criteria = .ok statement)
    (h : Settles (s.backend.execute statement s.connection) good bad) :
    Settles (ending (delete table criteria) s)
      (fun count u => s.Keeps u ∧ ∃ result, count = result.rowsAffected ∧ good result u.connection)
      (fun e u => s.Keeps u ∧ bad e u.connection) :=
  settles_write (fun t => Statement.delete t table criteria) hdelete h

end Session
end SqlToolkit
