import SqlToolkit.Proofs.Session.Run
import SqlToolkit.Session.Schema
import SqlToolkit.Session.Transaction

/-!
# What a session is seen to do

A backend can be watched: `Backend.recorded` answers as the backend does and enters every
call with its answer into a list.  A part of a program can be entered as a whole, with its
outcome (`Session.watch`).

Watching changes nothing.  `Records` says so of a program on a watched session and the
same program on the plain one: both end alike, in states that differ by the entries alone.
It also says which entries the run makes.  Like `Settles`, it has a rule for each construct
of a program.
-/
namespace SqlToolkit

variable {π σ τ ι ε ε' α β : Type}

/-- What is entered: a call of the backend with its answer, or a part of a program and
whether it succeeded. -/
inductive Entry (π : Type) where
  | query (statement : Statement) (answer : Except DatabaseError (List Row))
  | execute (statement : Statement) (answer : Except DatabaseError WriteResult)
  | start (answer : Except DatabaseError Unit)
  | commit (answer : Except DatabaseError Unit)
  | rollback (answer : Except DatabaseError Unit)
  | part (part : π) (succeeded : Bool)

namespace Entry

/-- The call was answered, or the part of the program came to its end. -/
def succeeded : Entry π → Bool
  | query _ answer => answer.isOk
  | execute _ answer => answer.isOk
  | start answer => answer.isOk
  | commit answer => answer.isOk
  | rollback answer => answer.isOk
  | part _ succeeded => succeeded

/-- The part of the program that was entered, if it was one. -/
def part? : Entry π → Option π
  | part p _ => some p
  | _ => none

end Entry

/-- A state and the entries made so far. -/
structure Recorder (π σ : Type) where
  state : σ
  entries : List (Entry π) := []

/-- Calls on the state and enters the answer. -/
def Recorder.enter (entry : Except DatabaseError α → Entry π) (run : σ → Except DatabaseError α × σ)
    (r : Recorder π σ) : Except DatabaseError α × Recorder π σ :=
  ((run r.state).1, ⟨(run r.state).2, r.entries ++ [entry (run r.state).1]⟩)

namespace Backend

/-- The backend, watched. -/
def recorded (b : Backend σ) : Backend (Recorder π σ) where
  dialect := b.dialect
  query statement := Recorder.enter (.query statement) (b.query statement)
  execute statement := Recorder.enter (.execute statement) (b.execute statement)
  start := Recorder.enter .start b.start
  commit := Recorder.enter .commit b.commit
  rollback := Recorder.enter .rollback b.rollback
  inTransaction r := b.inTransaction r.state

/-- The backend under the watch. -/
def plain (b : Backend (Recorder π σ)) : Backend σ where
  dialect := b.dialect
  query statement c := ((b.query statement ⟨c, []⟩).1, (b.query statement ⟨c, []⟩).2.state)
  execute statement c := ((b.execute statement ⟨c, []⟩).1, (b.execute statement ⟨c, []⟩).2.state)
  start c := ((b.start ⟨c, []⟩).1, (b.start ⟨c, []⟩).2.state)
  commit c := ((b.commit ⟨c, []⟩).1, (b.commit ⟨c, []⟩).2.state)
  rollback c := ((b.rollback ⟨c, []⟩).1, (b.rollback ⟨c, []⟩).2.state)
  inTransaction c := b.inTransaction ⟨c, []⟩

theorem plain_recorded (b : Backend σ) : (b.recorded : Backend (Recorder π σ)).plain = b := rfl

end Backend

namespace Session

/-- The session on the watched backend, after some entries. -/
def recorded (s : Session σ) (entries : List (Entry π)) : Session (Recorder π σ) :=
  { s with backend := s.backend.recorded, connection := ⟨s.connection, entries⟩ }

/-- The session under the watch. -/
def plain (s : Session (Recorder π σ)) : Session σ :=
  { s with backend := s.backend.plain, connection := s.connection.state }

theorem plain_recorded (s : Session σ) (entries : List (Entry π)) : (s.recorded entries).plain = s := rfl

/-- A program run under the watch and entered as one part. -/
def watch (part : π) (p : ExceptT ε (StateM (Session σ)) α) : ExceptT ε (StateM (Session (Recorder π σ))) α := do
  let s ← get
  set ((ending p s.plain).2.recorded (s.connection.entries ++ [.part part (ending p s.plain).1.isOk]))
  MonadExcept.ofExcept (ending p s.plain).1

end Session

/-- The entries of a run that starts without any. -/
def entriesOf (p : ExceptT ε (StateM (Session (Recorder π σ))) α) (s : Session σ) : List (Entry π) :=
  (ending p (s.recorded [])).2.connection.entries

/-- The program `p` on watched sessions ends as `q` does on the plain session `s`, which
keeps its backend and target, and its entries and its outcome meet a condition. -/
def Records (p : ExceptT ε (StateM (Session (Recorder π σ))) α) (q : ExceptT ε (StateM (Session σ)) α)
    (s : Session σ) (cond : List (Entry π) → Except ε α → Prop) : Prop :=
  ∃ entries, cond entries (ending q s).1 ∧ s.Keeps (ending q s).2 ∧ ∀ before,
    ending p (s.recorded before) = ((ending q s).1, (ending q s).2.recorded (before ++ entries))

namespace Records

variable {p : ExceptT ε (StateM (Session (Recorder π σ))) α} {q : ExceptT ε (StateM (Session σ)) α}
  {f : α → ExceptT ε (StateM (Session (Recorder π σ))) β} {g : α → ExceptT ε (StateM (Session σ)) β}
  {s : Session σ} {cond cond' : List (Entry π) → Except ε α → Prop}

theorem entriesOf (h : Records p q s cond) : cond (entriesOf p s) (ending q s).1 := by
  obtain ⟨entries, hcond, -, hrun⟩ := h
  unfold SqlToolkit.entriesOf
  rw [hrun]
  exact hcond

theorem keeps (h : Records p q s cond) : s.Keeps (ending q s).2 := h.choose_spec.2.1

theorem imp (h : Records p q s cond) (himp : ∀ es r, cond es r → cond' es r) : Records p q s cond' := by
  obtain ⟨entries, hcond, hrest⟩ := h
  exact ⟨entries, himp _ _ hcond, hrest⟩

/-! ## Rules -/

/-- A program that makes no entry. -/
theorem silent {r : Except ε α} {u : Session σ} (hq : ending q s = (r, u)) (hkeeps : s.Keeps u)
    (hp : ∀ before : List (Entry π), ending p (s.recorded before) = (r, u.recorded before)) (hcond : cond [] r) :
    Records p q s cond := by
  refine ⟨[], ?_, ?_, fun before => ?_⟩
  · rw [hq]
    exact hcond
  · rw [hq]
    exact hkeeps
  · rw [hq, hp, List.append_nil]

theorem pure {a : α} (h : cond [] (.ok a)) : Records (pure a) (pure a) s cond :=
  silent rfl ⟨rfl, rfl⟩ (fun _ => rfl) h

theorem throw {e : ε} (h : cond [] (.error e)) :
    Records (throw e : ExceptT ε (StateM (Session (Recorder π σ))) α) (throw e) s cond :=
  silent rfl ⟨rfl, rfl⟩ (fun _ => rfl) h

theorem ofExcept {r : Except ε α} (h : cond [] r) :
    Records (MonadExcept.ofExcept r : ExceptT ε (StateM (Session (Recorder π σ))) α)
      (MonadExcept.ofExcept r) s cond := by
  cases r with
  | ok a => exact pure h
  | error e => exact throw h

/-- One program after another: the entries of the second follow those of the first. -/
theorem bind {cond' : List (Entry π) → Except ε β → Prop} (h : Records p q s cond)
    (herror : ∀ es e, cond es (.error e) → cond' es (.error e))
    (hrest : ∀ es a u, ending q s = (.ok a, u) → s.Keeps u → cond es (.ok a) →
      Records (f a) (g a) u fun es' => cond' (es ++ es')) :
    Records (p >>= f) (q >>= g) s cond' := by
  obtain ⟨es, hcond, hkeeps, hrun⟩ := h
  rcases hq : ending q s with ⟨e | a, u⟩
  · refine ⟨es, ?_, ?_, fun before => ?_⟩
    · rw [ending_bind, hq]
      rw [hq] at hcond
      exact herror es e hcond
    · rw [ending_bind, hq]
      rw [hq] at hkeeps
      exact hkeeps
    · rw [ending_bind, ending_bind, hrun, hq]
  · rw [hq] at hcond hkeeps
    obtain ⟨es', hcond', hkeeps', hrun'⟩ := hrest es a u hq hkeeps hcond
    refine ⟨es ++ es', ?_, ?_, fun before => ?_⟩
    · rw [ending_bind, hq]
      exact hcond'
    · rw [ending_bind, hq]
      exact hkeeps.trans hkeeps'
    · rw [ending_bind, ending_bind, hrun, hq]
      show ending (f a) (u.recorded (before ++ es)) = _
      rw [hrun', List.append_assoc]

/-- The same for conditions on the state as well, in which the program ends. -/
theorem bind_ending {cond : List (Entry π) → Except ε α → Session σ → Prop}
    {cond' : List (Entry π) → Except ε β → Session σ → Prop} (h : Records p q s fun es r => cond es r (ending q s).2)
    (herror : ∀ es e u, cond es (.error e) u → cond' es (.error e) u)
    (hrest : ∀ es a u, s.Keeps u → cond es (.ok a) u →
      Records (f a) (g a) u fun es' r => cond' (es ++ es') r (ending (g a) u).2) :
    Records (p >>= f) (q >>= g) s fun es r => cond' es r (ending (q >>= g) s).2 := by
  obtain ⟨es, hes, hkeeps, hrun⟩ := h
  -- the outcome is kept in sight, since only a success goes on
  have hp : Records p q s fun es r => r = (ending q s).1 ∧ cond es r (ending q s).2 :=
    ⟨es, ⟨rfl, hes⟩, hkeeps, hrun⟩
  refine bind hp ?_ ?_
  · rintro es e ⟨he, hes⟩
    have hq : ending q s = (.error e, (ending q s).2) := Prod.ext he.symm rfl
    rw [ending_bind, hq]
    exact herror es e _ hes
  · rintro es a u hq hu ⟨-, hes⟩
    rw [ending_bind, hq]
    rw [hq] at hes
    exact hrest es a u hu hes

/-- A program that looks at its session sees the same under the watch. -/
theorem get_bind {f : Session (Recorder π σ) → ExceptT ε (StateM (Session (Recorder π σ))) β}
    {g : Session σ → ExceptT ε (StateM (Session σ)) β} {cond : List (Entry π) → Except ε β → Prop}
    {p : ExceptT ε (StateM (Session (Recorder π σ))) β} (hf : ∀ before, f (s.recorded before) = p)
    (h : Records p (g s) s cond) : Records (get >>= f) (get >>= g) s cond := by
  obtain ⟨es, hcond, hkeeps, hrun⟩ := h
  refine ⟨es, hcond, hkeeps, fun before => ?_⟩
  show ending (f (s.recorded before)) (s.recorded before) = _
  rw [hf]
  exact hrun before

theorem adapt {g : ε → ε'} {cond : List (Entry π) → Except ε' α → Prop}
    (h : Records p q s fun es r => cond es (r.mapError g)) : Records (p.adapt g) (q.adapt g) s cond := by
  obtain ⟨es, hcond, hkeeps, hrun⟩ := h
  refine ⟨es, hcond, hkeeps, fun before => ?_⟩
  rw [ending_adapt, ending_adapt, hrun]

/-- A program whose outcome is looked at does not fail. -/
theorem lift {cond : List (Entry π) → Except ε' (Except ε α) → Prop}
    (h : Records p q s fun es r => cond es (.ok r)) :
    Records (ExceptT.lift p.run : ExceptT ε' (StateM (Session (Recorder π σ))) (Except ε α))
      (ExceptT.lift q.run) s cond := by
  obtain ⟨es, hcond, hkeeps, hrun⟩ := h
  refine ⟨es, hcond, hkeeps, fun before => ?_⟩
  rw [ending_lift, ending_lift, hrun]

end Records

/-- A result that is the answer is a function of the answer. -/
theorem Records.of_answer {s : Session σ} {p : ExceptT ε (StateM (Session (Recorder π σ))) α}
    {q : ExceptT ε (StateM (Session σ)) α} {entry : Except ε α → Entry π}
    (h : Records p q s fun es r => es = [entry r]) :
    Records p q s fun es r => ∃ answer, es = [entry answer] ∧ r = answer.map id := by
  refine h.imp ?_
  rintro _ answer rfl
  exact ⟨answer, rfl, (congrFun Except.map_id answer).symm⟩

/-! ## One after another -/

/-- Members taken one after another, up to the first that fails; `done` relates a member to
its entries and its outcome. -/
inductive InTurn (done : ι → List (Entry π) → Except ε Unit → Prop) :
    List ι → List (Entry π) → Except ε Unit → Prop
  | nil : InTurn done [] [] (.ok ())
  | failed {i : ι} {rest : List ι} {es : List (Entry π)} {e : ε} :
    done i es (.error e) → InTurn done (i :: rest) es (.error e)
  | next {i : ι} {rest : List ι} {es es' : List (Entry π)} {r : Except ε Unit} :
    done i es (.ok ()) → InTurn done rest es' r → InTurn done (i :: rest) (es ++ es') r

theorem InTurn.map {done : β → List (Entry π) → Except ε Unit → Prop} {f : ι → β} {is : List ι}
    {es : List (Entry π)} {r : Except ε Unit} (h : InTurn (fun i => done (f i)) is es r) :
    InTurn done (is.map f) es r := by
  induction h with
  | nil => exact .nil
  | failed hdone => exact .failed hdone
  | next hdone _ ih => exact .next hdone ih

/-- A program run for each member of a list.  Its answer is known beforehand. -/
theorem Records.mapM {f : ι → ExceptT ε (StateM (Session (Recorder π σ))) β}
    {g : ι → ExceptT ε (StateM (Session σ)) β} {answer : ι → β}
    {done : ι → List (Entry π) → Except ε Unit → Prop} {is : List ι} {s : Session σ}
    (h : ∀ i ∈ is, ∀ u, s.Keeps u → Records (f i) (g i) u fun es r =>
      done i es (r.map fun _ => ()) ∧ ∀ b, r = .ok b → b = answer i) :
    Records (is.mapM f) (is.mapM g) s fun es r =>
      InTurn done is es (r.map fun _ => ()) ∧ ∀ bs, r = .ok bs → bs = is.map answer := by
  induction is generalizing s with
  | nil =>
    rw [List.mapM_nil, List.mapM_nil]
    refine .pure ⟨.nil, ?_⟩
    rintro _ ⟨⟩
    rfl
  | cons i is ih =>
    rw [List.mapM_cons, List.mapM_cons]
    refine (h i List.mem_cons_self s ⟨rfl, rfl⟩).bind ?_ ?_
    · rintro es e ⟨hdone, -⟩
      exact ⟨.failed hdone, by rintro _ ⟨⟩⟩
    rintro es b u - hkeeps ⟨hdone, hb⟩
    obtain rfl := hb b rfl
    have hrest := ih fun j hj v hv => h j (List.mem_cons_of_mem i hj) v (hkeeps.trans hv)
    refine hrest.bind ?_ ?_
    · rintro es' e ⟨hturn, -⟩
      exact ⟨.next hdone hturn, by rintro _ ⟨⟩⟩
    rintro es' bs v - - ⟨hturn, hbs⟩
    obtain rfl := hbs bs rfl
    refine .pure ⟨?_, ?_⟩
    · rw [List.append_nil]
      exact .next hdone hturn
    · rintro _ ⟨⟩
      rfl

/-! ## Operations -/

namespace Session

variable {s : Session σ} {statement : Statement}

/-- Under the watch a program ends as it does without. -/
theorem ending_watch (part : π) (p : ExceptT ε (StateM (Session σ)) α) (before : List (Entry π)) :
    ending (watch part p) (s.recorded before) =
      ((ending p s).1, (ending p s).2.recorded (before ++ [.part part (ending p s).1.isOk])) := by
  unfold watch
  show ending (MonadExcept.ofExcept (ending p (s.recorded before).plain).1) _ = _
  rw [plain_recorded]
  cases (ending p s).1 with
  | ok a => rfl
  | error e => rfl

theorem records_watch (part : π) {p : ExceptT ε (StateM (Session σ)) α} (hkeeps : s.Keeps (ending p s).2) :
    Records (watch part p) p s fun es r => es = [.part part r.isOk] :=
  ⟨[.part part (ending p s).1.isOk], rfl, hkeeps, fun before => ending_watch part p before⟩

theorem records_compiled (result : Except CompileError α) :
    Records (compiled result) (compiled result) s
      fun (es : List (Entry π)) r => es = [] ∧ r = result.mapError .compile := by
  cases result with
  | ok a => exact .silent rfl ⟨rfl, rfl⟩ (fun _ => rfl) ⟨rfl, rfl⟩
  | error cause => exact .silent rfl ⟨rfl, rfl⟩ (fun _ => rfl) ⟨rfl, rfl⟩

theorem records_trace (statement : Statement) :
    Records (trace statement) (trace statement) s
      fun (es : List (Entry π)) r => es = [] ∧ r = .ok () :=
  .silent rfl ⟨rfl, rfl⟩ (fun _ => rfl) ⟨rfl, rfl⟩

/-- A call of the backend enters its answer. -/
theorem records_call {run' : Backend (Recorder π σ) → Recorder π σ → Except DatabaseError α × Recorder π σ}
    {run : Backend σ → σ → Except DatabaseError α × σ} (entry : Except DatabaseError α → Entry π)
    (hrun : ∀ r, run' s.backend.recorded r = r.enter entry (run s.backend)) :
    Records (call run') (call run) s fun es r => es = [entry r] := by
  obtain ⟨answer, c, hc⟩ : ∃ answer c, run s.backend s.connection = (answer, c) := ⟨_, _, rfl⟩
  have hplain : ending (call run) s = ending (record answer) { s with connection := c } := by
    show ending (record (run s.backend s.connection).1) { s with connection := (run s.backend s.connection).2 } = _
    rw [hc]
  have hwatched (before : List (Entry π)) : ending (call run') (s.recorded before) =
      ending (record answer) ({ s with connection := c }.recorded (before ++ [entry answer])) := by
    show ending (record (run' s.backend.recorded ⟨s.connection, before⟩).1)
      { s.recorded before with connection := (run' s.backend.recorded ⟨s.connection, before⟩).2 } = _
    rw [hrun]
    show ending (record (run s.backend s.connection).1) { s.recorded before with
      connection := ⟨(run s.backend s.connection).2, before ++ [entry (run s.backend s.connection).1]⟩ } = _
    rw [hc]
    rfl
  refine ⟨[entry answer], ?_, ?_, fun before => ?_⟩
  · rw [hplain]
    cases answer with
    | ok a => rfl
    | error e => rfl
  · rw [hplain]
    cases answer with
    | ok a => exact ⟨rfl, rfl⟩
    | error e => exact ⟨rfl, rfl⟩
  · rw [hwatched, hplain]
    cases answer with
    | ok a => rfl
    | error e => rfl

theorem records_start : Records start start s fun (es : List (Entry π)) r => es = [.start r] :=
  records_call .start fun _ => rfl

theorem records_commit : Records commit commit s fun (es : List (Entry π)) r => es = [.commit r] :=
  records_call .commit fun _ => rfl

theorem records_rollback : Records rollback rollback s fun (es : List (Entry π)) r => es = [.rollback r] :=
  records_call .rollback fun _ => rfl

theorem records_fetch (statement : Statement) :
    Records (fetch statement) (fetch statement) s
      fun (es : List (Entry π)) r => es = [.query statement r] := by
  refine (records_trace statement).bind ?_ ?_
  · rintro _ _ ⟨-, ⟨⟩⟩
  · rintro _ _ u - - ⟨rfl, -⟩
    exact records_call (.query statement) fun _ => rfl

theorem records_run (statement : Statement) :
    Records (run statement) (run statement) s
      fun (es : List (Entry π)) r => es = [.execute statement r] := by
  refine (records_trace statement).bind ?_ ?_
  · rintro _ _ ⟨-, ⟨⟩⟩
  · rintro _ _ u - - ⟨rfl, -⟩
    exact records_call (.execute statement) fun _ => rfl

/-- What follows a compilation that succeeds starts without entries. -/
theorem records_compiled_bind {result : Except CompileError α} {a : α} (hresult : result = .ok a)
    {f : α → Operation (Recorder π σ) β} {g : α → Operation σ β}
    {cond : List (Entry π) → Except DatabaseError β → Prop}
    (h : ∀ u, s.Keeps u → Records (f a) (g a) u cond) :
    Records (compiled result >>= f) (compiled result >>= g) s cond := by
  refine (records_compiled result).bind ?_ ?_
  · rintro _ _ ⟨-, he⟩
    rw [hresult] at he
    cases he
  · rintro _ _ u - hkeeps ⟨rfl, ha⟩
    rw [hresult] at ha
    cases ha
    exact h u hkeeps

theorem records_trySelect {table : String} {joins : List Join} {items : SelectList} {criteria : Criteria}
    (hselect : Statement.select s.target table joins items criteria = .ok statement) :
    Records (trySelect table joins items criteria) (trySelect table joins items criteria) s
      fun (es : List (Entry π)) r => es = [.query statement r] := by
  unfold trySelect
  refine .get_bind (fun _ => rfl) (records_compiled_bind hselect fun u _ => ?_)
  exact records_fetch statement

theorem records_insert {table : String} {rows : List RowData}
    (hinsert : Statement.insert s.target table rows = .ok statement) :
    Records (insert table rows) (insert table rows) s
      fun (es : List (Entry π)) r => es = [.execute statement r] := by
  unfold insert
  refine .get_bind (fun _ => rfl) (records_compiled_bind hinsert fun u _ => ?_)
  refine (records_run statement).bind (fun _ _ h => h) ?_
  rintro _ result v - - rfl
  -- the new key goes into the diary alone
  by_cases hpos : 0 < result.rowsAffected
  · simp only [if_pos hpos]
    exact .silent rfl ⟨rfl, rfl⟩ (fun _ => rfl) rfl
  · simp only [if_neg hpos]
    exact .silent rfl ⟨rfl, rfl⟩ (fun _ => rfl) rfl

theorem records_write {compile : Target → Except CompileError Statement}
    (hcompile : compile s.target = .ok statement) :
    Records (write compile) (write compile) s fun (es : List (Entry π)) r =>
      ∃ answer, es = [.execute statement answer] ∧ r = answer.map WriteResult.rowsAffected := by
  unfold write
  refine .get_bind (fun _ => rfl) (records_compiled_bind hcompile fun u _ => ?_)
  refine (records_run statement).bind ?_ ?_
  · rintro _ e rfl
    exact ⟨.error e, rfl, rfl⟩
  · rintro _ result v - - rfl
    exact .pure ⟨.ok result, rfl, rfl⟩

theorem records_execute (sql : String) (params : List Value) :
    Records (execute sql params) (execute sql params) s fun (es : List (Entry π)) r =>
      ∃ answer, es = [.execute (s.rawStatement sql params) answer] ∧
        r = answer.map WriteResult.rowsAffected := by
  unfold execute
  refine .get_bind (fun _ => rfl) ((records_run (s.rawStatement sql params)).bind ?_ ?_)
  · rintro _ e rfl
    exact ⟨.error e, rfl, rfl⟩
  · rintro _ result v - - rfl
    exact .pure ⟨.ok result, rfl, rfl⟩

theorem records_hasTable (table : String) :
    Records (hasTable table) (hasTable table) s fun (es : List (Entry π)) r =>
      ∃ answer, es = [.query ⟨s.target.dialect.tableExistsQuery, [.text (s.fullName table)]⟩ answer] ∧
        r = answer.map fun rows => !rows.isEmpty := by
  unfold hasTable
  refine .get_bind (fun _ => rfl) ((records_fetch _).bind ?_ ?_)
  · rintro _ e rfl
    exact ⟨.error e, rfl, rfl⟩
  · rintro _ rows v - - rfl
    exact .pure ⟨.ok rows, rfl, rfl⟩

end Session

end SqlToolkit
