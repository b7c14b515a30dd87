import SqlToolkit.Proofs.Session.Action
import SqlToolkit.Proofs.Session.Lookup

/-!
# One operation after another

Operations are asked of a session one after another, in any order: commands, lookups and
actions whose callbacks are arbitrary programs.  Each takes its turn in the state that the
ones before it left (`Session.turns`).

**What a session remembers is told by its last turn alone** (`Turn.Told`): a failure is
remembered as it was reported, a success leaves nothing, and a lookup leaves nothing
exactly when the backend gave it rows.  So after a lookup that answers with nothing there
either is a failure to be read, or the rows really held nothing for it.
-/
namespace SqlToolkit
namespace Session

variable {σ : Type} {s : Session σ}

/-- An operation that is asked of a session. -/
inductive Service (σ : Type) where
  | command (c : Command)
  | lookup (l : Lookup)
  | action (callback : Operation σ Bool)

/-- A lookup does not fail. -/
def Service.run : Service σ → Operation σ Result
  | command c => c.run
  | lookup l => ExceptT.lift l.look
  | action callback => do return .yes (← Session.action callback)

/-- What was asked, the session before, what was answered, and the session after. -/
structure Turn (σ : Type) where
  service : Service σ
  before : Session σ
  outcome : Except DatabaseError Result
  after : Session σ

/-- The turn of an operation in some state. -/
def Service.turn (service : Service σ) (s : Session σ) : Turn σ :=
  ⟨service, s, (ending service.run s).1, (ending service.run s).2⟩

/-- The turns of operations that are asked one after another. -/
def turns : List (Service σ) → Session σ → List (Turn σ)
  | [], _ => []
  | service :: rest, s => service.turn s :: turns rest (service.turn s).after

/-- What is remembered after a turn. -/
structure Turn.Told (t : Turn σ) : Prop where
  /-- A failure is remembered as it was reported. -/
  failed (e : DatabaseError) : t.outcome = .error e → t.after.error = some e.info
  /-- After any other success than a lookup's nothing is remembered. -/
  succeeded (r : Result) : (∀ l, t.service ≠ .lookup l) → t.outcome = .ok r → t.after.error = none
  /-- After a lookup nothing is remembered exactly if it compiled and the backend gave it rows, -/
  lookup (l : Lookup) : t.service = .lookup l → (t.after.error = none ↔ ∃ rows, l.answer t.before = .ok rows)
  /-- of which it then makes its answer. -/
  found (l : Lookup) (rows : List Row) :
    t.service = .lookup l → l.answer t.before = .ok rows → t.outcome = .ok (l.result rows)
  /-- Otherwise it answers as if there were no rows, and what failed is remembered. -/
  missed (l : Lookup) (e : DatabaseError) : t.service = .lookup l → l.answer t.before = .error e →
    t.outcome = .ok (l.result []) ∧ t.after.error = some e.info
  /-- An answer as if there were no rows, with nothing remembered, comes from rows that hold nothing. -/
  nothing (l : Lookup) : t.service = .lookup l → t.outcome = .ok (l.result []) → t.after.error = none →
    ∃ rows, l.answer t.before = .ok rows ∧ l.Barren rows
  /-- What was remembered before the turn does not matter. -/
  unswayed (failure : Option ErrorInfo) :
    ending t.service.run (t.before.remembering failure) = (t.outcome, t.after)

namespace Service

theorem mirrored_command (c : Command) : Mirrored (ending (command c).run s) := by
  show Mirrored (ending c.run s)
  rw [c.ending_run]
  exact mirrored_carryOut (c.plan ·)

theorem mirrored_action (callback : Operation σ Bool) : Mirrored (ending (action callback).run s) :=
  (Session.mirrored_action callback).bind fun _ _ hu => mirrored_pure hu

theorem unswayed (service : Service σ) (s : Session σ) : Unswayed service.run s := by
  cases service with
  | command c =>
    intro failure
    show ending c.run _ = ending c.run s
    rw [c.ending_run, c.ending_run]
    exact unswayed_carryOut (c.plan ·) failure
  | lookup l =>
    intro failure
    have hlook (u : Session σ) : ending (lookup l).run u = (.ok (l.look.run u).1, (l.look.run u).2) := rfl
    rw [hlook, hlook, l.look_remembering]
  | action callback =>
    refine Unswayed.bind ?_ _
    rw [action_eq]
    exact (unswayed_call Backend.start).bind _

theorem told_of_mirrored {service : Service σ} (hother : ∀ l, service ≠ .lookup l)
    (h : Mirrored (ending service.run s)) : (service.turn s).Told where
  failed := h.of_error
  succeeded r _ := h.of_ok r
  lookup l hl := absurd hl (hother l)
  found l _ hl := absurd hl (hother l)
  missed l _ hl := absurd hl (hother l)
  nothing l hl := absurd hl (hother l)
  unswayed := service.unswayed s

theorem told_lookup (l : Lookup) (s : Session σ) : ((lookup l).turn s).Told := by
  have hturn : (lookup l).turn s = ⟨lookup l, s, .ok (l.look.run s).1, (l.look.run s).2⟩ := rfl
  have hfound (rows : List Row) (hanswer : l.answer s = .ok rows) := Lookup.look_found hanswer
  have hmissed (e : DatabaseError) (hanswer : l.answer s = .error e) := Lookup.look_missed hanswer
  have hiff : (l.look.run s).2.error = none ↔ ∃ rows, l.answer s = .ok rows := by
    cases hanswer : l.answer s with
    | ok rows => simp [(hfound rows hanswer).2]
    | error e => simp [(hmissed e hanswer).2]
  rw [hturn]
  refine ⟨?_, ?_, ?_, ?_, ?_, ?_, (lookup l).unswayed s⟩
  · rintro _ ⟨⟩
  · intro _ hother
    exact absurd rfl (hother l)
  · rintro _ ⟨⟩
    exact hiff
  · rintro _ rows ⟨⟩ hanswer
    exact congrArg Except.ok (hfound rows hanswer).1
  · rintro _ e ⟨⟩ hanswer
    exact ⟨congrArg Except.ok (hmissed e hanswer).1, (hmissed e hanswer).2⟩
  · rintro _ ⟨⟩ houtcome hnone
    obtain ⟨rows, hanswer⟩ := hiff.mp hnone
    refine ⟨rows, hanswer, (l.result_eq_nothing_iff rows).mp ?_⟩
    rw [← (hfound rows hanswer).1]
    exact Except.ok.inj houtcome

/-- One turn, in whatever state the session is. -/
theorem told (service : Service σ) (s : Session σ) : (service.turn s).Told := by
  cases service with
  | command c => exact told_of_mirrored (fun _ => nofun) (mirrored_command c)
  | lookup l => exact told_lookup l s
  | action callback => exact told_of_mirrored (fun _ => nofun) (mirrored_action callback)

end Service

/-- **What a session remembers is told by its last turn**, whatever was asked before and whatever the backend
answers. -/
theorem turns_told (services : List (Service σ)) (s : Session σ) : ∀ t ∈ turns services s, t.Told := by
  induction services generalizing s with
  | nil =>
    rintro _ ⟨⟩
  | cons service rest ih =>
    intro t ht
    rcases List.mem_cons.mp ht with rfl | hrest
    · exact service.told s
    · exact ih _ t hrest

/-- A backend that has no transactions, refuses all writes and finds one row without values for every query. -/
def hollow : Backend Unit where
  dialect := .sqlite
  query _ c := (.ok [⟨[], []⟩], c)
  execute _ c := (.error (.driver none "read only"), c)
  start c := (.error (.driver none "no transactions"), c)
  commit c := (.ok (), c)
  rollback c := (.ok (), c)
  inTransaction _ := false

/-- The failure to start a transaction is remembered until the next turn, whose row holds no value. -/
theorem turns_told_hollow : ∃ failed found : Turn Unit,
    turns [.command .start, .lookup (.queryValue "SELECT" [])] ⟨hollow, (), ⟨.sqlite, ""⟩, true, [], none, none, none⟩ =
      [failed, found] ∧ failed.Told ∧ failed.after.error = some ⟨.driver, none, "driver error: no transactions"⟩ ∧
      found.Told ∧ found.outcome = .ok (.value none) ∧ found.after.error = none := by
  have htold := turns_told [.command .start, .lookup (.queryValue "SELECT" [])]
    (⟨hollow, (), ⟨.sqlite, ""⟩, true, [], none, none, none⟩ : Session Unit)
  refine ⟨_, _, rfl, htold _ List.mem_cons_self, by decide, ?_⟩
  exact ⟨htold _ (List.mem_cons_of_mem _ List.mem_cons_self), rfl, rfl⟩

end Session
end SqlToolkit
