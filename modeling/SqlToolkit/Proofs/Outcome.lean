import Mathlib.Data.List.Forall2
import SqlToolkit.Error

/-!
# Outcomes of compilation

Compilation answers with a result or with a cause.  A compiled list succeeds exactly when every member does, in order.
Two compilations *agree* up to a relation when both fail with one cause, or both succeed with related results; agreement
is kept by everything that compilation is put together from, so it is enough to check it where values are read.
-/
namespace SqlToolkit

/-- A result, or a cause. -/
abbrev Outcome (α : Type) := Except CompileError α

namespace Outcome
variable {ε α β γ δ : Type}

theorem bind_eq_ok {x : Except ε α} {f : α → Except ε β} {b : β} :
    (x >>= f) = .ok b ↔ ∃ a, x = .ok a ∧ f a = .ok b := by
  cases x with
  | error e => simp [bind, Except.bind]
  | ok a => simp [bind, Except.bind]

theorem pure_eq_ok {a b : α} : (pure a : Except ε α) = .ok b ↔ a = b := by
  simp [pure, Except.pure]

/-- A list of steps succeeds exactly when every step does, and gives their results in order. -/
theorem mapM_eq_ok_iff {f : α → Except ε β} {xs : List α} {ys : List β} :
    xs.mapM f = .ok ys ↔ List.Forall₂ (fun x y => f x = .ok y) xs ys := by
  induction xs generalizing ys with
  | nil => rw [List.mapM_nil, pure_eq_ok, List.forall₂_nil_left_iff, eq_comm]
  | cons x xs ih =>
    rw [List.mapM_cons, bind_eq_ok]
    constructor
    · rintro ⟨y, hy, h⟩
      obtain ⟨zs, hzs, h⟩ := bind_eq_ok.1 h
      obtain rfl := pure_eq_ok.1 h
      exact .cons hy (ih.1 hzs)
    · intro h
      cases h with
      | cons hy h => exact ⟨_, hy, bind_eq_ok.2 ⟨_, ih.2 h, rfl⟩⟩

/-- A list of steps that fails does so with the failure of one of them. -/
theorem exists_of_mapM_eq_error {f : α → Except ε β} {xs : List α} {e : ε} (h : xs.mapM f = .error e) :
    ∃ x ∈ xs, f x = .error e := by
  induction xs with
  | nil => cases h
  | cons x xs ih =>
    rw [List.mapM_cons] at h
    cases hx : f x with
    | error cause =>
      rw [hx] at h
      cases h
      exact ⟨x, List.mem_cons_self, hx⟩
    | ok y =>
      rw [hx] at h
      cases hxs : xs.mapM f with
      | error cause =>
        rw [hxs] at h
        cases h
        obtain ⟨x', hx', hfailed⟩ := ih hxs
        exact ⟨x', List.mem_cons_of_mem x hx', hfailed⟩
      | ok ys =>
        rw [hxs] at h
        cases h

/-- What related members force holds of every result. -/
theorem forall_right {R : α → β → Prop} {p : β → Prop} {xs : List α} {ys : List β}
    (h : List.Forall₂ R xs ys) (hp : ∀ x ∈ xs, ∀ y, R x y → p y) : ∀ y ∈ ys, p y := by
  induction h with
  | nil => simp
  | cons hxy _ ih =>
    obtain ⟨hx, hxs⟩ := List.forall_mem_cons.1 hp
    exact List.forall_mem_cons.2 ⟨hx _ hxy, ih hxs⟩

/-- Related members that yield the same lists yield the same list together. -/
theorem flatMap_eq {R : α → β → Prop} {f : α → List γ} {g : β → List γ} {xs : List α} {ys : List β}
    (h : List.Forall₂ R xs ys) (hfg : ∀ x ∈ xs, ∀ y, R x y → g y = f x) : ys.flatMap g = xs.flatMap f := by
  induction h with
  | nil => rfl
  | cons hxy _ ih =>
    obtain ⟨hx, hxs⟩ := List.forall_mem_cons.1 hfg
    rw [List.flatMap_cons, List.flatMap_cons, hx _ hxy, ih hxs]

theorem forall_of_mapM {f : α → Except ε β} {xs : List α} {ys : List β} {p : β → Prop}
    (h : xs.mapM f = .ok ys) (hf : ∀ x ∈ xs, ∀ y, f x = .ok y → p y) : ∀ y ∈ ys, p y :=
  forall_right (mapM_eq_ok_iff.1 h) hf

/-- A compiled list holds the result of every member. -/
theorem exists_of_mapM {f : α → Except ε β} {xs : List α} {ys : List β} (h : xs.mapM f = .ok ys) :
    ∀ x ∈ xs, ∃ y ∈ ys, f x = .ok y :=
  forall_right (mapM_eq_ok_iff.1 h).flip fun y hy _ hxy => ⟨y, hy, hxy⟩

/-! ### Failure -/

/-- The cause of a failure. -/
def failure? : Except ε α → Option ε
  | .ok _ => none
  | .error cause => some cause

@[simp] theorem failure?_ok (a : α) : failure? (.ok a : Except ε α) = none := rfl

@[simp] theorem failure?_error (cause : ε) : failure? (.error cause : Except ε α) = some cause := rfl

theorem failure?_eq_some {x : Except ε α} {cause : ε} : failure? x = some cause ↔ x = .error cause := by
  cases x <;> simp

/-- What is done with a result cannot fail any more. -/
theorem failure?_bind_pure (x : Except ε α) (f : α → β) : failure? (x >>= fun a => pure (f a)) = failure? x := by
  cases x <;> rfl

/-- Of two failures the first is reported. -/
theorem failure?_both (x : Except ε α) (y : Except ε β) (f : α → β → γ) :
    failure? (x >>= fun a => y >>= fun b => pure (f a b)) = (failure? x).or (failure? y) := by
  cases x with
  | error cause => rfl
  | ok a => exact failure?_bind_pure y (f a)

/-! ### Agreement -/

/-- Both fail with one cause, or both succeed with related results. -/
def Agree (R : α → β → Prop) (x : Outcome α) (y : Outcome β) : Prop :=
  (∃ cause, x = .error cause ∧ y = .error cause) ∨ ∃ a b, x = .ok a ∧ y = .ok b ∧ R a b

theorem Agree.ok {R : α → β → Prop} {a : α} {b : β} (h : R a b) :
    Agree R (.ok a : Outcome α) (.ok b : Outcome β) :=
  .inr ⟨a, b, rfl, rfl, h⟩

theorem Agree.error {R : α → β → Prop} (cause : CompileError) :
    Agree R (.error cause : Outcome α) (.error cause : Outcome β) :=
  .inl ⟨cause, rfl, rfl⟩

theorem Agree.bind {R : α → β → Prop} {S : γ → δ → Prop} {x : Outcome α} {y : Outcome β}
    {f : α → Outcome γ} {g : β → Outcome δ} (h : Agree R x y)
    (hfg : ∀ a b, R a b → Agree S (f a) (g b)) : Agree S (x >>= f) (y >>= g) := by
  obtain ⟨cause, rfl, rfl⟩ | ⟨a, b, rfl, rfl, hab⟩ := h
  · exact .error cause
  · exact hfg a b hab

/-- After a step that looks at no value, only what follows has to agree. -/
theorem Agree.bind_same {R : β → γ → Prop} (x : Outcome α) {f : α → Outcome β} {g : α → Outcome γ}
    (h : ∀ a, Agree R (f a) (g a)) : Agree R (x >>= f) (x >>= g) := by
  cases x with
  | error cause => exact .error cause
  | ok a => exact h a

theorem Agree.mapM {R : α → β → Prop} {S : γ → δ → Prop} {f : α → Outcome γ} {g : β → Outcome δ}
    {xs : List α} {ys : List β} (h : List.Forall₂ R xs ys)
    (hfg : ∀ x y, R x y → Agree S (f x) (g y)) :
    Agree (List.Forall₂ S) (xs.mapM f) (ys.mapM g) := by
  induction h with
  | nil => exact .ok .nil
  | cons hxy _ ih =>
    rw [List.mapM_cons, List.mapM_cons]
    refine (hfg _ _ hxy).bind fun a b hab => ?_
    exact ih.bind fun as bs habs => .ok (.cons hab habs)

end Outcome
end SqlToolkit
