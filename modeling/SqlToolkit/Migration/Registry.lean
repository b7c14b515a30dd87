import SqlToolkit.Migration

/-!
# The registry of migrations

Registered migrations are kept in the order of their names, and no name is taken twice.  Both are part of the type,
since the names are strictly increasing.  Names are compared by their code points, which is the order of their bytes.
-/
namespace SqlToolkit

/-- Migrations with strictly increasing names. -/
structure Registry (σ : Type) where
  migrations : List (Migration σ) := []
  increasing : migrations.Pairwise (fun a b => a.name < b.name) := by simp

namespace Registry
variable {σ : Type}

/-- A migration put into its place among others; nothing if its name is taken. -/
def place (m : Migration σ) : List (Migration σ) → Option (List (Migration σ))
  | [] => some [m]
  | n :: rest =>
    if m.name < n.name then some (m :: n :: rest)
    else if m.name = n.name then none
    else (place m rest).map (n :: ·)

theorem mem_of_place {m x : Migration σ} {ms placed : List (Migration σ)} (h : place m ms = some placed) :
    x ∈ placed ↔ x = m ∨ x ∈ ms := by
  induction ms generalizing placed with
  | nil =>
    simp only [place, Option.some.injEq] at h
    subst h
    simp
  | cons n rest ih =>
    simp only [place] at h
    split at h
    · simp only [Option.some.injEq] at h
      subst h
      simp
    · split at h
      · simp at h
      · obtain ⟨tail, ht, rfl⟩ := Option.map_eq_some_iff.1 h
        simp only [List.mem_cons, ih ht]
        constructor
        · rintro (h | h | h) <;> simp [h]
        · rintro (h | h | h) <;> simp [h]

theorem increasing_place {m : Migration σ} {ms placed : List (Migration σ)}
    (hs : ms.Pairwise (fun a b => a.name < b.name)) (h : place m ms = some placed) :
    placed.Pairwise (fun a b => a.name < b.name) := by
  induction ms generalizing placed with
  | nil =>
    simp only [place, Option.some.injEq] at h
    subst h
    simp
  | cons n rest ih =>
    obtain ⟨hn, hrest⟩ := List.pairwise_cons.1 hs
    simp only [place] at h
    split at h
    · rename_i hlt
      simp only [Option.some.injEq] at h
      subst h
      refine List.pairwise_cons.2 ⟨?_, hs⟩
      intro x hx
      rcases List.mem_cons.1 hx with rfl | hx
      · exact hlt
      · exact String.lt_trans hlt (hn x hx)
    · rename_i hge
      split at h
      · simp at h
      · rename_i hne
        obtain ⟨tail, ht, rfl⟩ := Option.map_eq_some_iff.1 h
        refine List.pairwise_cons.2 ⟨?_, ih hrest ht⟩
        intro x hx
        rcases (mem_of_place ht).1 hx with rfl | hx
        · exact Std.lt_of_le_of_ne (String.not_lt.1 hge) fun h => hne h.symm
        · exact hn x hx

/-- Adds a migration, whose name must be new. -/
def register (r : Registry σ) (m : Migration σ) : Except MigrationError (Registry σ) :=
  match h : place m r.migrations with
  | some placed => .ok ⟨placed, increasing_place r.increasing h⟩
  | none => .error (.duplicate m.name)

/-- The migration of a name. -/
def get? (r : Registry σ) (name : String) : Option (Migration σ) := r.migrations.find? fun m => m.name = name

/-- The registered names in order. -/
def names (r : Registry σ) : List String := r.migrations.map Migration.name

/-- The number of registered migrations. -/
def size (r : Registry σ) : Nat := r.migrations.length

/-- The registry of a list of migrations, whose names must differ. -/
def ofList (ms : List (Migration σ)) : Except MigrationError (Registry σ) := ms.foldlM register {}

end Registry
end SqlToolkit
