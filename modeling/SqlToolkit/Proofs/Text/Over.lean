import SqlToolkit.Proofs.Text.Column

/-!
# Texts over some characters

What a text is made of is known from the texts that it is put together from.  `Over p text` says that a class of
characters is enough for a text, and is closed under all ways of putting texts together.
-/
namespace SqlToolkit.Text

/-- Every character of a text belongs to a class. -/
def Over (p : Char → Bool) (text : String) : Prop := text.toList.all p = true

instance (p : Char → Bool) (text : String) : Decidable (Over p text) := inferInstanceAs (Decidable (_ = true))

variable {p : Char → Bool} {a b separator : String} {texts : List String}

theorem over_iff : Over p a ↔ ∀ c ∈ a.toList, p c = true := List.all_eq_true

theorem over_ofList {cs : List Char} : Over p (String.ofList cs) ↔ ∀ c ∈ cs, p c = true := by
  rw [over_iff, String.toList_ofList]

theorem Over.append (ha : Over p a) (hb : Over p b) : Over p (a ++ b) := by
  rw [over_iff] at *
  rw [String.toList_append]
  exact List.forall_mem_append.2 ⟨ha, hb⟩

theorem Over.of_subset {p : Char → Bool} {a : String} {cs : List Char} (h : Over p a) (hsub : ∀ c ∈ cs, c ∈ a.toList) :
    Over p (String.ofList cs) :=
  over_ofList.2 fun c hc => over_iff.1 h c (hsub c hc)

theorem over_join (h : ∀ text ∈ texts, Over p text) : Over p (String.join texts) := by
  induction texts with
  | nil => rfl
  | cons text rest ih =>
    obtain ⟨htext, hrest⟩ := List.forall_mem_cons.1 h
    rw [String.join_cons]
    exact htext.append (ih hrest)

theorem over_intercalate (hseparator : Over p separator) (h : ∀ text ∈ texts, Over p text) :
    Over p (separator.intercalate texts) := by
  induction texts with
  | nil => rfl
  | cons text rest ih =>
    obtain ⟨htext, hrest⟩ := List.forall_mem_cons.1 h
    cases rest with
    | nil => simpa using htext
    | cons next rest =>
      rw [String.intercalate_cons_cons]
      exact (htext.append hseparator).append (ih hrest)

/-- A bare column has bare characters. -/
theorem over_of_isColumn (hbare : ∀ c, isBareChar c = true → p c = true) (h : isColumn a = true) : Over p a :=
  over_iff.2 fun c hc => hbare c ((isColumn_bare h).2 c hc)

/-- A class that leaves out characters which no bare column has. -/
theorem forall_bare_of_ne (others : List Char) (hothers : (others.all fun c => !isBareChar c) = true)
    (hp : ∀ c, c ∉ others → p c = true) : ∀ c, isBareChar c = true → p c = true := by
  refine fun c hc => hp c fun hmem => ?_
  have hnot := List.all_eq_true.1 hothers c hmem
  rw [hc] at hnot
  cases hnot

end SqlToolkit.Text
