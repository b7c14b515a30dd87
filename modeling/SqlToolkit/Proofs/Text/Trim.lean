import Mathlib.Data.List.TakeWhile
import SqlToolkit.Text.Blank

/-!
# What trimming takes away

Trimming takes blanks off both ends of a text and nothing else (`exists_trimmed`), and
blanks put around a text are taken off again.  So two texts that differ by such blanks are
trimmed alike, and a trimmed text stays as it is.
-/
namespace SqlToolkit.Text

/-- There are only blanks in a text. -/
def Blank (cs : List Char) : Prop := ∀ c ∈ cs, isBlank c = true

instance (cs : List Char) : Decidable (Blank cs) := List.decidableBAll _ cs

theorem isBlank_hyphen : isBlank '-' = false := by decide

/-- Blanks do not begin with a character that is none. -/
theorem Blank.head?_ne {cs : List Char} (h : Blank cs) {c : Char} (hc : isBlank c = false) : cs.head? ≠ some c := by
  intro hhead
  rw [h c (List.mem_of_mem_head? hhead)] at hc
  cases hc

theorem dropTrailingBlanks_cons_of_not_blank {c : Char} (h : isBlank c = false) (cs : List Char) :
    dropTrailingBlanks (c :: cs) = c :: dropTrailingBlanks cs := by
  rw [dropTrailingBlanks]
  cases dropTrailingBlanks cs with
  | nil => simp [h]
  | cons d ds => rfl

theorem dropTrailingBlanks_of_blank {cs : List Char} (h : Blank cs) : dropTrailingBlanks cs = [] := by
  induction cs with
  | nil => rfl
  | cons c cs ih =>
    obtain ⟨hc, hcs⟩ := List.forall_mem_cons.1 h
    rw [dropTrailingBlanks, ih hcs]
    simp [hc]

/-- Blanks behind a text are taken off. -/
theorem dropTrailingBlanks_append {blanks : List Char} (h : Blank blanks) (cs : List Char) :
    dropTrailingBlanks (cs ++ blanks) = dropTrailingBlanks cs := by
  induction cs with
  | nil => exact dropTrailingBlanks_of_blank h
  | cons c cs ih => rw [List.cons_append, dropTrailingBlanks, ih, dropTrailingBlanks]

/-- Only blanks are taken off. -/
theorem exists_dropTrailingBlanks (cs : List Char) :
    ∃ blanks, Blank blanks ∧ cs = dropTrailingBlanks cs ++ blanks := by
  induction cs with
  | nil => exact ⟨[], by simp [Blank], rfl⟩
  | cons c cs ih =>
    obtain ⟨blanks, hblanks, hcs⟩ := ih
    rw [dropTrailingBlanks]
    cases hrest : dropTrailingBlanks cs with
    | cons d ds =>
      rw [hrest] at hcs
      exact ⟨blanks, hblanks, by rw [hcs]; rfl⟩
    | nil =>
      rw [hrest, List.nil_append] at hcs
      subst hcs
      by_cases hc : isBlank c = true
      · refine ⟨c :: cs, List.forall_mem_cons.2 ⟨hc, hblanks⟩, ?_⟩
        simp [hc]
      · refine ⟨cs, hblanks, ?_⟩
        simp [hc]

/-- **Trimming takes off blanks** at both ends, and nothing else. -/
theorem exists_trimmed (cs : List Char) :
    ∃ front back, Blank front ∧ Blank back ∧ cs = front ++ (trimBlanks cs ++ back) := by
  obtain ⟨back, hback, hrest⟩ := exists_dropTrailingBlanks (skipBlanks cs)
  refine ⟨cs.takeWhile isBlank, back, fun c hc => List.mem_takeWhile_imp hc, hback, ?_⟩
  unfold trimBlanks
  rw [← hrest]
  exact List.takeWhile_append_dropWhile.symm

theorem trimBlanks_cons_of_blank {c : Char} (h : isBlank c = true) (cs : List Char) :
    trimBlanks (c :: cs) = trimBlanks cs := by
  unfold trimBlanks
  rw [skipBlanks_cons_of_blank h]

theorem trimBlanks_cons_of_not_blank {c : Char} (h : isBlank c = false) (cs : List Char) :
    trimBlanks (c :: cs) = c :: dropTrailingBlanks cs := by
  unfold trimBlanks
  rw [skipBlanks_cons_of_not_blank h, dropTrailingBlanks_cons_of_not_blank h]

theorem trimBlanks_append {blanks : List Char} (h : Blank blanks) (cs : List Char) :
    trimBlanks (cs ++ blanks) = trimBlanks cs := by
  induction cs with
  | nil =>
    obtain hskip : skipBlanks blanks = [] := List.dropWhile_eq_nil_iff.2 h
    rw [List.nil_append, trimBlanks, hskip, trimBlanks, skipBlanks_nil]
  | cons c cs ih =>
    rw [List.cons_append]
    by_cases hc : isBlank c = true
    · rw [trimBlanks_cons_of_blank hc, trimBlanks_cons_of_blank hc, ih]
    · rw [Bool.not_eq_true] at hc
      rw [trimBlanks_cons_of_not_blank hc, trimBlanks_cons_of_not_blank hc, dropTrailingBlanks_append h]

/-- What is left begins with no blank. -/
theorem trimBlanks_eq_cons {cs ds : List Char} {c : Char} (h : trimBlanks cs = c :: ds) : isBlank c = false := by
  induction cs with
  | nil => cases h
  | cons d cs ih =>
    by_cases hd : isBlank d = true
    · exact ih (by rwa [trimBlanks_cons_of_blank hd] at h)
    · rw [Bool.not_eq_true] at hd
      rw [trimBlanks_cons_of_not_blank hd] at h
      cases h
      exact hd

/-- A trimmed text stays as it is. -/
@[simp] theorem trimBlanks_trimBlanks (cs : List Char) : trimBlanks (trimBlanks cs) = trimBlanks cs := by
  have hdrop : dropTrailingBlanks (trimBlanks cs) = trimBlanks cs := by
    obtain ⟨back, hback, hrest⟩ := exists_dropTrailingBlanks (skipBlanks cs)
    unfold trimBlanks
    rw [← dropTrailingBlanks_append hback (dropTrailingBlanks (skipBlanks cs)), ← hrest]
  cases hcs : trimBlanks cs with
  | nil => rfl
  | cons c ds =>
    have hc := trimBlanks_eq_cons hcs
    rw [hcs, dropTrailingBlanks_cons_of_not_blank hc] at hdrop
    rw [trimBlanks_cons_of_not_blank hc, hdrop]

/-- A text without blanks stays as it is. -/
theorem dropTrailingBlanks_of_forall_not_blank {cs : List Char} (h : ∀ c ∈ cs, isBlank c = false) :
    dropTrailingBlanks cs = cs := by
  induction cs with
  | nil => rfl
  | cons c cs ih =>
    obtain ⟨hc, hcs⟩ := List.forall_mem_cons.1 h
    rw [dropTrailingBlanks_cons_of_not_blank hc, ih hcs]

theorem trim_of_forall_not_blank {s : String} (h : ∀ c ∈ s.toList, isBlank c = false) : trim s = s := by
  have htrimmed : trimBlanks s.toList = s.toList := by
    cases hs : s.toList with
    | nil => rfl
    | cons c cs =>
      rw [hs] at h
      obtain ⟨hc, hcs⟩ := List.forall_mem_cons.1 h
      rw [trimBlanks_cons_of_not_blank hc, dropTrailingBlanks_of_forall_not_blank hcs]
  rw [trim, htrimmed, String.ofList_toList]

end SqlToolkit.Text
