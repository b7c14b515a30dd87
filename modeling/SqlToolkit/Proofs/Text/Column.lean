import Mathlib.Data.List.TakeWhile
import SqlToolkit.Condition

/-!
# What a plain column is made of

A column that may be written bare consists of name characters and at most one dot, and is never empty.  So it holds no
placeholder, no quote, no blank and no punctuation, whatever statement it is written into.
-/
namespace SqlToolkit.Text

/-- A character that a bare column may hold. -/
def isBareChar (c : Char) : Bool := isColumnChar c || c == '.'

theorem isBareChar_of_startsName {c : Char} (h : startsName c = true) : isBareChar c = true := by
  simp only [startsName, Bool.or_eq_true, beq_iff_eq] at h
  rcases h with h | rfl
  · simp [isBareChar, isColumnChar, Char.isAlphanum, h]
  · decide

theorem isBareChar_of_isColumnChar {c : Char} (h : isColumnChar c = true) : isBareChar c = true := by
  simp [isBareChar, h]

theorem isBareChar_of_isAliasChar {c : Char} (h : isAliasChar c = true) : isBareChar c = true := by
  simp only [isAliasChar, Bool.or_eq_true] at h
  rcases h with h | h <;> simp [isBareChar, isColumnChar, h]

/-- The letters of the basic alphabet are two ranges of codes. -/
theorem toNat_of_isAlpha {c : Char} (h : c.isAlpha = true) :
    (65 ≤ c.toNat ∧ c.toNat ≤ 90) ∨ (97 ≤ c.toNat ∧ c.toNat ≤ 122) := by
  have hdef : c.isAlpha = (decide (65 ≤ c.val ∧ c.val ≤ 90) || (decide (97 ≤ c.val) && decide (c.val ≤ 122))) := rfl
  rw [hdef] at h
  simp only [Bool.or_eq_true, Bool.and_eq_true, decide_eq_true_eq, UInt32.le_iff_toNat_le] at h
  exact h

theorem toNat_of_isDigit {c : Char} (h : c.isDigit = true) : 48 ≤ c.toNat ∧ c.toNat ≤ 57 := by
  have hdef : c.isDigit = (decide (48 ≤ c.val) && decide (c.val ≤ 57)) := rfl
  rw [hdef] at h
  simp only [Bool.and_eq_true, decide_eq_true_eq, UInt32.le_iff_toNat_le] at h
  exact h

/-- No blank stands in a bare column. -/
theorem isBlank_of_isBareChar {c : Char} (h : isBareChar c = true) : isBlank c = false := by
  have hrange : c.toNat = 36 ∨ c.toNat = 46 ∨ c.toNat = 95 ∨ (48 ≤ c.toNat ∧ c.toNat ≤ 57) ∨
      (65 ≤ c.toNat ∧ c.toNat ≤ 90) ∨ (97 ≤ c.toNat ∧ c.toNat ≤ 122) := by
    simp only [isBareChar, isColumnChar, Char.isAlphanum, Bool.or_eq_true, beq_iff_eq] at h
    rcases h with (((h | h) | rfl) | rfl) | rfl
    · have := toNat_of_isAlpha h
      omega
    · have := toNat_of_isDigit h
      omega
    · exact .inr (.inr (.inl rfl))
    · exact .inl rfl
    · exact .inr (.inl rfl)
  have hcases : ¬ isBlank c = true := by
    simp only [isBlank, Bool.or_eq_true, Bool.and_eq_true, decide_eq_true_eq, beq_iff_eq]
    omega
  exact Bool.eq_false_iff.2 hcases

/-- No name starts with a digit. -/
theorem isDigit_of_startsName {c : Char} (h : startsName c = true) : c.isDigit = false := by
  refine Bool.eq_false_iff.2 fun hdigit => ?_
  have hrange := toNat_of_isDigit hdigit
  simp only [startsName, Bool.or_eq_true, beq_iff_eq] at h
  rcases h with h | rfl
  · have := toNat_of_isAlpha h
    omega
  · exact absurd hdigit (by decide)

/-- A name is not empty, and its characters may all stand in a column. -/
theorem readName_bare {continues : Char → Bool} (hbare : ∀ c, continues c = true → isBareChar c = true)
    {cs name rest : List Char} (h : readName continues cs = some (name, rest)) :
    name ≠ [] ∧ ∀ c ∈ name, isBareChar c = true := by
  cases cs with
  | nil => simp [readName] at h
  | cons d ds =>
    simp only [readName] at h
    split at h
    · rename_i hd
      simp only [Option.some.injEq, Prod.mk.injEq] at h
      obtain ⟨rfl, -⟩ := h
      refine ⟨by simp, fun c hc => ?_⟩
      rcases List.mem_cons.1 hc with rfl | hc
      · exact isBareChar_of_startsName hd
      · exact hbare c (List.mem_takeWhile_imp hc)
    · simp at h

theorem readColumn_bare {cs column rest : List Char} (h : readColumn cs = some (column, rest)) :
    column ≠ [] ∧ ∀ c ∈ column, isBareChar c = true := by
  unfold readColumn at h
  split at h
  · next table more htable =>
    obtain ⟨hne, hbare⟩ := readName_bare (fun _ => isBareChar_of_isColumnChar) htable
    split at h
    · next name after hname =>
      simp only [Option.some.injEq, Prod.mk.injEq] at h
      obtain ⟨rfl, -⟩ := h
      refine ⟨by simp, fun c hc => ?_⟩
      rcases List.mem_append.1 hc with hc | hc
      · exact hbare c hc
      · rcases List.mem_cons.1 hc with rfl | hc
        · decide
        · exact (readName_bare (fun _ => isBareChar_of_isColumnChar) hname).2 c hc
    · simp only [Option.some.injEq, Prod.mk.injEq] at h
      obtain ⟨rfl, -⟩ := h
      exact ⟨hne, hbare⟩
  · exact readName_bare (fun _ => isBareChar_of_isColumnChar) h

/-- Reading a whole column loses nothing: the column is the text. -/
theorem readColumn_append {cs column rest : List Char} (h : readColumn cs = some (column, rest)) :
    cs = column ++ rest := by
  unfold readColumn at h
  split at h
  · next table more htable =>
    have hcs := readName_eq_append htable
    split at h
    · next name after hname =>
      simp only [Option.some.injEq, Prod.mk.injEq] at h
      obtain ⟨rfl, rfl⟩ := h
      rw [hcs, readName_eq_append hname]
      simp
    · simp only [Option.some.injEq, Prod.mk.injEq] at h
      obtain ⟨rfl, rfl⟩ := h
      exact hcs
  · exact readName_eq_append h

/-- **A bare column** is a non-empty run of name characters and dots. -/
theorem isColumn_bare {name : String} (h : isColumn name = true) :
    name.toList ≠ [] ∧ ∀ c ∈ name.toList, isBareChar c = true := by
  unfold isColumn at h
  split at h
  · next column hread =>
    have hcs : name.toList = column := by simpa using readColumn_append hread
    rw [hcs]
    exact readColumn_bare hread
  · simp at h

/-- The first character of a name, and so of a column, is no digit. -/
theorem readName_starts {continues : Char → Bool} {cs name rest : List Char}
    (h : readName continues cs = some (name, rest)) : ∃ c ∈ cs.head?, startsName c = true := by
  cases cs with
  | nil => simp [readName] at h
  | cons c cs =>
    simp only [readName] at h
    split at h
    · next hc => exact ⟨c, rfl, hc⟩
    · simp at h

theorem isColumn_starts {name : String} (h : isColumn name = true) :
    ∃ c ∈ name.toList.head?, startsName c = true := by
  unfold isColumn readColumn at h
  cases hname : readName isColumnChar name.toList with
  | none => simp [hname] at h
  | some found => exact readName_starts hname

/-- An alias at the end of a reference is made of the same characters. -/
theorem readAliasEnd_bare {cs asName : List Char} (h : readAliasEnd cs = some (some asName)) :
    ∀ c ∈ asName, isBareChar c = true := by
  unfold readAliasEnd at h
  split at h
  · simp at h
  · split at h
    · next name after hname =>
      split at h
      · obtain rfl : name = asName := by simpa using h
        unfold readAlias at hname
        split at hname
        · split at hname
          · next found rest hfound =>
            split at hname
            · obtain ⟨rfl, -⟩ : found = name ∧ _ := by simpa using hname
              exact (readName_bare (fun _ => isBareChar_of_isAliasChar) hfound).2
            · simp at hname
          · simp at hname
        · simp at hname
      · simp at h
    · simp at h

/-- What follows the dot of a column is made of the same characters. -/
theorem splitDot_bare {cs table name : List Char} (hcs : ∀ c ∈ cs, isBareChar c = true)
    (h : splitDot cs = some (table, name)) : ∀ c ∈ name, isBareChar c = true := by
  unfold splitDot at h
  split at h
  · simp at h
  · next dot after hafter =>
    obtain ⟨-, rfl⟩ : _ ∧ after = name := by simpa using h
    intro c hc
    have hmem : c ∈ cs.dropWhile (· != '.') := by
      rw [hafter]
      exact List.mem_cons_of_mem _ hc
    exact hcs c ((List.dropWhile_sublist _).mem hmem)

end SqlToolkit.Text

namespace SqlToolkit

theorem validateColumn_eq_ok {name column : String} :
    validateColumn name = .ok column ↔ column = name ∧ Text.isColumn name = true := by
  unfold validateColumn
  split
  · rename_i h
    simp [h, eq_comm]
  · rename_i h
    simp [h]

theorem isColumn_of_validateColumn {name column : String} (h : validateColumn name = .ok column) :
    Text.isColumn column = true := by
  obtain ⟨rfl, hcolumn⟩ := validateColumn_eq_ok.1 h
  exact hcolumn

end SqlToolkit
