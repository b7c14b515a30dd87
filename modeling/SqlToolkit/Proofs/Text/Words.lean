import SqlToolkit.Proofs.Text.Trim

/-!
# Words and the blanks between them

Texts that differ only in their runs of blanks are compared by making every run one space (`squeeze`).  Taking a text
apart into words does the same in another way: put together again with spaces, the words are the trimmed text squeezed.
-/
namespace SqlToolkit.Text

/-- A text begins with a blank. -/
def startsBlank (cs : List Char) : Bool := (cs.head?.map isBlank).getD false

/-- Each run of blanks made one space. -/
def squeeze : List Char → List Char
  | [] => []
  | c :: cs => if isBlank c then if startsBlank cs then squeeze cs else ' ' :: squeeze cs else c :: squeeze cs

theorem words_cons_of_blank {c : Char} (h : isBlank c = true) (cs : List Char) : words (c :: cs) = words cs := by
  rw [words.eq_def]
  exact if_pos h

theorem words_of_blank {cs : List Char} (h : Blank cs) : words cs = [] := by
  induction cs with
  | nil => rfl
  | cons c cs ih =>
    obtain ⟨hc, hcs⟩ := List.forall_mem_cons.1 h
    rw [words_cons_of_blank hc, ih hcs]

/-- A character that is no blank begins a word of its own before a blank and at the end. -/
theorem words_cons_of_end {c : Char} (hc : isBlank c = false) {cs : List Char} (hcs : cs = [] ∨ startsBlank cs = true) :
    words (c :: cs) = [c] :: words cs := by
  rw [words.eq_def]
  refine (if_neg (Bool.eq_false_iff.1 hc)).trans ?_
  cases cs with
  | nil => rfl
  | cons d ds =>
    have hd : isBlank d = true := by simpa [startsBlank] using hcs
    exact if_pos hd

/-- Before a character that is no blank it goes in front of the word that begins there. -/
theorem words_cons_cons {c d : Char} (hc : isBlank c = false) (hd : isBlank d = false) (ds : List Char) :
    words (c :: d :: ds) = match words (d :: ds) with
      | [] => [[c]]
      | w :: rest => (c :: w) :: rest := by
  rw [words.eq_def]
  exact (if_neg (Bool.eq_false_iff.1 hc)).trans (if_neg (Bool.eq_false_iff.1 hd))

/-- A text that begins with no blank has a first word, which a character in front lengthens. -/
theorem exists_words {d : Char} (hd : isBlank d = false) (ds : List Char) :
    ∃ w rest, words (d :: ds) = w :: rest ∧ ∀ c, isBlank c = false → words (c :: d :: ds) = (c :: w) :: rest := by
  have hsome : ∃ w rest, words (d :: ds) = w :: rest := by
    cases ds with
    | nil => exact ⟨[d], [], words_cons_of_end hd (.inl rfl)⟩
    | cons e es =>
      by_cases he : isBlank e = true
      · exact ⟨[d], _, words_cons_of_end hd (.inr he)⟩
      · rw [words_cons_cons hd (Bool.eq_false_iff.2 he)]
        split
        · exact ⟨_, _, rfl⟩
        · exact ⟨_, _, rfl⟩
  obtain ⟨w, rest, hwords⟩ := hsome
  refine ⟨w, rest, hwords, fun c hc => ?_⟩
  rw [words_cons_cons hc hd, hwords]

theorem words_ne_nil {cs : List Char} (h : ¬ Blank cs) : words cs ≠ [] := by
  induction cs with
  | nil => exact absurd (List.forall_mem_nil _) h
  | cons c cs ih =>
    by_cases hc : isBlank c = true
    · rw [words_cons_of_blank hc]
      exact ih fun hcs => h (List.forall_mem_cons.2 ⟨hc, hcs⟩)
    · obtain ⟨w, rest, hwords, -⟩ := exists_words (Bool.eq_false_iff.2 hc) cs
      rw [hwords]
      exact List.cons_ne_nil _ _

/-- In front of a text that is not blank every character is kept. -/
theorem dropTrailingBlanks_cons_of_text {cs : List Char} (h : ¬ Blank cs) (c : Char) :
    dropTrailingBlanks (c :: cs) = c :: dropTrailingBlanks cs := by
  rw [dropTrailingBlanks]
  split
  · next hnil =>
    obtain ⟨blanks, hblanks, hcs⟩ := exists_dropTrailingBlanks cs
    rw [hnil, List.nil_append] at hcs
    exact absurd (hcs ▸ hblanks) h
  · rfl

theorem startsBlank_dropTrailingBlanks {cs : List Char} (h : ¬ Blank cs) :
    startsBlank (dropTrailingBlanks cs) = startsBlank cs := by
  cases cs with
  | nil => rfl
  | cons c cs =>
    by_cases hc : isBlank c = true
    · rw [dropTrailingBlanks_cons_of_text fun hcs => h (List.forall_mem_cons.2 ⟨hc, hcs⟩)]
      rfl
    · rw [dropTrailingBlanks_cons_of_not_blank (Bool.eq_false_iff.2 hc)]
      rfl

/-- The words of a text with spaces between them are the text squeezed, without blanks at its end; a blank in front of
the first word is left as one space. -/
theorem squeeze_dropTrailingBlanks {cs : List Char} (h : ¬ Blank cs) :
    squeeze (dropTrailingBlanks cs) = (if startsBlank cs then [' '] else []) ++ [' '].intercalate (words cs) := by
  induction cs with
  | nil => exact absurd (List.forall_mem_nil _) h
  | cons c cs ih =>
    by_cases hblank : Blank cs
    · -- the character is a word of its own, since the text is not blank
      have hc : isBlank c = false := Bool.eq_false_iff.2 fun hc => h (List.forall_mem_cons.2 ⟨hc, hblank⟩)
      have hend : cs = [] ∨ startsBlank cs = true := by
        cases cs with
        | nil => exact .inl rfl
        | cons d ds => exact .inr (hblank d List.mem_cons_self)
      rw [dropTrailingBlanks_cons_of_not_blank hc, dropTrailingBlanks_of_blank hblank, words_cons_of_end hc hend,
        words_of_blank hblank]
      simp [hc, squeeze, startsBlank]
    · rw [dropTrailingBlanks_cons_of_text hblank, squeeze, startsBlank_dropTrailingBlanks hblank, ih hblank]
      -- a blank merges with one behind it; a character joins the word that begins behind it
      by_cases hc : isBlank c = true
      · rw [words_cons_of_blank hc]
        cases hcs : startsBlank cs <;> simp [hc, startsBlank]
      · have hc' : isBlank c = false := Bool.eq_false_iff.2 hc
        cases hcs : startsBlank cs with
        | true =>
          obtain ⟨w, rest, hwords⟩ := List.exists_cons_of_ne_nil (words_ne_nil hblank)
          rw [words_cons_of_end hc' (.inr hcs), hwords]
          simp [hc, startsBlank]
        | false =>
          cases cs with
          | nil => exact absurd (List.forall_mem_nil _) hblank
          | cons d ds =>
            obtain ⟨w, rest, hwords, hlonger⟩ := exists_words (d := d) hcs ds
            rw [hlonger c hc', hwords]
            cases rest <;> simp [hc, startsBlank]

/-- **The words of a text, put together with spaces**, are the trimmed text squeezed. -/
theorem intercalate_words (cs : List Char) : [' '].intercalate (words cs) = squeeze (trimBlanks cs) := by
  induction cs with
  | nil => rfl
  | cons c cs ih =>
    by_cases hc : isBlank c = true
    · rw [words_cons_of_blank hc, trimBlanks_cons_of_blank hc, ih]
    · have htext : ¬ Blank (c :: cs) := fun h => hc (h c List.mem_cons_self)
      have hfront : startsBlank (c :: cs) = false := Bool.eq_false_iff.2 hc
      rw [trimBlanks, skipBlanks_cons_of_not_blank (Bool.eq_false_iff.2 hc), squeeze_dropTrailingBlanks htext, hfront]
      rfl

theorem map_intercalate {α β : Type} (f : α → β) (separator : List α) (parts : List (List α)) :
    (separator.intercalate parts).map f = (separator.map f).intercalate (parts.map (List.map f)) := by
  induction parts with
  | nil => rfl
  | cons part parts ih =>
    cases parts with
    | nil => simp
    | cons next parts => simpa using ih

end SqlToolkit.Text
