import SqlToolkit.Proofs.Text.Quoted

/-!
# Quoted text with backslashes

Some servers take a backslash in a string literal for an escape: it stands for something together with the character
behind it, whatever that is (`readEscaped`).  A literal in which only quotes are doubled is then read back just if each
of its backslashes stands for itself, which it does in front of a wildcard alone (`readEscaped_double_iff`).
-/
namespace SqlToolkit.Text

/-- What a backslash and the character behind it stand for. -/
def unescaped : Char → List Char
  | '0' => ['\x00']
  | 'b' => ['\x08']
  | 'n' => ['\n']
  | 'r' => ['\r']
  | 't' => ['\t']
  | 'Z' => ['\x1a']
  -- a pattern needs the backslash in front of its wildcards
  | '%' => ['\\', '%']
  | '_' => ['\\', '_']
  | c => [c]

/-- The text of a literal whose opening quote has been read, with what follows the literal; nothing when the literal has
no end.  A quote is doubled or stands behind a backslash. -/
def readEscaped (closing : Char) : List Char → Option (List Char × List Char)
  | [] => none
  | [c] => if c = closing then some ([], []) else none
  | c :: d :: ds =>
    if c = '\\' then (readEscaped closing ds).map fun r => (unescaped d ++ r.1, r.2)
    else if c = closing then
      if d = closing then (readEscaped closing ds).map fun r => (c :: r.1, r.2) else some ([], d :: ds)
    else (readEscaped closing (d :: ds)).map fun r => (c :: r.1, r.2)

/-- Every backslash stands in front of a wildcard. -/
def keepsBackslashes : List Char → Bool
  | [] => true
  | [c] => c != '\\'
  | c :: d :: ds =>
    if c = '\\' then (d == '%' || d == '_') && keepsBackslashes ds else keepsBackslashes (d :: ds)

theorem unescaped_of_wildcard {d : Char} (hd : d = '%' ∨ d = '_') : unescaped d = ['\\', d] := by
  rcases hd with rfl | rfl <;> rfl

/-- Nothing else stands for a backslash but another one. -/
theorem unescaped_eq_singleton {d : Char} (hd : d ≠ '\\') (hwildcard : ¬(d = '%' ∨ d = '_')) :
    ∃ c, unescaped d = [c] ∧ c ≠ '\\' := by
  unfold unescaped
  split
  all_goals first
    | exact ⟨_, rfl, by decide⟩
    | exact absurd (by decide) hwildcard
    | exact ⟨_, rfl, hd⟩

section Steps

variable {closing : Char}

theorem readEscaped_backslash (d : Char) (cs : List Char) :
    readEscaped closing ('\\' :: d :: cs) = (readEscaped closing cs).map fun r => (unescaped d ++ r.1, r.2) := by
  rw [readEscaped, if_pos rfl]

theorem readEscaped_cons_of_ne {c : Char} (hc : c ≠ closing) (hbackslash : c ≠ '\\') (cs : List Char) :
    readEscaped closing (c :: cs) = (readEscaped closing cs).map fun r => (c :: r.1, r.2) := by
  cases cs with
  | nil => simp [readEscaped, hc]
  | cons d ds => simp [readEscaped, hc, hbackslash]

theorem readEscaped_closing_twice (hclosing : closing ≠ '\\') (cs : List Char) :
    readEscaped closing (closing :: closing :: cs) = (readEscaped closing cs).map fun r => (closing :: r.1, r.2) := by
  rw [readEscaped, if_neg hclosing, if_pos rfl, if_pos rfl]

theorem readEscaped_closing (hclosing : closing ≠ '\\') {cs : List Char} (free : cs.head? ≠ some closing) :
    readEscaped closing (closing :: cs) = some ([], cs) := by
  cases cs with
  | nil => simp [readEscaped]
  | cons d ds =>
    have hd : d ≠ closing := fun h => free (by simp [h])
    simp [readEscaped, hclosing, hd]

theorem exists_of_map_read {read : Option (List Char × List Char)} {f : List Char → List Char} {text after : List Char}
    (h : (read.map fun r => (f r.1, r.2)) = some (text, after)) :
    ∃ content, read = some (content, after) ∧ f content = text := by
  obtain ⟨⟨content, rest⟩, rfl, heq⟩ := Option.map_eq_some_iff.1 h
  cases heq
  exact ⟨content, rfl, rfl⟩

theorem length_of_readEscaped {cs content rest : List Char} (h : readEscaped closing cs = some (content, rest)) :
    rest.length < cs.length := by
  fun_induction readEscaped closing cs generalizing content with
  | case1 => cases h
  | case2 =>
    cases h
    simp
  | case3 => cases h
  | case4 d ds ih =>
    obtain ⟨content', hread, -⟩ := exists_of_map_read h
    have hlt := ih hread
    simp only [List.length_cons]
    omega
  | case5 ds _ ih =>
    obtain ⟨content', hread, -⟩ := exists_of_map_read (f := (closing :: ·)) h
    have hlt := ih hread
    simp only [List.length_cons]
    omega
  | case6 d ds =>
    cases h
    simp
  | case7 c d ds _ _ ih =>
    obtain ⟨content', hread, -⟩ := exists_of_map_read (f := (c :: ·)) h
    have hlt := ih hread
    simp only [List.length_cons] at hlt ⊢
    omega

end Steps

variable {rest : List Char}

/-- A character that is no backslash is read back however it is written. -/
theorem readEscaped_double_cons {c : Char} (hc : c ≠ '\\') (cs : List Char) :
    readEscaped '\'' (double '\'' (c :: cs) ++ '\'' :: rest) =
      (readEscaped '\'' (double '\'' cs ++ '\'' :: rest)).map fun r => (c :: r.1, r.2) := by
  by_cases hquote : c = '\''
  · subst hquote
    rw [double_cons_self, List.cons_append, List.cons_append, readEscaped_closing_twice hc]
  · rw [double_cons_of_ne hquote, List.cons_append, readEscaped_cons_of_ne hquote hc]

/-- Backslashes that stand for themselves are read back. -/
theorem readEscaped_double {cs : List Char} (free : rest.head? ≠ some '\'') (h : keepsBackslashes cs = true) :
    readEscaped '\'' (double '\'' cs ++ '\'' :: rest) = some (cs, rest) := by
  fun_induction keepsBackslashes cs with
  | case1 => exact readEscaped_closing (by decide) free
  | case2 c =>
    rw [readEscaped_double_cons (by simpa using h), double_nil, List.nil_append, readEscaped_closing (by decide) free]
    rfl
  | case3 d ds ih =>
    simp only [Bool.and_eq_true, Bool.or_eq_true, beq_iff_eq] at h
    obtain ⟨hwildcard, hds⟩ := h
    have hquote : d ≠ '\'' := by
      rintro rfl
      simp at hwildcard
    rw [double_cons_of_ne (by decide), double_cons_of_ne hquote, List.cons_append, List.cons_append,
      readEscaped_backslash, ih hds, unescaped_of_wildcard hwildcard]
    rfl
  | case4 c d ds hc ih =>
    rw [readEscaped_double_cons hc, ih h]
    rfl

/-! ### Backslashes ahead

What a reading stands for is compared with the text behind some backslashes that are still to be found. -/

/-- In front of another character nothing is to be found. -/
theorem eq_zero_of_cons_eq_replicate {c : Char} {cs ds : List Char} {n : Nat} (hc : c ≠ '\\')
    (h : c :: cs = List.replicate n '\\' ++ ds) : n = 0 ∧ c :: cs = ds := by
  cases n with
  | zero => exact ⟨rfl, h⟩
  | succ n => exact absurd (List.cons.inj h).1 hc

/-- What an escape stands for begins with a backslash only in front of a wildcard or another backslash. -/
theorem unescaped_append_ne {d : Char} {cs ds : List Char} {n : Nat} (hd : d ≠ '\\')
    (hwildcard : ¬(d = '%' ∨ d = '_')) : unescaped d ++ cs ≠ List.replicate n '\\' ++ '\\' :: ds := by
  intro h
  obtain ⟨c, hunescaped, hc⟩ := unescaped_eq_singleton hd hwildcard
  rw [hunescaped, List.singleton_append] at h
  exact hc (List.cons.inj (eq_zero_of_cons_eq_replicate hc h).2).1

/-- In front of a wildcard an escape stands for itself, and nothing else is to be found. -/
theorem eq_of_wildcard_append {d : Char} {cs ds : List Char} {n : Nat} (hwildcard : d = '%' ∨ d = '_')
    (h : unescaped d ++ cs = List.replicate n '\\' ++ '\\' :: d :: ds) : n = 0 ∧ cs = ds := by
  have hd : d ≠ '\\' := by rcases hwildcard with rfl | rfl <;> decide
  rw [unescaped_of_wildcard hwildcard] at h
  cases n with
  | zero => exact ⟨rfl, (List.cons.inj (List.cons.inj h).2).2⟩
  | succ n => exact absurd (List.cons.inj (eq_zero_of_cons_eq_replicate hd (List.cons.inj h).2).2).1 hd

/-- A pair of backslashes stands for one of them, and the other is to be found behind it. -/
theorem eq_of_backslash_append {cs ds : List Char} {n : Nat}
    (h : unescaped '\\' ++ cs = List.replicate n '\\' ++ '\\' :: '\\' :: ds) :
    cs = List.replicate (n + 1) '\\' ++ ds := by
  have hmove : List.replicate n '\\' ++ '\\' :: '\\' :: ds = '\\' :: (List.replicate (n + 1) '\\' ++ ds) := by
    rw [List.append_cons, List.append_cons, ← List.replicate_succ', ← List.replicate_succ', List.replicate_succ,
      List.cons_append]
  exact (List.cons.inj (h.trans hmove)).2

/-- **Nothing but a text that keeps its backslashes is read back**, wherever the reading ends.  A pair of them that
is read as one leaves one more to be found in what follows, and it never is. -/
theorem keepsBackslashes_of_readEscaped {cs after : List Char} (free : rest.head? ≠ some '\'') {n : Nat}
    (h : readEscaped '\'' (double '\'' cs ++ '\'' :: rest) = some (List.replicate n '\\' ++ cs, after)) :
    n = 0 ∧ keepsBackslashes cs = true := by
  fun_induction keepsBackslashes cs generalizing n with
  | case1 =>
    rw [double_nil, List.nil_append, readEscaped_closing (by decide) free] at h
    cases n with
    | zero => exact ⟨rfl, rfl⟩
    | succ n => cases h
  | case2 c =>
    by_cases hc : c = '\\'
    · subst hc
      rw [double_cons_of_ne (by decide), double_nil, List.singleton_append, readEscaped_backslash] at h
      obtain ⟨content, -, heq⟩ := exists_of_map_read h
      exact absurd heq (unescaped_append_ne (by decide) (by decide))
    · rw [readEscaped_double_cons hc] at h
      obtain ⟨content, -, heq⟩ := exists_of_map_read h
      exact ⟨(eq_zero_of_cons_eq_replicate hc heq).1, by simpa using hc⟩
  | case3 d ds ih =>
    rw [double_cons_of_ne (by decide)] at h
    by_cases hquote : d = '\''
    · subst hquote
      rw [double_cons_self, List.cons_append, List.cons_append, readEscaped_backslash] at h
      obtain ⟨content, -, heq⟩ := exists_of_map_read h
      exact absurd heq (unescaped_append_ne (by decide) (by decide))
    rw [double_cons_of_ne hquote, List.cons_append, List.cons_append, readEscaped_backslash] at h
    obtain ⟨content, hread, heq⟩ := exists_of_map_read h
    by_cases hwildcard : d = '%' ∨ d = '_'
    · obtain ⟨rfl, rfl⟩ := eq_of_wildcard_append hwildcard heq
      exact ⟨rfl, by simpa using ⟨hwildcard, (ih (n := 0) hread).2⟩⟩
    by_cases hd : d = '\\'
    · subst hd
      obtain rfl := eq_of_backslash_append heq
      exact absurd (ih hread).1 (Nat.succ_ne_zero n)
    · exact absurd heq (unescaped_append_ne hd hwildcard)
  | case4 c d ds hc ih =>
    rw [readEscaped_double_cons hc] at h
    obtain ⟨content, hread, heq⟩ := exists_of_map_read h
    obtain ⟨rfl, heq⟩ := eq_zero_of_cons_eq_replicate hc heq
    obtain rfl := (List.cons.inj heq).2
    exact ⟨rfl, (ih (n := 0) hread).2⟩

/-- **A literal in which quotes are doubled** is read back and ends where it should just if its text keeps its
backslashes. -/
theorem readEscaped_double_iff {cs : List Char} (free : rest.head? ≠ some '\'') :
    readEscaped '\'' (double '\'' cs ++ '\'' :: rest) = some (cs, rest) ↔ keepsBackslashes cs = true :=
  ⟨fun h => (keepsBackslashes_of_readEscaped free (n := 0) h).2, readEscaped_double free⟩

end SqlToolkit.Text
