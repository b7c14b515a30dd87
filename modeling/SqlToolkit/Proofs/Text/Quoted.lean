import SqlToolkit.Text.Quoted

/-!
# Reading quoted text

Reading a quoted token undoes writing it (`readEnclosed_double`), and what was read is what
would be written (`eq_of_readEnclosed`).  So a token is known by its text, and ends where it
ends whatever follows it, unless that is one more closing quote (`delimits_wrap`).
-/
namespace SqlToolkit.Text

/-- A token that was read is the one that is written for its text, and it was read to its
end. -/
theorem eq_of_readEnclosed {closing : Char} {cs content rest : List Char}
    (h : readEnclosed closing cs = some (content, rest)) :
    cs = double closing content ++ closing :: rest ∧ rest.head? ≠ some closing := by
  fun_induction readEnclosed closing cs generalizing content rest with
  | case1 => cases h
  | case2 =>
    cases h
    exact ⟨rfl, by simp⟩
  | case3 => cases h
  | case4 ds ih =>
    obtain ⟨⟨content', rest'⟩, hread, heq⟩ := Option.map_eq_some_iff.1 h
    cases heq
    obtain ⟨rfl, hfree⟩ := ih hread
    exact ⟨by rw [double_cons_self]; rfl, hfree⟩
  | case5 d ds hd =>
    cases h
    exact ⟨rfl, by simpa using hd⟩
  | case6 c d ds hc ih =>
    obtain ⟨⟨content', rest'⟩, hread, heq⟩ := Option.map_eq_some_iff.1 h
    cases heq
    obtain ⟨hds, hfree⟩ := ih hread
    exact ⟨by rw [double_cons_of_ne hc, hds]; rfl, hfree⟩

theorem length_of_readEnclosed {closing : Char} {cs content rest : List Char}
    (h : readEnclosed closing cs = some (content, rest)) : rest.length < cs.length := by
  rw [(eq_of_readEnclosed h).1, List.length_append, List.length_cons]
  omega

/-- A text without the closing quote is written as it is. -/
theorem double_of_not_mem {closing : Char} {cs : List Char} (h : closing ∉ cs) : double closing cs = cs := by
  induction cs with
  | nil => rfl
  | cons c cs ih =>
    rw [List.mem_cons, not_or] at h
    obtain ⟨hc, hcs⟩ := h
    rw [double_cons_of_ne (Ne.symm hc), ih hcs]

/-- Doubling brings no other characters. -/
theorem mem_of_mem_double {closing c : Char} {cs : List Char} (h : c ∈ double closing cs) : c ∈ cs := by
  induction cs with
  | nil => exact h
  | cons d cs ih =>
    by_cases hd : d = closing
    · rw [hd, double_cons_self, List.mem_cons, List.mem_cons] at h
      rcases h with rfl | rfl | h
      · exact hd ▸ List.mem_cons_self
      · exact hd ▸ List.mem_cons_self
      · exact List.mem_cons_of_mem _ (ih h)
    · rw [double_cons_of_ne hd, List.mem_cons] at h
      rcases h with rfl | h
      · exact List.mem_cons_self
      · exact List.mem_cons_of_mem _ (ih h)

theorem toList_literal (text : String) : (literal text).toList = enclose '\'' '\'' text.toList := String.toList_ofList

/-! ### Tokens with their opening quotes -/

/-- The text of the token at the front of a text, with what follows it. -/
def readQuoted? (quotes : Char × Char) : List Char → Option (List Char × List Char)
  | [] => none
  | c :: cs => if c = quotes.1 then readEnclosed quotes.2 cs else none

theorem readQuoted?_eq_some_iff {quotes : Char × Char} {cs content rest : List Char} :
    readQuoted? quotes cs = some (content, rest) ↔
      cs = enclose quotes.1 quotes.2 content ++ rest ∧ rest.head? ≠ some quotes.2 := by
  unfold enclose
  cases cs with
  | nil => simp [readQuoted?]
  | cons c cs =>
    rw [readQuoted?, Option.ite_none_right_eq_some, List.cons_append, List.cons.injEq, and_assoc,
      List.append_assoc, List.singleton_append]
    refine and_congr_right fun _ => ⟨eq_of_readEnclosed, ?_⟩
    rintro ⟨rfl, hfree⟩
    exact readEnclosed_double content hfree

/-- What is written for a text is one token with that text, wherever it stands, unless the
closing quote follows it; and no other token has the text. -/
def Delimits (quotes : Char × Char) (write : String → String) : Prop :=
  ∀ (content : String) (cs rest : List Char), readQuoted? quotes cs = some (content.toList, rest) ↔
    cs = (write content).toList ++ rest ∧ rest.head? ≠ some quotes.2

theorem delimits_wrap (opening closing : Char) :
    Delimits (opening, closing) fun content => wrap content opening closing := by
  intro content cs rest
  simp only [readQuoted?_eq_some_iff, wrap, String.toList_ofList]

end SqlToolkit.Text
