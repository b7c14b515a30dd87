import SqlToolkit.Proofs.Script.Introduced
import SqlToolkit.Proofs.Text.Grammar
import SqlToolkit.Proofs.Text.Trim

/-!
# The tokens of raw SQL

An identifier token is an identifier, or two of them around a dot, in angle brackets.  `Token` says so without reading
anything, and reading a token at the front of a text finds exactly these (`readToken_eq_some_iff_source`).  Inside its
brackets a token holds neither of them, so two tokens of one text never overlap: one ends before the other begins, or
they are the same (`Token.At.apart`, `Token.At.eq`).

A table's token may be introduced by a keyword in any case and blanks behind it, if the keyword begins at a word boundary
(`IntroducesTable`).  That is a property of the text before the token alone.
-/
namespace SqlToolkit.RawSql
open Text Script

/-! ## Tokens -/

/-- A letter or an underscore under simple case folding, and letters, digits and underscores behind it. -/
inductive IsIdentifier : List Char → Prop
  | mk {c : Char} {cs : List Char} : startsToken c = true → (∀ d ∈ cs, isTokenChar d = true) → IsIdentifier (c :: cs)

theorem IsIdentifier.isTokenChar {name : List Char} (h : IsIdentifier name) : ∀ c ∈ name, isTokenChar c = true := by
  obtain ⟨hstart, hcontinue⟩ := h
  exact List.forall_mem_cons.2 ⟨isTokenChar_of_startsToken hstart, hcontinue⟩

theorem isIdentifier_of_readTokenName {cs name rest : List Char} (h : readTokenName cs = some (name, rest)) :
    IsIdentifier name := by
  cases cs with
  | nil => cases h
  | cons c cs =>
    rw [readTokenName] at h
    split at h
    · next hstart =>
      cases h
      exact .mk hstart fun d hd => List.mem_takeWhile_imp hd
    · cases h

/-- An identifier is read in front of what cannot continue it. -/
theorem IsIdentifier.readTokenName_append {name rest : List Char} (h : IsIdentifier name)
    (hrest : Stops RawSql.isTokenChar rest) : readTokenName (name ++ rest) = some (name, rest) := by
  obtain ⟨hstart, hcontinue⟩ := h
  rw [List.cons_append, readTokenName, if_pos hstart, takeWhile_of_stops hcontinue hrest,
    dropWhile_of_stops hcontinue hrest]

/-- An identifier, or a table's and a column's with a dot between them. -/
@[ext]
structure Token where
  first : List Char
  second : Option (List Char)
  isIdentifier_first : IsIdentifier first
  isIdentifier_second : ∀ column ∈ second, IsIdentifier column

namespace Token

/-- The characters of the token, its brackets included. -/
def source (token : Token) : List Char := tokenSource token.first token.second

/-- The identifiers of a token and the dot between them, without the brackets. -/
def body (token : Token) : List Char := token.first ++ (token.second.elim [] fun column => '.' :: column)

theorem source_eq (token : Token) : token.source = '<' :: (token.body ++ ['>']) := by
  obtain ⟨first, second, -, -⟩ := token
  cases second with
  | none => simp [source, body, tokenSource, tokenPiece, Piece.source]
  | some column => simp [source, body, tokenSource, tokenPiece, Piece.source]

/-- Inside its brackets a token holds no bracket. -/
theorem not_mem_body (token : Token) {c : Char} (hname : isTokenChar c = false) (hdot : c ≠ '.') : c ∉ token.body := by
  have hidentifier : ∀ {name : List Char}, IsIdentifier name → c ∉ name := by
    intro name h hmem
    rw [h.isTokenChar c hmem] at hname
    cases hname
  intro hmem
  rcases List.mem_append.1 hmem with hfirst | hsecond
  · exact hidentifier token.isIdentifier_first hfirst
  · cases hcolumn : token.second with
    | none => simp [hcolumn] at hsecond
    | some column =>
      rw [hcolumn, Option.elim_some] at hsecond
      rcases List.mem_cons.1 hsecond with heq | hsecond
      · exact hdot heq
      · exact hidentifier (token.isIdentifier_second column hcolumn) hsecond

theorem length_source (token : Token) : token.source.length = token.body.length + 2 := by
  rw [source_eq]
  simp

theorem getElem?_source_zero (token : Token) : token.source[0]? = some '<' := by
  rw [source_eq]
  rfl

theorem getElem?_source_last (token : Token) : token.source[token.source.length - 1]? = some '>' := by
  rw [← List.getLast?_eq_getElem?, source_eq, ← List.cons_append, List.getLast?_concat]

/-- No token begins inside another. -/
theorem getElem?_source_ne (token : Token) {k : Nat} (hk : 0 < k) : token.source[k]? ≠ some '<' := by
  obtain ⟨k, rfl⟩ := Nat.exists_eq_succ_of_ne_zero (Nat.ne_of_gt hk)
  rw [source_eq, List.getElem?_cons_succ]
  intro h
  rcases List.mem_append.1 (List.mem_of_getElem? h) with hbody | hclose
  · exact token.not_mem_body (by decide) (by decide) hbody
  · simp at hclose

/-- A token is read in front of any text. -/
theorem readToken_source (token : Token) (rest : List Char) :
    readToken (token.source ++ rest) = some (token.first, token.second, rest) := by
  have hclose : Stops isTokenChar ('>' :: rest) := by
    rintro c ⟨⟩
    decide
  obtain ⟨first, second, hfirst, hsecond⟩ := token
  rw [source_eq, readToken_eq_some_iff]
  cases second with
  | none =>
    refine ⟨first ++ '>' :: rest, by simp [body], ?_⟩
    exact hfirst.readTokenName_append hclose
  | some column =>
    have hdot : Stops isTokenChar ('.' :: (column ++ '>' :: rest)) := by
      rintro c ⟨⟩
      decide
    refine ⟨first ++ '.' :: (column ++ '>' :: rest), by simp [body], column ++ '>' :: rest, ?_, ?_⟩
    · exact hfirst.readTokenName_append hdot
    · exact (hsecond column rfl).readTokenName_append hclose

end Token

/-- **Reading finds exactly the tokens.** -/
theorem readToken_eq_some_iff_source {cs first rest : List Char} {second : Option (List Char)} :
    readToken cs = some (first, second, rest) ↔
      ∃ token : Token, token.first = first ∧ token.second = second ∧ cs = token.source ++ rest := by
  constructor
  · intro h
    obtain ⟨tail, -, hnames⟩ := readToken_eq_some_iff.1 h
    cases second with
    | none =>
      exact ⟨⟨first, none, isIdentifier_of_readTokenName hnames, by simp⟩, rfl, rfl, eq_of_readToken h⟩
    | some column =>
      obtain ⟨middle, hfirst, hsecond⟩ := hnames
      refine ⟨⟨first, some column, isIdentifier_of_readTokenName hfirst, ?_⟩, rfl, rfl, eq_of_readToken h⟩
      rintro _ ⟨⟩
      exact isIdentifier_of_readTokenName hsecond
  · rintro ⟨token, rfl, rfl, rfl⟩
    exact token.readToken_source rest

/-! ## Where tokens stand -/

/-- The token stands at a place of a text. -/
def Token.At (token : Token) (cs : List Char) (place : Nat) : Prop := token.source <+: cs.drop place

namespace Token.At
variable {token other : Token} {cs : List Char} {place later : Nat}

theorem getElem? (h : token.At cs place) {k : Nat} (hk : k < token.source.length) :
    cs[place + k]? = token.source[k]? := by
  obtain ⟨rest, hrest⟩ := h
  rw [← List.getElem?_drop, ← hrest, List.getElem?_append_left hk]

theorem getElem?_place (h : token.At cs place) : cs[place]? = some '<' := by
  have hzero : 0 < token.source.length := by
    rw [token.length_source]
    omega
  exact (h.getElem? hzero).trans token.getElem?_source_zero

theorem getElem?_last (h : token.At cs place) : cs[place + (token.source.length - 1)]? = some '>' := by
  rw [← token.getElem?_source_last]
  refine h.getElem? ?_
  rw [token.length_source]
  omega

/-- A token ends before a later one begins. -/
theorem apart (h : token.At cs place) (hother : other.At cs later) (hlater : place < later) :
    place + token.source.length ≤ later := by
  by_contra hinside
  have hbracket := hother.getElem?_place
  obtain ⟨k, rfl⟩ := Nat.exists_eq_add_of_lt hlater
  rw [Nat.add_assoc, h.getElem? (by omega)] at hbracket
  exact token.getElem?_source_ne (by omega) hbracket

/-- Only one token stands at a place. -/
theorem eq (h : token.At cs place) (hother : other.At cs place) : token = other := by
  obtain ⟨rest, hrest⟩ := h
  obtain ⟨rest', hrest'⟩ := hother
  have hread := token.readToken_source rest
  rw [hrest, ← hrest', other.readToken_source rest'] at hread
  simp only [Option.some.injEq, Prod.mk.injEq] at hread
  exact Token.ext hread.1.symm hread.2.1.symm

/-- The places of a text with something in front of it. -/
theorem append_left_iff (front : List Char) : token.At (front ++ cs) (front.length + place) ↔ token.At cs place := by
  rw [At, At, List.drop_length_add_append]

end Token.At

/-! ## Introductions -/

/-- A keyword that a table follows, in any case, and blanks behind it. -/
inductive IsTableIntro : List Char → Prop
  | mk {word blanks : List Char} : (∃ keyword ∈ tableKeywords, word.map Char.toUpper = keyword.toList) → blanks ≠ [] →
      Blank blanks → IsTableIntro (word ++ blanks)

/-- Between two texts a word begins or ends. -/
def Boundary (front rest : List Char) : Prop := front.getLast?.any isWordChar ≠ rest.head?.any isWordChar

/-- A text ends with a keyword that a table follows, which begins at a word boundary, and blanks behind it. -/
def IntroducesTable (before : List Char) : Prop :=
  ∃ front intro, before = front ++ intro ∧ IsTableIntro intro ∧ Boundary front intro

/-- An introduction is letters and blanks. -/
theorem IsTableIntro.isUpper_or_isBlank {intro : List Char} (h : IsTableIntro intro) :
    ∀ c ∈ intro, c.toUpper.isUpper = true ∨ isBlank c = true := by
  obtain @⟨word, blanks, ⟨keyword, hkeyword, hword⟩, -, hblanks⟩ := h
  intro c hc
  rcases List.mem_append.1 hc with hc | hc
  · refine .inl (List.all_eq_true.1 (all_isUpper_tableKeywords keyword hkeyword) _ ?_)
    exact hword ▸ List.mem_map_of_mem hc
  · exact .inr (hblanks c hc)

theorem IsTableIntro.not_mem {intro : List Char} (h : IsTableIntro intro) {c : Char} (hupper : c.toUpper.isUpper = false)
    (hblank : isBlank c = false) : c ∉ intro := by
  intro hc
  rcases h.isUpper_or_isBlank c hc with hc | hc
  · rw [hc] at hupper
    cases hupper
  · rw [hc] at hblank
    cases hblank

/-- An introduction begins with a character of words. -/
theorem IsTableIntro.exists_cons {intro : List Char} (h : IsTableIntro intro) :
    ∃ c cs, intro = c :: cs ∧ isWordChar c = true := by
  obtain @⟨word, blanks, ⟨keyword, hkeyword, hword⟩, -, -⟩ := h
  have hne : ∀ keyword ∈ tableKeywords, keyword.toList ≠ [] := by decide
  cases word with
  | nil => exact absurd hword.symm (hne keyword hkeyword)
  | cons c word =>
    refine ⟨c, word ++ blanks, rfl, isWordChar_of_toUpper ?_⟩
    refine List.all_eq_true.1 (all_isUpper_tableKeywords keyword hkeyword) _ ?_
    exact hword ▸ List.mem_map_of_mem List.mem_cons_self

/-- A word that begins with a character of words begins at a boundary exactly when none stands before it. -/
theorem IsTableIntro.boundary_iff {intro : List Char} (h : IsTableIntro intro) (front rest : List Char) :
    Boundary front (intro ++ rest) ↔ front.getLast?.any isWordChar = false := by
  obtain ⟨c, cs, rfl, hc⟩ := h.exists_cons
  simp [Boundary, hc]

/-- No keyword is the beginning of another. -/
theorem eq_of_prefix_of_mem_tableKeywords : ∀ a ∈ tableKeywords, ∀ b ∈ tableKeywords, a.toList <+: b.toList → a = b := by
  decide

theorem readKeyword_append_of_mem {word : List Char} {keyword : String} (hkeyword : keyword ∈ tableKeywords)
    (hword : word.map Char.toUpper = keyword.toList) (rest : List Char) :
    readKeyword (word ++ rest) = some (word, rest) := by
  have hlength : word.length = keyword.length := by
    rw [← String.length_toList, ← hword, List.length_map]
  have htake : (word ++ rest).take keyword.length = word := by rw [← hlength, List.take_left]
  have hfound : (readKeyword (word ++ rest)).isSome = true := by
    refine List.findSome?_isSome_iff.2 ⟨keyword, hkeyword, ?_⟩
    simp [htake, hword]
  obtain ⟨found, hfound⟩ := Option.isSome_iff_exists.1 hfound
  -- the keyword that is found and the one that stands there begin the same text
  obtain ⟨other, hother, hread⟩ := List.exists_of_findSome?_eq_some hfound
  dsimp only at hread
  split at hread
  · next hupper =>
    have hfirst : keyword.toList <+: (word ++ rest).map Char.toUpper := by
      rw [List.map_append, hword]
      exact List.prefix_append _ _
    have hsecond : other.toList <+: (word ++ rest).map Char.toUpper := by
      rw [← hupper]
      exact (List.take_prefix _ _).map _
    obtain rfl : keyword = other := by
      rcases List.prefix_or_prefix_of_prefix hfirst hsecond with h | h
      · exact eq_of_prefix_of_mem_tableKeywords _ hkeyword _ hother h
      · exact (eq_of_prefix_of_mem_tableKeywords _ hother _ hkeyword h).symm
    rw [hfound, ← hread, htake, ← hlength, List.drop_left]
  · cases hread

/-- **What introduces a table** is read exactly. -/
theorem readTableIntro_eq_some_iff {cs intro rest : List Char} (hrest : Stops isBlank rest) :
    readTableIntro cs = some (intro, rest) ↔ cs = intro ++ rest ∧ IsTableIntro intro := by
  constructor
  · intro h
    refine ⟨readTableIntro_eq h, ?_⟩
    unfold readTableIntro at h
    split at h
    · next word more hread =>
      dsimp only at h
      split at h
      · cases h
      · next hblanks =>
        cases h
        obtain ⟨keyword, hkeyword, hfound⟩ := List.exists_of_findSome?_eq_some hread
        dsimp only at hfound
        split at hfound
        · next hupper =>
          cases hfound
          exact .mk ⟨keyword, hkeyword, hupper⟩ (by simpa using hblanks) fun c hc => List.mem_takeWhile_imp hc
        · cases hfound
    · cases h
  · rintro ⟨rfl, @⟨word, blanks, ⟨keyword, hkeyword, hword⟩, hne, hblanks⟩⟩
    rw [List.append_assoc]
    unfold readTableIntro
    rw [readKeyword_append_of_mem hkeyword hword]
    simp only [takeWhile_of_stops hblanks hrest, dropWhile_of_stops hblanks hrest]
    rw [if_neg (by simpa using hne)]

end SqlToolkit.RawSql
