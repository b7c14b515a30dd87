import SqlToolkit.Proofs.Script.Expansion
import SqlToolkit.Proofs.Statement.Pattern
import SqlToolkit.Schema.Column

/-!
# Tables in raw SQL

A name in angle brackets after one of the words that introduce tables is a table's.  Its
expansion is that of the text before it, the table under the prefix, and the expansion of the
text behind it (`expanded_from`): no piece of the text reaches over its beginning, and it
ends with its bracket.

Nothing in front is a part of the introducing word if a character stands there that is none
of a word.  Then neither a token nor an introduction that begins earlier can end later.
-/
namespace SqlToolkit.Script
open Text RawSql

/-- A name that is read whole between the brackets of a token. -/
def IsTokenName (name : String) : Prop := readTokenName name.toList = some (name.toList, [])

instance (name : String) : Decidable (IsTokenName name) := inferInstanceAs (Decidable (_ = _))

/-! ## Where tokens end -/

/-- What is read as a token. -/
theorem readToken_eq_some_iff {cs first rest : List Char} {second : Option (List Char)} :
    readToken cs = some (first, second, rest) ↔ ∃ tail, cs = '<' :: tail ∧
      match second with
      | none => readTokenName tail = some (first, '>' :: rest)
      | some column => ∃ middle, readTokenName tail = some (first, '.' :: middle) ∧
        readTokenName middle = some (column, '>' :: rest) := by
  constructor
  · intro h
    unfold readToken at h
    split at h
    · next tail =>
      refine ⟨tail, rfl, ?_⟩
      split at h
      · next hfirst =>
        cases h
        exact hfirst
      · next middle hfirst =>
        split at h
        · next hsecond =>
          cases h
          exact ⟨middle, hfirst, hsecond⟩
        · cases h
      · cases h
    · cases h
  · rintro ⟨tail, rfl, h⟩
    cases second with
    | none =>
      dsimp only at h
      simp only [readToken, h]
    | some column =>
      obtain ⟨middle, hfirst, hsecond⟩ := h
      simp only [readToken, hfirst, hsecond]

/-- A text that begins with a word and then a space. -/
structure Introduced (cs : List Char) : Prop where
  head : ∃ c ds, cs = c :: ds ∧ isTokenChar c = true ∧ isBlank c = false
  stop : (cs.dropWhile isTokenChar).head? = some ' '

/-- What ends a name of a token: the bracket, or the dot before a second name. -/
def IsStop (d : Char) : Prop := d = '>' ∨ d = '.'

/-! ### Keywords -/

/-- A letter in any case is a character of words. -/
theorem isWordChar_of_toUpper {c : Char} (hupper : c.toUpper.isUpper = true) : isWordChar c = true := by
  have hupperDef : c.isUpper = decide (c.val ≥ 'A'.val ∧ c.val ≤ 'Z'.val) := rfl
  have hlowerDef : c.isLower = (decide (c.val ≥ 'a'.val) && decide (c.val ≤ 'z'.val)) := rfl
  have halphanum : c.isAlphanum = (c.isUpper || c.isLower || c.isDigit) := rfl
  have hsmall {d : Char} (h : d.val ≤ 'z'.val) : d.toNat < 128 := Nat.lt_of_le_of_lt h (by decide)
  unfold Char.toUpper at hupper
  split at hupper
  · next h =>
    refine isWordChar_of_isAlphanum (hsmall h.2) ?_
    rw [halphanum, hlowerDef, decide_eq_true h.1, decide_eq_true h.2, Bool.and_self, Bool.or_true, Bool.true_or]
  · refine isWordChar_of_isAlphanum (hsmall ?_) ?_
    · rw [hupperDef, decide_eq_true_eq] at hupper
      exact UInt32.le_trans hupper.2 (by decide)
    · rw [halphanum, hupper, Bool.true_or, Bool.true_or]

theorem all_isUpper_tableKeywords : ∀ word ∈ tableKeywords, word.toList.all Char.isUpper = true := by decide

theorem findSome?_of_map {α β : Type} {f g : α → Option β} {h : β → β} {as : List α}
    (hmap : ∀ a ∈ as, f a = (g a).map h) : as.findSome? f = (as.findSome? g).map h := by
  induction as with
  | nil => rfl
  | cons a as ih =>
    obtain ⟨hfirst, hrest⟩ := List.forall_mem_cons.1 hmap
    rw [List.findSome?_cons, List.findSome?_cons, hfirst, ih hrest]
    cases g a <;> rfl

/-- No keyword reaches over a character that is none of a word. -/
theorem readKeyword_append {cs : List Char} {last : Char} (hlast : cs.getLast? = some last)
    (hword : isWordChar last = false) (more : List Char) :
    readKeyword (cs ++ more) = (readKeyword cs).map fun found => (found.1, found.2 ++ more) := by
  unfold readKeyword
  refine findSome?_of_map fun word hkeyword => ?_
  dsimp only
  by_cases hlength : word.length ≤ cs.length
  · rw [List.take_append_of_le_length hlength, List.drop_append_of_le_length hlength]
    split
    · rfl
    · rfl
  · -- the text is too short for the word, and with more behind it the word would hold its last character
    have hshort : (cs.take word.length).map Char.toUpper ≠ word.toList := by
      intro heq
      have := congrArg List.length heq
      simp only [List.length_map, List.length_take, String.length_toList] at this
      omega
    have hover : ((cs ++ more).take word.length).map Char.toUpper ≠ word.toList := by
      intro heq
      have hmem : last ∈ (cs ++ more).take word.length := by
        rw [List.take_append, List.take_of_length_le (by omega)]
        exact List.mem_append_left _ (List.mem_of_getLast? hlast)
      have hupper : last.toUpper.isUpper = true :=
        List.all_eq_true.1 (all_isUpper_tableKeywords word hkeyword) _ (heq ▸ List.mem_map_of_mem hmem)
      rw [isWordChar_of_toUpper hupper] at hword
      cases hword
    rw [if_neg hover, if_neg hshort]
    rfl

/-! ### Nothing reaches over the beginning of a word -/

section Introduced

variable {more : List Char} (hmore : Introduced more)
include hmore

theorem Introduced.head?_ne : more.head? ≠ some '<' := by
  obtain ⟨c, ds, rfl, hc, -⟩ := hmore.head
  rintro h
  cases h
  exact absurd hc (by decide)

/-- What ends before a stop ends before the next word. -/
theorem Introduced.dropWhile_append {cs rest : List Char} {d : Char} (hd : IsStop d)
    (h : (cs ++ more).dropWhile isTokenChar = d :: rest) : ∃ rest', rest = rest' ++ more ∧
      cs.dropWhile isTokenChar = d :: rest' ∧ (cs ++ more).takeWhile isTokenChar = cs.takeWhile isTokenChar := by
  induction cs with
  | nil =>
    rw [List.nil_append] at h
    have hstop := hmore.stop
    rw [h] at hstop
    cases hstop
    rcases hd with hd | hd <;> cases hd
  | cons c cs ih =>
    rw [List.cons_append] at h ⊢
    by_cases hc : isTokenChar c = true
    · rw [List.dropWhile_cons_of_pos hc] at h
      obtain ⟨rest', hrest, hdrop, htake⟩ := ih h
      refine ⟨rest', hrest, ?_, ?_⟩
      · rw [List.dropWhile_cons_of_pos hc, hdrop]
      · rw [List.takeWhile_cons_of_pos hc, List.takeWhile_cons_of_pos hc, htake]
    · rw [List.dropWhile_cons_of_neg hc] at h
      cases h
      refine ⟨cs, rfl, ?_, ?_⟩
      · rw [List.dropWhile_cons_of_neg hc]
      · rw [List.takeWhile_cons_of_neg hc, List.takeWhile_cons_of_neg hc]

theorem Introduced.readTokenName_append {cs name rest : List Char} {d : Char} (hd : IsStop d)
    (h : readTokenName (cs ++ more) = some (name, d :: rest)) :
    ∃ rest', rest = rest' ++ more ∧ readTokenName cs = some (name, d :: rest') := by
  cases cs with
  | nil =>
    obtain ⟨c, ds, rfl, hc, -⟩ := hmore.head
    have hstop := hmore.stop
    rw [List.dropWhile_cons_of_pos hc] at hstop
    simp only [List.nil_append, readTokenName] at h
    split at h
    · simp only [Option.some.injEq, Prod.mk.injEq] at h
      rw [h.2] at hstop
      cases hstop
      rcases hd with hd | hd <;> cases hd
    · cases h
  | cons c cs =>
    simp only [List.cons_append, readTokenName] at h ⊢
    split at h
    · next hc =>
      simp only [Option.some.injEq, Prod.mk.injEq] at h
      obtain ⟨rfl, hdrop⟩ := h
      obtain ⟨rest', hrest, hdrop', htake⟩ := hmore.dropWhile_append hd hdrop
      exact ⟨rest', hrest, by rw [if_pos hc, hdrop', htake]⟩
    · cases h

/-- No token reaches into a word that follows a text. -/
theorem Introduced.readToken_append_eq_some_iff {cs first rest : List Char} {second : Option (List Char)} :
    readToken (cs ++ more) = some (first, second, rest) ↔
      ∃ rest', rest = rest' ++ more ∧ readToken cs = some (first, second, rest') := by
  constructor
  · intro h
    obtain ⟨tail, hcs, h⟩ := readToken_eq_some_iff.1 h
    obtain ⟨tail', rfl, rfl⟩ : ∃ tail', cs = '<' :: tail' ∧ tail = tail' ++ more := by
      cases cs with
      | nil => exact absurd (congrArg List.head? hcs) hmore.head?_ne
      | cons c cs =>
        cases hcs
        exact ⟨cs, rfl, rfl⟩
    cases second with
    | none =>
      obtain ⟨rest', hrest, hfirst⟩ := hmore.readTokenName_append (.inl rfl) h
      exact ⟨rest', hrest, readToken_eq_some_iff.2 ⟨tail', rfl, hfirst⟩⟩
    | some column =>
      obtain ⟨middle, hfirst, hsecond⟩ := h
      obtain ⟨middle', rfl, hfirst'⟩ := hmore.readTokenName_append (.inr rfl) hfirst
      obtain ⟨rest', hrest, hsecond'⟩ := hmore.readTokenName_append (.inl rfl) hsecond
      exact ⟨rest', hrest, readToken_eq_some_iff.2 ⟨tail', rfl, middle', hfirst', hsecond'⟩⟩
  · rintro ⟨rest', rfl, htoken⟩
    obtain ⟨tail, rfl, hnames⟩ := readToken_eq_some_iff.1 htoken
    refine readToken_eq_some_iff.2 ⟨tail ++ more, rfl, ?_⟩
    cases second with
    | none => exact RawSql.readTokenName_append hnames more
    | some column =>
      obtain ⟨middle, hfirst, hsecond⟩ := hnames
      exact ⟨middle ++ more, RawSql.readTokenName_append hfirst more, RawSql.readTokenName_append hsecond more⟩

theorem Introduced.readToken_append (cs : List Char) :
    readToken (cs ++ more) = (readToken cs).map fun found => (found.1, found.2.1, found.2.2 ++ more) := by
  cases htoken : readToken cs with
  | some found =>
    obtain ⟨first, second, rest⟩ := found
    exact hmore.readToken_append_eq_some_iff.2 ⟨rest, rfl, htoken⟩
  | none =>
    cases hlonger : readToken (cs ++ more) with
    | none => rfl
    | some found =>
      obtain ⟨first, second, rest⟩ := found
      obtain ⟨rest', -, hshorter⟩ := hmore.readToken_append_eq_some_iff.1 hlonger
      rw [htoken] at hshorter
      cases hshorter

theorem Introduced.readTableIntro_append {cs : List Char} {last : Char} (hlast : cs.getLast? = some last)
    (hword : isWordChar last = false) :
    readTableIntro (cs ++ more) = (readTableIntro cs).map fun found => (found.1, found.2 ++ more) := by
  obtain ⟨c, ds, rfl, -, hblank⟩ := hmore.head
  unfold readTableIntro
  rw [readKeyword_append hlast hword]
  cases readKeyword cs with
  | none => rfl
  | some found =>
    obtain ⟨word, rest⟩ := found
    have hnot : ¬isBlank c = true := by simp [hblank]
    have htake : (rest ++ c :: ds).takeWhile isBlank = rest.takeWhile isBlank := by
      rw [List.takeWhile_append, List.takeWhile_cons_of_neg hnot, List.append_nil]
      split
      · next hall => exact ((List.takeWhile_prefix isBlank).eq_of_length hall).symm
      · rfl
    have hdrop : (rest ++ c :: ds).dropWhile isBlank = rest.dropWhile isBlank ++ c :: ds := by
      rw [List.dropWhile_append, List.dropWhile_cons_of_neg hnot]
      split
      · next hall =>
        rw [List.isEmpty_iff.1 hall]
        rfl
      · rfl
    simp only [Option.map_some, htake, hdrop]
    split
    · rfl
    · rfl

/-- No piece reaches into a word that introduces a table, if the text before it does not end in a word. -/
theorem Introduced.readPiece_append {previous : Option Char} {c : Char} {cs : List Char} {last : Char}
    (hlast : (c :: cs).getLast? = some last) (hword : isWordChar last = false) :
    readPiece previous c (cs ++ more) = ((readPiece previous c cs).1, (readPiece previous c cs).2 ++ more) := by
  have hintro := hmore.readTableIntro_append hlast hword
  have htoken := hmore.readToken_append (c :: cs)
  rw [List.cons_append] at hintro htoken
  unfold readPiece
  rw [hintro, htoken]
  generalize readTableIntro (c :: cs) = introduced
  generalize readToken (c :: cs) = token
  cases previous.any isWordChar with
  | true =>
    rcases token with _ | ⟨first, second, rest⟩
    · rfl
    · rfl
  | false =>
    rcases introduced with _ | ⟨intro, rest⟩
    · rcases token with _ | ⟨first, second, rest⟩
      · rfl
      · rfl
    · simp only [Option.map_some, hmore.readToken_append rest]
      rcases readToken rest with _ | ⟨first, second, rest⟩
      · rcases token with _ | ⟨first, second, rest⟩
        · rfl
        · rfl
      · rfl

variable {quote : String → Bool → String}

/-- A text that does not end in a word is expanded apart from a word behind it. -/
theorem Introduced.expanded_append (previous : Option Char) (cs : List Char)
    (hword : (cs.getLast?.or previous).any isWordChar = false) :
    expanded quote previous (cs ++ more) =
      expanded quote previous cs ++ expanded quote (cs.getLast?.or previous) more := by
  induction previous, cs using pieces.induct with
  | case1 previous =>
    rw [expanded_nil]
    rfl
  | case2 previous c cs step ih =>
    obtain ⟨last, hlast⟩ : ∃ last, (c :: cs).getLast? = some last := ⟨_, List.getLast?_eq_some_getLast (by simp)⟩
    -- what stands before the rest is the end of the piece, and together they end as the text does
    have hend : step.2.getLast?.or step.1.source.getLast? = (c :: cs).getLast?.or previous := by
      rw [← List.getLast?_append, source_readPiece, hlast]
      rfl
    rw [hlast] at hword
    have hpiece : readPiece previous c (cs ++ more) = (step.1, step.2 ++ more) := hmore.readPiece_append hlast hword
    have hrest := ih (by rwa [hend, hlast])
    rw [List.cons_append, expanded_cons, hpiece, expanded_cons, List.append_assoc, ← hend]
    exact congrArg _ hrest

end Introduced

/-! ## The expansion -/

variable {quote : String → Bool → String}

/-- What stands before a text matters only as far as it is a word or not. -/
theorem expanded_congr {previous other : Option Char} (h : previous.any isWordChar = other.any isWordChar)
    (cs : List Char) : expanded quote previous cs = expanded quote other cs := by
  cases cs with
  | nil => rw [expanded_nil, expanded_nil]
  | cons c cs =>
    have hpiece : readPiece previous c cs = readPiece other c cs := by
      unfold readPiece
      rw [h]
    rw [expanded_cons, expanded_cons, hpiece]

/-- The expansion of a text that does not begin with a token begins as the text does. -/
theorem head?_expanded_of_ne {cs : List Char} (hcs : cs.head? ≠ some '<') (previous : Option Char) :
    (expanded quote previous cs).head? = cs.head? := by
  cases cs with
  | nil => rw [expanded_nil]
  | cons c cs =>
    rw [expanded_cons]
    rcases readPiece_eq previous c cs with hpiece | ⟨keyword, token, first, second, rest, hpiece, hsplit, htoken⟩
    · simp [hpiece, Piece.render]
    · cases keyword with
      | nil =>
        obtain ⟨tail, rfl, -⟩ := readToken_eq_some_iff.1 htoken
        exact absurd (congrArg List.head? hsplit) hcs
      | cons d keyword =>
        cases hsplit
        rw [hpiece, render_tokenPiece]
        rfl

/-! ## A table behind the word that introduces it -/

theorem introduced_from (rest : List Char) : Introduced ("FROM ".toList ++ rest) where
  head := ⟨'F', "ROM ".toList ++ rest, rfl, by decide, by decide⟩
  stop := rfl

theorem readTokenName_of_isTokenName {name : String} (hname : IsTokenName name) (after : List Char) :
    readTokenName (name.toList ++ '>' :: after) = some (name.toList, '>' :: after) := by
  unfold IsTokenName at hname
  cases hcs : name.toList with
  | nil =>
    rw [hcs] at hname
    cases hname
  | cons c cs =>
    rw [hcs] at hname
    have hchars : ∀ d ∈ c :: cs, isTokenChar d = true := fun d hd => isTokenChar_of_readTokenName hname hd
    rw [readTokenName] at hname
    split at hname
    · next hc =>
      have hrest : ∀ d ∈ cs, isTokenChar d = true := fun d hd => hchars d (List.mem_cons_of_mem c hd)
      have hclose : ¬isTokenChar '>' = true := by decide
      rw [List.cons_append, readTokenName, if_pos hc, List.takeWhile_append_of_pos hrest,
        List.dropWhile_append_of_pos hrest, List.takeWhile_cons_of_neg hclose, List.dropWhile_cons_of_neg hclose,
        List.append_nil]
    · cases hname

/-- A table's token behind its word is one piece. -/
theorem readPiece_from {name : String} (hname : IsTokenName name) {previous : Option Char}
    (hprevious : previous.any isWordChar = false) (after : List Char) :
    readPiece previous 'F' ("ROM <".toList ++ (name.toList ++ '>' :: after)) =
      (.name "FROM ".toList name.toList, after) := by
  have hintro : readTableIntro ('F' :: ("ROM <".toList ++ (name.toList ++ '>' :: after))) =
      some ("FROM ".toList, '<' :: (name.toList ++ '>' :: after)) := rfl
  have htoken : readToken ('<' :: (name.toList ++ '>' :: after)) = some (name.toList, none, after) := by
    exact readToken_eq_some_iff.2 ⟨_, rfl, readTokenName_of_isTokenName hname after⟩
  unfold readPiece
  rw [hprevious, hintro]
  simp only [htoken]
  rfl

/-- **A table in raw SQL** is expanded apart from the text before it and the text behind it. -/
theorem expanded_from {name : String} (hname : IsTokenName name) {before : List Char}
    (hbefore : ∀ c, before.getLast? = some c → isWordChar c = false) (after : List Char) :
    expanded quote none (before ++ ("FROM <".toList ++ (name.toList ++ '>' :: after))) =
      expanded quote none before ++ ("FROM ".toList ++ ((quote name true).toList ++ expanded quote none after)) := by
  have hprevious : (before.getLast?.or none).any isWordChar = false := by
    cases hlast : before.getLast? with
    | none => rfl
    | some c => exact hbefore c hlast
  have hmore := introduced_from ('<' :: (name.toList ++ '>' :: after))
  have hpiece := readPiece_from hname hprevious after
  have hexpanded : expanded quote (before.getLast?.or none) ('F' :: ("ROM <".toList ++ (name.toList ++ '>' :: after))) =
      "FROM ".toList ++ ((quote name true).toList ++ expanded quote none after) := by
    have hlast : (Piece.name "FROM ".toList name.toList).source.getLast? = some '>' := List.getLast?_concat
    have hrender : ((Piece.name "FROM ".toList name.toList).render quote).toList =
        "FROM ".toList ++ (quote name true).toList := by
      rw [Piece.render, String.toList_append, String.ofList_toList, String.ofList_toList]
      rfl
    rw [expanded_cons, hpiece, hlast, hrender, List.append_assoc]
    rw [expanded_congr (show (some '>').any isWordChar = (none : Option Char).any isWordChar by decide)]
  exact (hmore.expanded_append none before hprevious).trans (congrArg _ hexpanded)

/-- Texts between which a token stands by itself: the first does not end in a word, the other begins neither with a
token nor with a quote. -/
structure Around (before after : String) : Prop where
  before : ∀ c, before.toList.getLast? = some c → isWordChar c = false
  after : ∀ c, after.toList.head? = some c → c ≠ '<' ∧ Schema.isSchemaQuote c = false

/-- The table is found where it was written. -/
theorem found?_from {quotes : Char × Char} (hquotes : Schema.Quoting quotes) {before name after : String}
    (haround : Around before after) (hname : IsTokenName name) {table : String}
    (hquote : quote name true = wrap table quotes.1 quotes.2) :
    found? quotes [.words (expand quote before ++ "FROM "), .identifier]
      (expand quote (before ++ "FROM <" ++ name ++ ">" ++ after)) = some [table] := by
  have hexpand : expand quote (before ++ "FROM <" ++ name ++ ">" ++ after) =
      expand quote before ++ "FROM " ++ (wrap table quotes.1 quotes.2 ++ expand quote after) := by
    have hafter : ">".toList ++ after.toList = '>' :: after.toList := rfl
    rw [← String.toList_inj, toList_expand]
    simp only [String.toList_append, List.append_assoc, toList_expand]
    rw [hafter, expanded_from hname haround.before, hquote]
  have hrest : Schema.Free quotes (expand quote after).toList := by
    refine hquotes.free_of_head fun c hc => ?_
    rw [toList_expand, head?_expanded_of_ne] at hc
    · exact (haround.after c hc).2
    · intro h
      exact (haround.after _ h).1 rfl
  rw [hexpand]
  exact found?_first _ _ hrest

end SqlToolkit.Script
