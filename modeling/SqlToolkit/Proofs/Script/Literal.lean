import SqlToolkit.Proofs.Script.Splitting
import SqlToolkit.Target

/-!
# The string literals of a script

The string literals of a script are its texts in single quotes (`literals`).  They can also
be read off the marks of its characters: they are the maximal stretches of characters in
single quotes, as far as these are closed (`filterMap_literal?`).  So a change outside such
stretches changes no literal.

Identifier tokens are what may be changed.  The first part says how the text of a token and
its replacement lie in the pieces of raw SQL.
-/
namespace SqlToolkit

namespace RawSql
open Text

/-! ## Tokens -/

theorem isTokenChar_of_startsToken {c : Char} (h : startsToken c = true) : isTokenChar c = true := by
  simp only [startsToken, startsName, Bool.or_eq_true] at h
  simp only [isTokenChar, isAliasChar, Char.isAlphanum, Bool.or_eq_true]
  rcases h with ((h | h) | h) | h <;> simp [h]

theorem isTokenChar_of_readTokenName {cs name rest : List Char} (h : readTokenName cs = some (name, rest)) {c : Char}
    (hc : c ∈ name) : isTokenChar c = true := by
  cases cs with
  | nil => cases h
  | cons d ds =>
    rw [readTokenName] at h
    split at h
    · next hd =>
      cases h
      rcases List.mem_cons.1 hc with rfl | hc
      · exact isTokenChar_of_startsToken hd
      · exact List.mem_takeWhile_imp hc
    · cases h

/-- A name that ends inside a text is the same if more text follows. -/
theorem readTokenName_append {cs name rest : List Char} {d : Char} (h : readTokenName cs = some (name, d :: rest))
    (more : List Char) : readTokenName (cs ++ more) = some (name, d :: (rest ++ more)) := by
  have key (p : Char → Bool) (xs : List Char) (hd : xs.dropWhile p = d :: rest) :
      (xs ++ more).takeWhile p = xs.takeWhile p ∧ (xs ++ more).dropWhile p = d :: (rest ++ more) := by
    induction xs with
    | nil => cases hd
    | cons x xs ih =>
      by_cases hx : p x = true
      · rw [List.dropWhile_cons_of_pos hx] at hd
        obtain ⟨htake, hdrop⟩ := ih hd
        rw [List.cons_append, List.takeWhile_cons_of_pos hx, List.takeWhile_cons_of_pos hx,
          List.dropWhile_cons_of_pos hx, htake]
        exact ⟨rfl, hdrop⟩
      · rw [List.dropWhile_cons_of_neg hx] at hd
        cases hd
        rw [List.cons_append, List.takeWhile_cons_of_neg hx, List.takeWhile_cons_of_neg hx,
          List.dropWhile_cons_of_neg hx]
        exact ⟨rfl, rfl⟩
  cases cs with
  | nil => cases h
  | cons c cs =>
    rw [readTokenName] at h
    split at h
    · next hc =>
      obtain ⟨hname, hdrop⟩ := Prod.ext_iff.1 (Option.some.inj h)
      obtain ⟨htake, hrest⟩ := key isTokenChar cs hdrop
      rw [List.cons_append, readTokenName, if_pos hc, htake, hrest]
      exact congrArg some (Prod.ext hname rfl)
    · cases h

theorem readToken_append {cs : List Char} (h : (readToken cs).isSome = true) (more : List Char) :
    (readToken (cs ++ more)).isSome = true := by
  unfold readToken at h
  split at h
  · next cs =>
    split at h
    · next first after hfirst =>
      simp [readToken, readTokenName_append hfirst]
    · next first after hfirst =>
      split at h
      · next second after' hsecond =>
        simp [readToken, readTokenName_append hfirst, readTokenName_append hsecond]
      · cases h
    · cases h
  · cases h

/-- The characters of a token itself. -/
def tokenSource (first : List Char) (second : Option (List Char)) : List Char := (tokenPiece [] first second).source

/-- What a token is replaced by. -/
def tokenText (quote : String → Bool → String) (isTable : Bool) (first : List Char) : Option (List Char) → List Char
  | none => (quote (String.ofList first) isTable).toList
  | some second =>
    (quote (String.ofList first) true).toList ++ '.' :: (quote (String.ofList second) false).toList

theorem render_tokenPiece (quote : String → Bool → String) (keyword first : List Char)
    (second : Option (List Char)) :
    ((tokenPiece keyword first second).render quote).toList =
      keyword ++ tokenText quote (!keyword.isEmpty) first second := by
  cases second <;> simp [tokenText, tokenPiece, Piece.render]

/-- **The first piece** is a character that stays, or a token, perhaps after a keyword. -/
theorem readPiece_eq (previous : Option Char) (c : Char) (cs : List Char) :
    readPiece previous c cs = (.plain c, cs) ∨
      ∃ keyword token first second rest, readPiece previous c cs = (tokenPiece keyword first second, rest) ∧
        c :: cs = keyword ++ token ∧ readToken token = some (first, second, rest) := by
  unfold readPiece
  dsimp only
  split
  · next found h =>
    split at h
    · cases h
    · split at h
      · next intro rest hintro =>
        split at h
        · next first second after htoken =>
          cases h
          exact .inr ⟨intro, rest, first, second, after, rfl, readTableIntro_eq hintro, htoken⟩
        · cases h
      · cases h
  · split
    · next first second after htoken => exact .inr ⟨[], c :: cs, first, second, after, rfl, rfl, htoken⟩
    · exact .inl rfl

theorem eq_of_readToken {token first rest : List Char} {second : Option (List Char)}
    (h : readToken token = some (first, second, rest)) : token = tokenSource first second ++ rest :=
  readToken_eq h []

/-- The names of a token. -/
def tokenNames (first : List Char) (second : Option (List Char)) : List (List Char) := first :: second.toList

theorem isTokenChar_of_readToken {token first rest : List Char} {second : Option (List Char)}
    (h : readToken token = some (first, second, rest)) {name : List Char} (hname : name ∈ tokenNames first second)
    {c : Char} (hc : c ∈ name) : isTokenChar c = true := by
  unfold readToken at h
  split at h
  · split at h
    · next hfirst =>
      cases h
      rw [tokenNames, Option.toList_none, List.mem_singleton] at hname
      subst hname
      exact isTokenChar_of_readTokenName hfirst hc
    · next hfirst =>
      split at h
      · next hsecond =>
        cases h
        simp only [tokenNames, Option.toList_some, List.mem_cons, List.not_mem_nil, or_false] at hname
        rcases hname with rfl | rfl
        · exact isTokenChar_of_readTokenName hfirst hc
        · exact isTokenChar_of_readTokenName hsecond hc
      · cases h
    · cases h
  · cases h

end RawSql

namespace Script
open Text RawSql

/-! ## Literals -/

/-- The text of a string literal. -/
def Lexeme.literal? : Lexeme → Option (List Char)
  | .quoted quote content => if quote = '\'' then some content else none
  | _ => none

/-- The string literals of a text, in order. -/
def literals (text : String) : List String := ((lexemes text.toList).filterMap Lexeme.literal?).map String.ofList

/-- A character belongs to a string literal. -/
def inLiteral (p : Char × Mode) : Bool := p.2 == .quoted '\''

/-- The stretch at the front, unless it is empty, and the others. -/
def gather (stretches : List Char × List (List Char)) : List (List Char) :=
  if stretches.1.isEmpty then stretches.2 else stretches.1 :: stretches.2

/-- The maximal stretches of characters in literals: the one at the front, which may be
empty, and the others. -/
def runs : List (Char × Mode) → List Char × List (List Char)
  | [] => ([], [])
  | p :: ps => if inLiteral p then (p.1 :: (runs ps).1, (runs ps).2) else ([], gather (runs ps))

/-- All stretches that are not empty. -/
def allRuns (ps : List (Char × Mode)) : List (List Char) := gather (runs ps)

/-- The text of a literal that is written out. -/
def readLiteral : List Char → Option (List Char)
  | [] => none
  | _ :: cs =>
    match readEnclosed '\'' cs with
    | some (content, []) => some content
    | _ => none

theorem gather_append (front : List Char) (rest more : List (List Char)) :
    gather (front, rest ++ more) = gather (front, rest) ++ more := by
  unfold gather
  cases front.isEmpty <;> rfl

theorem runs_cons_of_inLiteral {p : Char × Mode} (h : inLiteral p = true) (ps : List (Char × Mode)) :
    runs (p :: ps) = (p.1 :: (runs ps).1, (runs ps).2) := by
  rw [runs, if_pos h]

theorem runs_cons_of_not_inLiteral {p : Char × Mode} (h : inLiteral p = false) (ps : List (Char × Mode)) :
    runs (p :: ps) = ([], allRuns ps) := by
  rw [runs, if_neg (by simp [h]), allRuns]

@[simp] theorem allRuns_nil : allRuns [] = [] := rfl

theorem allRuns_cons_of_not_inLiteral {p : Char × Mode} (h : inLiteral p = false) (ps : List (Char × Mode)) :
    allRuns (p :: ps) = allRuns ps := by
  rw [allRuns, runs_cons_of_not_inLiteral h]
  rfl

/-- Characters outside literals add no stretch. -/
theorem allRuns_append_of_not_inLiteral {front : List (Char × Mode)} (h : ∀ p ∈ front, inLiteral p = false)
    (ps : List (Char × Mode)) : allRuns (front ++ ps) = allRuns ps := by
  induction front with
  | nil => rfl
  | cons p front ih =>
    obtain ⟨hp, hfront⟩ := List.forall_mem_cons.1 h
    rw [List.cons_append, allRuns_cons_of_not_inLiteral hp, ih hfront]

/-- A character outside literals separates stretches. -/
theorem allRuns_append (ps : List (Char × Mode)) {p : Char × Mode} (h : inLiteral p = false)
    (qs : List (Char × Mode)) : allRuns (ps ++ p :: qs) = allRuns ps ++ allRuns qs := by
  have key : runs (ps ++ p :: qs) = ((runs ps).1, (runs ps).2 ++ allRuns qs) := by
    induction ps with
    | nil => exact runs_cons_of_not_inLiteral h qs
    | cons x xs ih =>
      rw [List.cons_append]
      by_cases hx : inLiteral x = true
      · rw [runs_cons_of_inLiteral hx, runs_cons_of_inLiteral hx, ih]
      · rw [Bool.not_eq_true] at hx
        rw [runs_cons_of_not_inLiteral hx, runs_cons_of_not_inLiteral hx, allRuns, ih, gather_append]
        rfl
  rw [allRuns, key, gather_append]
  rfl

/-- A stretch that ends before the rest. -/
theorem allRuns_literal (cs : List Char) (hcs : cs ≠ []) {ps : List (Char × Mode)} (hps : (runs ps).1 = []) :
    allRuns (cs.map (·, .quoted '\'') ++ ps) = cs :: allRuns ps := by
  have key : runs (cs.map (·, .quoted '\'') ++ ps) = (cs ++ (runs ps).1, (runs ps).2) := by
    induction cs with
    | nil => rfl
    | cons c cs ih =>
      rw [List.map_cons, List.cons_append, runs_cons_of_inLiteral rfl]
      cases cs with
      | nil => rfl
      | cons d ds => rw [ih (List.cons_ne_nil d ds)]; rfl
  have hgather : gather (runs ps) = (runs ps).2 := by simp [gather, hps]
  rw [allRuns, key, hps, List.append_nil, allRuns, hgather, gather, if_neg (by simpa using hcs)]

/-- Only a single quote begins a literal in code. -/
theorem runs_marks {cs : List Char} (h : cs.head? ≠ some '\'') : (runs (marks .code cs)).1 = [] := by
  cases cs with
  | nil => rfl
  | cons c cs =>
    have hnext : Mode.code.next c cs ≠ .quoted '\'' := by
      intro hquoted
      obtain ⟨-, rfl⟩ := Mode.next_code_eq_quoted_iff.1 hquoted
      exact h rfl
    rw [marks_cons, runs_cons_of_not_inLiteral]
    simpa [inLiteral, Mode.mark_code] using hnext

/-- The literals can be read off the marks: they are the stretches that are closed. -/
theorem filterMap_literal? (cs : List Char) :
    (lexemes cs).filterMap Lexeme.literal? = (allRuns (marks .code cs)).filterMap readLiteral := by
  rw [← marked_eq_marks]
  unfold marked
  fun_induction lexemes cs with
  | case1 => rfl
  | case2 c cs hquote content rest hread ih =>
    rw [List.filterMap_cons, List.flatMap_cons]
    by_cases hc : c = '\''
    · subst hc
      have hrest : (runs ((lexemes rest).flatMap Lexeme.marked)).1 = [] := by
        have hmarks := runs_marks (eq_of_readEnclosed hread).2
        rwa [← marked_eq_marks] at hmarks
      have hsource : readLiteral (enclose '\'' '\'' content) = some content := by
        rw [enclose, readLiteral, readEnclosed_double content (by simp)]
      show content :: _ = _
      rw [ih, Lexeme.marked, Lexeme.source, Lexeme.mode, allRuns_literal _ (by simp [enclose]) hrest,
        List.filterMap_cons, hsource]
    · rw [ih, allRuns_append_of_not_inLiteral]
      · simp [Lexeme.literal?, hc]
      · simp [Lexeme.marked, Lexeme.mode, inLiteral, hc]
  | case3 c cs hquote hread =>
    rw [List.flatMap_cons, List.flatMap_nil]
    by_cases hc : c = '\''
    · subst hc
      rw [Lexeme.marked, Lexeme.source, Lexeme.mode, allRuns_literal _ (List.cons_ne_nil _ _) rfl]
      simp [readLiteral, hread, Lexeme.literal?]
    · rw [allRuns_append_of_not_inLiteral]
      · rfl
      · simp [Lexeme.marked, Lexeme.mode, inLiteral, hc]
  | case4 c cs hquote hcomment ih =>
    rw [List.filterMap_cons, List.flatMap_cons, allRuns_append_of_not_inLiteral, ih]
    · rfl
    · simp [Lexeme.marked, Lexeme.mode, inLiteral]
  | case5 c cs hquote hcomment ih =>
    rw [List.filterMap_cons, List.flatMap_cons, allRuns_append_of_not_inLiteral, ih]
    · rfl
    · simp [Lexeme.marked, Lexeme.mode, inLiteral]

/-- The string literals of a text as character lists. -/
def literalTexts (cs : List Char) : List (List Char) := (allRuns (marks .code cs)).filterMap readLiteral

theorem literals_eq (text : String) : literals text = (literalTexts text.toList).map String.ofList := by
  rw [literals, filterMap_literal?]
  rfl

end Script
end SqlToolkit
