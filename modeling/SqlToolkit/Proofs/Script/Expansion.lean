import SqlToolkit.Proofs.Script.Literal
import SqlToolkit.Proofs.Statement.Placeholder

/-!
# Expanding a text

The identifier tokens of a text are replaced by quoted names.  Where a token begins decides
what that does to the string literals (`tokenPlaces`): in a literal it changes the literal,
elsewhere it depends on the replacement (`Harmless`).

A text is compared with its expansion piece by piece.  All characters stand where they
stood, apart from the tokens and their replacements, and these are no part of a literal
(`rewritten_pieces`).
-/
namespace SqlToolkit.Script
open Text RawSql

/-! ## Changes outside literals -/

/-- A stretch of characters, none of them in a literal. -/
def Outside (ps : List (Char × Mode)) : Prop := ps ≠ [] ∧ ∀ p ∈ ps, inLiteral p = false

/-- Marked texts that differ in stretches outside literals. -/
inductive Rewritten : List (Char × Mode) → List (Char × Mode) → Prop
  | nil : Rewritten [] []
  | keep (p : Char × Mode) {ps qs : List (Char × Mode)} : Rewritten ps qs → Rewritten (p :: ps) (p :: qs)
  | swap {old new ps qs : List (Char × Mode)} :
    Outside old → Outside new → Rewritten ps qs → Rewritten (old ++ ps) (new ++ qs)

theorem runs_append_of_outside {front : List (Char × Mode)} (h : Outside front) (ps : List (Char × Mode)) :
    runs (front ++ ps) = ([], allRuns ps) := by
  obtain ⟨hne, hout⟩ := h
  cases front with
  | nil => exact absurd rfl hne
  | cons p front =>
    obtain ⟨hp, hfront⟩ := List.forall_mem_cons.1 hout
    rw [List.cons_append, runs_cons_of_not_inLiteral hp, allRuns_append_of_not_inLiteral hfront]

/-- Changes outside literals leave all literals as they are. -/
theorem Rewritten.runs_eq {ps qs : List (Char × Mode)} (h : Rewritten ps qs) : runs ps = runs qs := by
  induction h with
  | nil => rfl
  | keep p _ ih => rw [runs, runs, ih]
  | swap hold hnew _ ih =>
    rw [runs_append_of_outside hold, runs_append_of_outside hnew, allRuns, allRuns, ih]

theorem Rewritten.append_left {ps qs : List (Char × Mode)} (h : Rewritten ps qs) (front : List (Char × Mode)) :
    Rewritten (front ++ ps) (front ++ qs) := by
  induction front with
  | nil => exact h
  | cons p front ih => exact .keep p ih

/-! ## Texts that are passed over -/

/-- A text that is read in a mode leaves the mode as it was and holds nothing of a literal. -/
structure Passes (mode : Mode) (cs : List Char) : Prop where
  head?_ne : cs.head? ≠ some '-'
  exists_marks (rest : List Char) : ∃ ps, Outside ps ∧ marks mode (cs ++ rest) = ps ++ marks mode rest

theorem Passes.ne_nil {mode : Mode} {cs : List Char} (h : Passes mode cs) : cs ≠ [] := by
  rintro rfl
  obtain ⟨ps, hps, hmarks⟩ := h.exists_marks []
  exact hps.1 (List.append_eq_nil_iff.1 hmarks.symm).1

theorem Passes.head?_append_ne {mode : Mode} {cs : List Char} (h : Passes mode cs) (more : List Char) :
    (cs ++ more).head? ≠ some '-' := by
  cases cs with
  | nil => exact absurd rfl h.ne_nil
  | cons c cs => exact h.head?_ne

theorem Passes.append {mode : Mode} {cs ds : List Char} (hcs : Passes mode cs) (hds : Passes mode ds) :
    Passes mode (cs ++ ds) := by
  refine ⟨hcs.head?_append_ne ds, fun rest => ?_⟩
  obtain ⟨ps, hps, hcsmarks⟩ := hcs.exists_marks (ds ++ rest)
  obtain ⟨qs, hqs, hdsmarks⟩ := hds.exists_marks rest
  refine ⟨ps ++ qs, ⟨by simp [hps.1], List.forall_mem_append.2 ⟨hps.2, hqs.2⟩⟩, ?_⟩
  rw [List.append_assoc, hcsmarks, hdsmarks, List.append_assoc]

theorem Mode.mark_of_next {mode : Mode} {c : Char} {cs : List Char} (h : mode.next c cs = mode) :
    mode.mark c cs = mode := by
  cases mode with
  | code => exact h
  | quoted quote => rfl
  | comment => exact h

/-- Characters that do not change the mode are all marked with it. -/
theorem marks_of_next {mode : Mode} {cs : List Char} (h : ∀ c ∈ cs, ∀ rest, mode.next c rest = mode)
    (rest : List Char) : marks mode (cs ++ rest) = cs.map (·, mode) ++ marks mode rest := by
  induction cs with
  | nil => rfl
  | cons c cs ih =>
    obtain ⟨hc, hcs⟩ := List.forall_mem_cons.1 h
    rw [List.cons_append, marks_cons, Mode.mark_of_next (hc _), hc, ih hcs]
    rfl

theorem passes_of_next {mode : Mode} {cs : List Char} (hmode : mode ≠ .quoted '\'') (hne : cs ≠ [])
    (hhead : cs.head? ≠ some '-') (h : ∀ c ∈ cs, ∀ rest, mode.next c rest = mode) : Passes mode cs := by
  refine ⟨hhead, fun rest => ⟨cs.map (·, mode), ⟨by simpa using hne, fun p hp => ?_⟩, marks_of_next h rest⟩⟩
  obtain ⟨c, -, rfl⟩ := List.mem_map.1 hp
  simpa [inLiteral] using hmode

/-! ### Characters without effect -/

/-- A character that changes no mode. -/
def isInert (c : Char) : Bool := !isQuote c && c != '-' && c != '\n'

theorem isInert_iff {c : Char} : isInert c = true ↔ isQuote c = false ∧ c ≠ '-' ∧ c ≠ '\n' := by
  simp [isInert, and_assoc]

theorem Mode.Known.next_of_isInert {mode : Mode} (hmode : mode.Known) {c : Char} (hc : isInert c = true)
    (rest : List Char) : mode.next c rest = mode := by
  obtain ⟨hquote, hhyphen, hline⟩ := isInert_iff.1 hc
  cases mode with
  | code =>
    refine Mode.next_code_of_plain hquote (Bool.eq_false_iff.2 fun hcomment => ?_)
    exact hhyphen (startsComment_cons_iff.1 hcomment).1
  | quoted quote =>
    refine Mode.next_quoted_of_ne ?_ rest
    rintro rfl
    rw [hmode c rfl] at hquote
    cases hquote
  | comment => exact Mode.next_comment_of_ne hline rest

theorem isInert_of_isTokenChar {c : Char} (h : isTokenChar c = true) : isInert c = true := by
  have hne : ∀ d, isTokenChar d = false → c ≠ d := by
    rintro d hd rfl
    rw [hd] at h
    cases h
  have hquote : isQuote c = false := by
    simp [isQuote, hne '\'' (by decide), hne '"' (by decide), hne '\x60' (by decide)]
  exact isInert_iff.2 ⟨hquote, hne '-' (by decide), hne '\n' (by decide)⟩

theorem isInert_of_mem_tokenSource {token first rest : List Char} {second : Option (List Char)}
    (h : readToken token = some (first, second, rest)) {c : Char} (hc : c ∈ tokenSource first second) :
    isInert c = true := by
  have hname {name : List Char} (hname : name ∈ tokenNames first second) (hmem : c ∈ name) :=
    isInert_of_isTokenChar (isTokenChar_of_readToken h hname hmem)
  have hpunctuation : isInert '<' = true ∧ isInert '.' = true ∧ isInert '>' = true := by decide
  cases second with
  | none =>
    simp only [tokenSource, tokenPiece, Piece.source, List.nil_append, List.cons_append, List.mem_cons,
      List.mem_append, List.not_mem_nil, or_false] at hc
    rcases hc with rfl | hc | rfl
    · exact hpunctuation.1
    · exact hname (by simp [tokenNames]) hc
    · exact hpunctuation.2.2
  | some column =>
    simp only [tokenSource, tokenPiece, Piece.source, List.nil_append, List.cons_append, List.append_assoc,
      List.mem_cons, List.mem_append, List.not_mem_nil, or_false] at hc
    rcases hc with rfl | hc | rfl | hc | rfl
    · exact hpunctuation.1
    · exact hname (by simp [tokenNames]) hc
    · exact hpunctuation.2.1
    · exact hname (by simp [tokenNames]) hc
    · exact hpunctuation.2.2

theorem exists_tokenSource (first : List Char) (second : Option (List Char)) :
    ∃ cs, tokenSource first second = '<' :: cs := by
  cases second <;> exact ⟨_, rfl⟩

theorem passes_tokenSource {mode : Mode} (hmode : mode.Known) (hliteral : mode ≠ .quoted '\'')
    {token first rest : List Char} {second : Option (List Char)}
    (h : readToken token = some (first, second, rest)) : Passes mode (tokenSource first second) := by
  obtain ⟨cs, hcs⟩ := exists_tokenSource first second
  refine passes_of_next hliteral (by simp [hcs]) (by simp [hcs]) fun c hc more => ?_
  exact hmode.next_of_isInert (isInert_of_mem_tokenSource h hc) more

/-! ## Tokens and their replacements -/

/-- Where the identifier tokens of marked characters begin. -/
def tokenPlaces : List (Char × Mode) → List Mode
  | [] => []
  | p :: ps =>
    if (readToken (p.1 :: ps.map Prod.fst)).isSome then p.2 :: tokenPlaces ps else tokenPlaces ps

theorem mem_tokenPlaces_cons {mode : Mode} (p : Char × Mode) {ps : List (Char × Mode)}
    (h : mode ∈ tokenPlaces ps) : mode ∈ tokenPlaces (p :: ps) := by
  rw [tokenPlaces]
  split
  · exact List.mem_cons_of_mem _ h
  · exact h

theorem mem_tokenPlaces_append_right {mode : Mode} (front : List (Char × Mode)) {ps : List (Char × Mode)}
    (h : mode ∈ tokenPlaces ps) : mode ∈ tokenPlaces (front ++ ps) := by
  induction front with
  | nil => exact h
  | cons p front ih => exact mem_tokenPlaces_cons p ih

/-- A token stays one when more text follows. -/
theorem mem_tokenPlaces_append_left {mode : Mode} {ps : List (Char × Mode)} (h : mode ∈ tokenPlaces ps)
    (more : List (Char × Mode)) : mode ∈ tokenPlaces (ps ++ more) := by
  induction ps with
  | nil => cases h
  | cons p ps ih =>
    rw [tokenPlaces] at h
    split at h
    · next htoken =>
      have htoken' := readToken_append htoken (more.map Prod.fst)
      rw [List.cons_append, ← List.map_append] at htoken'
      rw [List.cons_append, tokenPlaces, if_pos htoken']
      rcases List.mem_cons.1 h with rfl | h
      · exact List.mem_cons_self
      · exact List.mem_cons_of_mem _ (ih h)
    · exact mem_tokenPlaces_cons p (ih h)

/-- A token that is read in a mode begins there. -/
theorem mem_tokenPlaces_marks {mode : Mode} (hmode : mode.Known) {token first rest : List Char}
    {second : Option (List Char)} (h : readToken token = some (first, second, rest)) :
    mode ∈ tokenPlaces (marks mode token) := by
  obtain ⟨cs, hcs⟩ := exists_tokenSource first second
  have htoken : token = '<' :: (cs ++ rest) := by rw [eq_of_readToken h, hcs, List.cons_append]
  subst htoken
  have hmark : mode.mark '<' (cs ++ rest) = mode := Mode.mark_of_next (hmode.next_of_isInert (by decide) _)
  rw [marks_cons, tokenPlaces, map_fst_marks, h, hmark]
  exact List.mem_cons_self

variable {quote : String → Bool → String}

/-- Replacements for names are passed over where they are made in the mode. -/
structure Harmless (quote : String → Bool → String) (mode : Mode) : Prop where
  ne_literal : mode ≠ .quoted '\''
  passes (name : List Char) (isTable : Bool) : (∀ c ∈ name, isTokenChar c = true) →
    Passes mode (quote (String.ofList name) isTable).toList

theorem Harmless.passes_tokenText {mode : Mode} (hquote : Harmless quote mode) (hmode : mode.Known)
    {token first rest : List Char} {second : Option (List Char)} (h : readToken token = some (first, second, rest))
    (isTable : Bool) : Passes mode (tokenText quote isTable first second) := by
  have hfirst (isTable : Bool) := hquote.passes first isTable fun c hc =>
    isTokenChar_of_readToken h (by simp [tokenNames]) hc
  cases second with
  | none => exact hfirst isTable
  | some column =>
    have hsecond := hquote.passes column false fun c hc => isTokenChar_of_readToken h (by simp [tokenNames]) hc
    have hdot : Passes mode ['.'] := passes_of_next hquote.ne_literal (by simp) (by simp) fun c hc more => by
      rw [List.mem_singleton] at hc
      subst hc
      exact hmode.next_of_isInert (by decide) more
    exact (hfirst true).append (hdot.append hsecond)

/-! ### One piece after another -/

/-- A text after a character, with its tokens replaced. -/
def expanded (quote : String → Bool → String) (previous : Option Char) (cs : List Char) : List Char :=
  (pieces previous cs).flatMap fun piece => (piece.render quote).toList

theorem toList_expand (quote : String → Bool → String) (sql : String) :
    (expand quote sql).toList = expanded quote none sql.toList := by
  unfold expand expanded
  rw [String.toList_join, List.flatMap_map]

theorem expanded_nil (previous : Option Char) : expanded quote previous [] = [] := by
  rw [expanded, pieces]
  rfl

theorem expanded_cons (previous : Option Char) (c : Char) (cs : List Char) :
    expanded quote previous (c :: cs) = ((readPiece previous c cs).1.render quote).toList ++
      expanded quote (readPiece previous c cs).1.source.getLast? (readPiece previous c cs).2 := by
  rw [expanded, pieces, List.flatMap_cons]
  rfl

/-- The expansion of a text begins with a hyphen if the text does. -/
theorem head?_expanded (hopens : ∀ name isTable, ∃ c cs, (quote name isTable).toList = c :: cs ∧ c ≠ '-')
    (previous : Option Char) (cs : List Char) : (expanded quote previous cs).head? = some '-' ↔ cs.head? = some '-' := by
  cases cs with
  | nil => simp [expanded, pieces]
  | cons c cs =>
    rw [expanded_cons]
    rcases readPiece_eq previous c cs with hpiece | ⟨keyword, token, first, second, rest, hpiece, hcs, htoken⟩
    · simp [hpiece, Piece.render]
    · obtain ⟨ds, hds⟩ := exists_tokenSource first second
      have htoken' : token.head? ≠ some '-' := by
        rw [eq_of_readToken htoken, hds]
        simp
      have hopen : ∃ d ds, tokenText quote (!keyword.isEmpty) first second = d :: ds ∧ d ≠ '-' := by
        cases second with
        | none => exact hopens _ _
        | some column =>
          obtain ⟨d, ds, hquote, hd⟩ := hopens (String.ofList first) true
          exact ⟨d, _, by rw [tokenText, hquote]; rfl, hd⟩
      obtain ⟨d, ds, htext, hd⟩ := hopen
      rw [hpiece, render_tokenPiece, List.append_assoc, head?_append_iff (by simp [htext, hd]), hcs,
        head?_append_iff htoken']

/-- **A text and its expansion** differ outside literals only, if no token begins where its
replacement does harm. -/
theorem rewritten_pieces (hopens : ∀ name isTable, ∃ c cs, (quote name isTable).toList = c :: cs ∧ c ≠ '-')
    (previous : Option Char) (cs : List Char) {mode : Mode} (hmode : mode.Known)
    (hplaces : ∀ place ∈ tokenPlaces (marks mode cs), Harmless quote place) :
    Rewritten (marks mode cs) (marks mode (expanded quote previous cs)) := by
  induction hn : cs.length using Nat.strong_induction_on generalizing previous cs mode with
  | _ n ih =>
    subst hn
    cases cs with
    | nil =>
      rw [expanded, pieces]
      exact .nil
    | cons c cs =>
      rw [expanded_cons]
      rcases readPiece_eq previous c cs with hpiece | ⟨keyword, token, first, second, rest, hpiece, hcs, htoken⟩
      · -- a character that stays is marked as before, since what follows begins alike
        have hhead := head?_expanded hopens (Piece.plain c).source.getLast? cs
        have hrender : ((Piece.plain c).render quote).toList = [c] := by simp [Piece.render]
        rw [hpiece, hrender, List.singleton_append, marks_cons, marks_cons, Mode.mark_congr hhead,
          Mode.next_congr hhead]
        refine .keep _ (ih cs.length (by simp) _ cs (hmode.next c cs) (fun place hplace => ?_) rfl)
        exact hplaces place (mem_tokenPlaces_cons _ hplace)
      · obtain ⟨ds, hds⟩ := exists_tokenSource first second
        have hsource := eq_of_readToken htoken
        have hhead : token.head? ≠ some '-' := by
          rw [hsource, hds]
          simp
        have hinside := hmode.after keyword
        rw [hcs, marks_append _ _ hhead] at hplaces ⊢
        have hharmless := hplaces _ (mem_tokenPlaces_append_right _ (mem_tokenPlaces_marks hinside htoken))
        have hold := passes_tokenSource hinside hharmless.ne_literal htoken
        have hnew := hharmless.passes_tokenText hinside htoken (!keyword.isEmpty)
        obtain ⟨old, hout, hmarks⟩ := hold.exists_marks rest
        obtain ⟨new, hout', hmarks'⟩ := hnew.exists_marks
          (expanded quote (tokenPiece keyword first second).source.getLast? rest)
        rw [hpiece, render_tokenPiece, List.append_assoc, marks_append _ _ (hnew.head?_append_ne _), hmarks', hsource,
          hmarks]
        rw [hsource, hmarks] at hplaces
        refine .append_left (.swap hout hout' (ih rest.length ?_ _ rest hinside (fun place hplace => ?_) rfl)) _
        · have hlength := congrArg List.length hcs
          rw [hsource, hds] at hlength
          simp only [List.length_cons, List.length_append] at hlength ⊢
          omega
        · exact hplaces place (mem_tokenPlaces_append_right _ (mem_tokenPlaces_append_right _ hplace))

end SqlToolkit.Script
