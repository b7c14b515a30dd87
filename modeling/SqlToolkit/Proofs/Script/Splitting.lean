import SqlToolkit.Proofs.Script.Lexeme
import SqlToolkit.Proofs.Text.Trim

/-!
# Splitting a script

A script is split at its semicolons in code.  A text without any is *whole*, and a script
is a whole text, or a whole text that ends in code, a semicolon and a script.  Facts about
splitting are proved along this (`semicolonInduction`).

The main theorem is `statements_exact`: the statements are the segments between these
semicolons, trimmed, without those of blanks and comments.  That these are told by lines is
no different from looking at each character (`isVoid_eq_all_marks`).  Statements that were
split off can be joined and split again.
-/
namespace SqlToolkit
namespace Script
open Text

/-! ## Whole texts -/

/-- A text that is read from a mode on has no semicolon in code. -/
def Whole (mode : Mode) (cs : List Char) : Prop := segments mode cs = [cs]

theorem segments_cons {mode : Mode} {c : Char} (h : ¬(mode = .code ∧ c = ';')) (cs : List Char) :
    segments mode (c :: cs) = extendFirst c (segments (mode.next c cs) cs) := by
  rw [segments, if_neg h]

theorem segments_semicolon (cs : List Char) : segments .code (';' :: cs) = [] :: segments .code cs := by
  simp [segments]

theorem extendFirst_eq_singleton {c : Char} {cs : List Char} {parts : List (List Char)} (h : parts ≠ []) :
    extendFirst c parts = [c :: cs] ↔ parts = [cs] := by
  cases parts with
  | nil => exact absurd rfl h
  | cons part parts => simp [extendFirst]

theorem whole_nil (mode : Mode) : Whole mode [] := rfl

theorem whole_cons {mode : Mode} {c : Char} {cs : List Char} :
    Whole mode (c :: cs) ↔ ¬(mode = .code ∧ c = ';') ∧ Whole (mode.next c cs) cs := by
  by_cases h : mode = .code ∧ c = ';'
  · obtain ⟨rfl, rfl⟩ := h
    simp [Whole, segments_semicolon]
  · unfold Whole
    rw [segments_cons h, extendFirst_eq_singleton (segments_ne_nil _ _)]
    simp [h]

theorem whole_append (mode : Mode) (a : List Char) {b : List Char} (hb : b.head? ≠ some '-') :
    Whole mode (a ++ b) ↔ Whole mode a ∧ Whole (after mode a) b := by
  induction a generalizing mode with
  | nil => simp [whole_nil]
  | cons c cs ih =>
    rw [List.cons_append, whole_cons, whole_cons, after_cons, Mode.next_congr (head?_append_iff hb), ih, and_assoc]

/-- A semicolon in code ends the first segment. -/
theorem segments_append {mode : Mode} {a : List Char} (ha : Whole mode a) (hcode : after mode a = .code)
    (b : List Char) : segments mode (a ++ ';' :: b) = a :: segments .code b := by
  have hb : (';' :: b).head? ≠ some '-' := by simp
  induction a generalizing mode with
  | nil =>
    rw [after_nil] at hcode
    subst hcode
    exact segments_semicolon b
  | cons c cs ih =>
    obtain ⟨hc, hcs⟩ := whole_cons.1 ha
    rw [List.cons_append, segments_cons hc, Mode.next_congr (head?_append_iff hb), ih hcs hcode]
    rfl

theorem whole_or_exists (mode : Mode) (cs : List Char) :
    Whole mode cs ∨ ∃ a b, cs = a ++ ';' :: b ∧ Whole mode a ∧ after mode a = .code := by
  induction cs generalizing mode with
  | nil => exact .inl (whole_nil mode)
  | cons c cs ih =>
    by_cases hc : mode = .code ∧ c = ';'
    · obtain ⟨rfl, rfl⟩ := hc
      exact .inr ⟨[], cs, rfl, whole_nil _, rfl⟩
    · rcases ih (mode.next c cs) with hwhole | ⟨a, b, rfl, ha, hcode⟩
      · exact .inl (whole_cons.2 ⟨hc, hwhole⟩)
      · have hb : (';' :: b).head? ≠ some '-' := by simp
        rw [Mode.next_congr (head?_append_iff hb)] at ha hcode
        exact .inr ⟨c :: a, b, rfl, whole_cons.2 ⟨hc, ha⟩, hcode⟩

/-- **A script is a whole text**, or a whole text that ends in code, a semicolon and a
script. -/
theorem semicolonInduction {motive : List Char → Prop} (whole : ∀ cs, Whole .code cs → motive cs)
    (semicolon : ∀ a b, Whole .code a → after .code a = .code → motive b → motive (a ++ ';' :: b))
    (cs : List Char) : motive cs := by
  induction hn : cs.length using Nat.strong_induction_on generalizing cs with
  | _ n ih =>
    subst hn
    rcases whole_or_exists .code cs with hwhole | ⟨a, b, rfl, ha, hcode⟩
    · exact whole cs hwhole
    · refine semicolon a b ha hcode (ih b.length ?_ b rfl)
      rw [List.length_append, List.length_cons]
      omega

/-! ### Semicolons and marks -/

/-- A whole text has no semicolon that is marked as code. -/
theorem Whole.not_mem_marks {mode : Mode} {cs : List Char} (h : Whole mode cs) : (';', .code) ∉ marks mode cs := by
  induction cs generalizing mode with
  | nil => simp
  | cons c cs ih =>
    obtain ⟨hc, hcs⟩ := whole_cons.1 h
    rw [marks_cons, List.mem_cons, not_or]
    refine ⟨?_, ih hcs⟩
    rintro heq
    obtain ⟨rfl, hmark⟩ := Prod.ext_iff.1 heq
    cases mode with
    | code => exact hc ⟨rfl, rfl⟩
    | quoted quote => cases hmark
    | comment => cases hmark

theorem marks_semicolon (a b : List Char) (hcode : after .code a = .code) :
    marks .code (a ++ ';' :: b) = marks .code a ++ (';', .code) :: marks .code b := by
  rw [marks_append .code a (by simp), hcode]
  rfl

/-- Splitting the marked characters gives the segments, each marked as if it stood alone. -/
theorem splitOn_marks (cs : List Char) :
    (marks .code cs).splitOn (';', .code) = (segments .code cs).map (marks .code) := by
  have hwhole : ∀ a, Whole .code a → (marks .code a).splitOn (';', .code) = [marks .code a] := by
    intro a ha
    refine List.splitOnP_eq_singleton fun p hp => ?_
    rw [beq_eq_false_iff_ne]
    rintro rfl
    exact ha.not_mem_marks hp
  induction cs using semicolonInduction with
  | whole cs h => rw [hwhole cs h, show segments .code cs = [cs] from h, List.map_singleton]
  | semicolon a b ha hcode ih =>
    have hsplit : (marks .code (a ++ ';' :: b)).splitOn (';', .code) =
        (marks .code a).splitOn (';', .code) ++ (marks .code b).splitOn (';', .code) := by
      rw [marks_semicolon a b hcode]
      exact List.splitOnP_append_cons _ _ (beq_self_eq_true _)
    rw [hsplit, hwhole a ha, ih, segments_append ha hcode]
    rfl

/-! ## Nothing to run -/

/-- A character is blank or stands in a comment. -/
def isDull (p : Char × Mode) : Bool := isBlank p.1 || p.2 == .comment

theorem isQuote_eq_false_of_blank {c : Char} (h : isBlank c = true) : isQuote c = false := by
  rw [Bool.eq_false_iff]
  intro hquote
  simp only [isQuote, Bool.or_eq_true, decide_eq_true_eq] at hquote
  rcases hquote with (rfl | rfl) | rfl <;> exact absurd h (by decide)

theorem Mode.next_code_of_blank {c : Char} (h : isBlank c = true) (cs : List Char) :
    Mode.code.next c cs = .code := by
  refine Mode.next_code_of_plain (isQuote_eq_false_of_blank h) (Bool.eq_false_iff.2 fun hcomment => ?_)
  obtain ⟨rfl, -⟩ := startsComment_cons_iff.1 hcomment
  exact absurd h (by decide)

/-- The first line of a text begins with a hyphen if the text does. -/
theorem head?_of_lines {cs first : List Char} {rest : List (List Char)} (h : lines cs = first :: rest) :
    first.head? = some '-' ↔ cs.head? = some '-' := by
  cases cs with
  | nil =>
    cases h
    rfl
  | cons c cs =>
    rw [lines] at h
    split at h
    · next hc =>
      cases h
      simp [hc]
    · cases hcs : lines cs <;> rw [hcs] at h <;> cases h <;> simp

theorem exists_lines (cs : List Char) : ∃ first rest, lines cs = first :: rest := by
  cases cs with
  | nil => exact ⟨[], [], rfl⟩
  | cons c cs =>
    rw [lines]
    split
    · exact ⟨_, _, rfl⟩
    · cases lines cs <;> exact ⟨_, _, rfl⟩

theorem isVoidLine_cons_of_blank {c : Char} (h : isBlank c = true) (line : List Char) :
    isVoidLine (c :: line) = isVoidLine line := by
  unfold isVoidLine
  rw [trimBlanks_cons_of_blank h]

/-- A line that does not begin with a blank is void if it begins as a comment. -/
theorem isVoidLine_cons_of_not_blank {c : Char} (h : isBlank c = false) (line : List Char) :
    isVoidLine (c :: line) = startsComment (c :: line) := by
  unfold isVoidLine
  rw [trimBlanks_cons_of_not_blank h]
  obtain ⟨blanks, hblanks, hline⟩ := exists_dropTrailingBlanks line
  have hhead := head?_append_iff (a := dropTrailingBlanks line) (hblanks.head?_ne isBlank_hyphen)
  rw [← hline] at hhead
  rw [startsComment_congr hhead]
  rfl

/-- Code is void by its lines if it is by its characters, and a comment if the lines after
the first are. -/
theorem all_isVoidLine (cs : List Char) :
    (lines cs).all isVoidLine = (marks .code cs).all isDull ∧
      (lines cs).tail.all isVoidLine = (marks .comment cs).all isDull := by
  induction cs with
  | nil => exact ⟨by decide, by decide⟩
  | cons c cs ih =>
    obtain ⟨hcode, hcomment⟩ := ih
    by_cases hnewline : c = '\n'
    · subst hnewline
      have hline : (lines ('\n' :: cs)) = [] :: lines cs := rfl
      have hblank : isDull ('\n', .code) = true := by decide
      have hvoid : isVoidLine [] = true := by decide
      constructor
      · rw [hline, List.all_cons, hcode, hvoid, Bool.true_and, marks_cons, Mode.mark_code,
          Mode.next_code_of_blank (by decide), List.all_cons, hblank, Bool.true_and]
      · rw [hline, List.tail_cons, hcode]
        show _ = (isDull ('\n', .code) && (marks .code cs).all isDull)
        rw [hblank, Bool.true_and]
    obtain ⟨first, rest, hlines⟩ := exists_lines cs
    have hextended : lines (c :: cs) = (c :: first) :: rest := by
      rw [lines, if_neg hnewline, hlines]
      rfl
    rw [hlines, List.all_cons] at hcode
    rw [hlines, List.tail_cons] at hcomment
    rw [hextended, List.tail_cons, List.all_cons, marks_cons, marks_cons, List.all_cons, List.all_cons,
      Mode.mark_code, Mode.mark_comment, Mode.next_comment_of_ne hnewline]
    refine ⟨?_, by rw [hcomment]; simp [isDull]⟩
    by_cases hblank : isBlank c = true
    · rw [isVoidLine_cons_of_blank hblank, hcode, Mode.next_code_of_blank hblank]
      simp [isDull, hblank]
    rw [Bool.not_eq_true] at hblank
    rw [isVoidLine_cons_of_not_blank hblank, startsComment_congr (head?_of_lines hlines)]
    by_cases hstart : startsComment (c :: cs) = true
    · rw [Mode.next_code_of_startsComment hstart, hstart, hcomment]
      simp [isDull]
    · rw [Bool.not_eq_true] at hstart
      have hmark : Mode.code.next c cs ≠ .comment := by
        rw [Ne, Mode.next_code_eq_comment_iff, hstart]
        exact Bool.false_ne_true
      simp [isDull, hstart, hblank, hmark]

theorem isVoid_eq_all_marks (cs : List Char) : isVoid cs = (marks .code cs).all isDull := (all_isVoidLine cs).1

/-! ### Blanks around a text -/

theorem after_blank {front : List Char} (h : Blank front) (cs : List Char) :
    after .code (front ++ cs) = after .code cs := by
  induction front with
  | nil => rfl
  | cons c front ih =>
    obtain ⟨hc, hfront⟩ := List.forall_mem_cons.1 h
    rw [List.cons_append, after_cons, Mode.next_code_of_blank hc, ih hfront]

theorem marks_blank {front : List Char} (h : Blank front) (cs : List Char) :
    marks .code (front ++ cs) = front.map (·, .code) ++ marks .code cs := by
  induction front with
  | nil => rfl
  | cons c front ih =>
    obtain ⟨hc, hfront⟩ := List.forall_mem_cons.1 h
    rw [List.cons_append, marks_cons, Mode.mark_code, Mode.next_code_of_blank hc, ih hfront]
    rfl

theorem whole_blank {front : List Char} (h : Blank front) {cs : List Char} :
    Whole .code (front ++ cs) ↔ Whole .code cs := by
  induction front with
  | nil => rfl
  | cons c front ih =>
    obtain ⟨hc, hfront⟩ := List.forall_mem_cons.1 h
    have hne : c ≠ ';' := by
      rintro rfl
      exact absurd hc (by decide)
    rw [List.cons_append, whole_cons, Mode.next_code_of_blank hc, ih hfront]
    simp [hne]

theorem all_isDull_of_blank {ps : List (Char × Mode)} (h : Blank (ps.map Prod.fst)) : ps.all isDull = true := by
  refine List.all_eq_true.2 fun p hp => ?_
  rw [isDull, h p.1 (List.mem_map_of_mem hp)]
  rfl

/-- What is left of a text when it is trimmed is marked as it was. -/
theorem marks_trimBlanks (cs : List Char) : ∃ front back, Blank front ∧ Blank back ∧
    marks .code cs = front.map (·, .code) ++ (marks .code (trimBlanks cs) ++
      marks (after .code (trimBlanks cs)) back) := by
  obtain ⟨front, back, hfront, hback, hcs⟩ := exists_trimmed cs
  refine ⟨front, back, hfront, hback, ?_⟩
  rw [← marks_append _ _ (hback.head?_ne isBlank_hyphen), ← marks_blank hfront, ← hcs]

/-- A text is as dull as what is left of it when it is trimmed. -/
theorem all_isDull_trimBlanks (cs : List Char) :
    (marks .code (trimBlanks cs)).all isDull = (marks .code cs).all isDull := by
  obtain ⟨front, back, hfront, hback, hmarks⟩ := marks_trimBlanks cs
  have hdullFront : (front.map (·, Mode.code)).all isDull = true :=
    all_isDull_of_blank (by simpa [Function.comp_def] using hfront)
  have hdullBack : (marks (after .code (trimBlanks cs)) back).all isDull = true :=
    all_isDull_of_blank (by simpa using hback)
  rw [hmarks, List.all_append, List.all_append, hdullFront, hdullBack, Bool.true_and, Bool.and_true]

theorem Whole.trimBlanks {cs : List Char} (h : Whole .code cs) : Whole .code (trimBlanks cs) := by
  obtain ⟨front, back, hfront, hback, hcs⟩ := exists_trimmed cs
  rw [hcs, whole_blank hfront, whole_append _ _ (hback.head?_ne isBlank_hyphen)] at h
  exact h.1

/-! ## Statements -/

/-- The statements of a script as character lists. -/
def texts (cs : List Char) : List (List Char) := ((segments .code cs).map trimBlanks).filter fun text => !isVoid text

theorem statements_eq (script : String) : statements script = (texts script.toList).map String.ofList := rfl

/-- A text that splitting gives: whole, trimmed, and with something to run. -/
structure IsStatement (text : List Char) : Prop where
  whole : Whole .code text
  trimmed : trimBlanks text = text
  isVoid_eq : isVoid text = false

theorem texts_of_whole {cs : List Char} (h : Whole .code cs) :
    texts cs = if isVoid (trimBlanks cs) then [] else [trimBlanks cs] := by
  unfold texts
  rw [show segments .code cs = [cs] from h, List.map_singleton]
  cases hvoid : isVoid (trimBlanks cs) <;> simp [hvoid]

/-- A comment runs to the end of its line, so nothing in it ends a statement or is one. -/
theorem whole_comment {line : List Char} (h : '\n' ∉ line) :
    Whole .comment (line ++ ['\n']) ∧ (marks .comment (line ++ ['\n'])).all isDull = true := by
  induction line with
  | nil => exact ⟨whole_cons.2 ⟨by simp, whole_nil _⟩, by decide⟩
  | cons c line ih =>
    rw [List.mem_cons, not_or] at h
    obtain ⟨hwhole, hdull⟩ := ih h.2
    have hnext (rest : List Char) : Mode.comment.next c rest = .comment := Mode.next_comment_of_ne (Ne.symm h.1) rest
    rw [List.cons_append, whole_cons, marks_cons, List.all_cons, Mode.mark_comment, hnext, hdull]
    exact ⟨⟨by simp, hwhole⟩, by simp [isDull]⟩

/-- **A line of comment** is a script without statements. -/
theorem statements_comment {line : String} (h : '\n' ∉ line.toList) : statements ("--" ++ line ++ "\n") = [] := by
  have hchars : ("--" ++ line ++ "\n").toList = '-' :: ('-' :: line.toList ++ ['\n']) := by simp
  have hnext : Mode.code.next '-' ('-' :: line.toList ++ ['\n']) = .comment := Mode.next_code_of_startsComment rfl
  have hhyphen : '\n' ∉ '-' :: line.toList := by simpa using h
  obtain ⟨hwhole, hdull⟩ := whole_comment hhyphen
  have hwhole : Whole .code ('-' :: ('-' :: line.toList ++ ['\n'])) := whole_cons.2 ⟨by simp, hnext ▸ hwhole⟩
  have hdull : (marks .code ('-' :: ('-' :: line.toList ++ ['\n']))).all isDull = true := by
    rw [marks_cons, List.all_cons, Mode.mark_code, hnext, hdull]
    simp [isDull]
  rw [statements_eq, hchars, texts_of_whole hwhole, isVoid_eq_all_marks, all_isDull_trimBlanks, hdull]
  rfl

theorem texts_append {a : List Char} (ha : Whole .code a) (hcode : after .code a = .code) (b : List Char) :
    texts (a ++ ';' :: b) = texts a ++ texts b := by
  unfold texts
  rw [segments_append ha hcode, show segments .code a = [a] from ha, List.map_cons, List.map_singleton,
    ← List.singleton_append, List.filter_append]

theorem IsStatement.texts_eq {text : List Char} (h : IsStatement text) : texts text = [text] := by
  rw [texts_of_whole h.whole, h.trimmed, h.isVoid_eq]
  rfl

/-- Blanks in front of a script make no difference. -/
theorem texts_cons_of_blank {c : Char} (h : isBlank c = true) (cs : List Char) : texts (c :: cs) = texts cs := by
  have hne : c ≠ ';' := by
    rintro rfl
    exact absurd h (by decide)
  unfold texts
  rw [segments_cons (by simp [hne]), Mode.next_code_of_blank h]
  cases hcs : segments .code cs with
  | nil => exact absurd hcs (segments_ne_nil _ _)
  | cons part parts => rw [extendFirst, List.map_cons, trimBlanks_cons_of_blank h, List.map_cons]

/-! ### Joining statements -/

/-- A text does not end inside quotes. -/
def Sealed (text : List Char) : Prop := ∀ quote, after .code text ≠ .quoted quote

/-- Statements that can be written one after another: all but the last are sealed. -/
inductive Joinable : List (List Char) → Prop
  | nil : Joinable []
  | last {text : List Char} : IsStatement text → Joinable [text]
  | next {text : List Char} {rest : List (List Char)} :
    IsStatement text → Sealed text → Joinable rest → Joinable (text :: rest)

/-- Blanks close no quote. -/
theorem after_quoted_blank {quote : Char} (hquote : isQuote quote = true) {back : List Char} (h : Blank back) :
    after (.quoted quote) back = .quoted quote := by
  induction back with
  | nil => rfl
  | cons c back ih =>
    obtain ⟨hc, hback⟩ := List.forall_mem_cons.1 h
    have hne : c ≠ quote := by
      rintro rfl
      rw [isQuote_eq_false_of_blank hc] at hquote
      cases hquote
    rw [after_cons, Mode.next_quoted_of_ne hne, ih hback]

/-- Trimming opens no quote. -/
theorem Sealed.trimBlanks {cs : List Char} (h : Sealed cs) : Sealed (trimBlanks cs) := by
  obtain ⟨front, back, hfront, hback, hcs⟩ := exists_trimmed cs
  intro quote hopen
  have hquote : isQuote quote = true := Mode.known_code.after _ quote hopen
  refine h quote ?_
  rw [hcs, after_blank hfront, after_append _ _ (hback.head?_ne isBlank_hyphen), hopen,
    after_quoted_blank hquote hback]

theorem sealed_of_code {cs : List Char} (h : after .code cs = .code) : Sealed cs := by
  intro quote hquote
  rw [h] at hquote
  cases hquote

theorem isStatement_trimBlanks {cs : List Char} (h : Whole .code cs) (hfull : isVoid (trimBlanks cs) = false) :
    IsStatement (trimBlanks cs) :=
  ⟨h.trimBlanks, trimBlanks_trimBlanks cs, hfull⟩

/-- Splitting gives statements that can be joined. -/
theorem joinable_texts (cs : List Char) : Joinable (texts cs) := by
  induction cs using semicolonInduction with
  | whole cs h =>
    rw [texts_of_whole h]
    cases hvoid : isVoid (trimBlanks cs) with
    | true => exact .nil
    | false => exact .last (isStatement_trimBlanks h hvoid)
  | semicolon a b ha hcode ih =>
    rw [texts_append ha hcode, texts_of_whole ha]
    cases hvoid : isVoid (trimBlanks a) with
    | true => exact ih
    | false => exact .next (isStatement_trimBlanks ha hvoid) (sealed_of_code hcode).trimBlanks ih

theorem Joinable.isStatement {parts : List (List Char)} (h : Joinable parts) {text : List Char} (hmem : text ∈ parts) :
    IsStatement text := by
  induction h with
  | nil => cases hmem
  | last hlast =>
    rw [List.mem_singleton] at hmem
    rwa [hmem]
  | next htext _ _ ih =>
    rcases List.mem_cons.1 hmem with rfl | hmem
    · exact htext
    · exact ih hmem

/-- A new line ends what a sealed statement left open, which can only be a comment. -/
theorem IsStatement.texts_newline {text : List Char} (h : IsStatement text) (hsealed : Sealed text) :
    Whole .code (text ++ ['\n']) ∧ after .code (text ++ ['\n']) = .code ∧ texts (text ++ ['\n']) = [text] := by
  have hwhole : Whole .code (text ++ ['\n']) := by
    rw [whole_append _ _ (by simp)]
    refine ⟨h.whole, whole_cons.2 ⟨by simp, whole_nil _⟩⟩
  refine ⟨hwhole, ?_, ?_⟩
  · rw [after_append _ _ (by simp)]
    cases hmode : after .code text with
    | code => rfl
    | quoted quote => exact absurd hmode (hsealed quote)
    | comment => rfl
  · have hblank : Blank ['\n'] := by decide
    rw [texts_of_whole hwhole, trimBlanks_append hblank, h.trimmed, h.isVoid_eq]
    rfl

/-- Joined statements are split where they were joined. -/
theorem Joinable.texts_intercalate {parts : List (List Char)} (h : Joinable parts) :
    texts (['\n', ';', '\n'].intercalate parts) = parts := by
  induction h with
  | nil => decide
  | last hlast => rw [List.intercalate_singleton, hlast.texts_eq]
  | @next text rest htext hsealed _ ih =>
    cases rest with
    | nil => rw [List.intercalate_singleton, htext.texts_eq]
    | cons other rest =>
      obtain ⟨hwhole, hcode, htexts⟩ := htext.texts_newline hsealed
      have hjoined : ['\n', ';', '\n'].intercalate (text :: other :: rest) =
          (text ++ ['\n']) ++ ';' :: '\n' :: ['\n', ';', '\n'].intercalate (other :: rest) := by
        rw [List.intercalate_cons_cons]
        simp
      rw [hjoined, texts_append hwhole hcode, htexts, texts_cons_of_blank (by decide), ih]
      rfl

/-- The statements are the segments between semicolons in code, as far as there is something
to run. -/
theorem texts_eq_splitOn (cs : List Char) :
    texts cs = (((marked cs).splitOn (';', .code)).filter fun segment => !segment.all isDull).map
      fun segment => trimBlanks (segment.map Prod.fst) := by
  have hdull (text : List Char) : isVoid (trimBlanks text) = (marks .code text).all isDull := by
    rw [isVoid_eq_all_marks, all_isDull_trimBlanks]
  unfold texts
  rw [marked_eq_marks, splitOn_marks, List.filter_map, List.filter_map, List.map_map]
  simp only [Function.comp_def, hdull, map_fst_marks]

/-- **A script is split exactly at its semicolons in code.**  Its statements are the
segments between them, trimmed and in order, without the segments that hold only blanks and
comments; marking and splitting lose no character and add none.  Each statement splits into
itself alone, and the statements can be joined and split again. -/
theorem statements_exact (script : String) :
    (marked script.toList).map Prod.fst = script.toList ∧
      [(';', Mode.code)].intercalate ((marked script.toList).splitOn (';', .code)) = marked script.toList ∧
      statements script =
        (((marked script.toList).splitOn (';', .code)).filter fun segment => !segment.all isDull).map
          (fun segment => Text.trim (String.ofList (segment.map Prod.fst))) ∧
      (∀ text ∈ statements script, statements text = [text]) ∧
      statements ("\n;\n".intercalate (statements script)) = statements script := by
  refine ⟨?_, List.intercalate_splitOn _, ?_, ?_, ?_⟩
  · rw [marked_eq_marks, map_fst_marks]
  · rw [statements_eq, texts_eq_splitOn, List.map_map]
    simp only [Function.comp_def, Text.trim, String.toList_ofList]
  · intro text htext
    obtain ⟨cs, hcs, rfl⟩ := List.mem_map.1 htext
    rw [statements_eq, String.toList_ofList, ((joinable_texts _).isStatement hcs).texts_eq, List.map_singleton]
  · have hjoined : ("\n;\n".intercalate (statements script)).toList =
        ['\n', ';', '\n'].intercalate (texts script.toList) := by
      rw [String.toList_intercalate, statements_eq, List.map_map]
      simp [Function.comp_def]
    rw [statements_eq, hjoined, (joinable_texts _).texts_intercalate, statements_eq]

end Script
end SqlToolkit
