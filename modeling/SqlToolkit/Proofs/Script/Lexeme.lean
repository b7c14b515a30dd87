import SqlToolkit.Migration.Script
import SqlToolkit.Proofs.Text.Quoted

/-!
# The lexemes of a script

A script is cut into code, quoted texts and comments in two ways.  `lexemes` reads it one
stretch after another: a quote is read up to its end, where a doubled quote is a character
of the text, and a comment up to the end of the line.  `marks` reads it one character after
another and keeps a mode, as splitting a script does; there a doubled quote ends one text
and starts the next.

Both say the same of every character (`marked_eq_marks`).  So a fact about splitting can be
stated in the words of the first and proved by induction along the second.
-/
namespace SqlToolkit.Script
open Text

/-! ## One stretch after another -/

/-- A stretch of a script. -/
inductive Lexeme where
  /-- A character outside quotes and comments. -/
  | code (c : Char)
  /-- A text in quotes; a quote inside it is written twice. -/
  | quoted (quote : Char) (content : List Char)
  /-- A quote that is never closed, with all that follows. -/
  | unclosed (quote : Char) (rest : List Char)
  /-- A comment, from its hyphens to the end of the line. -/
  | comment (text : List Char)
deriving DecidableEq, Repr

namespace Lexeme

/-- The stretch as it is written. -/
def source : Lexeme → List Char
  | code c => [c]
  | quoted quote content => enclose quote quote content
  | unclosed quote rest => quote :: rest
  | comment text => text

/-- Where the characters of the stretch stand. -/
def mode : Lexeme → Mode
  | code _ => .code
  | quoted quote _ => .quoted quote
  | unclosed quote _ => .quoted quote
  | comment _ => .comment

/-- The characters, each with where it stands. -/
def marked (x : Lexeme) : List (Char × Mode) := x.source.map fun c => (c, x.mode)

/-- The stretch is no open quote. -/
def isClosed : Lexeme → Bool
  | unclosed _ _ => false
  | _ => true

end Lexeme

/-- The stretches of a script, in order. -/
def lexemes : List Char → List Lexeme
  | [] => []
  | c :: cs =>
    if isQuote c then
      match _h : readEnclosed c cs with
      | some (content, rest) => .quoted c content :: lexemes rest
      | none => [.unclosed c cs]
    else if startsComment (c :: cs) then
      .comment (c :: cs.takeWhile (· != '\n')) :: lexemes (cs.dropWhile (· != '\n'))
    else .code c :: lexemes cs
termination_by cs => cs.length
decreasing_by
  · have := length_of_readEnclosed _h
    simp only [List.length_cons]
    omega
  · have := (List.dropWhile_suffix (· != '\n') (l := cs)).length_le
    simp only [List.length_cons]
    omega
  · simp

/-- The characters of a script, each with where it stands. -/
def marked (cs : List Char) : List (Char × Mode) := (lexemes cs).flatMap Lexeme.marked

/-- Every quote of the script is closed. -/
def isClosed (script : String) : Bool := (lexemes script.toList).all Lexeme.isClosed

/-! ## One character after another -/

/-- Where a character stands that is read in a mode: the quotes around a text belong to it,
and the end of the line does not belong to a comment. -/
def Mode.mark (mode : Mode) (c : Char) (rest : List Char) : Mode :=
  match mode with
  | .quoted quote => .quoted quote
  | other => other.next c rest

/-- The characters of a text that is read from a mode on, each with where it stands. -/
def marks (mode : Mode) : List Char → List (Char × Mode)
  | [] => []
  | c :: cs => (c, mode.mark c cs) :: marks (mode.next c cs) cs

/-- The mode after a text. -/
def after (mode : Mode) : List Char → Mode
  | [] => mode
  | c :: cs => after (mode.next c cs) cs

@[simp] theorem marks_nil (mode : Mode) : marks mode [] = [] := rfl

@[simp] theorem after_nil (mode : Mode) : after mode [] = mode := rfl

theorem marks_cons (mode : Mode) (c : Char) (cs : List Char) :
    marks mode (c :: cs) = (c, mode.mark c cs) :: marks (mode.next c cs) cs := rfl

theorem after_cons (mode : Mode) (c : Char) (cs : List Char) :
    after mode (c :: cs) = after (mode.next c cs) cs := rfl

/-- Marking adds to the characters and changes none. -/
@[simp] theorem map_fst_marks (mode : Mode) (cs : List Char) : (marks mode cs).map Prod.fst = cs := by
  induction cs generalizing mode with
  | nil => rfl
  | cons c cs ih => rw [marks_cons, List.map_cons, ih]

theorem Mode.mark_code (c : Char) (cs : List Char) : Mode.code.mark c cs = Mode.code.next c cs := rfl

theorem Mode.mark_comment (c : Char) (cs : List Char) : Mode.comment.mark c cs = Mode.comment.next c cs := rfl

theorem Mode.mark_quoted (quote c : Char) (cs : List Char) : (Mode.quoted quote).mark c cs = .quoted quote := rfl

/-! ### The next mode -/

theorem startsComment_cons_iff {c : Char} {cs : List Char} :
    startsComment (c :: cs) = true ↔ c = '-' ∧ cs.head? = some '-' := by
  unfold startsComment
  split
  · next h =>
    cases h
    simp
  · next h =>
    cases cs with
    | nil => simp
    | cons d ds =>
      simp only [Bool.false_eq_true, List.head?_cons, Option.some.injEq, false_iff]
      rintro ⟨rfl, rfl⟩
      exact h ds rfl

/-- Of what follows a character, only whether it begins with a hyphen matters. -/
theorem startsComment_congr {cs cs' : List Char} (h : cs.head? = some '-' ↔ cs'.head? = some '-') (c : Char) :
    startsComment (c :: cs) = startsComment (c :: cs') := by
  rw [Bool.eq_iff_iff, startsComment_cons_iff, startsComment_cons_iff, h]

theorem Mode.next_congr {cs cs' : List Char} (h : cs.head? = some '-' ↔ cs'.head? = some '-') (mode : Mode)
    (c : Char) : mode.next c cs = mode.next c cs' := by
  unfold Mode.next
  rw [startsComment_congr h]

theorem Mode.mark_congr {cs cs' : List Char} (h : cs.head? = some '-' ↔ cs'.head? = some '-') (mode : Mode)
    (c : Char) : mode.mark c cs = mode.mark c cs' := by
  cases mode with
  | quoted quote => rfl
  | code => exact Mode.next_congr h .code c
  | comment => exact Mode.next_congr h .comment c

/-- What is put behind a text is not seen from before its last character. -/
theorem head?_append_iff {a b : List Char} (hb : b.head? ≠ some '-') :
    (a ++ b).head? = some '-' ↔ a.head? = some '-' := by
  cases a with
  | nil => simp [hb]
  | cons c cs => simp

theorem marks_append (mode : Mode) (a : List Char) {b : List Char} (hb : b.head? ≠ some '-') :
    marks mode (a ++ b) = marks mode a ++ marks (after mode a) b := by
  induction a generalizing mode with
  | nil => rfl
  | cons c cs ih =>
    rw [List.cons_append, marks_cons, marks_cons, after_cons, Mode.mark_congr (head?_append_iff hb),
      Mode.next_congr (head?_append_iff hb), ih]
    rfl

theorem after_append (mode : Mode) (a : List Char) {b : List Char} (hb : b.head? ≠ some '-') :
    after mode (a ++ b) = after (after mode a) b := by
  induction a generalizing mode with
  | nil => rfl
  | cons c cs ih => rw [List.cons_append, after_cons, after_cons, Mode.next_congr (head?_append_iff hb), ih]

/-! ### Code, quotes and comments -/

theorem Mode.next_code_of_isQuote {c : Char} (h : isQuote c = true) (cs : List Char) :
    Mode.code.next c cs = .quoted c := by
  simp [Mode.next, h]

theorem Mode.next_code_of_plain {c : Char} {cs : List Char} (hquote : isQuote c = false)
    (hcomment : startsComment (c :: cs) = false) : Mode.code.next c cs = .code := by
  simp [Mode.next, hquote, hcomment]

theorem Mode.next_code_of_startsComment {c : Char} {cs : List Char} (h : startsComment (c :: cs) = true) :
    Mode.code.next c cs = .comment := by
  obtain ⟨rfl, -⟩ := startsComment_cons_iff.1 h
  simp only [Mode.next, h, if_true]
  rfl

/-- Only a quote leads from code into a quoted text, and into one of its own. -/
theorem Mode.next_code_eq_quoted_iff {c quote : Char} {cs : List Char} :
    Mode.code.next c cs = .quoted quote ↔ isQuote c = true ∧ c = quote := by
  by_cases hquote : isQuote c = true
  · simp [Mode.next_code_of_isQuote hquote, hquote]
  rw [Bool.not_eq_true] at hquote
  by_cases hcomment : startsComment (c :: cs) = true
  · simp [Mode.next_code_of_startsComment hcomment, hquote]
  · simp [Mode.next_code_of_plain hquote (Bool.eq_false_iff.2 hcomment), hquote]

theorem Mode.next_code_eq_comment_iff {c : Char} {cs : List Char} :
    Mode.code.next c cs = .comment ↔ startsComment (c :: cs) = true := by
  by_cases hcomment : startsComment (c :: cs) = true
  · simp [Mode.next_code_of_startsComment hcomment, hcomment]
  rw [Bool.not_eq_true] at hcomment
  by_cases hquote : isQuote c = true
  · simp [Mode.next_code_of_isQuote hquote, hcomment]
  · simp [Mode.next_code_of_plain (Bool.eq_false_iff.2 hquote) hcomment, hcomment]

theorem Mode.next_quoted_self (quote : Char) (cs : List Char) : (Mode.quoted quote).next quote cs = .code := by
  simp [Mode.next]

theorem Mode.next_quoted_of_ne {quote c : Char} (h : c ≠ quote) (cs : List Char) :
    (Mode.quoted quote).next c cs = .quoted quote := by
  simp [Mode.next, h]

theorem Mode.next_comment_of_ne {c : Char} (h : c ≠ '\n') (cs : List Char) : Mode.comment.next c cs = .comment := by
  simp [Mode.next, h]

theorem Mode.next_comment_ne_quoted (c : Char) (cs : List Char) (quote : Char) :
    Mode.comment.next c cs ≠ .quoted quote := by
  by_cases h : c = '\n'
  · subst h
    rintro ⟨⟩
  · rw [Mode.next_comment_of_ne h]
    rintro ⟨⟩

/-- Only the known quotes open a quoted text. -/
def Mode.Known (mode : Mode) : Prop := ∀ quote, mode = .quoted quote → isQuote quote = true

theorem Mode.known_code : Mode.code.Known := by
  rintro quote ⟨⟩

theorem Mode.Known.next {mode : Mode} (h : mode.Known) (c : Char) (cs : List Char) : (mode.next c cs).Known := by
  intro quote hquote
  cases mode with
  | code =>
    obtain ⟨hc, rfl⟩ := Mode.next_code_eq_quoted_iff.1 hquote
    exact hc
  | quoted open' =>
    by_cases hc : c = open'
    · subst hc
      rw [Mode.next_quoted_self] at hquote
      cases hquote
    · rw [Mode.next_quoted_of_ne hc] at hquote
      exact h quote hquote
  | comment => exact absurd hquote (Mode.next_comment_ne_quoted c cs quote)

theorem Mode.Known.after {mode : Mode} (h : mode.Known) (cs : List Char) : (after mode cs).Known := by
  induction cs generalizing mode with
  | nil => exact h
  | cons c cs ih => exact ih (h.next c cs)

/-- A quoted text up to its end: a doubled quote leaves the text and enters it again. -/
theorem marks_double {quote : Char} (hquote : isQuote quote = true) (content rest : List Char) :
    marks (.quoted quote) (double quote content ++ quote :: rest) =
      (double quote content ++ [quote]).map (·, .quoted quote) ++ marks .code rest := by
  induction content with
  | nil =>
    rw [double_nil, List.nil_append, marks_cons, Mode.next_quoted_self]
    rfl
  | cons c cs ih =>
    by_cases h : c = quote
    · subst h
      rw [double_cons_self, List.cons_append, List.cons_append, marks_cons, Mode.next_quoted_self, marks_cons,
        Mode.next_code_of_isQuote hquote, ih]
      simp [Mode.mark_code, Mode.mark_quoted, Mode.next_code_of_isQuote hquote]
    · rw [double_cons_of_ne h, List.cons_append, marks_cons, Mode.next_quoted_of_ne h, ih]
      rfl

/-- A quoted text in code is marked as one, and code follows it. -/
theorem marks_enclose {quote : Char} (hquote : isQuote quote = true) (content rest : List Char) :
    marks .code (enclose quote quote content ++ rest) =
      (enclose quote quote content).map (·, .quoted quote) ++ marks .code rest := by
  unfold enclose
  rw [List.cons_append, List.append_assoc, List.singleton_append, marks_cons, Mode.next_code_of_isQuote hquote,
    marks_double hquote, Mode.mark_code, Mode.next_code_of_isQuote hquote]
  rfl

theorem after_double {quote : Char} (hquote : isQuote quote = true) (content rest : List Char) :
    after (.quoted quote) (double quote content ++ quote :: rest) = after .code rest := by
  induction content with
  | nil => rw [double_nil, List.nil_append, after_cons, Mode.next_quoted_self]
  | cons c cs ih =>
    by_cases h : c = quote
    · subst h
      rw [double_cons_self, List.cons_append, List.cons_append, after_cons, Mode.next_quoted_self, after_cons,
        Mode.next_code_of_isQuote hquote, ih]
    · rw [double_cons_of_ne h, List.cons_append, after_cons, Mode.next_quoted_of_ne h, ih]

/-- A quote that is never closed holds all that follows. -/
theorem marks_unclosed {quote : Char} (hquote : isQuote quote = true) {cs : List Char}
    (h : readEnclosed quote cs = none) : marks (.quoted quote) cs = cs.map (·, .quoted quote) := by
  fun_induction readEnclosed quote cs with
  | case1 => rfl
  | case2 => cases h
  | case3 c hc => rfl
  | case4 ds ih =>
    rw [marks_cons, Mode.next_quoted_self, marks_cons, Mode.next_code_of_isQuote hquote,
      ih (Option.map_eq_none_iff.1 h)]
    simp [Mode.mark_code, Mode.mark_quoted, Mode.next_code_of_isQuote hquote]
  | case5 d ds hd => cases h
  | case6 c d ds hc ih =>
    rw [marks_cons, Mode.next_quoted_of_ne hc, ih (Option.map_eq_none_iff.1 h)]
    rfl

/-- A comment goes on to the end of the line, where code follows. -/
theorem marks_comment (cs : List Char) :
    marks .comment cs =
      (cs.takeWhile (· != '\n')).map (·, .comment) ++ marks .code (cs.dropWhile (· != '\n')) := by
  induction cs with
  | nil => rfl
  | cons c cs ih =>
    by_cases h : c = '\n'
    · subst h
      rfl
    · rw [List.takeWhile_cons_of_pos (by simpa using h), List.dropWhile_cons_of_pos (by simpa using h), marks_cons,
        Mode.next_comment_of_ne h, ih, Mode.mark_comment, Mode.next_comment_of_ne h]
      rfl

theorem after_comment (cs : List Char) :
    after .comment cs = .comment ∨ after .comment cs = after .code (cs.dropWhile (· != '\n')) := by
  induction cs with
  | nil => exact .inl rfl
  | cons c cs ih =>
    by_cases h : c = '\n'
    · subst h
      exact .inr rfl
    · rwa [List.dropWhile_cons_of_pos (by simpa using h), after_cons, Mode.next_comment_of_ne h]

/-- **Both ways to read a script agree** on where every character stands. -/
theorem marked_eq_marks (cs : List Char) : marked cs = marks .code cs := by
  unfold marked
  fun_induction lexemes cs with
  | case1 => rfl
  | case2 c cs hquote content rest hread ih =>
    have hcs : c :: cs = enclose c c content ++ rest := by
      rw [(eq_of_readEnclosed hread).1]
      simp [enclose]
    rw [hcs, marks_enclose hquote, List.flatMap_cons, ih]
    rfl
  | case3 c cs hquote hread =>
    rw [marks_cons, Mode.next_code_of_isQuote hquote, marks_unclosed hquote hread, Mode.mark_code,
      Mode.next_code_of_isQuote hquote]
    simp [Lexeme.marked, Lexeme.source, Lexeme.mode]
  | case4 c cs hquote hcomment ih =>
    rw [marks_cons, Mode.next_code_of_startsComment hcomment, marks_comment, List.flatMap_cons, ih, Mode.mark_code,
      Mode.next_code_of_startsComment hcomment]
    rfl
  | case5 c cs hquote hcomment ih =>
    have hplain : Mode.code.next c cs = .code :=
      Mode.next_code_of_plain (Bool.eq_false_iff.2 hquote) (Bool.eq_false_iff.2 hcomment)
    rw [marks_cons, hplain, List.flatMap_cons, ih, Mode.mark_code, hplain]
    rfl

/-- A script whose quotes are all closed does not end inside one. -/
theorem after_of_isClosed {cs : List Char} (h : (lexemes cs).all Lexeme.isClosed = true) (quote : Char) :
    after .code cs ≠ .quoted quote := by
  fun_induction lexemes cs with
  | case1 => simp
  | case2 c cs hquote content rest hread ih =>
    rw [List.all_cons, Bool.and_eq_true] at h
    rw [(eq_of_readEnclosed hread).1, after_cons, Mode.next_code_of_isQuote hquote, after_double hquote]
    exact ih h.2
  | case3 c cs hquote hread => simp [Lexeme.isClosed] at h
  | case4 c cs hquote hcomment ih =>
    rw [List.all_cons, Bool.and_eq_true] at h
    rw [after_cons, Mode.next_code_of_startsComment hcomment]
    rcases after_comment cs with hin | hout
    · rw [hin]
      rintro ⟨⟩
    · rw [hout]
      exact ih h.2
  | case5 c cs hquote hcomment ih =>
    rw [List.all_cons, Bool.and_eq_true] at h
    rw [after_cons, Mode.next_code_of_plain (Bool.eq_false_iff.2 hquote) (Bool.eq_false_iff.2 hcomment)]
    exact ih h.2

example : lexemes "'it''s';--\"\n`".toList =
    [.quoted '\'' "it's".toList, .code ';', .comment "--\"".toList, .code '\n', .unclosed '\x60' []] := by
  decide +kernel

end SqlToolkit.Script
