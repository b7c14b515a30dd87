import Mathlib.Data.List.Basic
import SqlToolkit.Proofs.Schema.Token

/-!
# Reading names off a statement

What a statement names is read off its text.  After words that are known the text of a quoted
identifier or of a string literal is taken, its doubled quotes counted once (`found?`), as a
server takes it.

A quoted text ends where it should if no quote follows it (`Free`).  What follows is the end,
a word that is known, or a part of the statement that begins with a space (`Spaced`).
-/
namespace SqlToolkit
open Text Schema

/-- What comes next in a statement. -/
inductive Mark where
  | words (text : String)
  | identifier
  | literal
deriving DecidableEq, Repr

namespace Mark

/-- Identifiers with commas between them. -/
def list (n : Nat) : List Mark := (List.replicate n identifier).intersperse (words ", ")

end Mark

/-- The text of a quoted token at the front, and what follows it. -/
def readQuoted (quotes : Char × Char) : List Char → Option (List Char × List Char)
  | [] => none
  | c :: cs => if c = quotes.1 then readEnclosed quotes.2 cs else none

/-- The quoted texts at the front of a text that is marked like this. -/
def scan (quotes : Char × Char) : List Mark → List Char → Option (List String)
  | [], _ => some []
  | .words text :: marks, cs => (text.toList.isPrefixOf? cs).bind (scan quotes marks)
  | .identifier :: marks, cs =>
    (readQuoted quotes cs).bind fun token => (scan quotes marks token.2).map (String.ofList token.1 :: ·)
  | .literal :: marks, cs =>
    (readQuoted ('\'', '\'') cs).bind fun token => (scan quotes marks token.2).map (String.ofList token.1 :: ·)

/-- The quoted texts of a statement that begins like this; nothing if it begins in another way. -/
def found? (quotes : Char × Char) (marks : List Mark) (sql : String) : Option (List String) :=
  scan quotes marks sql.toList

/-! ## One mark after another -/

section Scan

variable {quotes : Char × Char} {marks : List Mark}

theorem scan_words (text : String) (rest : List Char) :
    scan quotes (.words text :: marks) (text.toList ++ rest) = scan quotes marks rest := by
  have hfront : text.toList.isPrefixOf? (text.toList ++ rest) = some rest :=
    List.isPrefixOf?_eq_some_iff_append_eq.2 rfl
  rw [scan, hfront, Option.bind_some]

theorem readQuoted_wrap (quotes : Char × Char) (text : String) {rest : List Char} (hrest : rest.head? ≠ some quotes.2) :
    readQuoted quotes ((wrap text quotes.1 quotes.2).toList ++ rest) = some (text.toList, rest) := by
  rw [wrap, String.toList_ofList, enclose, List.cons_append, readQuoted, if_pos rfl, List.append_assoc]
  exact readEnclosed_double text.toList hrest

/-- An identifier is found whatever it holds. -/
theorem scan_identifier (name : String) {rest : List Char} (hrest : Free quotes rest) :
    scan quotes (.identifier :: marks) ((wrap name quotes.1 quotes.2).toList ++ rest) =
      (scan quotes marks rest).map (name :: ·) := by
  rw [scan, readQuoted_wrap quotes name hrest.1, Option.bind_some, String.ofList_toList]

theorem scan_literal (value : String) {rest : List Char} (hrest : Free quotes rest) :
    scan quotes (.literal :: marks) ((literal value).toList ++ rest) = (scan quotes marks rest).map (value :: ·) := by
  rw [scan, literal, readQuoted_wrap ('\'', '\'') value hrest.2, Option.bind_some, String.ofList_toList]

end Scan

/-! ## What follows a quoted text -/

/-- Words that cannot be taken for the rest of a quoted text before them. -/
def Separates (text : String) : Prop := text.toList.head?.any (fun c => !isSchemaQuote c) = true

instance (text : String) : Decidable (Separates text) := inferInstanceAs (Decidable (_ = true))

/-- A part of a statement that is empty or begins with a space. -/
def Spaced (text : String) : Prop := ∀ c, text.toList.head? = some c → c = ' '

theorem spaced_of_head {text : String} (h : text.toList.head? = some ' ') : Spaced text := by
  intro c hc
  rw [h] at hc
  cases hc
  rfl

theorem spaced_empty : Spaced "" := by
  intro c hc
  simp at hc

/-- Words that begin with a space, whatever follows them. -/
theorem spaced_words {text : String} (htext : text.toList.head? = some ' ') (rest : String) : Spaced (text ++ rest) := by
  refine spaced_of_head ?_
  rw [String.toList_append, List.head?_append, htext]
  rfl

theorem Spaced.append {a b : String} (ha : Spaced a) (hb : Spaced b) : Spaced (a ++ b) := by
  intro c hc
  rw [String.toList_append, List.head?_append, Option.or_eq_some_iff] at hc
  rcases hc with hc | ⟨-, hc⟩
  · exact ha c hc
  · exact hb c hc

theorem spaced_join {texts : List String} (h : ∀ text ∈ texts, Spaced text) : Spaced (String.join texts) := by
  induction texts with
  | nil => exact spaced_empty
  | cons text texts ih =>
    rw [List.forall_mem_cons] at h
    rw [String.join_cons]
    exact h.1.append (ih h.2)

theorem free_nil (quotes : Char × Char) : Free quotes [] := ⟨by simp, by simp⟩

/-- The last name of a statement. -/
theorem scan_identifier_last (quotes : Char × Char) (name : String) :
    scan quotes [.identifier] (wrap name quotes.1 quotes.2).toList = some [name] := by
  rw [← List.append_nil (wrap name quotes.1 quotes.2).toList, scan_identifier name (free_nil quotes)]
  rfl

section Quoting

variable {quotes : Char × Char} (hquotes : Quoting quotes) {marks : List Mark}
include hquotes

theorem Schema.Quoting.free_of_head {cs : List Char} (h : ∀ c, cs.head? = some c → isSchemaQuote c = false) :
    Free quotes cs := by
  cases cs with
  | nil => exact free_nil quotes
  | cons c cs => exact hquotes.free_cons (h c rfl) cs

theorem Schema.Quoting.free_words {text : String} (htext : Separates text) (rest : List Char) :
    Free quotes (text.toList ++ rest) := by
  unfold Separates at htext
  cases hcs : text.toList with
  | nil =>
    rw [hcs] at htext
    cases htext
  | cons c cs =>
    rw [hcs] at htext
    exact hquotes.free_cons (by simpa using htext) _

theorem Schema.Quoting.free_spaced {text : String} (htext : Spaced text) : Free quotes text.toList := by
  refine hquotes.free_of_head fun c hc => ?_
  rw [htext c hc]
  decide

/-! ## Names in known places -/

/-- An identifier with words after it. -/
theorem Schema.Quoting.scan_identifier_words (name : String) {text : String} (htext : Separates text) (rest : List Char) :
    scan quotes (.identifier :: .words text :: marks)
        ((wrap name quotes.1 quotes.2).toList ++ (text.toList ++ rest)) =
      (scan quotes marks rest).map (name :: ·) := by
  rw [scan_identifier name (hquotes.free_words htext rest), scan_words]

theorem Schema.Quoting.scan_literal_words (value : String) {text : String} (htext : Separates text) (rest : List Char) :
    scan quotes (.literal :: .words text :: marks) ((literal value).toList ++ (text.toList ++ rest)) =
      (scan quotes marks rest).map (value :: ·) := by
  rw [scan_literal value (hquotes.free_words htext rest), scan_words]

/-- Names in a list with words after it are found in order. -/
theorem Schema.Quoting.scan_list (names : List String) {text : String} (htext : Separates text) (rest : List Char) :
    scan quotes (Mark.list names.length ++ .words text :: marks)
        ((", ".intercalate (names.map fun name => wrap name quotes.1 quotes.2)).toList ++ (text.toList ++ rest)) =
      (scan quotes marks rest).map (names ++ ·) := by
  induction names with
  | nil =>
    show scan quotes (.words text :: marks) (text.toList ++ rest) = _
    rw [scan_words]
    simp
  | cons name names ih =>
    cases names with
    | nil => exact hquotes.scan_identifier_words name htext rest
    | cons other names =>
      rw [List.map_cons] at ih
      rw [List.map_cons, List.map_cons, String.intercalate_cons_cons, String.toList_append, String.toList_append,
        List.append_assoc, List.append_assoc]
      show scan quotes (.identifier :: .words ", " :: (Mark.list (other :: names).length ++ .words text :: marks)) _ = _
      rw [hquotes.scan_identifier_words name (by decide), ih, Option.map_map]
      rfl

/-- Two names with words between them. -/
theorem Schema.Quoting.found?_identifiers (front first : String) {between : String} (hbetween : Separates between)
    (second : String) :
    found? quotes [.words front, .identifier, .words between, .identifier]
        (front ++ wrap first quotes.1 quotes.2 ++ between ++ wrap second quotes.1 quotes.2) = some [first, second] := by
  simp only [found?, String.toList_append, List.append_assoc]
  rw [scan_words, hquotes.scan_identifier_words first hbetween, scan_identifier_last]
  rfl

/-- Two literals with words between them. -/
theorem Schema.Quoting.found?_literals (front first : String) {between : String} (hbetween : Separates between)
    (second : String) {rest : String} (hrest : Free quotes rest.toList) :
    found? quotes [.words front, .literal, .words between, .literal]
        (front ++ literal first ++ between ++ literal second ++ rest) = some [first, second] := by
  simp only [found?, String.toList_append, List.append_assoc]
  rw [scan_words, hquotes.scan_literal_words first hbetween, scan_literal second hrest]
  rfl

end Quoting

/-- A statement that names something after its first words. -/
theorem found?_first {quotes : Char × Char} (front name : String) {rest : String} (hrest : Free quotes rest.toList) :
    found? quotes [.words front, .identifier] (front ++ (wrap name quotes.1 quotes.2 ++ rest)) = some [name] := by
  rw [found?, String.toList_append, String.toList_append, scan_words, scan_identifier name hrest]
  rfl

end SqlToolkit
