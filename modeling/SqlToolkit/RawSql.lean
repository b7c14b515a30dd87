import SqlToolkit.Text.Name
import SqlToolkit.Text.Word

/-!
# Raw SQL

Raw SQL is trusted text that is written into a statement as it is and never bound.  Only its identifier tokens,
`<name>` and `<table.column>`, are replaced by quoted identifiers.  A name before a dot is a table; a single name is
one exactly when it directly follows one of five keywords and the blanks after it.

Letters are compared without case, and in identifiers under simple case folding, so the long s and the Kelvin sign
count as the letters they fold to.  A text is first read into pieces and the pieces are then rendered, which keeps
everything between the tokens as it was and never looks at a replacement again.
-/
namespace SqlToolkit

/-- Trusted SQL text with identifier tokens. -/
structure RawSql where
  text : String
deriving DecidableEq, Repr, Inhabited

namespace RawSql
open Text

/-- A stretch of raw SQL. -/
inductive Piece where
  /-- A character outside every token. -/
  | plain (c : Char)
  /-- A token with one name, and the keyword and blanks that make it a table, if they stand before it. -/
  | name (keyword : List Char) (identifier : List Char)
  /-- A token with a table and a column, and the keyword and blanks before it. -/
  | qualified (keyword : List Char) (table column : List Char)
deriving DecidableEq, Repr

/-- A letter under simple case folding, or an underscore. -/
def startsToken (c : Char) : Bool := startsName c || c = '\u017F' || c = '\u212A'

/-- A character of a token's name after its first. -/
def isTokenChar (c : Char) : Bool := isAliasChar c || c = '\u017F' || c = '\u212A'

/-- The longest token name at the front of a text. -/
def readTokenName : List Char → Option (List Char × List Char)
  | [] => none
  | c :: cs => if startsToken c then some (c :: cs.takeWhile isTokenChar, cs.dropWhile isTokenChar) else none

/-- A token at the front of a text: its names and what follows it. -/
def readToken : List Char → Option (List Char × Option (List Char) × List Char)
  | '<' :: cs =>
    match readTokenName cs with
    | some (first, '>' :: rest) => some (first, none, rest)
    | some (first, '.' :: more) =>
      match readTokenName more with
      | some (second, '>' :: rest) => some (first, some second, rest)
      | _ => none
    | _ => none
  | _ => none

/-- The keywords that a table follows. -/
def tableKeywords : List String := ["FROM", "TABLE", "INTO", "UPDATE", "JOIN"]

/-- A keyword in any case at the front of a text, and what follows it. -/
def readKeyword (cs : List Char) : Option (List Char × List Char) :=
  tableKeywords.findSome? fun word =>
    let front := cs.take word.length
    if front.map Char.toUpper = word.toList then some (front, cs.drop word.length) else none

/-- A keyword and at least one blank at the front of a text, and what follows them. -/
def readTableIntro (cs : List Char) : Option (List Char × List Char) :=
  match readKeyword cs with
  | some (word, rest) =>
    let blanks := rest.takeWhile isBlank
    if blanks.isEmpty then none else some (word ++ blanks, rest.dropWhile isBlank)
  | none => none

/-- The piece of a token with the given introduction. -/
def tokenPiece (keyword first : List Char) : Option (List Char) → Piece
  | none => .name keyword first
  | some second => .qualified keyword first second

/-- The first piece of a text and what follows it.  A keyword counts only where no word character stands before
it. -/
def readPiece (previous : Option Char) (c : Char) (cs : List Char) : Piece × List Char :=
  let introduced : Option (Piece × List Char) :=
    if previous.any isWordChar then none
    else
      match readTableIntro (c :: cs) with
      | some (intro, rest) =>
        match readToken rest with
        | some (first, second, after) => some (tokenPiece intro first second, after)
        | none => none
      | none => none
  match introduced with
  | some found => found
  | none =>
    match readToken (c :: cs) with
    | some (first, second, after) => (tokenPiece [] first second, after)
    | none => (.plain c, cs)

/-- The source text of a piece. -/
def Piece.source : Piece → List Char
  | plain c => [c]
  | name keyword identifier => keyword ++ '<' :: identifier ++ ['>']
  | qualified keyword table column => keyword ++ '<' :: table ++ '.' :: column ++ ['>']

theorem readTokenName_eq {cs name rest : List Char} (h : readTokenName cs = some (name, rest)) :
    cs = name ++ rest := by
  cases cs with
  | nil => simp [readTokenName] at h
  | cons c cs =>
    simp only [readTokenName] at h
    split at h
    · simp only [Option.some.injEq, Prod.mk.injEq] at h
      obtain ⟨rfl, rfl⟩ := h
      simp [List.takeWhile_append_dropWhile]
    · simp at h

theorem readToken_eq {cs first rest : List Char} {second : Option (List Char)}
    (h : readToken cs = some (first, second, rest)) (keyword : List Char) :
    keyword ++ cs = (tokenPiece keyword first second).source ++ rest := by
  unfold readToken at h
  split at h
  · next cs =>
    split at h
    · next name after found =>
      simp only [Option.some.injEq, Prod.mk.injEq] at h
      obtain ⟨rfl, rfl, rfl⟩ := h
      simp [tokenPiece, Piece.source, readTokenName_eq found]
    · next name more found =>
      split at h
      · next name' after found' =>
        simp only [Option.some.injEq, Prod.mk.injEq] at h
        obtain ⟨rfl, rfl, rfl⟩ := h
        simp [tokenPiece, Piece.source, readTokenName_eq found, readTokenName_eq found']
      · simp at h
    · simp at h
  · simp at h

theorem readTableIntro_eq {cs intro rest : List Char} (h : readTableIntro cs = some (intro, rest)) :
    cs = intro ++ rest := by
  unfold readTableIntro at h
  split at h
  · next word after found =>
    obtain ⟨w, _, hw⟩ := List.exists_of_findSome?_eq_some found
    dsimp only at hw h
    split at hw
    · simp only [Option.some.injEq, Prod.mk.injEq] at hw
      split at h
      · simp at h
      · simp only [Option.some.injEq, Prod.mk.injEq] at h
        rw [← h.1, ← h.2, List.append_assoc, List.takeWhile_append_dropWhile, ← hw.1, ← hw.2,
          List.take_append_drop]
    · simp at hw
  · simp at h

/-- The first piece and the rest make up the text: nothing is lost. -/
theorem source_readPiece (previous : Option Char) (c : Char) (cs : List Char) :
    (readPiece previous c cs).1.source ++ (readPiece previous c cs).2 = c :: cs := by
  unfold readPiece
  dsimp only
  split
  · next found h =>
    split at h
    · simp at h
    · split at h
      · next intro rest hi =>
        split at h
        · next first second after ht =>
          simp only [Option.some.injEq] at h
          subst h
          rw [readTableIntro_eq hi]
          exact (readToken_eq ht intro).symm
        · simp at h
      · simp at h
  · split
    · next first second after ht =>
      exact (readToken_eq ht []).symm
    · rfl

theorem Piece.source_ne_nil (p : Piece) : p.source ≠ [] := by
  cases p <;> simp [Piece.source]

theorem length_readPiece (previous : Option Char) (c : Char) (cs : List Char) :
    (readPiece previous c cs).2.length ≤ cs.length := by
  have h := congrArg List.length (source_readPiece previous c cs)
  have := List.length_pos_iff.2 (readPiece previous c cs).1.source_ne_nil
  simp only [List.length_append, List.length_cons] at h
  omega

/-- The pieces of a text, given the character before it. -/
def pieces (previous : Option Char) : List Char → List Piece
  | [] => []
  | c :: cs =>
    let step := readPiece previous c cs
    step.1 :: pieces step.1.source.getLast? step.2
termination_by cs => cs.length
decreasing_by
  have := length_readPiece previous c cs
  simp only [List.length_cons]
  omega

/-- The pieces of a text hold all of it, in order. -/
theorem source_pieces (previous : Option Char) (cs : List Char) :
    (pieces previous cs).flatMap Piece.source = cs := by
  fun_induction pieces previous cs with
  | case1 => rfl
  | case2 previous c cs step ih =>
    rw [List.flatMap_cons, ih]
    exact source_readPiece previous c cs

/-- A piece with its names quoted; `quote` is told whether a name is a table. -/
def Piece.render (quote : String → Bool → String) : Piece → String
  | plain c => c.toString
  | name keyword identifier =>
    String.ofList keyword ++ quote (String.ofList identifier) (!keyword.isEmpty)
  | qualified keyword table column =>
    String.ofList keyword ++ quote (String.ofList table) true ++ "." ++ quote (String.ofList column) false

/-- A text with its identifier tokens replaced. -/
def expand (quote : String → Bool → String) (sql : String) : String :=
  String.join ((pieces none sql.toList).map (Piece.render quote))

/-- Raw SQL with every part of its tokens quoted alike. -/
def render (raw : RawSql) (quote : String → String) : String :=
  expand (fun part _ => quote part) raw.text

example : expand (fun x t => if t then "T" ++ x else "C" ++ x) "from <a>, <b.c> éFROM <d>" =
    "from Ta, Tb.Cc éFROM Cd" := by decide +kernel

end RawSql
end SqlToolkit
