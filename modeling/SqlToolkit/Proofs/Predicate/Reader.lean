import SqlToolkit.Proofs.Predicate.Truth
import SqlToolkit.Proofs.Text.Column

/-!
# Reading predicates

A predicate is read the way a database reads it.  Its text is cut into lexemes; placeholders are filled with the
parameters from left to right, and every parameter must find its placeholder; then the lexemes are read by descent,
with `AND` binding tighter than `OR`, parentheses around any formula, and a range test as one predicate although it
has an `AND` of its own.  The first word of a predicate is its column, even if it spells a keyword.
-/
namespace SqlToolkit
open Text

/-- A lexeme of a predicate; what stands at a placeholder depends on whether it has been filled. -/
inductive Lexeme (α : Type) where
  | word (text : String)
  | hole (content : α)
  | opening
  | closing
  | comma
deriving DecidableEq, Repr

namespace Lexeme

/-! ### Cutting -/

/-- The lexemes of a character that stands on its own, or nothing for one that is part of a word. -/
def single? (c : Char) : Option (List (Lexeme Unit)) :=
  if isBlank c then some []
  else if c = '?' then some [hole ()]
  else if c = '(' then some [opening]
  else if c = ')' then some [closing]
  else if c = ',' then some [comma]
  else none

/-- Two characters of words run together: both of names, or both of operators. -/
def joins (c : Char) (next : Option Char) : Bool :=
  match next with
  | some d => (single? d).isNone && isBareChar c == isBareChar d
  | none => false

/-- Puts a character in front of lexemes, into the first word where it joins. -/
def attach (c : Char) (next : Option Char) : List (Lexeme Unit) → List (Lexeme Unit)
  | word text :: rest =>
    if joins c next then word (String.ofList (c :: text.toList)) :: rest
    else word (String.ofList [c]) :: word text :: rest
  | rest => word (String.ofList [c]) :: rest

/-- Puts a character in front of lexemes, on its own or into a word. -/
def place (c : Char) (next : Option Char) (rest : List (Lexeme Unit)) : List (Lexeme Unit) :=
  (single? c).elim (attach c next rest) (· ++ rest)

/-- The lexemes of a text. -/
def cut : List Char → List (Lexeme Unit)
  | [] => []
  | c :: cs => place c cs.head? (cut cs)

section Cutting
variable {c : Char} {next : Option Char} {lexemes : List (Lexeme Unit)}

theorem place_of_single (h : single? c = some lexemes) (rest : List (Lexeme Unit)) :
    place c next rest = lexemes ++ rest := by
  rw [place, h, Option.elim_some]

theorem place_of_not_single (h : single? c = none) (rest : List (Lexeme Unit)) :
    place c next rest = attach c next rest := by
  rw [place, h, Option.elim_none]

theorem attach_of_joins (h : joins c next = true) (text : String) (rest : List (Lexeme Unit)) :
    attach c next (word text :: rest) = word (String.ofList (c :: text.toList)) :: rest := by
  simp [attach, h]

theorem attach_of_not_joins (h : joins c next = false) (rest : List (Lexeme Unit)) :
    attach c next rest = word (String.ofList [c]) :: rest := by
  cases rest with
  | nil => rfl
  | cons lexeme rest => cases lexeme <;> simp [attach, h]

/-- A character of a word begins a word. -/
theorem exists_cut_cons (h : single? c = none) (cs : List Char) :
    ∃ text rest, cut (c :: cs) = word text :: rest := by
  rw [cut, place_of_not_single h]
  cases cut cs with
  | nil => exact ⟨_, _, rfl⟩
  | cons lexeme rest =>
    cases lexeme with
    | word text =>
      by_cases hjoins : joins c cs.head? = true
      · exact ⟨_, _, attach_of_joins hjoins text rest⟩
      · exact ⟨_, _, attach_of_not_joins (by simpa using hjoins) _⟩
    | _ => exact ⟨_, _, rfl⟩

theorem cut_cons_single (h : single? c = some lexemes) (cs : List Char) : cut (c :: cs) = lexemes ++ cut cs :=
  place_of_single h _

/-- **A text can be cut at any character that stands on its own.** -/
theorem cut_append_single (h : single? c = some lexemes) (before after : List Char) :
    cut (before ++ c :: after) = cut before ++ (lexemes ++ cut after) := by
  induction before with
  | nil => exact place_of_single h _
  | cons d ds ih =>
    rw [List.cons_append, cut, cut, ih]
    cases hd : single? d with
    | some found => rw [place_of_single hd, place_of_single hd, List.append_assoc]
    | none =>
      rw [place_of_not_single hd, place_of_not_single hd]
      cases ds with
      | nil =>
        have hnext : joins d (some c) = false := by simp [joins, h]
        rw [List.nil_append, List.head?_cons, attach_of_not_joins hnext]
        rfl
      | cons e es =>
        rw [List.cons_append, List.head?_cons, List.head?_cons]
        by_cases hjoins : joins d (some e) = true
        · have he : single? e = none := by
            simp only [joins, Bool.and_eq_true, Option.isNone_iff_eq_none] at hjoins
            exact hjoins.1
          obtain ⟨text, rest, hcut⟩ := exists_cut_cons he es
          rw [hcut, List.cons_append, attach_of_joins hjoins, attach_of_joins hjoins]
          rfl
        · have hjoins : joins d (some e) = false := by simpa using hjoins
          rw [attach_of_not_joins hjoins, attach_of_not_joins hjoins]
          rfl

/-- A space ends a lexeme and is none. -/
theorem cut_space (before after : List Char) : cut (before ++ ' ' :: after) = cut before ++ cut after := by
  have hspace : single? ' ' = some [] := by decide
  rw [cut_append_single hspace, List.nil_append]

theorem single?_of_isBareChar (h : isBareChar c = true) : single? c = none := by
  have hne : ∀ d, isBareChar d = false → c ≠ d := by
    intro d hd hcd
    rw [hcd, hd] at h
    cases h
  simp [single?, isBlank_of_isBareChar h, hne '?' (by decide), hne '(' (by decide), hne ')' (by decide),
    hne ',' (by decide)]

/-- The characters of a bare column make one word. -/
theorem cut_word {cs : List Char} (hne : cs ≠ []) (h : ∀ c ∈ cs, isBareChar c = true) :
    cut cs = [word (String.ofList cs)] := by
  induction cs with
  | nil => exact absurd rfl hne
  | cons c cs ih =>
    obtain ⟨hc, hcs⟩ := List.forall_mem_cons.1 h
    rw [cut, place_of_not_single (single?_of_isBareChar hc)]
    cases cs with
    | nil => rfl
    | cons d ds =>
      have hd := hcs d (by simp)
      have hjoins : joins c (some d) = true := by simp [joins, single?_of_isBareChar hd, hc, hd]
      rw [ih (by simp) hcs, List.head?_cons, attach_of_joins hjoins, String.toList_ofList]

end Cutting

/-! ### Filling -/

/-- Fills placeholders with values from left to right, leaving neither a placeholder nor a value. -/
def fill : List (Lexeme Unit) → List Value → Option (List (Lexeme Value))
  | [], [] => some []
  | [], _ :: _ => none
  | hole () :: rest, v :: values => (fill rest values).map (hole v :: ·)
  | hole () :: _, [] => none
  | word text :: rest, values => (fill rest values).map (word text :: ·)
  | opening :: rest, values => (fill rest values).map (opening :: ·)
  | closing :: rest, values => (fill rest values).map (closing :: ·)
  | comma :: rest, values => (fill rest values).map (comma :: ·)

/-- What has been filled is not looked at again. -/
theorem fill_append {front : List (Lexeme Unit)} {values : List Value} {filled : List (Lexeme Value)}
    (h : fill front values = some filled) (rest : List (Lexeme Unit)) (more : List Value) :
    fill (front ++ rest) (values ++ more) = (fill rest more).map (filled ++ ·) := by
  induction front generalizing values filled with
  | nil =>
    cases values with
    | nil =>
      obtain rfl : [] = filled := by simpa [fill] using h
      simp
    | cons v values => simp [fill] at h
  | cons lexeme front ih =>
    cases lexeme with
    | hole content =>
      cases values with
      | nil => simp [fill] at h
      | cons v values =>
        obtain ⟨others, hothers, rfl⟩ := Option.map_eq_some_iff.1 h
        simp [fill, ih hothers, Function.comp_def]
    | _ =>
      obtain ⟨others, hothers, rfl⟩ := Option.map_eq_some_iff.1 h
      simp [fill, ih hothers, Function.comp_def]

end Lexeme

/-! ### Descent -/

namespace Formula
open Lexeme

/-- The relation of a comparison operator, and whether it is negated. -/
def relationOf? : String → Option (Relation × Bool)
  | "=" => some (.equal, false)
  | "!=" | "<>" => some (.equal, true)
  | ">" => some (.greater, false)
  | "<" => some (.less, false)
  | ">=" => some (.atLeast, false)
  | "<=" => some (.atMost, false)
  | "LIKE" => some (.like, false)
  | _ => none

/-- Values with commas between them up to a closing parenthesis, and what follows it. -/
def readValues : List (Lexeme Value) → Option (List Value × List (Lexeme Value))
  | hole v :: closing :: rest => some ([v], rest)
  | hole v :: comma :: rest => (readValues rest).map fun r => (v :: r.1, r.2)
  | _ => none

/-- What is said of a column, and what follows it. -/
def readTest (column : String) : List (Lexeme Value) → Option (Atom × List (Lexeme Value))
  | word "IS" :: word "NULL" :: rest => some (.null column false, rest)
  | word "IS" :: word "NOT" :: word "NULL" :: rest => some (.null column true, rest)
  | word "IN" :: opening :: rest => (readValues rest).map fun r => (.member column r.1 false, r.2)
  | word "NOT" :: word "IN" :: opening :: rest => (readValues rest).map fun r => (.member column r.1 true, r.2)
  | word "BETWEEN" :: hole low :: word "AND" :: hole high :: rest => some (.range column low high false, rest)
  | word "NOT" :: word "BETWEEN" :: hole low :: word "AND" :: hole high :: rest =>
    some (.range column low high true, rest)
  | word "NOT" :: word "LIKE" :: hole v :: rest => some (.compare column .like true v, rest)
  | word op :: hole v :: rest => (relationOf? op).map fun r => (.compare column r.1 r.2 v, rest)
  | _ => none

/-- A predicate, which starts with its column or compares two literals, and what follows it. -/
def readAtom : List (Lexeme Value) → Option (Atom × List (Lexeme Value))
  | word first :: rest =>
    match Number.readInt? first.toList with
    | some n =>
      match rest with
      | word "=" :: word second :: rest =>
        (Number.readInt? second.toList).map fun m => (.constant (n == m), rest)
      | _ => none
    | none => readTest first rest
  | _ => none

mutual

/-- A predicate or a formula in parentheses, and what follows it. -/
def readPrimary : Nat → List (Lexeme Value) → Option (Formula × List (Lexeme Value))
  | 0, _ => none
  | n + 1, opening :: lexemes =>
    match readDisjunction n lexemes with
    | some (φ, closing :: rest) => some (φ, rest)
    | _ => none
  | _ + 1, lexemes => (readAtom lexemes).map fun r => (.atom r.1, r.2)

/-- One or more of these with `AND` between them. -/
def readConjunction : Nat → List (Lexeme Value) → Option (Formula × List (Lexeme Value))
  | 0, _ => none
  | n + 1, lexemes =>
    match readPrimary n lexemes with
    | some (φ, word "AND" :: rest) => (readConjunction n rest).map fun r => (.and φ r.1, r.2)
    | other => other

/-- One or more conjunctions with `OR` between them. -/
def readDisjunction : Nat → List (Lexeme Value) → Option (Formula × List (Lexeme Value))
  | 0, _ => none
  | n + 1, lexemes =>
    match readConjunction n lexemes with
    | some (φ, word "OR" :: rest) => (readDisjunction n rest).map fun r => (.or φ r.1, r.2)
    | other => other

end

/-- The formula of all lexemes.  A lexeme takes part in at most three levels of the descent. -/
def ofLexemes (lexemes : List (Lexeme Value)) : Option Formula :=
  match readDisjunction (3 * lexemes.length) lexemes with
  | some (φ, []) => some φ
  | _ => none

/-! ### What the descent reads -/

/-- The lexemes are read as a predicate or a formula in parentheses, whatever follows. -/
def Primary (lexemes : List (Lexeme Value)) (φ : Formula) : Prop :=
  ∀ n rest, 3 * lexemes.length ≤ n + 2 → readPrimary n (lexemes ++ rest) = some (φ, rest)

/-- The lexemes are read as a conjunction, unless it goes on. -/
def Conjunction (lexemes : List (Lexeme Value)) (φ : Formula) : Prop :=
  ∀ n rest, 3 * lexemes.length ≤ n + 1 → rest.head? ≠ some (word "AND") →
    readConjunction n (lexemes ++ rest) = some (φ, rest)

/-- The lexemes are read as a disjunction, unless it goes on. -/
def Disjunction (lexemes : List (Lexeme Value)) (φ : Formula) : Prop :=
  ∀ n rest, 3 * lexemes.length ≤ n → rest.head? ≠ some (word "AND") → rest.head? ≠ some (word "OR") →
    readDisjunction n (lexemes ++ rest) = some (φ, rest)

variable {lexemes more : List (Lexeme Value)} {φ ψ : Formula}

theorem primary_atom {a : Atom} (h : ∀ rest, readAtom (lexemes ++ rest) = some (a, rest)) :
    Primary lexemes (.atom a) := by
  intro n rest hn
  cases lexemes with
  | nil => cases h []
  | cons lexeme lexemes =>
    cases n with
    | zero => simp at hn; omega
    | succ n =>
      have ha := h rest
      cases lexeme with
      | opening => cases ha
      | _ =>
        rw [List.cons_append] at ha ⊢
        simp [readPrimary, ha]

theorem Disjunction.parens (h : Disjunction lexemes φ) : Primary (opening :: (lexemes ++ [closing])) φ := by
  intro n rest hn
  cases n with
  | zero => simp at hn; omega
  | succ n =>
    have hinner := h n (closing :: rest) (by simp at hn; omega) (by simp) (by simp)
    simp [readPrimary, hinner]

theorem Primary.length_pos (h : Primary lexemes φ) : 0 < lexemes.length := by
  cases lexemes with
  | nil =>
    have hnone := h 0 [] (by simp)
    simp [readPrimary] at hnone
  | cons lexeme lexemes => simp

theorem Primary.conjunction (h : Primary lexemes φ) : Conjunction lexemes φ := by
  intro n rest hn hrest
  have hpos := h.length_pos
  cases n with
  | zero => omega
  | succ n =>
    rw [readConjunction, h n rest (by omega)]
    split
    · next heq =>
      obtain ⟨-, rfl⟩ := Prod.mk.inj (Option.some.inj heq)
      exact absurd rfl hrest
    · rfl

theorem Primary.and (h : Primary lexemes φ) (hm : Conjunction more ψ) :
    Conjunction (lexemes ++ word "AND" :: more) (.and φ ψ) := by
  intro n rest hn hrest
  simp only [List.length_append, List.length_cons] at hn
  cases n with
  | zero => omega
  | succ n =>
    rw [List.append_assoc, List.cons_append, readConjunction, h n _ (by omega)]
    simp [hm n rest (by omega) hrest]

theorem Conjunction.length_pos (h : Conjunction lexemes φ) : 0 < lexemes.length := by
  cases lexemes with
  | nil =>
    have hnone := h 0 [] (by simp) (by simp)
    simp [readConjunction] at hnone
  | cons lexeme lexemes => simp

theorem Conjunction.disjunction (h : Conjunction lexemes φ) : Disjunction lexemes φ := by
  intro n rest hn hand hor
  have hpos := h.length_pos
  cases n with
  | zero => omega
  | succ n =>
    rw [readDisjunction, h n rest (by omega) hand]
    split
    · next heq =>
      obtain ⟨-, rfl⟩ := Prod.mk.inj (Option.some.inj heq)
      exact absurd rfl hor
    · rfl

theorem Conjunction.or (h : Conjunction lexemes φ) (hm : Disjunction more ψ) :
    Disjunction (lexemes ++ word "OR" :: more) (.or φ ψ) := by
  intro n rest hn hand hor
  simp only [List.length_append, List.length_cons] at hn
  cases n with
  | zero => omega
  | succ n =>
    rw [List.append_assoc, List.cons_append, readDisjunction, h n _ (by omega) (by simp)]
    simp [hm n rest (by omega) hand hor]

/-- **A disjunction is the formula of its lexemes.** -/
theorem Disjunction.ofLexemes (h : Disjunction lexemes φ) : Formula.ofLexemes lexemes = some φ := by
  have hall := h (3 * lexemes.length) [] le_rfl (by simp) (by simp)
  rw [List.append_nil] at hall
  rw [Formula.ofLexemes, hall]

end Formula

/-- The truth of a fragment in a row, read as a predicate; no text restricts nothing. -/
def Fragment.truth (db : Comparisons) (row : String → Value) (f : Fragment) : Option Truth :=
  match Lexeme.fill (Lexeme.cut f.sql.toList) f.params with
  | some [] => some .yes
  | some lexemes => (Formula.ofLexemes lexemes).map (Formula.truth db row)
  | none => none

end SqlToolkit
