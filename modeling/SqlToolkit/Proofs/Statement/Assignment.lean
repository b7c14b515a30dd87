import SqlToolkit.Proofs.Predicate.Meaning
import SqlToolkit.Proofs.Statement.Pattern
import SqlToolkit.Statement

/-!
# Reading assignments

The assignments of an update are read the way a database reads them, and a row is made from them.  A column is assigned
the value of the first case whose predicate is true, and another column's value if there is none (`Assignment.value`).
All right sides are of the row as it was, so no assignment sees what another one has done, and no column may be assigned
twice (`assigned?`).

Placeholders are filled from left to right for as long as there are values (`Lexeme.pour`): what stands in the
conditions behind the assignments is not looked at, so raw text with question marks may be among them.
-/
namespace SqlToolkit
open Text Lexeme

/-! ### Filling as far as it goes -/

namespace Lexeme

/-- Fills placeholders with values from left to right, up to the first placeholder for which there is none. -/
def pour : List (Lexeme Unit) → List Value → List (Lexeme Value)
  | [], _ => []
  | hole () :: rest, v :: values => hole v :: pour rest values
  | hole () :: _, [] => []
  | word text :: rest, values => word text :: pour rest values
  | opening :: rest, values => opening :: pour rest values
  | closing :: rest, values => closing :: pour rest values
  | comma :: rest, values => comma :: pour rest values

/-- What can be filled exactly is filled so in front of anything. -/
theorem pour_append {front : List (Lexeme Unit)} {values : List Value} {filled : List (Lexeme Value)}
    (h : fill front values = some filled) (rest : List (Lexeme Unit)) (more : List Value) :
    pour (front ++ rest) (values ++ more) = filled ++ pour rest more := by
  induction front generalizing values filled with
  | nil =>
    cases values with
    | nil =>
      obtain rfl : [] = filled := by simpa [fill] using h
      rfl
    | cons v values => simp [fill] at h
  | cons lexeme front ih =>
    cases lexeme with
    | hole content =>
      cases values with
      | nil => simp [fill] at h
      | cons v values =>
        obtain ⟨others, hothers, rfl⟩ := Option.map_eq_some_iff.1 h
        simp [pour, ih hothers]
    | _ =>
      obtain ⟨others, hothers, rfl⟩ := Option.map_eq_some_iff.1 h
      simp [pour, ih hothers]

end Lexeme

/-! ### Assignments -/

namespace Comparisons

/-- The values are known to be equal: neither is null, and the database takes them for equal. -/
def same (db : Comparisons) (x y : Value) : Bool := !x.isNull && !y.isNull && db .equal x y

/-- A test for equality holds exactly if the values are known to be equal. -/
theorem compare_equal_beq_yes (db : Comparisons) (x y : Value) : (db.compare .equal x y == .yes) = db.same x y := by
  unfold compare same
  cases x.isNull with
  | true => rfl
  | false =>
    cases y.isNull with
    | true => rfl
    | false => cases db .equal x y <;> rfl

end Comparisons

/-- A column that is assigned a value by cases, and the column whose value it is otherwise. -/
structure Assignment where
  target : String
  branches : List (Atom × Value)
  otherwise : String
deriving DecidableEq, Repr

namespace Assignment

/-- The value of the first branch that is true in the row, or else that of the other column. -/
def value (db : Comparisons) (row : String → Value) (a : Assignment) : Value :=
  match a.branches.find? fun branch => branch.1.truth db row == .yes with
  | some branch => branch.2
  | none => row a.otherwise

/-- The branches of a case distinction with the column at its end, and what follows it. -/
def readBranches : Nat → List (Lexeme Value) → Option ((List (Atom × Value) × String) × List (Lexeme Value))
  | n + 1, word "WHEN" :: lexemes =>
    match Formula.readAtom lexemes with
    | some (a, word "THEN" :: hole v :: rest) =>
      (readBranches n rest).map fun r => (((a, v) :: r.1.1, r.1.2), r.2)
    | _ => none
  | _, word "ELSE" :: word column :: word "END" :: rest => some (([], column), rest)
  | _, _ => none

/-- An assignment, which has a branch, and what follows it. -/
def read (n : Nat) : List (Lexeme Value) → Option (Assignment × List (Lexeme Value))
  | word target :: word "=" :: word "CASE" :: word "WHEN" :: lexemes =>
    (readBranches n (word "WHEN" :: lexemes)).map fun r => (⟨target, r.1.1, r.1.2⟩, r.2)
  | _ => none

/-- Assignments with commas between them, up to the end or to the conditions. -/
def readAll : Nat → List (Lexeme Value) → Option (List Assignment)
  | 0, _ => none
  | n + 1, lexemes =>
    match read n lexemes with
    | some (a, []) => some [a]
    | some (a, word "WHERE" :: _) => some [a]
    | some (a, comma :: rest) => (readAll n rest).map (a :: ·)
    | _ => none

/-- The row that assignments make of a row, if none of them is of the same column as another. -/
def assigned? (db : Comparisons) (row : String → Value) (assignments : List Assignment) : Option (String → Value) :=
  if (assignments.map target).Nodup then
    some fun column =>
      match assignments.find? fun a => a.target == column with
      | some a => a.value db row
      | none => row column
  else none

end Assignment

/-- The text of an update behind the name of its table. -/
def setText? (quotes : Char × Char) (sql : String) : Option (List Char) :=
  ("UPDATE ".toList.isPrefixOf? sql.toList).bind fun rest =>
    (readQuoted quotes rest).bind fun token => " SET ".toList.isPrefixOf? token.2

/-- The row that an update makes of a row that meets its conditions. -/
def Statement.updated? (quotes : Char × Char) (db : Comparisons) (row : String → Value) (s : Statement) :
    Option (String → Value) :=
  (setText? quotes s.sql).bind fun text =>
    let lexemes := pour (cut text) s.params
    (Assignment.readAll lexemes.length lexemes).bind (Assignment.assigned? db row)

/-! ### The text of an assignment -/

namespace Fragment

/-- A fragment after another one, with a space between them. -/
def spaced (f g : Fragment) : Fragment := ⟨f.sql ++ " " ++ g.sql, f.params ++ g.params⟩

theorem Reads.spaced {f g : Fragment} {ls ms : List (Lexeme Value)} (hf : f.Reads ls) (hg : g.Reads ms) :
    (f.spaced g).Reads (ls ++ ms) :=
  hf.after (by simp) hg

/-- Lexemes with commas between them. -/
def commas : List (List (Lexeme Value)) → List (Lexeme Value)
  | [] => []
  | [piece] => piece
  | piece :: next :: pieces => piece ++ comma :: commas (next :: pieces)

/-- Fragments with commas between them are read one after the other, and the commas too. -/
theorem reads_commas {parts : List Fragment} {pieces : List (List (Lexeme Value))}
    (h : List.Forall₂ Reads parts pieces) : (join parts ", ").Reads (commas pieces) := by
  have hcomma : single? ',' = some [comma] := by decide
  have hspace : single? ' ' = some [] := by decide
  induction h with
  | nil => rfl
  | @cons f piece parts pieces hf hparts ih =>
    cases hparts with
    | nil =>
      rw [join_singleton]
      exact hf
    | @cons g next parts pieces _ _ =>
      have htext : (join (f :: g :: parts) ", ").sql.toList =
          f.sql.toList ++ ',' :: ' ' :: (join (g :: parts) ", ").sql.toList := by
        simp [join, String.intercalate_cons_cons]
      have hparams : (join (f :: g :: parts) ", ").params = f.params ++ (join (g :: parts) ", ").params := rfl
      unfold Reads at hf ih ⊢
      rw [htext, hparams, cut_append_single hcomma, cut_cons_single hspace, fill_append hf]
      change ((fill (comma :: cut (join (g :: parts) ", ").sql.toList) _).map _) = _
      rw [fill, ih]
      rfl

end Fragment

/-! ### What is read -/

namespace Assignment

/-- The branches that map old values of a column to new ones, and its other values to themselves. -/
def mapping (column : String) (pairs : List (Value × Value)) : Assignment :=
  ⟨column, pairs.map fun pair => (.compare column .equal false pair.1.coerce, pair.2.coerce), column⟩

/-- The lexemes of the branches and of the end. -/
def branchLexemes (column : String) : List (Value × Value) → List (Lexeme Value)
  | [] => [word "ELSE", word column, word "END"]
  | pair :: pairs =>
    word "WHEN" :: word column :: word "=" :: hole pair.1.coerce :: word "THEN" :: hole pair.2.coerce ::
      branchLexemes column pairs

/-- The lexemes of an assignment. -/
def lexemes (column : String) (pairs : List (Value × Value)) : List (Lexeme Value) :=
  word column :: word "=" :: word "CASE" :: branchLexemes column pairs

theorem length_lexemes (column : String) (pairs : List (Value × Value)) :
    pairs.length < (lexemes column pairs).length := by
  have hbranches : pairs.length < (branchLexemes column pairs).length := by
    induction pairs with
    | nil => simp [branchLexemes]
    | cons pair pairs ih =>
      simp only [branchLexemes, List.length_cons]
      omega
  simp only [lexemes, List.length_cons]
  omega

theorem readBranches_branchLexemes {column : String} (hcolumn : isColumn column = true) {pairs : List (Value × Value)}
    {n : Nat} (hn : pairs.length ≤ n) (rest : List (Lexeme Value)) :
    readBranches n (branchLexemes column pairs ++ rest) =
      some (((mapping column pairs).branches, column), rest) := by
  induction pairs generalizing n with
  | nil => cases n <;> rfl
  | cons pair pairs ih =>
    cases n with
    | zero => simp at hn
    | succ n =>
      -- the word behind `WHEN` is the column, even if it spells a keyword
      have hatom : ∀ after, Formula.readAtom (word column :: word "=" :: hole pair.1.coerce :: after) =
          some (.compare column .equal false pair.1.coerce, after) := by
        intro after
        rw [Formula.readAtom_column hcolumn]
        rfl
      simp only [branchLexemes, List.cons_append]
      rw [readBranches, hatom]
      simp only
      rw [ih (Nat.le_of_succ_le_succ hn)]
      rfl

/-- An assignment by a pair or more is read, whatever follows it. -/
theorem read_lexemes {column : String} (hcolumn : isColumn column = true) {pairs : List (Value × Value)}
    (hne : pairs ≠ []) {n : Nat} (hn : pairs.length ≤ n) (rest : List (Lexeme Value)) :
    read n (lexemes column pairs ++ rest) = some (mapping column pairs, rest) := by
  have hbranches := readBranches_branchLexemes hcolumn hn rest
  cases pairs with
  | nil => exact absurd rfl hne
  | cons pair pairs =>
    simp only [lexemes, branchLexemes, List.cons_append] at hbranches ⊢
    rw [read, hbranches]
    rfl

/-- Assignments with commas between them are read up to the end or to the conditions. -/
theorem readAll_commas {listed : List (String × List (Value × Value))} (hne : listed ≠ [])
    (hcolumns : ∀ entry ∈ listed, isColumn entry.1 = true) (hpairs : ∀ entry ∈ listed, entry.2 ≠ [])
    {rest : List (Lexeme Value)} (hrest : rest = [] ∨ ∃ after, rest = word "WHERE" :: after) {n : Nat}
    (hn : (Fragment.commas (listed.map fun entry => lexemes entry.1 entry.2)).length ≤ n) :
    readAll n (Fragment.commas (listed.map fun entry => lexemes entry.1 entry.2) ++ rest) =
      some (listed.map fun entry => mapping entry.1 entry.2) := by
  induction listed generalizing n with
  | nil => exact absurd rfl hne
  | cons entry listed ih =>
    obtain ⟨hcolumn, hcolumns⟩ := List.forall_mem_cons.1 hcolumns
    obtain ⟨hpair, hpairs⟩ := List.forall_mem_cons.1 hpairs
    -- an assignment has more lexemes than pairs, so there are steps left for all of its branches
    have hlength := length_lexemes entry.1 entry.2
    cases listed with
    | nil =>
      simp only [List.map_cons, List.map_nil, Fragment.commas] at hn ⊢
      cases n with
      | zero => omega
      | succ n =>
        rw [readAll, read_lexemes hcolumn hpair (by omega)]
        rcases hrest with rfl | ⟨after, rfl⟩
        · rfl
        · rfl
    | cons next listed =>
      simp only [List.map_cons, Fragment.commas, List.length_append, List.length_cons] at hn ih ⊢
      cases n with
      | zero => omega
      | succ n =>
        rw [List.append_assoc, List.cons_append, readAll, read_lexemes hcolumn hpair (by omega)]
        simp only
        rw [ih (by simp) hcolumns hpairs (by omega)]
        rfl

/-- The new value of the first pair whose old value the column has, or else the value of the column. -/
theorem value_mapping (db : Comparisons) (row : String → Value) (column : String) (pairs : List (Value × Value)) :
    (mapping column pairs).value db row =
      match pairs.find? fun pair => db.same (row column) pair.1.coerce with
      | some pair => pair.2.coerce
      | none => row column := by
  have hfind : ((mapping column pairs).branches.find? fun branch => branch.1.truth db row == .yes) =
      (pairs.find? fun pair => db.same (row column) pair.1.coerce).map fun pair =>
        (.compare column .equal false pair.1.coerce, pair.2.coerce) := by
    unfold mapping
    rw [List.find?_map]
    congr 2
    funext pair
    exact db.compare_equal_beq_yes (row column) pair.1.coerce
  unfold value
  rw [hfind]
  cases pairs.find? fun pair => db.same (row column) pair.1.coerce with
  | none => rfl
  | some pair => rfl

end Assignment
end SqlToolkit
