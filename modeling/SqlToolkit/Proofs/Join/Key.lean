import Mathlib.Data.List.DropRight
import SqlToolkit.Join
import SqlToolkit.Proofs.Outcome
import SqlToolkit.Proofs.Text.Column
import SqlToolkit.Proofs.Text.Trim

/-!
# Join keys and table specifications

A table is specified in two places: where a statement starts from it, and in the key of a join, where a tag may stand in
front.  Each place reads its text in its own way: a join key is taken apart completely, while a specification that has no
alias is only trimmed.  Both find the same table (`parseTable_eq_tableRef`), whatever blanks stand between the parts, and a
tag only tells the kind of the join.
-/
namespace SqlToolkit
open Text Outcome

/-- Steps that each pass what they may and refuse all else. -/
theorem Outcome.mapM_eq_ok_iff_map {ε α β : Type} {f : α → Except ε β} {p : α → Prop} {g : α → β}
    (h : ∀ x y, f x = .ok y ↔ p x ∧ y = g x) {xs : List α} {ys : List β} :
    xs.mapM f = .ok ys ↔ (∀ x ∈ xs, p x) ∧ ys = xs.map g := by
  induction xs generalizing ys with
  | nil => simp [pure, Except.pure, eq_comm]
  | cons x xs ih =>
    simp only [List.mapM_cons, bind_eq_ok, pure_eq_ok, h, ih, List.forall_mem_cons, List.map_cons]
    constructor
    · rintro ⟨_, ⟨hx, rfl⟩, _, ⟨hxs, rfl⟩, rfl⟩
      exact ⟨⟨hx, hxs⟩, rfl⟩
    · rintro ⟨⟨hx, hxs⟩, rfl⟩
      exact ⟨_, ⟨hx, rfl⟩, _, ⟨hxs, rfl⟩, rfl⟩

namespace Text

theorem skipBlanks_skipBlanks (cs : List Char) : skipBlanks (skipBlanks cs) = skipBlanks cs :=
  List.dropWhile_idempotent isBlank cs

/-- What can be read as a name has no blanks in it, so trimming the blanks around it leaves it. -/
theorem trimBlanks_of_readName {cs name after : List Char} (h : readName isColumnChar (skipBlanks cs) = some (name, after))
    (hafter : Blank after) : trimBlanks cs = name := by
  have hname : ∀ c ∈ name, isBlank c = false := fun c hc =>
    isBlank_of_isBareChar ((readName_bare (fun _ => isBareChar_of_isColumnChar) h).2 c hc)
  rw [trimBlanks, readName_eq_append h, dropTrailingBlanks_append hafter, dropTrailingBlanks_of_forall_not_blank hname]

/-- A reference ends without an alias just where there are only blanks. -/
theorem readAliasEnd_eq_none_iff {cs : List Char} : readAliasEnd cs = some none ↔ Blank cs := by
  have hskip : skipBlanks cs = [] ↔ Blank cs := List.dropWhile_eq_nil_iff
  rw [← hskip, readAliasEnd]
  cases hcs : skipBlanks cs with
  | nil => simp
  | cons c rest =>
    simp only [reduceCtorEq, iff_false]
    split
    · split <;> simp
    · simp

end Text

namespace JoinKind

/-- The tag of a kind in a key. -/
def tag : JoinKind → String
  | left => "[>]"
  | right => "[<]"
  | full => "[<>]"
  | inner => "[><]"

end JoinKind

namespace Join
variable {key : String} {cs table : List Char} {asName : Option (List Char)} {kind : JoinKind}

/-! ### Keys with and without a tag -/

/-- A key does not begin with a tag. -/
def Untagged (key : String) : Prop := (skipBlanks key.toList).head? ≠ some '['

instance (key : String) : Decidable (Untagged key) := inferInstanceAs (Decidable (_ ≠ _))

theorem readKind_of_head?_ne (h : cs.head? ≠ some '[') : readKind cs = (.inner, cs) := by
  unfold readKind
  split
  all_goals first
    | exact absurd rfl h
    | rfl

theorem readKind_tag (kind : JoinKind) (cs : List Char) :
    readKind (skipBlanks (kind.tag.toList ++ cs)) = (kind, cs) := by
  cases kind <;> rfl

/-- The table and the alias of a key without a tag. -/
def readTable (cs : List Char) : Option (List Char × Option (List Char)) :=
  match readName isColumnChar (skipBlanks cs) with
  | some (table, after) => (readAliasEnd after).map fun asName => (table, asName)
  | none => none

/-- They are what is read behind the tag. -/
theorem readKey_of_readKind {rest : List Char} (h : readKind (skipBlanks cs) = (kind, rest)) :
    readKey cs = (readTable rest).map fun r => (kind, r) := by
  unfold readKey readTable
  rw [h]
  dsimp only
  cases readName isColumnChar (skipBlanks rest) with
  | none => rfl
  | some found =>
    dsimp only
    rw [Option.map_map]
    rfl

theorem readKey_untagged (h : Untagged key) : readKey key.toList = (readTable key.toList).map fun r => (.inner, r) := by
  have hsame : readTable (skipBlanks key.toList) = readTable key.toList := by
    unfold readTable
    rw [skipBlanks_skipBlanks]
  rw [readKey_of_readKind (readKind_of_head?_ne h), hsame]

theorem readKey_tag (kind : JoinKind) (cs : List Char) :
    readKey (kind.tag.toList ++ cs) = (readTable cs).map fun r => (kind, r) :=
  readKey_of_readKind (readKind_tag kind cs)

theorem parse_eq_ok_iff {constraint : JoinConstraint} {j : Join} : parse key constraint = .ok j ↔
    ∃ kind table asName, readKey key.toList = some (kind, table, asName) ∧
      j = ⟨kind, String.ofList table, asName.map String.ofList, some constraint⟩ := by
  unfold parse
  split
  · next kind table asName heq => simp [heq, eq_comm]
  · next heq => simp [heq]

/-! ### Specifications -/

/-- **The table of a key is the one that it specifies.** -/
theorem parseTable_of_readTable (t : Target) (h : readTable key.toList = some (table, asName)) :
    t.parseTable key = t.tableRef (String.ofList table) (asName.map String.ofList) := by
  unfold readTable at h
  unfold Target.parseTable Target.readTableAlias
  cases hname : readName isColumnChar (skipBlanks key.toList) with
  | none => simp [hname] at h
  | some found =>
    obtain ⟨name, after⟩ := found
    rw [hname] at h
    dsimp only at h ⊢
    obtain ⟨asName', hend, heq⟩ := Option.map_eq_some_iff.1 h
    cases heq
    rw [hend]
    cases asName with
    | some asName => rfl
    | none =>
      -- without an alias the specification is only trimmed
      dsimp only
      rw [trim, trimBlanks_of_readName hname (readAliasEnd_eq_none_iff.1 hend)]
      rfl

theorem parseTable_eq_tableRef {constraint : JoinConstraint} {j : Join} (huntagged : Untagged key)
    (h : parse key constraint = .ok j) (t : Target) : t.parseTable key = j.tableRef t := by
  obtain ⟨kind, table, asName, hread, rfl⟩ := parse_eq_ok_iff.1 h
  rw [readKey_untagged huntagged] at hread
  obtain ⟨found, hfound, heq⟩ := Option.map_eq_some_iff.1 hread
  cases heq
  exact parseTable_of_readTable t hfound

/-! ### Clauses -/

/-- The text of a constraint between two tables.  Columns are plain or qualified, and there is at least one. -/
inductive Constrains (main joined : TableRef) (t : Target) : JoinConstraint → String → Prop
  | shared {columns : List String} : columns ≠ [] → (∀ column ∈ columns, isColumn column = true) →
      Constrains main joined t (.shared columns) ("USING (" ++ ", ".intercalate columns ++ ")")
  | pairs {columns : List (String × String)} : columns ≠ [] →
      (∀ pair ∈ columns, isColumn pair.1 = true ∧ isColumn pair.2 = true) →
      Constrains main joined t (.pairs columns) ("ON " ++ " AND ".intercalate
        (columns.map fun pair => leftColumn main t pair.1 ++ " = " ++ joined.reference ++ "." ++ pair.2))
  | raw (sql : RawSql) : Constrains main joined t (.raw sql) ("ON " ++ t.renderRaw sql)

section Constrains

variable {main joined : TableRef} {t : Target} {clause : String}

theorem constrains_shared_iff {columns : List String} : Constrains main joined t (.shared columns) clause ↔
    columns ≠ [] ∧ (∀ column ∈ columns, isColumn column = true) ∧
      clause = "USING (" ++ ", ".intercalate columns ++ ")" := by
  constructor
  · intro h
    cases h with
    | shared hne hcolumns => exact ⟨hne, hcolumns, rfl⟩
  · rintro ⟨hne, hcolumns, rfl⟩
    exact .shared hne hcolumns

theorem constrains_pairs_iff {columns : List (String × String)} : Constrains main joined t (.pairs columns) clause ↔
    columns ≠ [] ∧ (∀ pair ∈ columns, isColumn pair.1 = true ∧ isColumn pair.2 = true) ∧
      clause = "ON " ++ " AND ".intercalate
        (columns.map fun pair => leftColumn main t pair.1 ++ " = " ++ joined.reference ++ "." ++ pair.2) := by
  constructor
  · intro h
    cases h with
    | pairs hne hcolumns => exact ⟨hne, hcolumns, rfl⟩
  · rintro ⟨hne, hcolumns, rfl⟩
    exact .pairs hne hcolumns

theorem constrains_raw_iff {sql : RawSql} :
    Constrains main joined t (.raw sql) clause ↔ clause = "ON " ++ t.renderRaw sql := by
  constructor
  · rintro ⟨⟩
    rfl
  · rintro rfl
    exact .raw sql

end Constrains

theorem pairText_eq_ok_iff {j : Join} {main : TableRef} {t : Target} {left right text : String} :
    j.pairText main t left right = .ok text ↔ (isColumn left = true ∧ isColumn right = true) ∧
      text = leftColumn main t left ++ " = " ++ (j.tableRef t).reference ++ "." ++ right := by
  simp only [pairText, bind_eq_ok, validateColumn_eq_ok, pure_eq_ok]
  constructor
  · rintro ⟨_, ⟨rfl, hleft⟩, _, ⟨rfl, hright⟩, rfl⟩
    exact ⟨⟨hleft, hright⟩, rfl⟩
  · rintro ⟨⟨hleft, hright⟩, rfl⟩
    exact ⟨left, ⟨rfl, hleft⟩, right, ⟨rfl, hright⟩, rfl⟩

/-- A constraint is written just if it may be. -/
theorem constraintText_eq_ok_iff {j : Join} {main : TableRef} {t : Target} {clause : String} :
    j.constraintText main t = .ok clause ↔
      ∃ constraint, j.constraint = some constraint ∧ Constrains main (j.tableRef t) t constraint clause := by
  cases hgiven : j.constraint with
  | none => simp [constraintText, hgiven]
  | some constraint =>
    simp only [Option.some.injEq, exists_eq_left']
    rw [constraintText, hgiven]
    cases constraint with
    | raw sql =>
      rw [constrains_raw_iff, Except.ok.injEq, eq_comm]
    | shared columns =>
      have hcolumn (name text : String) : validateColumn name = .ok text ↔ isColumn name = true ∧ text = id name := by
        rw [validateColumn_eq_ok, and_comm, id]
      rw [constrains_shared_iff]
      cases columns with
      | nil => simp
      | cons column columns =>
        simp only [bind_eq_ok, pure_eq_ok, mapM_eq_ok_iff_map hcolumn, List.map_id]
        constructor
        · rintro ⟨_, ⟨hcolumns, rfl⟩, rfl⟩
          exact ⟨List.cons_ne_nil _ _, hcolumns, rfl⟩
        · rintro ⟨-, hcolumns, rfl⟩
          exact ⟨_, ⟨hcolumns, rfl⟩, rfl⟩
    | pairs columns =>
      rw [constrains_pairs_iff]
      cases columns with
      | nil => simp
      | cons pair columns =>
        simp only [bind_eq_ok, pure_eq_ok, mapM_eq_ok_iff_map fun _ _ => pairText_eq_ok_iff]
        constructor
        · rintro ⟨_, ⟨hcolumns, rfl⟩, rfl⟩
          exact ⟨List.cons_ne_nil _ _, hcolumns, rfl⟩
        · rintro ⟨-, hcolumns, rfl⟩
          exact ⟨_, ⟨hcolumns, rfl⟩, rfl⟩

/-- **A join is written** with its kind, its table and its constraint. -/
theorem render_eq_ok_iff {j : Join} {main : TableRef} {t : Target} {text : String} :
    j.render main t = .ok text ↔ ∃ constraint clause, j.constraint = some constraint ∧
      Constrains main (j.tableRef t) t constraint clause ∧
        text = " " ++ j.kind.keyword ++ " " ++ (j.tableRef t).render ++ " " ++ clause := by
  simp only [render, bind_eq_ok, pure_eq_ok, constraintText_eq_ok_iff]
  constructor
  · rintro ⟨clause, ⟨constraint, hgiven, hclause⟩, rfl⟩
    exact ⟨constraint, clause, hgiven, hclause, rfl⟩
  · rintro ⟨constraint, clause, hgiven, hclause, rfl⟩
    exact ⟨clause, ⟨constraint, hgiven, hclause⟩, rfl⟩

/-- **A join key without a tag specifies its table** as a statement does, whatever blanks are in it: the join is written
with the table of the specification, and columns of the joined table are qualified with its reference.  A tag in front of
the key changes the kind of the join and nothing else. -/
theorem parse_specifies_table {constraint : JoinConstraint} {j : Join} (huntagged : Untagged key)
    (h : parse key constraint = .ok j) :
    (∀ (t : Target) (main : TableRef) (text : String), j.render main t = .ok text ↔
      ∃ clause, Constrains main (t.parseTable key) t constraint clause ∧
        text = " INNER JOIN " ++ (t.parseTable key).render ++ " " ++ clause) ∧
    ∀ kind : JoinKind, parse (kind.tag ++ key) constraint = .ok { j with kind } := by
  have htable := parseTable_eq_tableRef huntagged h
  obtain ⟨kind, table, asName, hread, rfl⟩ := parse_eq_ok_iff.1 h
  rw [readKey_untagged huntagged] at hread
  obtain ⟨found, hfound, heq⟩ := Option.map_eq_some_iff.1 hread
  cases heq
  refine ⟨fun t main text => ?_, fun kind => ?_⟩
  · rw [render_eq_ok_iff, htable]
    simp [JoinKind.keyword]
  · refine parse_eq_ok_iff.2 ⟨kind, table, asName, ?_, rfl⟩
    rw [String.toList_append, readKey_tag, hfound]
    rfl

/-- Blanks of several scripts around a table, its alias and the parentheses. -/
theorem parse_specifies_table_spaced :
    let key := "\u3000account\u00a0(\u2003a )\t"
    let constraint := JoinConstraint.pairs [("author_id", "user_id")]
    let j : Join := ⟨.inner, "account", some "a", some constraint⟩
    Untagged key ∧ parse key constraint = .ok j ∧
      j.render ⟨"\"post\"", none⟩ ⟨.pgSql, "app_"⟩ =
        .ok " INNER JOIN \"app_account\" AS \"a\" ON \"post\".author_id = \"a\".user_id" ∧
      parse ("[<>]" ++ key) constraint = .ok { j with kind := .full } := by
  intro key constraint j
  have huntagged : Untagged key := by decide +kernel
  have h : parse key constraint = .ok j := by decide +kernel
  obtain ⟨hrender, htag⟩ := parse_specifies_table huntagged h
  have hcolumns : ∀ pair ∈ [("author_id", "user_id")], isColumn pair.1 = true ∧ isColumn pair.2 = true := by
    decide +kernel
  refine ⟨huntagged, h, ?_, htag .full⟩
  exact (hrender _ _ _).2 ⟨_, .pairs (by simp) hcolumns, by decide +kernel⟩

end Join
end SqlToolkit
