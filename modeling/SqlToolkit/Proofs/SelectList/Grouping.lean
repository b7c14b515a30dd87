import SqlToolkit.Proofs.Outcome
import SqlToolkit.Proofs.Text.Column
import SqlToolkit.Proofs.Text.Trim
import SqlToolkit.SelectList

/-!
# Grouped select lists

Aliased entries may be grouped under keys, in any runs and to any depth (`Grouped`).  The keys only group: what is
selected stays the same, and reading a document keeps the grouping, failures included (`agree_entriesOf`).

A list of references under a key is selected like the plain list as long as each reference is its own alias.  It is if
no blanks stand around it; a reference with blanks gets itself, blanks and all, as an alias, unless it selects everything
(`items_addNested_references_iff`).
-/
namespace SqlToolkit.SelectList
open Text Outcome

/-! ### Grouping -/

/-- The same entries in the same order, with runs of them put under keys; `nest` makes the content of a key. -/
inductive Grouped {α : Type} (nest : List (String × α) → α) : List (String × α) → List (String × α) → Prop where
  | nil : Grouped nest [] []
  | keep (entry : String × α) {es gs : List (String × α)} :
    Grouped nest es gs → Grouped nest (entry :: es) (entry :: gs)
  /-- A run of entries, itself grouped, under a key. -/
  | group (key : String) {run inner es gs : List (String × α)} :
    Grouped nest run inner → Grouped nest es gs → Grouped nest (run ++ es) ((key, nest inner) :: gs)

theorem Grouped.refl {α : Type} (nest : List (String × α) → α) (es : List (String × α)) : Grouped nest es es := by
  induction es with
  | nil => exact .nil
  | cons entry es ih => exact .keep entry ih

theorem Grouped.append {α : Type} {nest : List (String × α) → α} {es gs es' gs' : List (String × α)}
    (h : Grouped nest es gs) (h' : Grouped nest es' gs') : Grouped nest (es ++ es') (gs ++ gs') := by
  induction h with
  | nil => exact h'
  | keep entry _ ih => exact .keep entry ih
  | group key hrun _ _ ih =>
    rw [List.append_assoc]
    exact .group key hrun ih

theorem flatten_append (es es' : List (String × ColumnSource)) : flatten (es ++ es') = flatten es ++ flatten es' := by
  induction es with
  | nil => rfl
  | cons entry es ih => rw [List.cons_append, flatten, flatten, ih, List.append_assoc]

/-- **Keys only group**: the items of grouped entries are those of the entries. -/
theorem Grouped.flatten_eq {es gs : List (String × ColumnSource)} (h : Grouped .nested es gs) :
    flatten gs = flatten es := by
  induction h with
  | nil => rfl
  | keep entry _ ih => rw [flatten, flatten, ih]
  | group key _ _ ihrun ih => rw [flatten, flattenSource, ihrun, ih, flatten_append]

theorem Grouped.items_eq {es gs : List (String × ColumnSource)} (h : Grouped .nested es gs) :
    (aliased gs).items = (aliased es).items := by
  rw [items, items, h.flatten_eq]

/-! ### Grouped documents -/

theorem entriesOf_append (es es' : List (String × Document)) :
    entriesOf (es ++ es') = do
      let entries ← entriesOf es
      let others ← entriesOf es'
      return entries ++ others := by
  induction es with
  | nil => rw [List.nil_append, entriesOf]; exact (bind_pure _).symm
  | cons entry es ih =>
    rw [List.cons_append, entriesOf, entriesOf, ih]
    simp only [bind_assoc, pure_bind, List.cons_append]

/-- **Reading keeps the grouping**: of a record and the same record grouped, either both are refused for one cause, or
the entries of the second are those of the first, grouped alike. -/
theorem Grouped.agree_entriesOf {es gs : List (String × Document)} (h : Grouped .record es gs) :
    Agree (Grouped .nested) (entriesOf es) (entriesOf gs) := by
  induction h with
  | nil => exact .ok .nil
  | keep entry _ ih =>
    rw [entriesOf, entriesOf]
    refine .bind_same _ fun source => ih.bind fun entries others hgrouped => ?_
    exact .ok (.keep (entry.1, source) hgrouped)
  | group key _ _ ihrun ih =>
    rw [entriesOf_append, entriesOf, sourceOf, bind_assoc]
    refine ihrun.bind fun run inner hrun => ?_
    rw [pure_bind]
    refine ih.bind fun entries others hgrouped => ?_
    exact .ok (.group key hrun hgrouped)

theorem Grouped.agree_ofDocument {es gs : List (String × Document)} (h : Grouped .record es gs) :
    Agree (fun plain grouped => grouped.items = plain.items) (ofDocument (.record es)) (ofDocument (.record gs)) := by
  rw [ofDocument, ofDocument]
  exact h.agree_entriesOf.bind fun _ _ hgrouped => .ok hgrouped.items_eq

end SqlToolkit.SelectList

namespace SqlToolkit.SelectItem
open Text

/-! ### References under a key -/

/-- A reference is a column, whose alias has no blanks, or the text without the blanks around it. -/
theorem parse_cases (reference : String) :
    parse reference = .token (trim reference) ∨
      ∃ name asName distinct, parse reference = .column name asName distinct ∧
        ∀ a ∈ asName, ∀ c ∈ a.toList, isBlank c = false := by
  unfold parse
  dsimp only
  split
  · split
    · next name rest _ asName hend =>
      refine .inr ⟨_, _, _, rfl, fun a ha c hc => ?_⟩
      obtain ⟨cs, rfl, rfl⟩ := Option.map_eq_some_iff.1 ha
      rw [String.toList_ofList] at hc
      exact isBlank_of_isBareChar (readAliasEnd_bare hend c hc)
    · exact .inl rfl
  · exact .inl rfl

/-- A star with blanks around it selects everything. -/
theorem parse_of_trim_eq_star {reference : String} (h : trim reference = "*") : parse reference = .token "*" := by
  obtain ⟨front, back, hfront, -, hcs⟩ := exists_trimmed reference.toList
  have hstar : trimBlanks reference.toList = ['*'] := by simpa [trim] using congrArg String.toList h
  have hskip : skipBlanks reference.toList = '*' :: back := by
    rw [hcs, hstar, skipBlanks, List.dropWhile_append_of_pos hfront]
    rfl
  have hmark : readMark reference.toList = (false, '*' :: back) := by
    rw [readMark, hskip]
    rfl
  have hcolumn : readColumn ('*' :: back) = none := rfl
  rw [parse, hmark]
  simp only [hcolumn, h]

theorem isWildcard_parse (reference : String) : (parse reference).isWildcard = true ↔ trim reference = "*" := by
  constructor
  · intro h
    obtain htoken | ⟨name, asName, distinct, hcolumn, -⟩ := parse_cases reference
    · rw [htoken] at h
      exact beq_iff_eq.1 h
    · rw [hcolumn] at h
      cases h
  · intro h
    rw [parse_of_trim_eq_star h]
    rfl

/-- What selects everything can have no alias, and nothing else does so under one. -/
theorem isWildcard_withAlias (asName : String) (item : SelectItem) :
    (item.withAlias asName).isWildcard = item.isWildcard := by
  cases item with
  | token text =>
    by_cases h : text = "*"
    · simp [withAlias, h]
    · simp [withAlias, h, isWildcard]
  | column name given distinct => rfl
  | raw sql given => rfl

/-- An alias with blanks around it changes an item, unless the item selects everything. -/
theorem withAlias_parse_eq_iff {reference : String} (h : trim reference ≠ reference) :
    (parse reference).withAlias reference = parse reference ↔ trim reference = "*" := by
  constructor
  · intro heq
    by_contra hstar
    obtain htoken | ⟨name, asName, distinct, hcolumn, hbare⟩ := parse_cases reference
    · rw [htoken, withAlias, if_neg hstar] at heq
      cases heq
    · rw [hcolumn, withAlias] at heq
      obtain ⟨-, hasName, -⟩ := SelectItem.column.inj heq
      exact h (trim_of_forall_not_blank (hbare reference hasName.symm))
  · intro hstar
    rw [parse_of_trim_eq_star hstar]
    rfl

end SqlToolkit.SelectItem

namespace SqlToolkit.SelectList
open Text Outcome

theorem isWildcard_aliasedItem (asName reference : String) :
    (aliasedItem asName reference).isWildcard = true ↔ trim reference = "*" := by
  rw [← SelectItem.isWildcard_parse, aliasedItem]
  split
  · rfl
  · rw [SelectItem.isWildcard_withAlias]

/-- A reference under itself as an alias stays as it is just if no blanks stand around it, or it selects everything. -/
theorem aliasedItem_self_iff (reference : String) :
    aliasedItem reference reference = SelectItem.parse reference ↔ trim reference = reference ∨ trim reference = "*" := by
  rw [aliasedItem]
  by_cases h : trim reference = reference
  · simp [h]
  · simp [h, SelectItem.withAlias_parse_eq_iff]

theorem flatten_entries_references (columns : List String) :
    flatten (references columns).entries = columns.map fun c => aliasedItem c c := by
  have hmap : flatten (columns.map fun c => (c, .column c)) = columns.map fun c => aliasedItem c c := by
    induction columns with
    | nil => rfl
    | cons c columns ih => rw [List.map_cons, List.map_cons, flatten, flattenSource, ih]; rfl
  exact hmap

theorem items_addNested_references (key : String) (columns : List String) :
    ((aliased []).addNested key (references columns)).items = orWildcard (columns.map fun c => aliasedItem c c) := by
  have hflatten := flatten_entries_references columns
  show orWildcard (flatten [(key, .nested (references columns).entries)]) = _
  rw [flatten, flattenSource, flatten, hflatten, List.append_nil]

theorem orWildcard_of_exists {items : List SelectItem} (h : ∃ item ∈ items, item.isWildcard = true) :
    orWildcard items = wildcard := by
  rw [orWildcard, List.any_eq_true.2 h, Bool.or_true, if_pos rfl]

theorem orWildcard_of_forall {items : List SelectItem} (hne : items ≠ []) (h : ∀ item ∈ items, item.isWildcard ≠ true) :
    orWildcard items = items := by
  have hany : items.any SelectItem.isWildcard = false := List.any_eq_false.2 h
  rw [orWildcard, hany, Bool.or_false, if_neg (by simpa using hne)]

/-- **A list under a key** is selected like the plain list just if it selects everything, or no blanks stand around any
of its references. -/
theorem items_addNested_references_iff (key : String) (columns : List String) :
    ((aliased []).addNested key (references columns)).items = (references columns).items ↔
      (∃ c ∈ columns, trim c = "*") ∨ ∀ c ∈ columns, trim c = c := by
  rw [items_addNested_references, items]
  by_cases hstar : ∃ c ∈ columns, trim c = "*"
  · obtain ⟨c, hc, htrim⟩ := hstar
    have hnested : orWildcard (columns.map fun c => aliasedItem c c) = wildcard :=
      orWildcard_of_exists ⟨_, List.mem_map_of_mem hc, (isWildcard_aliasedItem c c).2 htrim⟩
    have hplain : orWildcard (columns.map SelectItem.parse) = wildcard :=
      orWildcard_of_exists ⟨_, List.mem_map_of_mem hc, (SelectItem.isWildcard_parse c).2 htrim⟩
    simp only [hnested, hplain, true_iff]
    exact .inl ⟨c, hc, htrim⟩
  · cases columns with
    | nil => simp
    | cons first columns =>
      have hnone : ∀ c ∈ first :: columns, trim c ≠ "*" := fun c hc htrim => hstar ⟨c, hc, htrim⟩
      rw [orWildcard_of_forall (by simp), orWildcard_of_forall (by simp), List.map_inj_left, or_iff_right hstar]
      · refine forall₂_congr fun c hc => ?_
        rw [aliasedItem_self_iff, or_iff_left (hnone c hc)]
      · exact List.forall_mem_map.2 fun c hc => mt (SelectItem.isWildcard_parse c).1 (hnone c hc)
      · exact List.forall_mem_map.2 fun c hc => mt (isWildcard_aliasedItem c c).1 (hnone c hc)

/-! ### Lists in documents -/

theorem textsOr_map_text (cause : CompileError) (columns : List String) :
    textsOr cause (columns.map .text) = .ok columns := by
  rw [textsOr, mapM_eq_ok_iff, List.forall₂_map_left_iff, List.forall₂_same]
  exact fun c _ => rfl

theorem ofDocument_texts (columns : List String) : ofDocument (.list (columns.map .text)) = .ok (references columns) := by
  rw [ofDocument, textsOr_map_text]
  rfl

theorem ofDocument_nested_texts (key : String) (columns : List String) :
    ofDocument (.record [(key, .list (columns.map .text))]) = .ok ((aliased []).addNested key (references columns)) := by
  rw [ofDocument, entriesOf, sourceOf, textsOr_map_text]
  rfl

/-- **What nesting does to a select list.**  Aliased entries select the same under whatever keys their runs are grouped,
built or read from a document.  A list of references under a key selects what the plain list does if it selects
everything or no blanks stand around its references, and only then. -/
theorem nesting_keeps_items (key : String) (columns : List String) (es gs run inner : List (String × ColumnSource))
    (docs grouped : List (String × Document)) :
    (Grouped .nested es gs → (aliased gs).items = (aliased es).items) ∧
      (Grouped .nested run inner →
        ((aliased es).addNested key (aliased inner)).items = (aliased (es ++ run)).items) ∧
      (Grouped Document.record docs grouped → Agree (fun plain grouped => grouped.items = plain.items)
        (ofDocument (.record docs)) (ofDocument (.record grouped))) ∧
      ofDocument (.list (columns.map .text)) = .ok (references columns) ∧
      ofDocument (.record [(key, .list (columns.map .text))]) = .ok ((aliased []).addNested key (references columns)) ∧
      (((aliased []).addNested key (references columns)).items = (references columns).items ↔
        (∃ c ∈ columns, trim c = "*") ∨ ∀ c ∈ columns, trim c = c) := by
  refine ⟨fun h => h.items_eq, fun h => ?_, fun h => h.agree_ofDocument, ofDocument_texts columns,
    ofDocument_nested_texts key columns, items_addNested_references_iff key columns⟩
  have hgroup := Grouped.group key h .nil
  rw [List.append_nil] at hgroup
  exact ((Grouped.refl .nested es).append hgroup).items_eq

/-- Two of three entries stand under a key, one of them under another key inside it. -/
theorem nesting_keeps_items_deep :
    let es : List (String × ColumnSource) := [("uid", .column "id"), ("n", .column " name"), ("total", .raw ⟨"SUM(<x>)"⟩)]
    let gs : List (String × ColumnSource) :=
      [("meta", .nested [("*", .nested [("uid", .column "id")]), ("n", .column " name")]), ("total", .raw ⟨"SUM(<x>)"⟩)]
    Grouped .nested es gs ∧ (aliased gs).items = (aliased es).items ∧
      ((aliased []).addNested "meta" (references ["@id", "n(x)"])).items = (references ["@id", "n(x)"]).items := by
  intro es gs
  have hgrouped : Grouped .nested es gs :=
    .group "meta" (.group "*" (.keep _ .nil) (.keep _ .nil)) (.keep _ .nil)
  obtain ⟨haliased, -, -, -, -, hlist⟩ := nesting_keeps_items "meta" ["@id", "n(x)"] es gs [] [] [] []
  exact ⟨hgrouped, haliased hgrouped, hlist.2 (.inr (by decide +kernel))⟩

/-- **A reference with a blank in front** gets an alias under a key that it does not have in the plain list. -/
theorem nesting_adds_alias :
    ((aliased []).addNested "meta" (references [" id"])).items = [.column "id" (some " id") false] ∧
      (references [" id"]).items = [.column "id" none false] := by
  decide +kernel

end SqlToolkit.SelectList
