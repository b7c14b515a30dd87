import SqlToolkit.Proofs.Outcome
import SqlToolkit.Proofs.Text.Over
import SqlToolkit.Proofs.Text.Quoted
import SqlToolkit.Proofs.Text.Trim
import SqlToolkit.Statement.Query

/-!
# Names without apostrophes and question marks

The names of tables and their aliases may hold anything.  If none has an apostrophe or a question mark, neither does
what a statement names in front of its conditions: the items of a query, its tables and its joins.
-/
namespace SqlToolkit
open Text Outcome

namespace Text

/-- There is no apostrophe in a text, and no question mark. -/
abbrev Tame (text : String) : Prop := Over (fun c => c != '\'' && c != '?') text

theorem tame_of_isBareChar : ∀ c, isBareChar c = true → (c != '\'' && c != '?') = true := by
  refine forall_bare_of_ne ['\'', '?'] (by decide) fun c hc => ?_
  simpa [not_or] using hc

theorem tame_of_isColumn {name : String} (h : isColumn name = true) : Tame name := over_of_isColumn tame_of_isBareChar h

theorem tame_ofList_of_bare {cs : List Char} (h : ∀ c ∈ cs, isBareChar c = true) : Tame (String.ofList cs) :=
  over_ofList.2 fun c hc => tame_of_isBareChar c (h c hc)

end Text

theorem Dialect.tame_quote (d : Dialect) {name : String} (h : Tame name) : Tame (d.quote name) := by
  have hquotes : (d.quotes.1 != '\'' && d.quotes.1 != '?') = true ∧ (d.quotes.2 != '\'' && d.quotes.2 != '?') = true := by
    cases d <;> decide
  refine over_ofList.2 (List.forall_mem_cons.2 ⟨hquotes.1, List.forall_mem_append.2 ⟨fun c hc => ?_, ?_⟩⟩)
  · exact over_iff.1 h c (mem_of_mem_double hc)
  · exact List.forall_mem_singleton.2 hquotes.2

namespace Target
variable {t : Target}

theorem tame_quoteTable (hprefixed : Tame t.tablePrefix) {table : String} (h : Tame table) : Tame (t.quoteTable table) :=
  t.dialect.tame_quote (hprefixed.append h)

theorem tame_tableRef (hprefixed : Tame t.tablePrefix) {table : String} (h : Tame table) {asName : Option String}
    (hname : ∀ name ∈ asName, Tame name) :
    Tame (t.tableRef table asName).render ∧ Tame (t.tableRef table asName).reference := by
  have htable := tame_quoteTable hprefixed h
  cases asName with
  | none => exact ⟨htable, htable⟩
  | some name =>
    have hquoted := t.dialect.tame_quote (hname name rfl)
    exact ⟨(htable.append (b := " AS ") (by decide)).append hquoted, hquoted⟩

theorem tame_parseTable (hprefixed : Tame t.tablePrefix) {spec : String} (h : Tame spec) :
    Tame (t.parseTable spec).render ∧ Tame (t.parseTable spec).reference := by
  unfold parseTable
  split
  · next table asName hread =>
    unfold readTableAlias at hread
    split at hread
    · next found rest hfound =>
      split at hread
      · next name hname =>
        obtain ⟨rfl, rfl⟩ : found = table ∧ name = asName := by simpa using hread
        have htable := tame_ofList_of_bare (readName_bare (fun _ => isBareChar_of_isColumnChar) hfound).2
        refine tame_tableRef hprefixed htable fun given hgiven => ?_
        obtain rfl := Option.mem_some_iff.1 hgiven
        exact tame_ofList_of_bare (readAliasEnd_bare hname)
      · cases hread
    · cases hread
  · refine tame_tableRef hprefixed (h.of_subset fun c hc => ?_) (by simp)
    obtain ⟨before, after, -, -, hspec⟩ := exists_trimmed spec.toList
    rw [hspec]
    simp [hc]

theorem tame_qualifiedColumn (hprefixed : Tame t.tablePrefix) {column : String} (h : isColumn column = true) :
    Tame (t.qualifiedColumn column) := by
  have hbare := (isColumn_bare h).2
  unfold qualifiedColumn
  split
  · next table name hsplit =>
    have htable : ∀ c ∈ table, isBareChar c = true := by
      unfold splitDot at hsplit
      split at hsplit
      · cases hsplit
      · obtain ⟨rfl, -⟩ : _ = table ∧ _ := by simpa using hsplit
        exact fun c hc => hbare c ((List.takeWhile_sublist _).mem hc)
    have hname := tame_ofList_of_bare (splitDot_bare hbare hsplit)
    exact ((tame_quoteTable hprefixed (tame_ofList_of_bare htable)).append (b := ".") (by decide)).append hname
  · exact tame_of_isColumn h

end Target

namespace Join
variable {t : Target} {main : TableRef} {j : Join}

/-- Neither the names of the join nor its raw constraint have apostrophes or question marks. -/
structure Tame (t : Target) (j : Join) : Prop where
  table : Text.Tame j.table
  asName : ∀ name ∈ j.asName, Text.Tame name
  raw : ∀ sql, j.constraint = some (.raw sql) → Text.Tame (t.renderRaw sql)

theorem tame_pairText (hprefixed : Text.Tame t.tablePrefix) (hmain : Text.Tame main.reference) (hj : j.Tame t)
    {left right text : String} (h : j.pairText main t left right = .ok text) : Text.Tame text := by
  simp only [pairText, bind_eq_ok, pure_eq_ok] at h
  obtain ⟨l, hl, r, hr, rfl⟩ := h
  have hleft : Text.Tame (leftColumn main t l) := by
    unfold leftColumn
    split
    · exact Target.tame_qualifiedColumn hprefixed (isColumn_of_validateColumn hl)
    · exact (hmain.append (b := ".") (by decide)).append (tame_of_isColumn (isColumn_of_validateColumn hl))
  have hjoined := (Target.tame_tableRef hprefixed hj.table hj.asName).2
  exact (((hleft.append (b := " = ") (by decide)).append hjoined).append (b := ".") (by decide)).append
    (tame_of_isColumn (isColumn_of_validateColumn hr))

theorem tame_constraintText (hprefixed : Text.Tame t.tablePrefix) (hmain : Text.Tame main.reference) (hj : j.Tame t)
    {text : String} (h : j.constraintText main t = .ok text) : Text.Tame text := by
  unfold constraintText at h
  split at h
  · cases h
  · cases h
  · cases h
  · obtain ⟨names, hnames, h⟩ := bind_eq_ok.1 h
    obtain rfl := pure_eq_ok.1 h
    have hlist : Text.Tame (", ".intercalate names) := over_intercalate (by decide)
      (forall_of_mapM hnames fun _ _ _ hname => tame_of_isColumn (isColumn_of_validateColumn hname))
    exact (Over.append (a := "USING (") (by decide) hlist).append (by decide)
  · obtain ⟨parts, hparts, h⟩ := bind_eq_ok.1 h
    obtain rfl := pure_eq_ok.1 h
    exact Over.append (a := "ON ") (by decide) (over_intercalate (by decide)
      (forall_of_mapM hparts fun _ _ _ hpart => tame_pairText hprefixed hmain hj hpart))
  · next sql hconstraint =>
    obtain rfl := Except.ok.inj h
    exact Over.append (a := "ON ") (by decide) (hj.raw sql hconstraint)

theorem tame_render (hprefixed : Text.Tame t.tablePrefix) (hmain : Text.Tame main.reference) (hj : j.Tame t)
    {text : String} (h : j.render main t = .ok text) : Text.Tame text := by
  simp only [render, bind_eq_ok, pure_eq_ok] at h
  obtain ⟨constraint, hconstraint, rfl⟩ := h
  have hkeyword : Text.Tame (" " ++ j.kind.keyword ++ " ") := by cases j.kind <;> decide
  have htable := (Target.tame_tableRef hprefixed hj.table hj.asName).1
  have htext := tame_constraintText hprefixed hmain hj hconstraint
  exact ((hkeyword.append htable).append (b := " ") (by decide)).append htext

end Join

theorem Statement.tame_fromClause {t : Target} {table text : String} {joins : List Join}
    (hprefixed : Tame t.tablePrefix) (htable : Tame table) (hjoins : ∀ j ∈ joins, j.Tame t)
    (h : fromClause t table joins = .ok text) : Tame text := by
  simp only [fromClause, bind_eq_ok, pure_eq_ok] at h
  obtain ⟨rendered, hrendered, rfl⟩ := h
  obtain ⟨hmain, hreference⟩ := Target.tame_parseTable hprefixed htable
  have hjoined : Tame (String.join rendered) := over_join
    (forall_of_mapM hrendered fun j hj _ htext => Join.tame_render hprefixed hreference (hjoins j hj) htext)
  exact (Over.append (a := " FROM ") (by decide) hmain).append hjoined

/-! ### Items -/

namespace SelectItem

/-- The name and the alias of a column reference are bare. -/
theorem bare_of_parse {reference name : String} {asName : Option String} {distinct : Bool}
    (h : parse reference = .column name asName distinct) :
    Text.Tame name ∧ ∀ a ∈ asName, Text.Tame a := by
  unfold parse at h
  simp only at h
  split at h
  · next column rest hcolumn =>
    split at h
    · next found hfound =>
      obtain ⟨rfl, rfl, -⟩ : String.ofList column = name ∧ found.map String.ofList = asName ∧ _ := by simpa using h
      refine ⟨tame_ofList_of_bare (readColumn_bare hcolumn).2, fun a ha => ?_⟩
      obtain ⟨given, rfl, rfl⟩ := Option.map_eq_some_iff.1 ha
      exact tame_ofList_of_bare (readAliasEnd_bare hfound)
    · cases h
  · cases h

theorem tame_render_parse {t : Target} {reference name : String} {asName : Option String} {distinct : Bool}
    (h : parse reference = .column name asName distinct) : Text.Tame ((parse reference).render t) := by
  obtain ⟨hname, halias⟩ := bare_of_parse h
  have hmark : Text.Tame (if distinct then "DISTINCT " else "") := by cases distinct <;> decide
  rw [h]
  refine (hmark.append hname).append ?_
  split
  · next a => exact Over.append (a := " AS ") (by decide) (halias a rfl)
  · decide

end SelectItem

end SqlToolkit
