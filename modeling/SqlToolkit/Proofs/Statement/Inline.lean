import SqlToolkit.Proofs.Statement.Binding
import SqlToolkit.Proofs.Statement.Piece
import SqlToolkit.Proofs.Statement.Tame
import SqlToolkit.Proofs.Statement.Unquoted
import SqlToolkit.Proofs.Text.Figures

/-!
# Statements in the log

A log shows a statement with each value in place of its placeholder (`filled`).  All names of a statement stand in front
of its first placeholder, and nothing between the first and the last has quotes.  So whether the log is right depends on
the names alone: it is if what stands in front of the first placeholder is quiet, as it is if no name has an apostrophe
or a question mark, and otherwise no value stands in its place (`inlineText_eq_filled_iff`).
-/
namespace SqlToolkit
open Text Outcome

/-- No value is written with a question mark in front. -/
theorem Value.inline_ne_mark (v : Value) (cs ds : List Char) : v.inline.toList ++ cs ≠ '?' :: ds := by
  have hdigit : ∀ c : Char, c.isDigit = true → c ≠ '?' := by
    rintro c hc rfl
    exact absurd hc (by decide)
  have hnumber {text : String} (hne : text.toList ≠ []) (hmarks : ∀ c ∈ text.toList, c ≠ '?') :
      text.toList ++ cs ≠ '?' :: ds := by
    obtain ⟨c, rest, htext⟩ := List.exists_cons_of_ne_nil hne
    rw [htext] at hmarks ⊢
    exact fun h => hmarks c List.mem_cons_self (List.cons.inj h).1
  cases v with
  | null => simp [inline]
  | bool b => cases b <;> simp [inline]
  | int n =>
    refine hnumber ?_ (forall_inline_int hdigit (by decide) n)
    show (toString n.toInt).toList ≠ []
    cases n.toInt with
    | ofNat k => exact digitText_ne_nil k
    | negSucc k =>
      show ("-" ++ toString (k + 1)).toList ≠ []
      simp
  | float x =>
    have hothers : '?' ∉ "-.NaNinf".toList := by decide
    exact hnumber (floatText_ne_nil x) (forall_floatText hdigit (List.forall_mem_ne'.2 hothers) x)
  | text t => simp [inline, literal, wrap, enclose]
  | blob bytes => simp [inline]

namespace Text

/-- The apostrophes of a text are paired, and each question mark stands between the two of a pair. -/
def Quiet (cs : List Char) : Prop := passed? '\'' false cs = some false

instance (cs : List Char) : Decidable (Quiet cs) := inferInstanceAs (Decidable (_ = _))

end Text

namespace Statement
variable {d : Dialect} {s : Statement}

/-- The pieces of a statement between its placeholders. -/
def pieces (d : Dialect) (s : Statement) : List (List Char) := Text.pieces d.quotes.1 false s.sql.toList

/-- The text with each value in place of its placeholder. -/
def filled (d : Dialect) (s : Statement) : String := String.ofList (interleave (s.pieces d) s.params)

/-- What stands in front of the first placeholder. -/
def front (d : Dialect) (s : Statement) : List Char := (s.pieces d).headD []

theorem quotes_ne_mark (d : Dialect) : d.quotes.1 ≠ '?' := by cases d <;> decide

theorem isSchemaQuote_quotes (d : Dialect) : Schema.isSchemaQuote d.quotes.1 = true := by cases d <;> rfl

/-! ### Reading from the counts -/

/-- A text without placeholders that leaves no identifier open is passed. -/
theorem passed?_of_holds {text : String} (h : d.Holds text 0) : passed? d.quotes.1 false text.toList = some false := by
  have hcount (rest : List Char) :
      (Text.pieces d.quotes.1 false (text.toList ++ rest)).length = (Text.pieces d.quotes.1 false rest).length := by
    rw [length_pieces (quotes_ne_mark d), length_pieces (quotes_ne_mark d), h rest, Nat.zero_add]
  cases hpassed : passed? d.quotes.1 false text.toList with
  | none =>
    obtain ⟨before, rest, htext, hbefore⟩ := exists_of_passed?_eq_none hpassed
    have hlength := hcount []
    rw [List.append_nil, htext, length_pieces_append hbefore, pieces_mark] at hlength
    exact absurd (List.length_eq_zero_iff.1 (Nat.succ.inj hlength)) (pieces_ne_nil _ _ _)
  | some inside =>
    cases inside with
    | false => rfl
    | true =>
      have hlength := hcount ['?']
      rw [length_pieces_append hpassed, pieces_mark] at hlength
      simp [Text.pieces] at hlength

/-- In a text without quotes every question mark is a placeholder. -/
theorem count_of_holds {text : String} {n : Nat} (h : d.Holds text n) (hquotes : Quoteless text) :
    text.toList.count '?' = n := by
  have hread (cs : List Char) (hcs : d.quotes.1 ∉ cs) : placeholders d.quotes.1 false cs = cs.count '?' := by
    induction cs with
    | nil => rfl
    | cons c cs ih =>
      have hc : c ≠ d.quotes.1 := fun heq => hcs (heq ▸ List.mem_cons_self)
      have hrest := ih fun hmem => hcs (List.mem_cons_of_mem _ hmem)
      rw [placeholders, if_neg hc, hrest]
      by_cases hmark : c = '?' <;> simp [hmark]
  have htotal := h []
  have hnone := not_mem_of_quoteless hquotes (isSchemaQuote_quotes d)
  rw [List.append_nil, hread text.toList hnone, placeholders_nil] at htotal
  exact htotal

/-! ### The parts of a statement -/

/-- A statement with its names in front, its placeholders behind them, and what has neither at the end. -/
structure Parted (d : Dialect) (s : Statement) (names marks rest : String) : Prop where
  sql : s.sql = names ++ marks ++ rest
  holds_names : d.Holds names 0
  holds_marks : d.Holds marks s.params.length
  holds_rest : d.Holds rest 0
  quoteless : Quoteless marks

namespace Parted
variable {names marks rest : String}

theorem length_pieces (h : Parted d s names marks rest) : (s.pieces d).length = s.params.length + 1 := by
  have hsql : d.Holds s.sql s.params.length := by
    rw [h.sql]
    simpa using (h.holds_names.append h.holds_marks).append h.holds_rest
  rw [Statement.pieces, Text.length_pieces (quotes_ne_mark d)]
  exact congrArg (· + 1) hsql.placeholders_eq

/-- If there is a value, the first placeholder stands behind the names and words without quotes. -/
theorem exists_words (h : Parted d s names marks rest) (hparams : s.params ≠ []) : ∃ words others : List Char,
    marks.toList = words ++ '?' :: others ∧ '?' ∉ words ∧
      passed? d.quotes.1 false (names.toList ++ words) = some false ∧ s.front d = names.toList ++ words := by
  have hcount := count_of_holds h.holds_marks h.quoteless
  have hmem : '?' ∈ marks.toList := List.count_pos_iff.1 (hcount ▸ List.length_pos_of_ne_nil hparams)
  obtain ⟨words, others, hmarks, hwords⟩ := List.eq_append_cons_of_mem hmem
  have hquote : d.quotes.1 ∉ words := fun hw =>
    not_mem_of_quoteless h.quoteless (isSchemaQuote_quotes d) (hmarks ▸ List.mem_append_left _ hw)
  have hpassed : passed? d.quotes.1 false (names.toList ++ words) = some false := by
    rw [passed?_append, passed?_of_holds h.holds_names]
    exact passed?_of_not_mem hwords hquote
  refine ⟨words, others, hmarks, hwords, hpassed, ?_⟩
  have hsql : s.sql.toList = names.toList ++ words ++ '?' :: (others ++ rest.toList) := by simp [h.sql, hmarks]
  rw [front, Statement.pieces, hsql, pieces_append hpassed, pieces_mark]
  simp

/-- **The log is right exactly if the text in front of the first placeholder is quiet**, or there is no value. -/
theorem inlineText_eq_iff (h : Parted d s names marks rest) :
    s.inlineText = s.filled d ↔ s.params = [] ∨ Quiet (s.front d) := by
  rw [inlineText, filled, String.ofList_inj, fillIn_eq_interleave, pieces]
  cases hparams : s.params with
  | nil => simp [interleave_nil]
  | cons v values =>
    have hcount := count_of_holds h.holds_marks h.quoteless
    obtain ⟨words, others, hmarks, hwords, hpassed, hfront⟩ := h.exists_words (hparams ▸ List.cons_ne_nil v values)
    have hsql : s.sql.toList = names.toList ++ words ++ '?' :: (others ++ rest.toList) := by simp [h.sql, hmarks]
    rw [hfront, hsql]
    constructor
    · intro heq
      by_contra hloud
      exact interleave_pieces_ne hpassed (fun hquiet => hloud (.inr hquiet)) v.inline_ne_mark heq
    · rintro (hnil | hquiet)
      · cases hnil
      · have hfree {c : Char} (hc : Schema.isSchemaQuote c = true) : c ∉ others := fun hmem =>
          not_mem_of_quoteless h.quoteless hc (hmarks ▸ List.mem_append_right _ (List.mem_cons_of_mem _ hmem))
        have hothers : others.count '?' = values.length := by
          rw [hmarks, hparams, List.count_append, List.count_cons_self, List.count_eq_zero.2 hwords] at hcount
          simpa using hcount
        rw [interleave_append hquiet, interleave_append hpassed, interleave_mark, interleave_mark,
          interleave_pieces_eq (hfree (by decide)) (hfree (isSchemaQuote_quotes d)) hothers]

/-- It is quiet if no name has an apostrophe or a question mark. -/
theorem quiet_front (h : Parted d s names marks rest) (hnames : Tame names) (hparams : s.params ≠ []) :
    Quiet (s.front d) := by
  obtain ⟨words, others, hmarks, hwords, -, hfront⟩ := h.exists_words hparams
  have hquote : '\'' ∉ words := fun hw =>
    not_mem_of_quoteless h.quoteless (by decide) (hmarks ▸ List.mem_append_left _ hw)
  rw [hfront]
  refine passed?_of_not_mem ?_ ?_
  · rw [List.mem_append]
    exact not_or.2 ⟨fun hmem => absurd (over_iff.1 hnames _ hmem) (by decide), hwords⟩
  · rw [List.mem_append]
    exact not_or.2 ⟨fun hmem => absurd (over_iff.1 hnames _ hmem) (by decide), hquote⟩

end Parted

end Statement

/-! ### All statements -/

theorem SelectList.Referential.tame_render {t : Target} {items : SelectList} (h : items.Referential) :
    Tame (items.render t) := by
  have hwildcard : ∀ item ∈ wildcard, Tame (item.render t) := List.forall_mem_singleton.2 (by decide : Tame "*")
  have hitems : ∀ item ∈ items.items, Tame (item.render t) := by
    cases h with
    | all => exact hwildcard
    | references hcolumns =>
      simp only [SelectList.items, orWildcard]
      split
      · exact hwildcard
      · refine List.forall_mem_map.2 fun reference hreference => ?_
        obtain ⟨name, asName, distinct, hparse⟩ := hcolumns reference hreference
        exact SelectItem.tame_render_parse hparse
  exact over_intercalate (by decide) (List.forall_mem_map.2 hitems)

namespace Statement
variable {t : Target} {s : Statement}

theorem tame_aggregate {column name : String} (h : aggregateColumn column = .ok name) (function : Aggregate) :
    Tame ("SELECT " ++ function.keyword ++ "(" ++ name ++ ") AS " ++ Aggregate.asName) := by
  have hname : Tame name := by
    unfold aggregateColumn at h
    simp only at h
    split at h
    · obtain rfl := Except.ok.inj h
      decide
    · exact tame_of_isColumn (isColumn_of_validateColumn h)
  have hintro : Tame ("SELECT " ++ function.keyword ++ "(") := by cases function <;> decide
  exact ((hintro.append hname).append (b := ") AS ") (by decide)).append (by decide)

/-- Names, and behind them text with values and text without. -/
theorem parted_ofFragment {d : Dialect} {names : String} {whole f last : Fragment}
    (hsql : whole.sql = names ++ f.sql ++ last.sql) (hparams : whole.params = f.params) (hnames : d.Holds names 0)
    (hmatched : f.Matched d) (hquoteless : f.Quoteless) (hlast : d.Holds last.sql 0) :
    Parted d (ofFragment whole) names f.sql last.sql := by
  refine ⟨hsql, hnames, ?_, hlast, hquoteless⟩
  show d.Holds f.sql whole.params.length
  rw [hparams]
  exact hmatched

theorem parted_query {select table : String} {joins : List Join} {criteria : Criteria}
    (hselect : t.dialect.Holds select 0) (hjoins : ∀ j ∈ joins, j.Inert t) (hbuilt : criteria.Built)
    (hraw : criteria.RawFree) (hinert : criteria.Inert t) (h : query t select table joins criteria = .ok s) :
    ∃ tables marks rest, fromClause t table joins = .ok tables ∧ Parted t.dialect s (select ++ tables) marks rest := by
  simp only [query, Criteria.clauses, bind_eq_ok, pure_eq_ok] at h
  obtain ⟨tables, htables, _, ⟨conditions, hconditions, having, hhaving, rfl⟩, rfl⟩ := h
  have hplain := hbuilt.plain
  have hgroup : (Criteria.listClause " GROUP BY " criteria.groupBy).Matched t.dialect :=
    Criteria.matched_listClause (by decide) fun name hname =>
      Dialect.holds_neutral (neutral_of_isColumn (hplain.groupBy name hname))
  have hhavingMatched : (Criteria.clause " HAVING " having).Matched t.dialect := Criteria.matched_clause (by decide)
    (Condition.matched_compileAll hplain.having hraw.having hhaving)
  have horder : (Criteria.listClause " ORDER BY " (criteria.orderBy.map (Criteria.orderText t))).Matched t.dialect :=
    Criteria.matched_listClause (by decide) (List.forall_mem_map.2 fun _ => Criteria.holds_orderText hplain hinert)
  have hmatched := ((Criteria.matched_whereClause hplain hraw hconditions).append hgroup).append hhavingMatched
  have hquoteless := ((Criteria.quoteless_whereClause hplain hraw hconditions).append
    (Criteria.quoteless_groupBy hplain)).append (Criteria.quoteless_clause (show Text.Quoteless " HAVING " by decide)
      (Condition.quoteless_compileAll hplain.having hraw.having hhaving))
  have hlast := (horder.append (criteria.matched_windowClause t)).holds
  rw [Fragment.params_append, Criteria.params_listClause, Criteria.params_windowClause] at hlast
  exact ⟨tables, _, _, htables, parted_ofFragment (by simp [Fragment.raw, String.append_assoc])
    (by simp [Fragment.raw, Criteria.params_listClause, Criteria.params_windowClause])
    (hselect.append (holds_fromClause hjoins htables)) hmatched hquoteless hlast⟩

/-- A write has all else behind its table. -/
theorem parted_write {words table : String} {whole f : Fragment} (hwords : Neutral words)
    (hsql : whole.sql = words ++ t.quoteTable table ++ f.sql) (hparams : whole.params = f.params)
    (hmatched : f.Matched t.dialect) (hquoteless : f.Quoteless) :
    Parted t.dialect (ofFragment whole) (words ++ t.quoteTable table) f.sql "" :=
  parted_ofFragment (show whole.sql = _ ++ ({} : Fragment).sql by rw [hsql]; simp) hparams
    ((Dialect.holds_neutral hwords).append (t.holds_quoteTable table)) hmatched hquoteless
    (Dialect.holds_neutral (by decide))

theorem parted_insert {table : String} {rows : List RowData} (hraw : ∀ row ∈ rows, row.RawFree)
    (h : insert t table rows = .ok s) : ∃ marks, Parted t.dialect s ("INSERT INTO " ++ t.quoteTable table) marks "" := by
  unfold insert at h
  split at h
  · cases h
  · next first rest =>
    split at h
    · cases h
    · simp only [bind_eq_ok, pure_eq_ok] at h
      obtain ⟨columns, hcolumns, fs, hfs, rfl⟩ := h
      obtain rfl := eq_map_of_tuples hfs
      have hneutral : Neutral (", ".intercalate columns) := Neutral.intercalate (by decide)
        (forall_of_mapM hcolumns fun _ _ _ => neutral_insertColumn)
      have hbare : Quoteless (", ".intercalate columns) := over_intercalate (by decide)
        (forall_of_mapM hcolumns fun _ _ _ => quoteless_insertColumn)
      have hintro : (Fragment.raw (" (" ++ ", ".intercalate columns ++ ") VALUES ")).Matched t.dialect :=
        Fragment.matched_raw
          (Dialect.holds_neutral ((Neutral.append (a := " (") (by decide) hneutral).append (by decide)))
      have hintroBare : (Fragment.raw (" (" ++ ", ".intercalate columns ++ ") VALUES ")).Quoteless :=
        (Over.append (a := " (") (by decide) hbare).append (by decide)
      have hmatched := hintro.append (Fragment.matched_join (s := ", ") (by decide)
        (List.forall_mem_map.2 fun row hrow => matched_tuple (hraw row hrow) first.keys))
      have hquoteless := hintroBare.append (Fragment.quoteless_join (show Text.Quoteless ", " by decide)
        (List.forall_mem_map.2 fun row hrow => quoteless_tuple (t := t) (hraw row hrow) first.keys))
      exact ⟨_, parted_write (by decide) (by simp [Fragment.raw, String.append_assoc]) (by simp [Fragment.raw]) hmatched
        hquoteless⟩

theorem parted_updateWith {table : String} {assignments : List Fragment} {criteria : Criteria}
    (hmatched : ∀ f ∈ assignments, f.Matched t.dialect) (hquoteless : ∀ f ∈ assignments, f.Quoteless)
    (hbuilt : criteria.Built) (hraw : criteria.RawFree) (h : updateWith t table assignments criteria = .ok s) :
    ∃ marks, Parted t.dialect s ("UPDATE " ++ t.quoteTable table) marks "" := by
  simp only [updateWith, bind_eq_ok, pure_eq_ok] at h
  obtain ⟨conditions, hconditions, rfl⟩ := h
  have hplain := hbuilt.plain
  have hset : (Fragment.raw " SET ").Matched t.dialect := Fragment.matched_raw (Dialect.holds_neutral (by decide))
  have hsetBare : (Fragment.raw " SET ").Quoteless := (by decide : Quoteless " SET ")
  have hassigned := (hset.append (Fragment.matched_join (s := ", ") (by decide) hmatched)).append
    (Criteria.matched_whereClause hplain hraw hconditions)
  have hbare := (hsetBare.append (Fragment.quoteless_join (show Text.Quoteless ", " by decide) hquoteless)).append
    (Criteria.quoteless_whereClause hplain hraw hconditions)
  exact ⟨_, parted_write (by decide) (by simp [Fragment.raw, String.append_assoc]) (by simp [Fragment.raw]) hassigned
    hbare⟩

theorem parted_delete {table : String} {criteria : Criteria} (hbuilt : criteria.Built) (hraw : criteria.RawFree)
    (h : delete t table criteria = .ok s) :
    ∃ marks, Parted t.dialect s ("DELETE FROM " ++ t.quoteTable table) marks "" := by
  simp only [Statement.delete, bind_eq_ok, pure_eq_ok] at h
  obtain ⟨conditions, hconditions, rfl⟩ := h
  exact ⟨_, parted_write (by decide) rfl (by simp [Fragment.raw])
    (Criteria.matched_whereClause hbuilt.plain hraw hconditions)
    (Criteria.quoteless_whereClause hbuilt.plain hraw hconditions)⟩

end Statement

namespace Request
open Statement

/-- No name of the request has an apostrophe or a question mark. -/
def Tame (t : Target) (r : Request) : Prop :=
  Text.Tame t.tablePrefix ∧
    match r with
    | select table joins _ _ | aggregate _ table joins _ _ => Text.Tame table ∧ ∀ j ∈ joins, j.Tame t
    | insert table _ | update table _ _ | delete table _ | replace table _ _ => Text.Tame table

variable {t : Target} {s : Statement}

/-- Every statement has its names in front of its placeholders. -/
theorem exists_parted {r : Request} (hr : r.Bindable t) (h : r.compile t = .ok s) :
    ∃ names marks rest, Parted t.dialect s names marks rest ∧ (r.Tame t → Text.Tame names) := by
  have hwrite {words table : String} (hwords : Text.Tame words) (hnames : Text.Tame t.tablePrefix ∧ Text.Tame table) :
      Text.Tame (words ++ t.quoteTable table) := hwords.append (Target.tame_quoteTable hnames.1 hnames.2)
  cases r with
  | select table joins items criteria =>
    obtain ⟨hitems, hjoins, hbuilt, hraw, hinert⟩ := hr
    have hselect := (Dialect.holds_neutral (a := "SELECT ") (by decide)).append (hitems.holds_render (t := t))
    obtain ⟨tables, marks, rest, htables, hparted⟩ := parted_query hselect hjoins hbuilt hraw hinert h
    exact ⟨_, _, _, hparted, fun ⟨hprefixed, htable, hnames⟩ =>
      (Over.append (a := "SELECT ") (by decide) hitems.tame_render).append
        (tame_fromClause hprefixed htable hnames htables)⟩
  | aggregate function table joins column criteria =>
    obtain ⟨hjoins, hbuilt, hraw, hinert⟩ := hr
    obtain ⟨name, hname, h⟩ := bind_eq_ok.1 h
    obtain ⟨tables, marks, rest, htables, hparted⟩ :=
      parted_query (holds_aggregate hname) hjoins hbuilt hraw hinert h
    exact ⟨_, _, _, hparted, fun ⟨hprefixed, htable, hnames⟩ =>
      (tame_aggregate hname function).append (tame_fromClause hprefixed htable hnames htables)⟩
  | insert table rows =>
    obtain ⟨marks, hparted⟩ := parted_insert hr h
    exact ⟨_, _, _, hparted, hwrite (by decide)⟩
  | update table data criteria =>
    obtain ⟨hdata, hbuilt, hraw⟩ := hr
    simp only [compile, Statement.update] at h
    split at h
    · cases h
    · obtain ⟨assignments, hassignments, h⟩ := bind_eq_ok.1 h
      obtain ⟨marks, hparted⟩ := parted_updateWith
        (forall_of_mapM hassignments fun entry hentry _ => matched_assignment (hdata entry hentry))
        (forall_of_mapM hassignments fun entry hentry _ => quoteless_assignment (hdata entry hentry)) hbuilt hraw h
      exact ⟨_, _, _, hparted, hwrite (by decide)⟩
  | delete table criteria =>
    obtain ⟨hbuilt, hraw⟩ := hr
    obtain ⟨marks, hparted⟩ := parted_delete hbuilt hraw h
    exact ⟨_, _, _, hparted, hwrite (by decide)⟩
  | replace table replacements criteria =>
    obtain ⟨hbuilt, hraw⟩ := hr
    simp only [compile, Statement.replace] at h
    split at h
    · cases h
    · obtain ⟨assignments, hassignments, h⟩ := bind_eq_ok.1 h
      obtain ⟨marks, hparted⟩ := parted_updateWith
        (forall_of_mapM hassignments fun _ _ _ => matched_replaceAssignment)
        (forall_of_mapM hassignments fun _ _ _ => quoteless_replaceAssignment) hbuilt hraw h
      exact ⟨_, _, _, hparted, hwrite (by decide)⟩

/-- **What the log shows.**  A statement has a placeholder for each of its values.  The log shows every value in place of
its placeholder, and all else as it is, exactly if there is no value or the text in front of the first placeholder is
quiet; so it does if no name has an apostrophe or a question mark, whatever the values. -/
theorem inlineText_eq_filled_iff {r : Request} (hr : r.Bindable t) (h : r.compile t = .ok s) :
    (s.pieces t.dialect).length = s.params.length + 1 ∧
    (s.inlineText = s.filled t.dialect ↔ s.params = [] ∨ Quiet (s.front t.dialect)) ∧
    (r.Tame t → s.inlineText = s.filled t.dialect) := by
  obtain ⟨names, marks, rest, hparted, htame⟩ := exists_parted hr h
  refine ⟨hparted.length_pieces, hparted.inlineText_eq_iff, fun hnames => hparted.inlineText_eq_iff.2 ?_⟩
  by_cases hparams : s.params = []
  · exact .inl hparams
  · exact .inr (hparted.quiet_front (htame hnames) hparams)

/-- A question mark and a doubled quote in a name, and apostrophes and question marks in a value, are left as they are;
here the apostrophes of the names are paired around the question mark. -/
theorem inlineText_eq_filled_update :
    let t : Target := ⟨.pgSql, "it'"⟩
    let r := update "?'s \"" ⟨[("note", .value (.text "why?'s")), ("n[+]", .value (.int 1))]⟩ {}
    let s : Statement := ⟨"UPDATE \"it'?'s \"\"\" SET note = ?, n = n + ?", [.text "why?'s", .int 1]⟩
    r.Bindable t ∧ r.compile t = .ok s ∧ s.inlineText = s.filled t.dialect ∧
      s.filled t.dialect = "UPDATE \"it'?'s \"\"\" SET note = 'why?''s', n = n + 1" := by
  intro t r s
  have hr : r.Bindable t := ⟨by simp [RowData.RawFree], .empty, by simp, by simp⟩
  have hs : r.compile t = .ok s := by decide +kernel
  have hquiet : s.params = [] ∨ Quiet (s.front t.dialect) := by decide +kernel
  exact ⟨hr, hs, (inlineText_eq_filled_iff hr hs).2.1.2 hquiet, by decide +kernel⟩

/-- **An apostrophe in a table's name** hides the placeholders behind it from the log. -/
theorem inlineText_misses_placeholder :
    let t : Target := ⟨.sqlite, ""⟩
    let r := delete "o'brien" (({} : Criteria).field "id" (.value (.int 1)))
    let s : Statement := ⟨"DELETE FROM \x60o'brien\x60 WHERE id = ?", [.int 1]⟩
    r.Bindable t ∧ r.compile t = .ok s ∧
      s.filled t.dialect = "DELETE FROM \x60o'brien\x60 WHERE id = 1" ∧
      s.inlineText = "DELETE FROM \x60o'brien\x60 WHERE id = ?" := by
  intro t r s
  have hconditions : (({} : Criteria).field "id" (.value (.int 1))).conditions = [.compare "id" none (.value (.int 1))] :=
    rfl
  have hraw : (({} : Criteria).field "id" (.value (.int 1))).RawFree := by
    refine ⟨?_, ?_⟩
    · rw [hconditions]
      exact List.forall_mem_singleton.2 (.compare (by simp))
    · exact List.forall_mem_nil _
  exact ⟨⟨.field "id" _ .empty, hraw⟩, by decide +kernel, by decide +kernel, by decide +kernel⟩

end Request
end SqlToolkit
