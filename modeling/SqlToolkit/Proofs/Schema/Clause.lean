import SqlToolkit.Proofs.Schema.Token
import SqlToolkit.Proofs.Text.Figures
import SqlToolkit.Schema.Column

/-!
# The clauses of a column

A column definition is a row of clauses: a type, clauses the type implies, a default, keys, a
comment and checks.  Each is a text whose quotes end in it and whose commas stand inside
parentheses (`Clause`), whatever the names, values and comments in it hold.  So a whole
definition is one part of the statement around it, and it begins with the quoted name
(`reads_definition`).

The type table is checked once for all types and dialects (`isSound_form`); what a template
makes of its slots follows from that.
-/
namespace SqlToolkit.Schema
open Text Number

variable {quotes : Char × Char}

/-! ## Texts and the parentheses open in them -/

/-- A text gives tokens of its own, and so many parentheses are open before and after it. -/
def Nests (quotes : Char × Char) (n : Nat) (text : String) (m : Nat) : Prop :=
  ∃ ts, Reads quotes text.toList ts ∧ nesting n ts = some m

/-- A text that is one part between two commas. -/
def Clause (quotes : Char × Char) (text : String) : Prop := Nests quotes 0 text 0

/-- So it is with a text without quotes. -/
def Steps (n : Nat) (text : String) (m : Nat) : Prop :=
  Unquoted text.toList ∧ nesting n (plains text.toList) = some m

instance (n : Nat) (text : String) (m : Nat) : Decidable (Steps n text m) := inferInstanceAs (Decidable (_ ∧ _))

theorem Nests.add {n m : Nat} {text : String} (h : Nests quotes n text m) (k : Nat) :
    Nests quotes (n + k) text (m + k) := by
  obtain ⟨ts, hreads, hnesting⟩ := h
  exact ⟨ts, hreads, nesting_add hnesting k⟩

theorem Clause.nests {text : String} (h : Clause quotes text) (n : Nat) : Nests quotes n text n := by
  have hadd := Nests.add h n
  rwa [Nat.zero_add] at hadd

theorem clause_identifier (name : String) : Clause quotes (wrap name quotes.1 quotes.2) := by
  refine ⟨[.identifier name.toList], ?_, rfl⟩
  rw [wrap, String.toList_ofList]
  exact reads_identifier name.toList

theorem valueList_cons_cons (value next : String) (values : List String) :
    valueList (value :: next :: values) = literal value ++ ", " ++ valueList (next :: values) := by
  rw [valueList, List.map_cons, List.map_cons, String.intercalate_cons_cons]
  rfl

section Quoting

variable (hquotes : Quoting quotes)
include hquotes

theorem Quoting.clause_literal (text : String) : Clause quotes (literal text) := by
  refine ⟨[.literal text.toList], ?_, rfl⟩
  rw [toList_literal]
  exact hquotes.reads_literal text.toList

theorem Quoting.nests_fixed {n m : Nat} {text : String} (h : Steps n text m) : Nests quotes n text m :=
  ⟨_, hquotes.reads_plain h.1, h.2⟩

/-- A fixed text in front of another. -/
theorem Quoting.nests_append {n m k : Nat} {front text : String} (hfront : Steps n front m)
    (h : Nests quotes m text k) : Nests quotes n (front ++ text) k := by
  obtain ⟨ts, hreads, hnesting⟩ := h
  refine ⟨plains front.toList ++ ts, ?_, ?_⟩
  · rw [String.toList_append]
    exact hquotes.reads_plain_append hfront.1 hreads
  · rw [nesting_append, hfront.2]
    exact hnesting

/-- A fixed text between two others. -/
theorem Quoting.nests_between {n m k l : Nat} {text between text' : String} (h : Nests quotes n text m)
    (hbetween : Steps m between k) (hne : between ≠ "") (h' : Nests quotes k text' l) :
    Nests quotes n (text ++ between ++ text') l := by
  obtain ⟨ts, hts, hnesting⟩ := h
  obtain ⟨us, hus, hnesting'⟩ := h'
  refine ⟨ts ++ (plains between.toList ++ us), ?_, ?_⟩
  · rw [String.toList_append, String.toList_append, List.append_assoc]
    exact hquotes.reads_between hts hbetween.1 (by simpa using hne) hus
  · rw [nesting_append, hnesting, Option.bind_some, nesting_append, hbetween.2]
    exact hnesting'

/-- A fixed text behind another. -/
theorem Quoting.nests_followed {n m k : Nat} {text back : String} (h : Nests quotes n text m)
    (hback : Steps m back k) : Nests quotes n (text ++ back) k := by
  obtain ⟨ts, hreads, hnesting⟩ := h
  refine ⟨ts ++ plains back.toList, ?_, ?_⟩
  · rw [String.toList_append]
    exact hquotes.reads_append_plain hreads hback.1
  · rw [nesting_append, hnesting]
    exact hback.2

/-- Texts with a separator between them. -/
theorem Quoting.nests_intercalate {n : Nat} {separator : String} (hseparator : Steps n separator n)
    (hne : separator ≠ "") {parts : List String} (h : ∀ part ∈ parts, Nests quotes n part n) :
    Nests quotes n (separator.intercalate parts) n := by
  induction parts with
  | nil => exact hquotes.nests_fixed ⟨rfl, rfl⟩
  | cons part parts ih =>
    obtain ⟨hpart, hparts⟩ := List.forall_mem_cons.1 h
    cases parts with
    | nil => simpa using hpart
    | cons next parts =>
      rw [String.intercalate_cons_cons]
      exact hquotes.nests_between hpart hseparator hne (ih hparts)

/-- Literals with commas between them stand in parentheses. -/
theorem Quoting.nests_valueList (n : Nat) (values : List String) : Nests quotes (n + 1) (valueList values) (n + 1) := by
  have hseparator : Steps 1 ", " 1 := by decide
  have hseparator' : Steps (n + 1) ", " (n + 1) := by
    have hadd := nesting_add hseparator.2 n
    rw [Nat.add_comm 1 n] at hadd
    exact ⟨hseparator.1, hadd⟩
  refine hquotes.nests_intercalate hseparator' (by decide) fun part hpart => ?_
  obtain ⟨value, -, rfl⟩ := List.mem_map.1 hpart
  exact (hquotes.clause_literal value).nests (n + 1)

end Quoting

/-! ### Numbers -/

/-- A character that is no quote, parenthesis or comma. -/
def isCalm (c : Char) : Bool := !isSchemaQuote c && c != '(' && c != ')' && c != ','

/-- There are only such characters in a text. -/
def Calm (cs : List Char) : Prop := ∀ c ∈ cs, isCalm c = true

theorem Calm.append {cs ds : List Char} (hcs : Calm cs) (hds : Calm ds) : Calm (cs ++ ds) :=
  List.forall_mem_append.2 ⟨hcs, hds⟩

theorem calm_cons {c : Char} {cs : List Char} : Calm (c :: cs) ↔ isCalm c = true ∧ Calm cs := List.forall_mem_cons

@[simp] theorem calm_nil : Calm [] := by simp [Calm]

instance (cs : List Char) : Decidable (Calm cs) := List.decidableBAll _ cs

theorem Calm.steps {text : String} (h : Calm text.toList) (n : Nat) : Steps n text n := by
  have key (cs : List Char) (hcs : Calm cs) : Unquoted cs ∧ nesting n (plains cs) = some n := by
    induction cs with
    | nil => exact ⟨rfl, rfl⟩
    | cons c cs ih =>
      obtain ⟨hc, hcs⟩ := calm_cons.1 hcs
      obtain ⟨hunquoted, hnesting⟩ := ih hcs
      simp only [isCalm, Bool.and_eq_true, Bool.not_eq_true', bne_iff_ne, ne_eq] at hc
      obtain ⟨⟨⟨hquote, hopening⟩, hclosing⟩, hcomma⟩ := hc
      refine ⟨unquoted_cons.2 ⟨hquote, hunquoted⟩, ?_⟩
      have hplain : (Token.plain c).nest n = some n := by
        simp [Token.nest, hopening, hclosing, hcomma]
      rw [plains, List.map_cons, nesting_cons, hplain]
      exact hnesting
  exact key text.toList h

theorem isCalm_of_isDigit {c : Char} (h : c.isDigit = true) : isCalm c = true := by
  have hne : ∀ d, d.isDigit = false → c ≠ d := by
    rintro d hd rfl
    rw [h] at hd
    cases hd
  simp [isCalm, isSchemaQuote, hne '\'' (by decide), hne '"' (by decide), hne '\x60' (by decide), hne '[' (by decide),
    hne ']' (by decide), hne '(' (by decide), hne ')' (by decide), hne ',' (by decide)]

theorem calm_digitText (n : Nat) : Calm (digitText n).toList := forall_digitText (fun _ => isCalm_of_isDigit) n

theorem calm_floatText (x : Binary64) : Calm (Value.floatText x).toList :=
  forall_floatText (fun _ => isCalm_of_isDigit) (List.all_eq_true.1 (by decide)) x

theorem calm_inline_int (n : Int64) : Calm (Value.inline (.int n)).toList :=
  forall_inline_int (fun _ => isCalm_of_isDigit) (by decide) n

/-! ## Defaults -/

/-- The digits of a byte are no quotes. -/
theorem not_mem_byteText (b : UInt8) : '\'' ∉ Value.byteText b := by
  have hdigit : ∀ n < 16, '\'' ≠ (Nat.digitChar n).toUpper := by decide
  have hlt := b.toNat_lt
  simp only [Value.byteText, List.mem_cons, List.not_mem_nil, or_false, not_or]
  exact ⟨hdigit _ (by omega), hdigit _ (by omega)⟩

/-- Bytes are a literal of their digits behind a letter. -/
theorem inline_blob (bytes : List UInt8) :
    Value.inline (.blob bytes) = "X" ++ literal (String.ofList (bytes.flatMap Value.byteText)) := by
  have hfree : '\'' ∉ bytes.flatMap Value.byteText := fun hmem => by
    obtain ⟨b, -, hb⟩ := List.mem_flatMap.1 hmem
    exact not_mem_byteText b hb
  rw [← String.toList_inj, literal, wrap, String.toList_ofList, enclose, double_of_not_mem hfree]
  simp [Value.inline]

section Quoting

variable (hquotes : Quoting quotes)
include hquotes

theorem Quoting.clause_inline (v : Value) : Clause quotes v.inline := by
  cases v with
  | null => exact hquotes.nests_fixed (by decide)
  | bool value => cases value <;> exact hquotes.nests_fixed (by decide)
  | int value => exact hquotes.nests_fixed ((calm_inline_int value).steps 0)
  | float value => exact hquotes.nests_fixed ((calm_floatText value).steps 0)
  | text value => exact hquotes.clause_literal value
  | blob bytes =>
    rw [inline_blob]
    exact hquotes.nests_append (by decide) (hquotes.clause_literal _)

/-- A default that is no raw SQL. -/
theorem Quoting.clause_default {value : DefaultValue} (hraw : ∀ sql, value ≠ .expression sql) (d : Dialect) :
    Clause quotes (value.render d) := by
  cases value with
  | expression sql => exact absurd rfl (hraw sql)
  | currentTimestamp => cases d <;> exact hquotes.nests_fixed (by decide)
  | value v =>
    cases v with
    | bool b =>
      simp only [DefaultValue.render]
      split
      · cases b <;> exact hquotes.nests_fixed (by decide)
      · exact hquotes.clause_inline _
    | null => exact hquotes.clause_inline _
    | int n => exact hquotes.clause_inline _
    | float x => exact hquotes.clause_inline _
    | text t => exact hquotes.clause_inline _
    | blob bytes => exact hquotes.clause_inline _

end Quoting

/-! ## Types -/

namespace Template

/-- The parentheses open after a template; enumerated values have commas between them. -/
def nesting (n : Nat) : Template → Option Nat
  | [] => some n
  | .fixed text :: rest => (Schema.nesting n (plains text.toList)).bind fun m => nesting m rest
  | .slot s :: rest => if s = .values ∧ n = 0 then none else nesting n rest

/-- The fixed texts hold no quotes, and one stands between any two slots. -/
def isApart : Template → Bool
  | [] => true
  | [.slot _] => true
  | .fixed text :: rest => decide (Unquoted text.toList) && isApart rest
  | .slot _ :: .fixed text :: rest => text != "" && decide (Unquoted text.toList) && isApart rest
  | .slot _ :: .slot _ :: _ => false

variable (content : Slot → String)

theorem fill_fixed (text : String) (rest : Template) : fill content (.fixed text :: rest) = text ++ fill content rest := by
  simp [fill, String.join_cons]

theorem fill_slot (s : Slot) (rest : Template) : fill content (.slot s :: rest) = content s ++ fill content rest := by
  simp [fill, String.join_cons]

theorem fill_nil : fill content [] = "" := rfl

end Template

/-- What slots are filled with are clauses, but for the enumerated values. -/
structure Filling (quotes : Char × Char) (content : Slot → String) : Prop where
  clause {s : Slot} : s ≠ .values → Clause quotes (content s)
  values (n : Nat) : Nests quotes (n + 1) (content .values) (n + 1)

theorem Filling.nests {content : Slot → String} (h : Filling quotes content) {s : Slot} {n : Nat}
    (hn : ¬(s = .values ∧ n = 0)) : Nests quotes n (content s) n := by
  by_cases hs : s = .values
  · subst hs
    obtain ⟨m, rfl⟩ := Nat.exists_eq_succ_of_ne_zero fun hzero => hn ⟨rfl, hzero⟩
    exact h.values m
  · exact (h.clause hs).nests n

/-- A template that is filled. -/
theorem Filling.nests_fill (hquotes : Quoting quotes) {content : Slot → String} (h : Filling quotes content)
    {t : Template} (hapart : t.isApart = true) {n m : Nat} (hnesting : t.nesting n = some m) :
    Nests quotes n (t.fill content) m := by
  have hslot {s : Slot} {rest : Template} {n : Nat} (hrest : Template.nesting n (.slot s :: rest) = some m) :
      Nests quotes n (content s) n ∧ rest.nesting n = some m := by
    rw [Template.nesting] at hrest
    split at hrest
    · cases hrest
    · next hn => exact ⟨h.nests hn, hrest⟩
  induction t using Template.isApart.induct generalizing n with
  | case1 =>
    cases hnesting
    exact hquotes.nests_fixed ⟨rfl, rfl⟩
  | case2 s =>
    obtain ⟨hs, hrest⟩ := hslot hnesting
    cases hrest
    rw [Template.fill_slot, Template.fill_nil]
    simpa using hs
  | case3 text rest ih =>
    rw [Template.isApart, Bool.and_eq_true, decide_eq_true_eq] at hapart
    obtain ⟨k, hk, hrest⟩ := Option.bind_eq_some_iff.1 hnesting
    rw [Template.fill_fixed]
    exact hquotes.nests_append ⟨hapart.1, hk⟩ (ih hapart.2 hrest)
  | case4 s text rest ih =>
    rw [Template.isApart, Bool.and_eq_true, Bool.and_eq_true, decide_eq_true_eq, bne_iff_ne] at hapart
    obtain ⟨hs, hfixed⟩ := hslot hnesting
    obtain ⟨k, hk, hrest⟩ := Option.bind_eq_some_iff.1 hfixed
    rw [Template.fill_slot, Template.fill_fixed, ← String.append_assoc]
    exact hquotes.nests_between hs ⟨hapart.1.2, hk⟩ hapart.1.1 (ih hapart.2 hrest)
  | case5 s s' rest => cases hapart

/-- A form that gives clauses however its slots are filled. -/
def TypeForm.isSound (form : TypeForm) : Bool :=
  form.type.isApart && form.type.nesting 0 == some 0 && form.clauses.all fun clause =>
    match clause with
    | .implied text => decide (Steps 0 text 0)
    | .check condition => condition.isApart && condition.nesting 1 == some 1

/-- Every dialect has its own place in the type table. -/
theorem ColumnType.form_mem_forms (type : ColumnType) (d : Dialect) : type.form d ∈ type.forms := by
  have hindex : d.index < type.forms.length := by
    rw [type.length_forms]
    cases d <;> decide
  rw [form, List.getD_eq_getElem?_getD, List.getElem?_eq_getElem hindex]
  exact List.getElem_mem hindex

/-- All forms in the type table are sound. -/
theorem isSound_form (type : ColumnType) (d : Dialect) : (type.form d).isSound = true := by
  have hall : (ColumnType.all.all fun type => type.forms.all TypeForm.isSound) = true := by decide +kernel
  exact List.all_eq_true.1 (List.all_eq_true.1 hall type type.mem_all) _ (type.form_mem_forms d)

/-- A type, and the clauses that come with it. -/
theorem Filling.clause_concreteType (hquotes : Quoting quotes) (type : ColumnType) (d : Dialect) {args : TypeArgs}
    {column enumType : String} (h : Filling quotes (args.content column enumType)) :
    Clause quotes (concreteType type d args column enumType).type ∧
      (∀ text ∈ (concreteType type d args column enumType).implied, Clause quotes text) ∧
      ∀ text ∈ (concreteType type d args column enumType).checks, Clause quotes text := by
  have hsound := isSound_form type d
  simp only [TypeForm.isSound, Bool.and_eq_true, beq_iff_eq, List.all_eq_true] at hsound
  obtain ⟨⟨hapart, hnesting⟩, hclauses⟩ := hsound
  have hclause : ∀ clause ∈ (type.form d).clauses, Clause quotes (clause.fill (args.content column enumType)) := by
    intro clause hclause
    have hmem := hclauses clause hclause
    cases clause with
    | implied text =>
      rw [decide_eq_true_eq] at hmem
      exact hquotes.nests_fixed hmem
    | check condition =>
      rw [Bool.and_eq_true, beq_iff_eq] at hmem
      have hcondition := h.nests_fill hquotes hmem.1 hmem.2
      exact hquotes.nests_followed (hquotes.nests_append (by decide) hcondition) (by decide)
  refine ⟨h.nests_fill hquotes hapart hnesting, fun text htext => ?_, fun text htext => ?_⟩
  · obtain ⟨clause, hmem, rfl⟩ := List.mem_map.1 htext
    exact hclause clause (List.mem_filter.1 hmem).1
  · obtain ⟨clause, hmem, rfl⟩ := List.mem_map.1 htext
    exact hclause clause (List.mem_filter.1 hmem).1

/-! ## Columns -/

/-- A column without raw SQL. -/
structure Column.RawFree (c : Column) : Prop where
  definition : c.definition = none
  check : c.check = none
  default (sql : String) : c.default ≠ some (.expression sql)

variable {c : Column} {s : Scope}

theorem filling_column (c : Column) (s : Scope) :
    Filling s.dialect.schemaQuotes (c.args.content (s.quote c.name) (c.enumType s)) := by
  have hquotes := quoting_schemaQuotes s.dialect
  refine ⟨fun {slot} hslot => ?_, fun n => hquotes.nests_valueList n c.args.values⟩
  cases slot with
  | length => exact hquotes.nests_fixed ((calm_digitText _).steps 0)
  | precision => exact hquotes.nests_fixed ((calm_digitText _).steps 0)
  | scale => exact hquotes.nests_fixed ((calm_digitText _).steps 0)
  | values => exact absurd rfl hslot
  | column => exact clause_identifier c.name
  | enumType => exact clause_identifier _

theorem clause_typeText (c : Column) (s : Scope) : Clause s.dialect.schemaQuotes (c.typeText s) := by
  have hquotes := quoting_schemaQuotes s.dialect
  have htype := ((filling_column c s).clause_concreteType hquotes c.type s.dialect).1
  unfold Column.typeText
  refine hquotes.nests_followed htype ?_
  split <;> decide

theorem clause_constraints (hraw : c.RawFree) : ∀ text ∈ c.constraints s, Clause s.dialect.schemaQuotes text := by
  have hquotes := quoting_schemaQuotes s.dialect
  intro text htext
  unfold Column.constraints at htext
  split at htext
  · cases htext
  simp only [List.mem_append, Option.mem_toList, Option.map_eq_some_iff] at htext
  rcases htext with ((⟨value, hvalue, rfl⟩ | hnull) | hunique) | hprimary
  · refine hquotes.nests_append (by decide) (hquotes.clause_default (fun sql hsql => ?_) s.dialect)
    exact hraw.default sql (hsql ▸ hvalue)
  · rw [List.mem_singleton] at hnull
    subst hnull
    cases c.nullable <;> exact hquotes.nests_fixed (by decide)
  · split at hunique
    · rw [List.mem_singleton] at hunique
      subst hunique
      exact hquotes.nests_fixed (by decide)
    · cases hunique
  · split at hprimary
    · rw [List.mem_singleton] at hprimary
      subst hprimary
      exact hquotes.nests_fixed (by decide)
    · cases hprimary

theorem clause_inlineComment (c : Column) (s : Scope) :
    ∀ text ∈ c.inlineComment s, Clause s.dialect.schemaQuotes text := by
  have hquotes := quoting_schemaQuotes s.dialect
  intro text htext
  unfold Column.inlineComment at htext
  split at htext
  · split at htext
    · rw [List.mem_singleton] at htext
      subst htext
      exact hquotes.nests_append (by decide) (hquotes.clause_literal _)
    · cases htext
  · cases htext

/-- The clauses after the name. -/
theorem exists_clauses (hraw : c.RawFree) (s : Scope) : ∃ clauses,
    c.parts s = s.quote c.name :: c.typeText s :: clauses ∧
      ∀ text ∈ clauses, Clause s.dialect.schemaQuotes text := by
  have hquotes := quoting_schemaQuotes s.dialect
  obtain ⟨-, himplied, hchecks⟩ := (filling_column c s).clause_concreteType hquotes c.type s.dialect
  refine ⟨(c.concrete s).implied ++ c.constraints s ++ c.inlineComment s ++ (c.concrete s).checks, ?_, ?_⟩
  · unfold Column.parts
    rw [hraw.check]
    simp
  intro text htext
  simp only [List.mem_append] at htext
  rcases htext with ((himp | hconstraint) | hcomment) | hcheck
  · exact himplied text himp
  · exact clause_constraints hraw text hconstraint
  · exact clause_inlineComment c s text hcomment
  · exact hchecks text hcheck

/-- **A column definition** is one part of the statement around it and begins with the column's name. -/
theorem reads_definition (hraw : c.RawFree) (s : Scope) : ∃ ts,
    Reads s.dialect.schemaQuotes (c.render s).definition.toList (.identifier c.name.toList :: ts) ∧ Balanced ts := by
  have hquotes := quoting_schemaQuotes s.dialect
  obtain ⟨clauses, hparts, hclauses⟩ := exists_clauses hraw s
  have hrest : Clause s.dialect.schemaQuotes (" ".intercalate (c.typeText s :: clauses)) :=
    hquotes.nests_intercalate (by decide) (by decide) (List.forall_mem_cons.2 ⟨clause_typeText c s, hclauses⟩)
  obtain ⟨ts, hts, hbalanced⟩ := hrest
  have hdefinition : (c.render s).definition.toList =
      enclose s.dialect.schemaQuotes.1 s.dialect.schemaQuotes.2 c.name.toList ++
        ([' '] ++ (" ".intercalate (c.typeText s :: clauses)).toList) := by
    unfold Column.render
    rw [hraw.definition]
    simp only
    rw [hparts, String.intercalate_cons_cons]
    simp [Scope.quote, Dialect.quoteSchema, wrap]
  refine ⟨plains [' '] ++ ts, ?_, .append (by decide) hbalanced⟩
  rw [hdefinition]
  exact hquotes.reads_between (reads_identifier c.name.toList) (by decide) (by simp) hts

end SqlToolkit.Schema
