import Mathlib.Data.List.Chain
import SqlToolkit.Proofs.Schema.Clause
import SqlToolkit.Proofs.Text.Escaped
import SqlToolkit.Proofs.Text.Over

/-!
# The literals of a column definition

A column definition is made of stretches: text outside quotes, the name, string literals and raw SQL.  For MySQL
`Column.stretches` lists them, and the literals among them hold what the column declares as text: the values of an
enumeration, the default and the comment.

MySQL takes a backslash in a literal for an escape (`serverTokens?`), and the literals are written for servers that do not.
So a declared text is read back just if all its backslashes stand in front of wildcards, and a definition is read back just
if all its texts are (`Column.definition_reads_back_iff`).
-/
namespace SqlToolkit.Schema
open Text

/-! ### Stretches -/

/-- A stretch of a definition. -/
inductive Stretch where
  /-- Text outside quotes. -/
  | plain (text : String)
  | identifier (name : String)
  | literal (text : String)
  /-- SQL from outside. -/
  | raw (sql : String)
deriving DecidableEq, Repr

namespace Stretch

/-- A stretch as it is written for MySQL. -/
def text : Stretch → String
  | plain text => text
  | identifier name => Dialect.mySql.quoteSchema name
  | literal text => Text.literal text
  | raw sql => sql

/-- Stretches one after another. -/
def textAll (xs : List Stretch) : String := String.join (xs.map text)

/-- What a stretch says to a server; raw SQL is not looked into. -/
def tokens : Stretch → List Token
  | plain text => plains text.toList
  | identifier name => [.identifier name.toList]
  | literal text => [.literal text.toList]
  | raw sql => plains sql.toList

/-- The text of a literal. -/
def literal? : Stretch → Option String
  | literal text => some text
  | _ => none

/-- Text that cannot be taken for the rest of a quoted one before it. -/
def opensPlain : Stretch → Bool
  | plain text => text.toList.head?.any fun c => !isSchemaQuote c
  | _ => false

/-- Of two neighbours one is text outside quotes, and the second is if the first ends in a quote. -/
def Apart (x y : Stretch) : Prop := (∃ text, x = plain text) ∨ y.opensPlain = true

/-- Text outside quotes is free of them, and there is no raw SQL. -/
def IsSound : Stretch → Prop
  | plain text => Unquoted text.toList
  | raw _ => False
  | _ => True

instance : DecidablePred IsSound
  | plain text => inferInstanceAs (Decidable (Unquoted text.toList))
  | identifier _ => .isTrue trivial
  | literal _ => .isTrue trivial
  | raw _ => .isFalse id

variable {xs ys : List Stretch}

@[simp] theorem textAll_nil : textAll [] = "" := rfl

@[simp] theorem textAll_cons (x : Stretch) (xs : List Stretch) : textAll (x :: xs) = x.text ++ textAll xs := by
  rw [textAll, List.map_cons, String.join_cons, textAll]

theorem textAll_append (xs ys : List Stretch) : textAll (xs ++ ys) = textAll xs ++ textAll ys := by
  induction xs with
  | nil => simp
  | cons x xs ih => rw [List.cons_append, textAll_cons, ih, textAll_cons, String.append_assoc]

theorem textAll_intercalate (separator : String) (pieces : List (List Stretch)) :
    textAll ([plain separator].intercalate pieces) = separator.intercalate (pieces.map textAll) := by
  induction pieces with
  | nil => rfl
  | cons piece pieces ih =>
    cases pieces with
    | nil => simp
    | cons next pieces =>
      rw [List.intercalate_cons_cons, textAll_append, textAll_append, ih]
      simp only [List.map_cons, String.intercalate_cons_cons, textAll_cons, textAll_nil, text, String.append_empty]

theorem literals_intercalate (separator : String) (pieces : List (List Stretch)) :
    ([plain separator].intercalate pieces).filterMap literal? = pieces.flatMap (List.filterMap literal?) := by
  induction pieces with
  | nil => rfl
  | cons piece pieces ih =>
    cases pieces with
    | nil => simp
    | cons next pieces =>
      rw [List.intercalate_cons_cons, List.filterMap_append, List.filterMap_append, ih, List.flatMap_cons]
      simp [literal?]

theorem isChain_plain_cons (text : String) (hxs : xs.IsChain Apart) : (plain text :: xs).IsChain Apart :=
  List.isChain_cons.2 ⟨fun _ _ => .inl ⟨text, rfl⟩, hxs⟩

/-- A text outside quotes keeps apart whatever stands around it. -/
theorem isChain_append_plain {separator : String} (hopens : (plain separator).opensPlain = true)
    (hxs : xs.IsChain Apart) (hys : ys.IsChain Apart) : (xs ++ plain separator :: ys).IsChain Apart := by
  refine List.isChain_append.2 ⟨hxs, isChain_plain_cons separator hys, fun x _ y hy => ?_⟩
  obtain rfl : plain separator = y := by simpa using hy
  exact .inr hopens

theorem isChain_intercalate {separator : String} (hopens : (plain separator).opensPlain = true)
    {pieces : List (List Stretch)} (h : ∀ piece ∈ pieces, piece.IsChain Apart) :
    ([plain separator].intercalate pieces).IsChain Apart := by
  induction pieces with
  | nil => exact .nil
  | cons piece pieces ih =>
    obtain ⟨hpiece, hpieces⟩ := List.forall_mem_cons.1 h
    cases pieces with
    | nil => simpa using hpiece
    | cons next pieces =>
      rw [List.intercalate_cons_cons, List.append_assoc]
      exact isChain_append_plain hopens hpiece (ih hpieces)

theorem forall_mem_intercalate {P : Stretch → Prop} {separator : Stretch} (hseparator : P separator)
    {pieces : List (List Stretch)} (h : ∀ piece ∈ pieces, ∀ x ∈ piece, P x) :
    ∀ x ∈ [separator].intercalate pieces, P x := by
  induction pieces with
  | nil => simp
  | cons piece pieces ih =>
    obtain ⟨hpiece, hpieces⟩ := List.forall_mem_cons.1 h
    cases pieces with
    | nil => simpa using hpiece
    | cons next pieces =>
      rw [List.intercalate_cons_cons]
      simp only [List.mem_append, List.mem_singleton]
      rintro x ((hx | rfl) | hx)
      · exact hpiece x hx
      · exact hseparator
      · exact ih hpieces x hx

end Stretch

/-! ### Reading -/

/-- The literal that a text opens with, as a server reads it that takes backslashes for escapes. -/
def readLiteral? : List Char → Option (List Char × List Char)
  | '\'' :: cs => readEscaped '\'' cs
  | _ => none

/-- The tokens of a text as MySQL reads it: literals stand in quotes of two kinds and hold escapes.  Comments are not
taken out. -/
def serverTokens? : List Char → Option (List Token)
  | [] => some []
  | c :: cs =>
    if c = '\x60' then
      match _h : readEnclosed '\x60' cs with
      | some (name, rest) => (serverTokens? rest).map (.identifier name :: ·)
      | none => none
    else if c = '\'' ∨ c = '"' then
      match _h : readEscaped c cs with
      | some (text, rest) => (serverTokens? rest).map (.literal text :: ·)
      | none => none
    else (serverTokens? cs).map (.plain c :: ·)
termination_by cs => cs.length
decreasing_by
  · have := length_of_readEnclosed _h
    simp only [List.length_cons]
    omega
  · have := length_of_readEscaped _h
    simp only [List.length_cons]
    omega
  · simp

/-- The quotes of identifiers. -/
abbrev serverQuotes : Char × Char := Dialect.mySql.schemaQuotes

theorem serverTokens?_append {cs : List Char} (hcs : Unquoted cs) (rest : List Char) :
    serverTokens? (cs ++ rest) = (serverTokens? rest).map (plains cs ++ ·) := by
  induction cs with
  | nil => simp [plains]
  | cons c cs ih =>
    obtain ⟨hc, hcs⟩ := unquoted_cons.1 hcs
    simp only [isSchemaQuote, Bool.or_eq_false_iff, decide_eq_false_iff_not] at hc
    obtain ⟨⟨⟨⟨hliteral, hdouble⟩, hidentifier⟩, -⟩, -⟩ := hc
    rw [List.cons_append, serverTokens?, if_neg hidentifier, if_neg (not_or.2 ⟨hliteral, hdouble⟩), ih hcs, Option.map_map]
    rfl

theorem serverTokens?_identifier (name : List Char) {rest : List Char} (free : rest.head? ≠ some '\x60') :
    serverTokens? (enclose '\x60' '\x60' name ++ rest) = (serverTokens? rest).map (.identifier name :: ·) := by
  have hread := readEnclosed_double name free
  rw [enclose, List.cons_append, List.append_assoc, List.singleton_append, serverTokens?, if_pos rfl]
  split
  · next found h =>
    rw [hread] at h
    cases h
    rfl
  · next h =>
    rw [hread] at h
    cases h

/-- A literal is read before what follows it. -/
theorem serverTokens?_literal_iff {cs text : List Char} {ts : List Token} :
    serverTokens? ('\'' :: cs) = some (.literal text :: ts) ↔
      ∃ rest, readEscaped '\'' cs = some (text, rest) ∧ serverTokens? rest = some ts := by
  rw [serverTokens?, if_neg (by decide), if_pos (.inl rfl)]
  split
  · next found rest h =>
    rw [h, Option.map_eq_some_iff]
    constructor
    · rintro ⟨us, hus, heq⟩
      cases heq
      exact ⟨rest, rfl, hus⟩
    · rintro ⟨rest', heq, hrest⟩
      cases heq
      exact ⟨ts, hrest, rfl⟩
  · next h => simp [h]

theorem toList_literal_append (text : String) (rest : List Char) :
    (literal text).toList ++ rest = '\'' :: (double '\'' text.toList ++ '\'' :: rest) := by
  rw [toList_literal, enclose, List.cons_append, List.append_assoc, List.singleton_append]

namespace Stretch
variable {xs : List Stretch} {rest : List Char}

/-- Behind a quoted stretch no quote follows. -/
theorem free_of_isChain {x : Stretch} (hx : ∀ text, x ≠ plain text) (h : (x :: xs).IsChain Apart)
    (free : Free serverQuotes rest) : Free serverQuotes ((textAll xs).toList ++ rest) := by
  cases xs with
  | nil => simpa using free
  | cons y ys =>
    have hopens : y.opensPlain = true :=
      ((List.isChain_cons.1 h).1 y rfl).resolve_left fun ⟨text, heq⟩ => hx text heq
    cases y with
    | plain text =>
      obtain ⟨c, hhead, hc⟩ := (Option.any_eq_true _ _).1 hopens
      obtain ⟨cs, hcs⟩ := List.head?_eq_some_iff.1 hhead
      rw [textAll_cons, String.toList_append, Stretch.text, hcs, List.append_assoc, List.cons_append]
      exact (quoting_schemaQuotes .mySql).free_cons (by simpa using hc) _
    | _ => cases hopens

/-- **A literal** is read back, and ends where it should, just if its text keeps its backslashes. -/
theorem readLiteral?_textAll_iff {text : String} (h : (literal text :: xs).IsChain Apart) (free : Free serverQuotes rest) :
    readLiteral? ((textAll (literal text :: xs)).toList ++ rest) = some (text.toList, (textAll xs).toList ++ rest) ↔
      keepsBackslashes text.toList = true := by
  rw [textAll_cons, String.toList_append, Stretch.text, List.append_assoc, toList_literal_append]
  exact readEscaped_double_iff (free_of_isChain (by simp) h free).2

/-- **Stretches are read back** in front of any text that can be read, just if the texts of all literals keep their
backslashes. -/
theorem serverTokens?_textAll_iff {ts : List Token} (h : xs.IsChain Apart) (hsound : ∀ x ∈ xs, x.IsSound)
    (free : Free serverQuotes rest) (hrest : serverTokens? rest = some ts) :
    serverTokens? ((textAll xs).toList ++ rest) = some (xs.flatMap tokens ++ ts) ↔
      ∀ text ∈ xs.filterMap literal?, keepsBackslashes text.toList = true := by
  induction xs with
  | nil => simpa using hrest
  | cons x xs ih =>
    obtain ⟨hx, hxs⟩ := List.forall_mem_cons.1 hsound
    have hih := ih (List.isChain_cons.1 h).2 hxs
    rw [textAll_cons, String.toList_append, List.append_assoc, List.flatMap_cons, List.append_assoc]
    cases x with
    | plain text =>
      rw [Stretch.text, serverTokens?_append hx, List.filterMap_cons_none rfl, ← hih, tokens]
      exact (Option.map_injective (List.append_right_injective _)).eq_iff (b := some _)
    | identifier name =>
      have hname : (Stretch.identifier name).text.toList = enclose '\x60' '\x60' name.toList := by
        rw [Stretch.text, Dialect.quoteSchema, wrap, String.toList_ofList]
        rfl
      rw [hname, serverTokens?_identifier name.toList (free_of_isChain (by simp) h free).1, List.filterMap_cons_none rfl,
        ← hih, tokens]
      exact (Option.map_injective List.cons_injective).eq_iff (b := some _)
    | literal text =>
      have hfree := (free_of_isChain (by simp) h free).2
      rw [Stretch.text, toList_literal_append, List.filterMap_cons_some (f := literal?) rfl, List.forall_mem_cons, ← hih,
        tokens, List.singleton_append, serverTokens?_literal_iff]
      constructor
      · rintro ⟨after, hread, hafter⟩
        -- wherever the literal is taken to end, its text is right only if it keeps its backslashes
        have hkeeps := (keepsBackslashes_of_readEscaped hfree (n := 0) hread).2
        rw [readEscaped_double hfree hkeeps] at hread
        cases hread
        exact ⟨hkeeps, hafter⟩
      · rintro ⟨hkeeps, hafter⟩
        exact ⟨_, readEscaped_double hfree hkeeps, hafter⟩
    | raw sql => cases hx

end Stretch

/-! ### Columns -/

/-- A default in stretches.  Bytes are digits in quotes. -/
def DefaultValue.stretches : DefaultValue → List Stretch
  | value (.text text) => [.literal text]
  | value (.blob bytes) => [.plain "X", .literal (String.ofList (bytes.flatMap Value.byteText))]
  | expression sql => [.raw sql]
  | d => [.plain (d.render .mySql)]

/-- The text that a default holds in quotes. -/
def DefaultValue.literal? : DefaultValue → Option String
  | value (.text text) => some text
  | value (.blob bytes) => some (String.ofList (bytes.flatMap Value.byteText))
  | _ => none

namespace Column

/-- The type in stretches. -/
def typeStretches (c : Column) (s : Scope) : List Stretch :=
  if c.type = .enum then
    .plain "ENUM(" :: [.plain ", "].intercalate (c.args.values.map fun value => [.literal value]) ++ [.plain ")"]
  else [.plain (c.typeText s)]

/-- The parts of the definition in stretches. -/
def pieces (c : Column) (s : Scope) : List (List Stretch) :=
  [[.identifier c.name], c.typeStretches s] ++ (c.concrete s).implied.map (fun text => [.plain text]) ++
    (if c.type.isIncrements then [] else (c.default.map fun d => .plain "DEFAULT " :: d.stretches).toList) ++
    (constraints { c with default := none } s).map (fun text => [.plain text]) ++
    (c.comment.map fun comment => [.plain "COMMENT ", .literal comment]).toList ++
    (c.check.map fun sql => [.raw ("CHECK (" ++ s.renderRaw sql ++ ")")]).toList

/-- The definition in stretches. -/
def stretches (c : Column) (s : Scope) : List Stretch := [.plain " "].intercalate (c.pieces s)

/-- The texts that a column declares: enumerated values, default and comment. -/
def literals (c : Column) : List String :=
  (if c.type = .enum then c.args.values else []) ++
    (if c.type.isIncrements then [] else (c.default.bind DefaultValue.literal?).toList) ++ c.comment.toList

end Column

/-- A default is written as its stretches are. -/
theorem DefaultValue.textAll_stretches (d : DefaultValue) : Stretch.textAll d.stretches = d.render .mySql := by
  cases d with
  | value v =>
    cases v with
    | blob bytes => simp [stretches, render, Stretch.text, inline_blob]
    | _ => simp [stretches, render, Stretch.text, Value.inline]
  | _ => simp [stretches, render, Stretch.text]

theorem DefaultValue.filterMap_stretches (d : DefaultValue) :
    d.stretches.filterMap Stretch.literal? = d.literal?.toList := by
  cases d with
  | value v => cases v <;> rfl
  | _ => rfl

theorem DefaultValue.isChain_stretches (d : DefaultValue) : d.stretches.IsChain Stretch.Apart := by
  cases d with
  | value v =>
    cases v with
    | blob bytes => exact Stretch.isChain_plain_cons "X" (.singleton _)
    | _ => exact .singleton _
  | _ => exact .singleton _

/-- Without raw SQL nothing in a default is left unread. -/
theorem DefaultValue.isSound_stretches {d : DefaultValue} (hraw : ∀ sql, d ≠ .expression sql) :
    ∀ x ∈ d.stretches, x.IsSound := by
  have hplain {text : String} (h : Unquoted text.toList) : ∀ x ∈ [Stretch.plain text], x.IsSound :=
    List.forall_mem_singleton.2 h
  cases d with
  | expression sql => exact absurd rfl (hraw sql)
  | currentTimestamp => exact hplain (by decide)
  | value v =>
    cases v with
    | null => exact hplain (by decide)
    | bool b => cases b <;> exact hplain (by decide)
    | int n => exact hplain ((calm_inline_int n).steps 0).1
    | float x => exact hplain ((calm_floatText x).steps 0).1
    | text text => simp [stretches, Stretch.IsSound]
    | blob bytes => simpa [stretches, Stretch.IsSound] using show Unquoted "X".toList by decide

/-! ### Types -/

/-- A form without checks whose text is outside quotes, with numbers in its slots. -/
def TypeForm.isPlain (form : TypeForm) : Bool :=
  (form.type.all fun part =>
    match part with
    | .fixed text => decide (Unquoted text.toList)
    | .slot s => s = .length || s = .precision || s = .scale) &&
  form.clauses.all fun clause =>
    match clause with
    | .implied text => decide (Unquoted text.toList)
    | .check _ => false

/-- Only an enumeration has quotes in its type. -/
theorem isPlain_form (type : ColumnType) : type = .enum ∨ (type.form .mySql).isPlain = true := by
  cases type <;> decide

theorem unquoted_fill {form : TypeForm} (h : form.isPlain = true) (args : TypeArgs) (column enumType : String) :
    Unquoted (form.type.fill (args.content column enumType)).toList := by
  have hparts := List.all_eq_true.1 (Bool.and_eq_true_iff.1 h).1
  refine over_join fun text htext => ?_
  obtain ⟨part, hpart, rfl⟩ := List.mem_map.1 htext
  have hplain := hparts part hpart
  cases part with
  | fixed text => exact of_decide_eq_true hplain
  | slot s =>
    have hnumber (n : Nat) : Unquoted (toString n).toList := ((calm_digitText n).steps 0).1
    cases s with
    | length => exact hnumber _
    | precision => exact hnumber _
    | scale => exact hnumber _
    | _ => simp at hplain

namespace Column
variable {c : Column} {s : Scope}

theorem checks_mySql (hmysql : s.dialect = .mySql) : (c.concrete s).checks = [] := by
  rw [concrete, hmysql]
  rcases isPlain_form c.type with htype | hplain
  · rw [htype]
    rfl
  · have hclauses := List.all_eq_true.1 (Bool.and_eq_true_iff.1 hplain).2
    refine List.map_eq_nil_iff.2 (List.filter_eq_nil_iff.2 fun clause hclause => ?_)
    cases clause with
    | implied text => simp [TypeClause.isCheck]
    | check condition => exact absurd (hclauses _ hclause) (by simp)

theorem unquoted_implied (hmysql : s.dialect = .mySql) : ∀ text ∈ (c.concrete s).implied, Unquoted text.toList := by
  rw [concrete, hmysql]
  rcases isPlain_form c.type with htype | hplain
  · rw [htype]
    exact fun text htext => absurd htext (by simp [concreteType, ColumnType.form, ColumnType.forms, Dialect.index])
  · have hclauses := List.all_eq_true.1 (Bool.and_eq_true_iff.1 hplain).2
    intro text htext
    obtain ⟨clause, hclause, rfl⟩ := List.mem_map.1 htext
    cases clause with
    | implied text => exact of_decide_eq_true (hclauses _ (List.mem_filter.1 hclause).1)
    | check condition => exact absurd (hclauses _ (List.mem_filter.1 hclause).1) (by simp)

theorem textAll_typeStretches (hmysql : s.dialect = .mySql) : Stretch.textAll (c.typeStretches s) = c.typeText s := by
  unfold typeStretches
  split
  · next htype =>
    have hform : ColumnType.enum.form .mySql = ⟨.call "ENUM" .values, []⟩ := rfl
    have hvalues : ", ".intercalate ((c.args.values.map fun value => [Stretch.literal value]).map Stretch.textAll) =
        valueList c.args.values := by
      simp [valueList, Function.comp_def, Stretch.text]
    rw [List.cons_append, Stretch.textAll_cons, Stretch.textAll_append, Stretch.textAll_intercalate, hvalues]
    simp [typeText, concrete, htype, hmysql, concreteType, hform, Template.call, Template.fill, TypeArgs.content,
      ColumnType.isInteger, Stretch.text]
  · simp [Stretch.text]

/-- The constraints beside the default. -/
theorem constraints_eq (c : Column) (s : Scope) : c.constraints s =
    (if c.type.isIncrements then [] else (c.default.map fun d => "DEFAULT " ++ d.render s.dialect).toList) ++
      constraints { c with default := none } s := by
  unfold constraints
  split
  · rfl
  · simp

theorem map_textAll_pieces (hmysql : s.dialect = .mySql) : (c.pieces s).map Stretch.textAll = c.parts s := by
  have hplain (texts : List String) : (texts.map fun text => [Stretch.plain text]).map Stretch.textAll = texts := by
    simp [Function.comp_def, Stretch.text]
  have hname : Stretch.textAll [.identifier c.name] = s.quote c.name := by simp [Stretch.text, Scope.quote, hmysql]
  have hdefault : (c.default.map fun d => .plain "DEFAULT " :: d.stretches).toList.map Stretch.textAll =
      (c.default.map fun d => "DEFAULT " ++ d.render s.dialect).toList := by
    cases c.default <;> simp [Stretch.text, DefaultValue.textAll_stretches, hmysql]
  have hcomment : (c.comment.map fun comment => [.plain "COMMENT ", .literal comment]).toList.map Stretch.textAll =
      c.inlineComment s := by
    unfold inlineComment
    cases c.comment <;> simp [Stretch.text, hmysql]
  have hcheck : (c.check.map fun sql => [.raw ("CHECK (" ++ s.renderRaw sql ++ ")")]).toList.map Stretch.textAll =
      (c.check.map fun sql => "CHECK (" ++ s.renderRaw sql ++ ")").toList := by
    cases c.check <;> simp [Stretch.text]
  unfold pieces parts
  rw [constraints_eq c s, checks_mySql hmysql]
  simp only [List.map_append, List.map_cons, List.map_nil, hplain, hname, textAll_typeStretches hmysql, hcomment, hcheck,
    apply_ite (List.map Stretch.textAll), hdefault, List.append_assoc, List.append_nil]

/-- **A definition** is written as its stretches are. -/
theorem definition_eq_stretches (hdefinition : c.definition = none) (hmysql : s.dialect = .mySql) :
    (c.render s).definition = Stretch.textAll (c.stretches s) := by
  rw [stretches, Stretch.textAll_intercalate, map_textAll_pieces hmysql, render, hdefinition]

/-- Its literals hold the declared texts in order. -/
theorem literals_stretches (c : Column) (s : Scope) : (c.stretches s).filterMap Stretch.literal? = c.literals := by
  have hplain (texts : List String) :
      (texts.map fun text => [Stretch.plain text]).flatMap (List.filterMap Stretch.literal?) = [] := by
    simp [Stretch.literal?]
  have htype : (c.typeStretches s).filterMap Stretch.literal? = if c.type = .enum then c.args.values else [] := by
    unfold typeStretches
    split
    · rw [List.cons_append, List.filterMap_cons_none rfl, List.filterMap_append, Stretch.literals_intercalate]
      simp [Stretch.literal?, List.flatMap_map]
    · simp [Stretch.literal?]
  have hdefault : (c.default.map fun d => .plain "DEFAULT " :: d.stretches).toList.flatMap
      (List.filterMap Stretch.literal?) = (c.default.bind DefaultValue.literal?).toList := by
    cases c.default with
    | none => rfl
    | some d =>
      have hd : (Stretch.plain "DEFAULT " :: d.stretches).filterMap Stretch.literal? = d.literal?.toList := by
        rw [List.filterMap_cons_none rfl, d.filterMap_stretches]
      simpa using hd
  have hcomment : (c.comment.map fun comment => [.plain "COMMENT ", .literal comment]).toList.flatMap
      (List.filterMap Stretch.literal?) = c.comment.toList := by
    cases c.comment <;> rfl
  have hcheck : (c.check.map fun sql => [.raw ("CHECK (" ++ s.renderRaw sql ++ ")")]).toList.flatMap
      (List.filterMap Stretch.literal?) = [] := by
    cases c.check <;> rfl
  unfold stretches pieces literals
  rw [Stretch.literals_intercalate]
  simp only [List.flatMap_append, List.flatMap_cons, List.flatMap_nil, hplain, htype, hcomment, hcheck,
    apply_ite (List.flatMap (List.filterMap Stretch.literal?)), hdefault, List.append_nil]
  simp [Stretch.literal?]

/-- One case for each kind of part. -/
theorem forall_mem_pieces {P : List Stretch → Prop} (hname : P [.identifier c.name]) (htype : P (c.typeStretches s))
    (himplied : ∀ text ∈ (c.concrete s).implied, P [.plain text])
    (hdefault : ∀ d, c.default = some d → P (.plain "DEFAULT " :: d.stretches))
    (hconstraint : ∀ text ∈ constraints { c with default := none } s, P [.plain text])
    (hcomment : ∀ comment, P [.plain "COMMENT ", .literal comment])
    (hcheck : ∀ sql, c.check = some sql → P [.raw ("CHECK (" ++ s.renderRaw sql ++ ")")]) :
    ∀ piece ∈ c.pieces s, P piece := by
  intro piece hpiece
  simp only [pieces, List.mem_append, List.mem_cons, List.not_mem_nil, or_false, List.mem_map, Option.mem_toList,
    Option.map_eq_some_iff] at hpiece
  rcases hpiece with (((((rfl | rfl) | ⟨text, htext, rfl⟩) | hpiece) | ⟨text, htext, rfl⟩) | ⟨comment, -, rfl⟩) |
    ⟨sql, hsql, rfl⟩
  · exact hname
  · exact htype
  · exact himplied text htext
  · split at hpiece
    · cases hpiece
    · obtain ⟨d, hd, rfl⟩ := Option.map_eq_some_iff.1 (Option.mem_toList.1 hpiece)
      exact hdefault d hd
  · exact hconstraint text htext
  · exact hcomment comment
  · exact hcheck sql hsql

/-- Its quotes stand apart. -/
theorem isChain_stretches (c : Column) (s : Scope) : (c.stretches s).IsChain Stretch.Apart := by
  have htype : (c.typeStretches s).IsChain Stretch.Apart := by
    unfold typeStretches
    split
    · have hvalues : ([.plain ", "].intercalate (c.args.values.map fun value => [Stretch.literal value])).IsChain
          Stretch.Apart := Stretch.isChain_intercalate (by decide) (by simp)
      exact Stretch.isChain_plain_cons "ENUM(" (Stretch.isChain_append_plain (by decide) hvalues .nil)
    · exact .singleton _
  refine Stretch.isChain_intercalate (by decide) (forall_mem_pieces ?_ htype ?_ ?_ ?_ ?_ ?_)
  · exact .singleton _
  · exact fun text _ => .singleton _
  · exact fun d _ => Stretch.isChain_plain_cons "DEFAULT " d.isChain_stretches
  · exact fun text _ => .singleton _
  · exact fun comment => Stretch.isChain_plain_cons "COMMENT " (.singleton _)
  · exact fun sql _ => .singleton _

theorem unquoted_constraints (c : Column) (s : Scope) :
    ∀ text ∈ constraints { c with default := none } s, Unquoted text.toList := by
  have hall : ∀ text ∈ ["NULL", "NOT NULL", "UNIQUE", "PRIMARY KEY"], Unquoted text.toList := by decide
  refine fun text htext => hall text ?_
  unfold constraints at htext
  split at htext
  · cases htext
  · simp only [Option.map_none, Option.toList_none, List.nil_append, List.mem_append, List.mem_singleton,
      List.mem_ite_nil_right] at htext
    rcases htext with (rfl | ⟨-, rfl⟩) | ⟨-, rfl⟩
    · split <;> simp
    · simp
    · simp

theorem unquoted_typeText (hne : c.type ≠ .enum) (hmysql : s.dialect = .mySql) : Unquoted (c.typeText s).toList := by
  have htype : Unquoted (c.concrete s).type.toList := by
    rw [concrete, hmysql]
    exact unquoted_fill ((isPlain_form c.type).resolve_left hne) c.args _ _
  refine Over.append htype ?_
  split <;> decide

/-- Without raw SQL all of it can be read. -/
theorem isSound_stretches (hraw : c.RawFree) (hmysql : s.dialect = .mySql) : ∀ x ∈ c.stretches s, x.IsSound := by
  have htype : ∀ x ∈ c.typeStretches s, x.IsSound := by
    unfold typeStretches
    split
    · simp only [List.forall_mem_append, List.forall_mem_cons, List.cons_append]
      refine ⟨by decide, ?_, by decide, by simp⟩
      exact Stretch.forall_mem_intercalate (by decide) (by simp [Stretch.IsSound])
    · next hne =>
      exact List.forall_mem_singleton.2 (unquoted_typeText hne hmysql)
  refine Stretch.forall_mem_intercalate (by decide) (forall_mem_pieces ?_ htype ?_ ?_ ?_ ?_ ?_)
  · simp [Stretch.IsSound]
  · exact fun text htext => List.forall_mem_singleton.2 (unquoted_implied hmysql text htext)
  · exact fun d hd => List.forall_mem_cons.2 ⟨by decide, d.isSound_stretches (fun sql hsql => hraw.default sql (hsql ▸ hd))⟩
  · exact fun text htext => List.forall_mem_singleton.2 (unquoted_constraints c s text htext)
  · exact fun comment => List.forall_mem_cons.2 ⟨by decide, by simp [Stretch.IsSound]⟩
  · exact fun sql hsql => absurd (hraw.check ▸ hsql) (by simp)

/-- **A column definition for MySQL** holds the declared texts as literals, in order, and each of them is read back and
ends where it should just if every backslash in its text stands in front of a wildcard.  So it is with the definition as a
whole, in front of whatever can be read: its tokens are read, and what follows is, just if all declared texts are so. -/
theorem definition_reads_back_iff (hdefinition : c.definition = none) (hmysql : s.dialect = .mySql) :
    (c.render s).definition = Stretch.textAll (c.stretches s) ∧
      (c.stretches s).filterMap Stretch.literal? = c.literals ∧
      (∀ front text back rest, c.stretches s = front ++ .literal text :: back → Free serverQuotes rest →
        (readLiteral? ((Stretch.textAll (.literal text :: back)).toList ++ rest) =
          some (text.toList, (Stretch.textAll back).toList ++ rest) ↔ keepsBackslashes text.toList = true)) ∧
      (c.RawFree → ∀ rest ts, Free serverQuotes rest → serverTokens? rest = some ts →
        (serverTokens? ((c.render s).definition.toList ++ rest) = some ((c.stretches s).flatMap Stretch.tokens ++ ts) ↔
          ∀ text ∈ c.literals, keepsBackslashes text.toList = true)) := by
  have htext := definition_eq_stretches hdefinition hmysql
  have hchain := isChain_stretches c s
  refine ⟨htext, literals_stretches c s, fun front text back rest hsplit free => ?_, fun hraw rest ts free hrest => ?_⟩
  · rw [hsplit] at hchain
    exact Stretch.readLiteral?_textAll_iff (List.isChain_append.1 hchain).2.1 free
  · rw [htext, ← literals_stretches c s]
    exact Stretch.serverTokens?_textAll_iff hchain (isSound_stretches hraw hmysql) free hrest

/-- Quotes, commas and wildcards do no harm, with a backslash in front of a wildcard too. -/
theorem definition_reads_back_quoted :
    let c : Column :=
      { name := "si`ze", type := .enum, args := { values := ["it's", "a, 'b'", "50\\%"] },
        default := some (.value (.text "it's")), comment := some "'); DROP TABLE t; -- \\_" }
    let s : Scope := { dialect := .mySql, tablePrefix := "", table := "t" }
    c.definition = none ∧ s.dialect = .mySql ∧
      serverTokens? (c.render s).definition.toList = some ((c.stretches s).flatMap Stretch.tokens) := by
  intro c s
  have hraw : c.RawFree := ⟨rfl, rfl, fun sql h => by cases h⟩
  obtain ⟨-, -, -, hwhole⟩ := definition_reads_back_iff (c := c) (s := s) rfl rfl
  have hread := (hwhole hraw [] [] ⟨by simp, by simp⟩ (by rw [serverTokens?])).2 (by decide)
  rw [List.append_nil, List.append_nil] at hread
  exact ⟨rfl, rfl, hread⟩

/-- **A default that ends in a backslash** does not end where it should: the literal runs on behind its quote, and has no
end in the definition. -/
theorem definition_runs_on :
    let c : Column :=
      { name := "path", type := .string, args := { length := some 50 }, default := some (.value (.text "C:\\")) }
    let s : Scope := { dialect := .mySql, tablePrefix := "", table := "files" }
    ∃ front back, c.stretches s = front ++ .literal "C:\\" :: back ∧
      (c.render s).definition = "`path` VARCHAR(50) DEFAULT 'C:\\' NOT NULL" ∧
      readLiteral? (Stretch.textAll (.literal "C:\\" :: back)).toList = none := by
  intro c s
  refine ⟨[.identifier "path", .plain " ", .plain "VARCHAR(50)", .plain " ", .plain "DEFAULT "],
    [.plain " ", .plain "NOT NULL"], ?_, ?_, ?_⟩ <;> decide +kernel

end Column
end SqlToolkit.Schema
