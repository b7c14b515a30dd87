import SqlToolkit.Proofs.Schema.Nullability
import SqlToolkit.Proofs.Schema.Declaration

/-!
# The statement that makes an enumeration type

PostgreSQL needs a type for the values of an enumeration, and makes it in an anonymous block whose source stands between
two dollar quotes.  `EnumType.read?` reads such a statement as a server does: the body ends at the next dollar quote,
whatever stands around it, and only then are identifiers and literals in it read.

The name of the type and its values are written with their own quotes doubled.  That says nothing to the dollar quotes
around the body, so the statement is read back just if none of them holds a dollar quote
(`Blueprint.build_declares_enum_iff`).
-/
namespace SqlToolkit.Schema
open Text Outcome

/-! ### Dollar quotes -/

/-- Two dollar signs stand side by side in a text. -/
def HasDollars (cs : List Char) : Prop := ['$', '$'] <:+: cs

instance (cs : List Char) : Decidable (HasDollars cs) := inferInstanceAs (Decidable (_ <:+: _))

/-- The text up to the next two dollar signs side by side, and what follows these. -/
def untilDollars? : List Char → Option (List Char × List Char)
  | [] => none
  | c :: cs =>
    if c = '$' ∧ cs.head? = some '$' then some ([], cs.tail) else (untilDollars? cs).map fun r => (c :: r.1, r.2)

theorem contains_dollars_iff (text : String) : contains text "$$" = true ↔ HasDollars text.toList := occursIn_iff _

theorem not_hasDollars_nil : ¬ HasDollars [] := by simp [HasDollars]

theorem hasDollars_cons_iff {c : Char} {cs : List Char} :
    HasDollars (c :: cs) ↔ (c = '$' ∧ cs.head? = some '$') ∨ HasDollars cs := by
  have hfront : ['$', '$'] <+: c :: cs ↔ c = '$' ∧ cs.head? = some '$' := by
    rw [List.cons_prefix_cons, List.singleton_prefix_iff_head?_eq_some]
    exact and_congr_left' eq_comm
  rw [HasDollars, List.infix_cons_iff, hfront, HasDollars]

theorem hasDollars_cons_of_ne {c : Char} (hc : c ≠ '$') (cs : List Char) : HasDollars (c :: cs) ↔ HasDollars cs := by
  rw [hasDollars_cons_iff, or_iff_right fun h => hc h.1]

/-- They stand on one side of any other character. -/
theorem hasDollars_append_cons {c : Char} (hc : c ≠ '$') (cs ds : List Char) :
    HasDollars (cs ++ c :: ds) ↔ HasDollars cs ∨ HasDollars ds := by
  induction cs with
  | nil => simp [hasDollars_cons_of_ne hc, not_hasDollars_nil]
  | cons d cs ih =>
    have hhead : (cs ++ c :: ds).head? = some '$' ↔ cs.head? = some '$' := by
      cases cs with
      | nil => simp [hc]
      | cons e es => rfl
    rw [List.cons_append, hasDollars_cons_iff, hasDollars_cons_iff, hhead, ih, or_assoc]

theorem hasDollars_append_of_not_mem {cs : List Char} (hcs : '$' ∉ cs) (ds : List Char) :
    HasDollars (cs ++ ds) ↔ HasDollars ds := by
  induction cs with
  | nil => rfl
  | cons c cs ih =>
    rw [List.mem_cons, not_or] at hcs
    rw [List.cons_append, hasDollars_cons_of_ne (Ne.symm hcs.1), ih hcs.2]

/-- Doubling quotes brings no dollar signs together and keeps none apart. -/
theorem hasDollars_double {q : Char} (hq : q ≠ '$') (cs : List Char) : HasDollars (double q cs) ↔ HasDollars cs := by
  induction cs with
  | nil => rfl
  | cons c cs ih =>
    have hhead : (double q cs).head? = cs.head? := by
      cases cs with
      | nil => rfl
      | cons d ds =>
        rw [double]
        split
        · next h => rw [h]; rfl
        · rfl
    by_cases hc : c = q
    · subst hc
      rw [double_cons_self, hasDollars_cons_of_ne hq, hasDollars_cons_of_ne hq, hasDollars_cons_of_ne hq, ih]
    · rw [double_cons_of_ne hc, hasDollars_cons_iff, hasDollars_cons_iff, hhead, ih]

/-- A quoted text in front of another. -/
theorem hasDollars_enclose_append {q : Char} (hq : q ≠ '$') (cs rest : List Char) :
    HasDollars (enclose q q cs ++ rest) ↔ HasDollars cs ∨ HasDollars rest := by
  rw [enclose, List.cons_append, List.append_assoc, List.singleton_append, hasDollars_cons_of_ne hq,
    hasDollars_append_cons hq, hasDollars_double hq]

theorem head?_append_dollar (body rest : List Char) : (body ++ '$' :: rest).head? = (body ++ ['$']).head? := by
  cases body <;> rfl

/-- A text is cut at the first dollar quote: none begins before it. -/
theorem untilDollars?_eq_some_iff {cs body rest : List Char} :
    untilDollars? cs = some (body, rest) ↔ cs = body ++ '$' :: '$' :: rest ∧ ¬ HasDollars (body ++ ['$']) := by
  induction cs generalizing body with
  | nil => simp [untilDollars?]
  | cons c cs ih =>
    rw [untilDollars?]
    by_cases hquote : c = '$' ∧ cs.head? = some '$'
    · obtain ⟨rfl, hhead⟩ := hquote
      obtain ⟨after, rfl⟩ := List.head?_eq_some_iff.1 hhead
      rw [if_pos ⟨rfl, rfl⟩]
      cases body with
      | nil => simp [hasDollars_cons_iff, not_hasDollars_nil]
      | cons b body =>
        -- the body would begin with the quote itself
        refine iff_of_false (by simp) fun ⟨heq, hnone⟩ => hnone ?_
        obtain ⟨rfl, htail⟩ := List.cons.inj heq
        have hhead : (body ++ ['$']).head? = some '$' := by
          rw [← head?_append_dollar body ('$' :: rest)]
          exact (congrArg List.head? htail).symm
        exact hasDollars_cons_iff.2 (.inl ⟨rfl, hhead⟩)
    · rw [if_neg hquote, Option.map_eq_some_iff]
      constructor
      · rintro ⟨⟨body', rest'⟩, hfound, heq⟩
        cases heq
        obtain ⟨rfl, hnone⟩ := ih.1 hfound
        rw [head?_append_dollar] at hquote
        refine ⟨rfl, fun h => ?_⟩
        rcases hasDollars_cons_iff.1 h with h | h
        · exact hquote h
        · exact hnone h
      · rintro ⟨heq, hnone⟩
        cases body with
        | nil =>
          obtain ⟨rfl, rfl⟩ := List.cons.inj heq
          exact absurd ⟨rfl, rfl⟩ hquote
        | cons b body =>
          obtain ⟨rfl, rfl⟩ := List.cons.inj heq
          exact ⟨(body, rest), ih.2 ⟨rfl, fun h => hnone (hasDollars_cons_iff.2 (.inr h))⟩, rfl⟩

/-! ### Reading -/

/-- The body of an anonymous block: what stands between the first two dollar quotes, if nothing follows the second. -/
def blockBody? (sql : String) : Option (List Char) := do
  let cs ← sql.toList.dropPrefix? "DO $$".toList
  let (body, rest) ← untilDollars? cs
  if rest.isEmpty then some body else none

/-- Another dollar quote in the body would end it too early. -/
theorem blockBody?_eq {sql : String} {body : List Char} (h : sql.toList = "DO $$".toList ++ (body ++ ['$', '$'])) :
    blockBody? sql = if HasDollars (body ++ ['$']) then none else some body := by
  have hopening : "DO $$".toList = ['D', 'O', ' ', '$', '$'] := rfl
  have hfront : ("DO $$".toList ++ (body ++ ['$', '$'])).dropPrefix? "DO $$".toList = some (body ++ ['$', '$']) := by
    simp [hopening, List.dropPrefix?]
  rw [blockBody?, h, hfront]
  simp only [Option.bind_eq_bind, Option.bind_some]
  split
  · next hdollars =>
    cases hcut : untilDollars? (body ++ ['$', '$']) with
    | none => rfl
    | some found =>
      obtain ⟨heq, hnone⟩ := untilDollars?_eq_some_iff.1 hcut
      cases hrest : found.2 with
      | cons c rest => simp [hrest]
      | nil =>
        rw [hrest] at heq
        rw [← List.append_cancel_right heq] at hnone
        exact absurd hdollars hnone
  · next hdollars =>
    rw [untilDollars?_eq_some_iff.2 ⟨rfl, hdollars⟩]
    rfl

/-- The one literal that a part holds. -/
def value? (part : List Token) : Option String :=
  match unspaced part with
  | [.literal text] => some (String.ofList text)
  | _ => none

/-- An enumeration type. -/
structure EnumType where
  name : String
  /-- The values in order. -/
  values : List String
deriving DecidableEq, Repr

/-- The end of the body: a type of that name is no failure. -/
def ifMissing : String := "; EXCEPTION WHEN duplicate_object THEN NULL; END "

/-- The type that a statement makes, unless there is one of that name. -/
def EnumType.read? (sql : String) : Option EnumType := do
  let body ← blockBody? sql
  let ts ← tokens? Dialect.pgSql.schemaQuotes body
  let ts ← after? " BEGIN CREATE TYPE ".toList ts
  let (name, ts) ← identifier? ts
  let ts ← after? " AS ENUM (".toList ts
  let (values, ts) ← listed? value? ts
  if ts = plains ifMissing.toList then some ⟨name, values⟩ else none

namespace EnumType

/-- The body of the statement that makes a type. -/
def body (type : EnumType) : String :=
  " BEGIN CREATE TYPE " ++ Dialect.pgSql.quoteSchema type.name ++ " AS ENUM (" ++ valueList type.values ++
    ")" ++ ifMissing

/-- No name and no value holds a dollar quote. -/
def Dollarless (type : EnumType) : Prop :=
  contains type.name "$$" = false ∧ ∀ value ∈ type.values, contains value "$$" = false

instance (type : EnumType) : Decidable type.Dollarless := inferInstanceAs (Decidable (_ ∧ _))

theorem toList_createEnumType (type : EnumType) :
    (createEnumType (Dialect.pgSql.quoteSchema type.name) type.values).toList =
      "DO $$".toList ++ (type.body.toList ++ ['$', '$']) := by
  have hfront : "DO $$ BEGIN CREATE TYPE " = "DO $$" ++ " BEGIN CREATE TYPE " := by decide +kernel
  have hback : "); EXCEPTION WHEN duplicate_object THEN NULL; END $$" = ")" ++ ifMissing ++ "$$" := by decide +kernel
  have hdollars : "$$".toList = ['$', '$'] := rfl
  unfold createEnumType body
  rw [hfront, hback]
  simp only [String.toList_append, List.append_assoc]
  rw [hdollars]

theorem toList_body (type : EnumType) :
    type.body.toList = " BEGIN CREATE TYPE ".toList ++ (enclose '"' '"' type.name.toList ++
      (" AS ENUM (".toList ++ ((valueList type.values).toList ++ ')' :: ifMissing.toList))) := by
  have hclosing : ")".toList = [')'] := rfl
  have hname : (Dialect.pgSql.quoteSchema type.name).toList = enclose '"' '"' type.name.toList := by
    rw [Dialect.quoteSchema, wrap, String.toList_ofList]
    rfl
  unfold body
  simp only [String.toList_append, List.append_assoc]
  rw [hname, hclosing, List.singleton_append]

theorem not_mem_ifMissing : '$' ∉ ifMissing.toList := by decide +kernel

/-! ### The body -/

theorem hasDollars_valueList_append (values : List String) (rest : List Char) :
    HasDollars ((valueList values).toList ++ ')' :: rest) ↔
      (∃ value ∈ values, HasDollars value.toList) ∨ HasDollars rest := by
  induction values with
  | nil => simp [valueList, hasDollars_cons_of_ne]
  | cons value values ih =>
    cases values with
    | nil => simp [valueList, toList_literal, hasDollars_enclose_append, hasDollars_cons_of_ne]
    | cons next values =>
      rw [valueList_cons_cons, String.toList_append, String.toList_append, toList_literal, List.append_assoc, List.append_assoc,
        hasDollars_enclose_append (by decide), hasDollars_append_of_not_mem (by decide), ih]
      simp [or_assoc]

/-- **Dollar quotes in the body** stand in the name or a value. -/
theorem dollarless_iff (type : EnumType) : type.Dollarless ↔ ¬ HasDollars (type.body.toList ++ ['$']) := by
  have hend : ¬ HasDollars (ifMissing.toList ++ ['$']) := by
    rw [hasDollars_append_of_not_mem not_mem_ifMissing]
    simp [hasDollars_cons_iff, not_hasDollars_nil]
  rw [toList_body]
  simp only [List.append_assoc, List.cons_append]
  rw [hasDollars_append_of_not_mem (by decide), hasDollars_enclose_append (by decide),
    hasDollars_append_of_not_mem (by decide), hasDollars_valueList_append, or_iff_left hend, Dollarless]
  simp only [← Bool.not_eq_true, contains_dollars_iff]
  simp

/-- The body is read back. -/
theorem reads_body (type : EnumType) : tokens? Dialect.pgSql.schemaQuotes type.body.toList =
    some (plains " BEGIN CREATE TYPE ".toList ++ .identifier type.name.toList :: (plains " AS ENUM (".toList ++
      ((plains [',', ' ']).intercalate (type.values.map fun value => [.literal value.toList]) ++
        .plain ')' :: plains ifMissing.toList))) := by
  have hquotes := quoting_schemaQuotes .pgSql
  have hback : Unquoted (')' :: ifMissing.toList) := by decide +kernel
  have hvalues : Reads Dialect.pgSql.schemaQuotes (valueList type.values).toList
      ((plains [',', ' ']).intercalate (type.values.map fun value => [.literal value.toList])) := by
    have htexts : (valueList type.values).toList =
        [',', ' '].intercalate (type.values.map fun value => enclose '\'' '\'' value.toList) := by
      rw [valueList, String.toList_intercalate, List.map_map]
      simp only [Function.comp_def, toList_literal]
      rfl
    rw [htexts]
    exact hquotes.reads_intercalate (by decide) (by simp) fun value _ => hquotes.reads_literal value.toList
  have hlist := hquotes.reads_append_plain hvalues hback
  have hname := hquotes.reads_between (reads_identifier type.name.toList) (show Unquoted " AS ENUM (".toList by decide)
    (by decide) hlist
  have hall := hquotes.reads_plain_append (show Unquoted " BEGIN CREATE TYPE ".toList by decide) hname
  rw [toList_body]
  exact hall.tokens?_eq

/-- **A type is read back** just if neither its name nor a value holds a dollar quote; otherwise nothing is. -/
theorem read?_createEnumType (type : EnumType) :
    read? (createEnumType (Dialect.pgSql.quoteSchema type.name) type.values) =
      if type.Dollarless then some type else none := by
  rw [read?, blockBody?_eq (toList_createEnumType type)]
  by_cases hdollars : type.Dollarless
  · rw [if_neg ((dollarless_iff type).1 hdollars), if_pos hdollars]
    have hvalue (value : String) : value? [.literal value.toList] = some value := by simp [value?, unspaced]
    have hbalanced (value : String) : Balanced [.literal value.toList] := rfl
    have hspaced (ts : List Token) : value? (.plain ' ' :: ts) = value? ts := rfl
    have hvalues := listed?_intercalate hspaced (fun _ => by simp) hbalanced hvalue type.values (plains ifMissing.toList)
    simp only [Option.bind_eq_bind, Option.bind_some, reads_body, after?_plains, identifier?, hvalues,
      String.ofList_toList, if_true]
  · rw [if_pos (not_not.1 (mt (dollarless_iff type).2 hdollars)), if_neg hdollars]
    rfl

end EnumType

/-! ### Blueprints -/

/-- The type that an enumeration makes. -/
def Column.enumeration (c : Column) (s : Scope) : EnumType := ⟨s.table ++ "_" ++ c.name ++ "_enum", c.args.values⟩

/-- The statement that makes the type of a column. -/
theorem Column.before_eq {c : Column} {s : Scope} (htype : c.type = .enum) (hdefinition : c.definition = none)
    (hpg : s.dialect = .pgSql) : (c.render s).before =
      [createEnumType (Dialect.pgSql.quoteSchema (c.enumeration s).name) (c.enumeration s).values] := by
  rw [Column.render, hdefinition]
  simp only [Column.before, htype, hpg, decide_true, Bool.and_self, if_true, Column.enumType, Scope.quote,
    Column.enumeration]

namespace Blueprint
variable {b : Blueprint} {d : Dialect}

theorem before_subset_alterColumn {c : Column} {s : Scope} {own : List String} (h : alterColumn c s = .ok own) :
    ∀ sql ∈ (c.render s).before, sql ∈ own := by
  have hown : ∃ change, own = (c.render s).before ++ change ++ (c.render s).after := by
    unfold alterColumn at h
    dsimp only at h
    split at h
    · obtain ⟨change, -, h⟩ := bind_eq_ok.1 h
      exact ⟨change, (pure_eq_ok.1 h).symm⟩
    · exact ⟨_, (pure_eq_ok.1 h).symm⟩
  obtain ⟨change, rfl⟩ := hown
  intro sql hsql
  exact List.mem_append_left _ (List.mem_append_left _ hsql)

/-- What has to come before a column is among the statements of its blueprint. -/
theorem mem_build_of_before {c : Column} {sql : String} {statements : List String} (h : b.build d = .ok statements)
    (hc : c ∈ b.columns) (hsql : sql ∈ (c.render (b.scope d)).before) : sql ∈ statements := by
  unfold build at h
  split at h
  · unfold buildCreate at h
    split at h
    · cases h
    obtain ⟨definitions, -, h⟩ := bind_eq_ok.1 h
    obtain ⟨existence, -, h⟩ := bind_eq_ok.1 h
    obtain rfl := pure_eq_ok.1 h
    have hbefore : sql ∈ (b.columns.map fun c => c.render (b.scope d)).flatMap ColumnText.before :=
      List.mem_flatMap.2 ⟨_, List.mem_map_of_mem hc, hsql⟩
    simp only [List.append_assoc]
    exact List.mem_append_left _ hbefore
  · have hbuilt := h
    unfold buildAlter at h
    obtain ⟨columns, hcolumns, -⟩ := bind_eq_ok.1 h
    obtain ⟨own, -, hown⟩ := exists_of_mapM hcolumns c hc
    exact (infix_buildAlter hbuilt hc hown).subset (before_subset_alterColumn hown sql hsql)

/-- **The statement that makes an enumeration type** in PostgreSQL comes with every enumeration, under the table's full
name and the column's, and is read back to the declared values in order just if neither this name nor a value holds two
dollar signs side by side.  If one does, the body of the statement ends too early and no type is read. -/
theorem build_declares_enum_iff {c : Column} (hc : c ∈ b.columns) (htype : c.type = .enum)
    (hdefinition : c.definition = none) :
    ∃ sql type, (c.render (b.scope .pgSql)).before = [sql] ∧
      type = ⟨b.tablePrefix ++ b.table ++ "_" ++ c.name ++ "_enum", c.args.values⟩ ∧
      (∀ statements, b.build .pgSql = .ok statements → sql ∈ statements) ∧
      (EnumType.read? sql = some type ↔
        contains type.name "$$" = false ∧ ∀ value ∈ type.values, contains value "$$" = false) ∧
      (EnumType.read? sql = none ↔ contains type.name "$$" = true ∨ ∃ value ∈ type.values, contains value "$$" = true) := by
  have hbefore := Column.before_eq (s := b.scope .pgSql) htype hdefinition rfl
  refine ⟨_, c.enumeration (b.scope .pgSql), hbefore, rfl, fun statements h => ?_, ?_⟩
  · exact mem_build_of_before h hc (by rw [hbefore]; exact List.mem_singleton_self _)
  · rw [EnumType.read?_createEnumType]
    by_cases hdollars : (c.enumeration (b.scope .pgSql)).Dollarless
    · rw [if_pos hdollars]
      refine ⟨iff_of_true rfl hdollars, iff_of_false (by simp) ?_⟩
      rintro (hname | ⟨value, hvalue, hcontains⟩)
      · rw [hdollars.1] at hname
        cases hname
      · rw [hdollars.2 value hvalue] at hcontains
        cases hcontains
    · rw [if_neg hdollars]
      refine ⟨iff_of_false (by simp) hdollars, iff_of_true rfl ?_⟩
      rw [EnumType.Dollarless, not_and_or] at hdollars
      simpa using hdollars

/-- Quotes, single dollar signs and what ends the statement outside quotes do no harm. -/
theorem build_declares_enum_quoted :
    let c : Column := { name := "ki\"nd$", type := .enum, args := { values := ["it's $", "$", "'); END $ $"] } }
    let b := (create "t$").addColumn c
    c ∈ b.columns ∧ c.type = .enum ∧ c.definition = none ∧
      ∃ sql, (c.render (b.scope .pgSql)).before = [sql] ∧
        EnumType.read? sql = some ⟨"t$_ki\"nd$_enum", ["it's $", "$", "'); END $ $"]⟩ := by
  intro c b
  have hc : c ∈ b.columns := by decide
  obtain ⟨sql, type, hbefore, rfl, -, hread, -⟩ := build_declares_enum_iff (b := b) hc rfl rfl
  exact ⟨hc, rfl, rfl, sql, hbefore, hread.2 (by decide +kernel)⟩

/-- **A price of two dollar signs** ends the statement that should make its type. -/
theorem build_misses_enum :
    let c : Column := { name := "price", type := .enum, args := { values := ["$", "$$"] } }
    let b := (create "places").addColumn c
    ∃ statements sql, b.build .pgSql = .ok statements ∧ (c.render (b.scope .pgSql)).before = [sql] ∧ sql ∈ statements ∧
      sql = "DO $$ BEGIN CREATE TYPE \"places_price_enum\" AS ENUM ('$', '$$'); EXCEPTION WHEN duplicate_object THEN NULL; END $$" ∧
      EnumType.read? sql = none := by
  intro c b
  refine ⟨_, _, rfl, rfl, ?_, ?_, ?_⟩ <;> decide +kernel

end Blueprint

end SqlToolkit.Schema
