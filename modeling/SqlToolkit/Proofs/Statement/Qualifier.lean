import SqlToolkit.Proofs.Statement.Named
import SqlToolkit.Proofs.Statement.Unquoted
import SqlToolkit.Proofs.Text.Grammar

/-!
# The qualifiers of joined columns

A pair of columns is written with a qualifier in front of each.  The right column takes the name of the joined table,
and a plain left column that of the main table, by its alias if it has one.  A left column that names its table itself
takes another way: what it names is always put under the prefix and quoted, an alias too.  So the qualifiers of a query
are names of its tables exactly if each that is given names a table without an alias, or becomes an alias under the
prefix (`select_qualifies_iff`).  Without a prefix they always are.
-/
namespace SqlToolkit
open Text Schema Outcome

/-! ### Reading qualifiers -/

/-- The quoted names in front of the dots of a text; nothing if anything else stands in front of one. -/
def qualifiers? : List Token → Option (List String)
  | [] => some []
  | .identifier name :: .plain '.' :: ts => (qualifiers? ts).map (String.ofList name :: ·)
  | .plain '.' :: _ => none
  | _ :: ts => qualifiers? ts

/-- The qualifiers that a text has in a dialect. -/
def Dialect.qualifiers? (d : Dialect) (text : String) : Option (List String) :=
  (tokens? d.quotes text.toList).bind SqlToolkit.qualifiers?

theorem qualifiers?_plains {cs : List Char} (h : '.' ∉ cs) (ts : List Token) :
    qualifiers? (plains cs ++ ts) = qualifiers? ts := by
  induction cs with
  | nil => rfl
  | cons c cs ih =>
    have hcs : '.' ∉ cs := fun hmem => h (List.mem_cons_of_mem _ hmem)
    have hne : Token.plain c ≠ .plain '.' := fun heq => h (Token.plain.inj heq ▸ List.mem_cons_self)
    rw [plains, List.map_cons, List.cons_append, qualifiers?]
    · exact ih hcs
    · intro _ _ hname
      cases hname
    · exact fun heq => hne heq

/-- A text has these qualifiers wherever it stands, unless a quote follows it. -/
def Qualifies (d : Dialect) (text : String) (names : List String) : Prop :=
  ∃ ts, Reads d.quotes text.toList ts ∧ ∀ us, qualifiers? (ts ++ us) = (qualifiers? us).map (names ++ ·)

namespace Qualifies
variable {d : Dialect}

theorem qualifiers?_eq {text : String} {names : List String} (h : Qualifies d text names) :
    d.qualifiers? text = some names := by
  obtain ⟨ts, hreads, hnames⟩ := h
  have hall := hnames []
  rw [List.append_nil] at hall
  rw [Dialect.qualifiers?, hreads.tokens?_eq, Option.bind_some, hall]
  simp [SqlToolkit.qualifiers?]

/-- A column behind a quoted name and a dot. -/
theorem column (name : String) {column : String} (hquotes : Unquoted column.toList) (hdot : '.' ∉ column.toList) :
    Qualifies d (d.quote name ++ "." ++ column) [name] := by
  have hname : (d.quote name).toList = enclose d.quotes.1 d.quotes.2 name.toList := String.toList_ofList
  refine ⟨[.identifier name.toList] ++ plains ('.' :: column.toList), ?_, fun us => ?_⟩
  · have hcolumn : Unquoted ('.' :: column.toList) := unquoted_cons.2 ⟨by decide, hquotes⟩
    rw [String.toList_append, String.toList_append, hname, List.append_assoc]
    exact (quoting_quotes d).reads_append_plain (reads_identifier name.toList) hcolumn
  · show qualifiers? (.identifier name.toList :: .plain '.' :: (plains column.toList ++ us)) = _
    rw [SqlToolkit.qualifiers?, qualifiers?_plains hdot, String.ofList_toList]
    rfl

/-- Two texts with words between them. -/
theorem between {a b words : String} {names others : List String} (ha : Qualifies d a names)
    (hquotes : Unquoted words.toList) (hne : words.toList ≠ []) (hdot : '.' ∉ words.toList)
    (hb : Qualifies d b others) : Qualifies d (a ++ (words ++ b)) (names ++ others) := by
  obtain ⟨ts, hts, hnames⟩ := ha
  obtain ⟨us, hus, hothers⟩ := hb
  refine ⟨ts ++ (plains words.toList ++ us), ?_, fun rest => ?_⟩
  · rw [String.toList_append, String.toList_append]
    exact (quoting_quotes d).reads_between hts hquotes hne hus
  · rw [List.append_assoc, hnames, List.append_assoc, qualifiers?_plains hdot, hothers, Option.map_map]
    simp [Function.comp_def]

/-- Texts one after another with words between them. -/
theorem intercalate {words : String} (hquotes : Unquoted words.toList) (hne : words.toList ≠ [])
    (hdot : '.' ∉ words.toList) {texts : List String} {names : List (List String)}
    (h : List.Forall₂ (Qualifies d) texts names) : Qualifies d (words.intercalate texts) names.flatten := by
  induction h with
  | nil => exact ⟨[], (quoting_quotes d).reads_plain rfl, fun us => by simp⟩
  | @cons text ns texts nss htext hrest ih =>
    cases hrest with
    | nil => simpa using htext
    | cons hnext hrest =>
      rw [String.intercalate_cons_cons, String.append_assoc]
      exact htext.between hquotes hne hdot ih

end Qualifies

theorem Dialect.quote_injective (d : Dialect) : Function.Injective d.quote := by
  have hread (name : String) : readEnclosed d.quotes.2 ((d.quote name).toList.drop 1) = some (name.toList, []) := by
    have hname : (d.quote name).toList = enclose d.quotes.1 d.quotes.2 name.toList := String.toList_ofList
    rw [hname]
    exact readEnclosed_double name.toList (by simp)
  intro a b h
  have hlists : some (a.toList, ([] : List Char)) = some (b.toList, []) := by rw [← hread a, h, hread b]
  exact String.toList_inj.1 (congrArg Prod.fst (Option.some.inj hlists))

/-! ### Columns and what stands in front of their dot -/

namespace Text

theorem IsName.isColumnChar {name : List Char} (h : IsName name) : ∀ c ∈ name, isColumnChar c = true := by
  obtain ⟨hstart, hcontinue⟩ := h
  refine List.forall_mem_cons.2 ⟨?_, hcontinue⟩
  simp only [startsName, Bool.or_eq_true, beq_iff_eq] at hstart
  rcases hstart with hstart | rfl
  · simp [Text.isColumnChar, Char.isAlphanum, hstart]
  · decide

theorem IsName.not_mem_dot {name : List Char} (h : IsName name) : '.' ∉ name := by
  intro hmem
  have hdot := h.isColumnChar '.' hmem
  rw [isColumnChar_dot] at hdot
  cases hdot

theorem unquoted_of_isBareChar {cs : List Char} (h : ∀ c ∈ cs, isBareChar c = true) : Unquoted cs :=
  List.all_eq_true.2 fun c hc => not_isSchemaQuote_of_isBareChar c (h c hc)

theorem IsName.unquoted {name : List Char} (h : IsName name) : Unquoted name :=
  unquoted_of_isBareChar fun c hc => isBareChar_of_isColumnChar (h.isColumnChar c hc)

theorem bne_dot_of_not_mem {cs : List Char} (h : '.' ∉ cs) : ∀ c ∈ cs, (c != '.') = true :=
  fun _ hc => bne_iff_ne.2 fun hdot => h (hdot ▸ hc)

theorem splitDot_of_not_mem {cs : List Char} (h : '.' ∉ cs) : splitDot cs = none := by
  rw [splitDot, List.dropWhile_eq_nil_iff.2 (bne_dot_of_not_mem h)]

theorem splitDot_append {table : List Char} (h : '.' ∉ table) (name : List Char) :
    splitDot (table ++ '.' :: name) = some (table, name) := by
  have htable := bne_dot_of_not_mem h
  have hstops : Stops (· != '.') ('.' :: name) := by
    rintro c ⟨⟩
    rfl
  rw [splitDot, dropWhile_of_stops htable hstops, takeWhile_of_stops htable hstops]

end Text

/-! ### The tables of a query -/

namespace Target

/-- The table and the alias of a specification. -/
def tableSpec (spec : String) : String × Option String :=
  match readTableAlias spec.toList with
  | some (table, asName) => (String.ofList table, some (String.ofList asName))
  | none => (trim spec, none)

theorem parseTable_eq (t : Target) (spec : String) :
    t.parseTable spec = t.tableRef (tableSpec spec).1 (tableSpec spec).2 := by
  unfold parseTable tableSpec
  cases readTableAlias spec.toList <;> rfl

/-- The name that the columns of a table are qualified with: its alias, or else its own under the prefix. -/
def qualifier (t : Target) (table : String × Option String) : String := table.2.getD (t.tablePrefix ++ table.1)

theorem reference_tableRef (t : Target) (table : String × Option String) :
    (t.tableRef table.1 table.2).reference = t.dialect.quote (t.qualifier table) := by
  obtain ⟨name, asName⟩ := table
  cases asName <;> rfl

/-- A name under the prefix is the qualifier of one of the tables: it names one without an alias, or it becomes an
alias. -/
def Resolves (t : Target) (tables : List (String × Option String)) (name : String) : Prop :=
  (name, none) ∈ tables ∨ some (t.tablePrefix ++ name) ∈ tables.map Prod.snd

instance (t : Target) (tables : List (String × Option String)) (name : String) : Decidable (t.Resolves tables name) :=
  inferInstanceAs (Decidable (_ ∨ _))

theorem resolves_iff (t : Target) (tables : List (String × Option String)) (name : String) :
    t.Resolves tables name ↔ ∃ table ∈ tables, t.qualifier table = t.tablePrefix ++ name := by
  constructor
  · rintro (h | h)
    · exact ⟨_, h, rfl⟩
    · obtain ⟨⟨table, asName⟩, hmem, rfl⟩ := List.mem_map.1 h
      exact ⟨_, hmem, rfl⟩
  · rintro ⟨⟨table, asName⟩, h, hname⟩
    cases asName with
    | none =>
      have hsame : t.tablePrefix ++ table = t.tablePrefix ++ name := hname
      obtain rfl : table = name := by simpa using hsame
      exact .inl h
    | some asName =>
      obtain rfl : asName = t.tablePrefix ++ name := hname
      exact .inr (List.mem_map.2 ⟨_, h, rfl⟩)

end Target

namespace Statement

/-- The tables of a query, each with its alias. -/
def tables (table : String) (joins : List Join) : List (String × Option String) :=
  Target.tableSpec table :: joins.map fun j => (j.table, j.asName)

/-- What columns may be qualified with in a query. -/
def references (t : Target) (table : String) (joins : List Join) : List String :=
  (t.parseTable table).reference :: joins.map fun j => (j.tableRef t).reference

theorem references_eq (t : Target) (table : String) (joins : List Join) :
    references t table joins = (tables table joins).map fun x => t.dialect.quote (t.qualifier x) := by
  rw [references, tables, List.map_cons, List.map_map, t.parseTable_eq, t.reference_tableRef]
  refine congrArg _ (List.map_congr_left fun j _ => ?_)
  exact t.reference_tableRef (j.table, j.asName)

theorem quote_mem_references {t : Target} {table : String} {joins : List Join} {name : String} :
    t.dialect.quote name ∈ references t table joins ↔ ∃ x ∈ tables table joins, t.qualifier x = name := by
  rw [references_eq, List.mem_map]
  exact exists_congr fun x => and_congr_right fun _ => t.dialect.quote_injective.eq_iff

end Statement

/-! ### Pairs of columns -/

namespace Join
variable {t : Target} {main : String × Option String}

/-- The table that a left column names itself. -/
def leftTable? (left : String) : Option String := (splitDot left.toList).map fun split => String.ofList split.1

/-- The qualifier that a left column is written with: what it names itself, or else the main table. -/
def leftQualifier (t : Target) (main : String × Option String) (left : String) : String :=
  match leftTable? left with
  | some name => t.tablePrefix ++ name
  | none => t.qualifier main

theorem qualifies_leftColumn {left : String} (h : isColumn left = true) :
    Qualifies t.dialect (leftColumn (t.tableRef main.1 main.2) t left) [leftQualifier t main left] := by
  have hshape := isColumn_iff.1 h
  generalize hcs : left.toList = cs at hshape
  cases hshape with
  | plain hname =>
    have hplain : left.toList.contains '.' = false := by simp [hcs, hname.not_mem_dot]
    have htable : leftTable? left = none := by rw [leftTable?, hcs, splitDot_of_not_mem hname.not_mem_dot]; rfl
    rw [leftColumn, hplain, leftQualifier, htable, t.reference_tableRef main]
    exact .column _ (hcs ▸ hname.unquoted) (hcs ▸ hname.not_mem_dot)
  | @qualified table name htable hname =>
    have hdot : left.toList.contains '.' = true := by simp [hcs]
    have hsplit : splitDot left.toList = some (table, name) := hcs ▸ splitDot_append htable.not_mem_dot name
    have hcolumn : (String.ofList name).toList = name := String.toList_ofList
    rw [leftColumn, hdot, if_pos rfl, Target.qualifiedColumn, leftQualifier, leftTable?, hsplit]
    exact .column _ (hcolumn.symm ▸ hname.unquoted) (hcolumn.symm ▸ hname.not_mem_dot)

/-- A left column takes its qualifier from the tables of the query, unless it gives one that is none of theirs. -/
theorem leftQualifier_iff {tables : List (String × Option String)} (hmain : main ∈ tables) (left : String) :
    (∃ table ∈ tables, t.qualifier table = leftQualifier t main left) ↔
      ∀ name ∈ leftTable? left, t.Resolves tables name := by
  unfold leftQualifier
  cases leftTable? left with
  | none => exact ⟨fun _ _ hname => (Option.not_mem_none _ hname).elim, fun _ => ⟨main, hmain, rfl⟩⟩
  | some name =>
    rw [← t.resolves_iff]
    exact ⟨fun hname _ heq => Option.mem_some_iff.1 heq ▸ hname, fun hall => hall name rfl⟩

/-- The pairs of columns that a join is on. -/
def pairs? (j : Join) : Option (List (String × String)) :=
  match j.constraint with
  | some (.pairs columns) => some columns
  | _ => none

/-- The qualifiers of a pair. -/
def pairQualifiers (t : Target) (main : String × Option String) (j : Join) (pair : String × String) : List String :=
  [leftQualifier t main pair.1, t.qualifier (j.table, j.asName)]

theorem qualifies_pairText {j : Join} {pair : String × String} {text : String} (hright : '.' ∉ pair.2.toList)
    (h : j.pairText (t.tableRef main.1 main.2) t pair.1 pair.2 = .ok text) :
    Qualifies t.dialect text (pairQualifiers t main j pair) := by
  simp only [pairText, bind_eq_ok, pure_eq_ok] at h
  obtain ⟨l, hl, r, hr, rfl⟩ := h
  obtain ⟨rfl, hleft⟩ := validateColumn_eq_ok.1 hl
  obtain ⟨rfl, hcolumn⟩ := validateColumn_eq_ok.1 hr
  have hjoined : Qualifies t.dialect ((j.tableRef t).reference ++ "." ++ pair.2)
      [t.qualifier (j.table, j.asName)] := by
    rw [show (j.tableRef t).reference = _ from t.reference_tableRef (j.table, j.asName)]
    exact .column _ (unquoted_of_isBareChar (isColumn_bare hcolumn).2) hright
  have hnamed : Qualifies t.dialect (leftColumn (t.tableRef main.1 main.2) t pair.1) [leftQualifier t main pair.1] :=
    qualifies_leftColumn hleft
  have hpair := hnamed.between (show Unquoted " = ".toList by decide) (by decide) (by decide) hjoined
  rw [pairQualifiers, ← List.singleton_append]
  simpa only [String.append_assoc] using hpair

/-- The pairs of a join are written one after another. -/
theorem render_pairs {j : Join} {ref : TableRef} {pairs : List (String × String)} {text : String}
    (hpairs : pairs ∈ j.pairs?) (h : j.render ref t = .ok text) :
    ∃ parts, List.Forall₂ (fun pair part => j.pairText ref t pair.1 pair.2 = .ok part) pairs parts ∧
      text = " " ++ j.kind.keyword ++ " " ++ (j.tableRef t).render ++ " ON " ++ " AND ".intercalate parts := by
  simp only [render, bind_eq_ok, pure_eq_ok] at h
  obtain ⟨constraint, hconstraint, rfl⟩ := h
  have hgiven : j.constraint = some (.pairs pairs) := by
    unfold pairs? at hpairs
    split at hpairs
    · next hgiven =>
      obtain rfl := Option.mem_some_iff.1 hpairs
      exact hgiven
    · cases hpairs
  rw [constraintText, hgiven] at hconstraint
  cases pairs with
  | nil => cases hconstraint
  | cons pair pairs =>
    simp only [bind_eq_ok, pure_eq_ok] at hconstraint
    obtain ⟨parts, hparts, rfl⟩ := hconstraint
    refine ⟨parts, mapM_eq_ok_iff.1 hparts, ?_⟩
    rw [← String.toList_inj]
    simp

/-- The pairs have the qualifiers of each. -/
theorem qualifies_pairs {j : Join} {pairs : List (String × String)} {parts : List String}
    (hright : ∀ pair ∈ pairs, '.' ∉ pair.2.toList)
    (h : List.Forall₂ (fun pair part => j.pairText (t.tableRef main.1 main.2) t pair.1 pair.2 = .ok part) pairs parts) :
    Qualifies t.dialect (" AND ".intercalate parts) (pairs.flatMap (pairQualifiers t main j)) := by
  have heach : List.Forall₂ (Qualifies t.dialect) parts (pairs.map (pairQualifiers t main j)) := by
    induction h with
    | nil => exact .nil
    | cons hpair _ ih =>
      obtain ⟨hplain, hrest⟩ := List.forall_mem_cons.1 hright
      exact .cons (qualifies_pairText hplain hpair) (ih hrest)
  exact .intercalate (by decide) (by decide) (by decide) heach

/-- The right columns of the pairs are plain, and the left ones plain or qualified: by the name of a table without an
alias, or by an alias of the query. -/
def Scoped (tables : List (String × Option String)) (pairs : List (String × String)) : Prop :=
  ∀ pair ∈ pairs, '.' ∉ pair.2.toList ∧
    ∀ name ∈ leftTable? pair.1, (name, none) ∈ tables ∨ some name ∈ tables.map Prod.snd

instance (tables : List (String × Option String)) (pairs : List (String × String)) : Decidable (Scoped tables pairs) :=
  inferInstanceAs (Decidable (∀ _ ∈ _, _))

end Join

namespace Statement
variable {t : Target} {table : String} {joins : List Join} {items : SelectList} {criteria : Criteria} {s : Statement}

theorem qualifiers_known_iff {j : Join} (hj : j ∈ joins) (pairs : List (String × String)) :
    (∀ name ∈ pairs.flatMap (Join.pairQualifiers t (Target.tableSpec table) j),
      t.dialect.quote name ∈ references t table joins) ↔
    ∀ pair ∈ pairs, ∀ name ∈ Join.leftTable? pair.1, t.Resolves (tables table joins) name := by
  have hmain : Target.tableSpec table ∈ tables table joins := List.mem_cons_self
  have hjoined : ∃ y ∈ tables table joins, t.qualifier y = t.qualifier (j.table, j.asName) :=
    ⟨_, List.mem_cons_of_mem _ (List.mem_map_of_mem hj), rfl⟩
  simp only [List.mem_flatMap, quote_mem_references, ← Join.leftQualifier_iff hmain]
  constructor
  · intro hall pair hpair
    exact hall _ ⟨pair, hpair, List.mem_cons_self⟩
  · rintro hleft name ⟨pair, hpair, hname⟩
    rcases List.mem_cons.1 hname with rfl | hname
    · exact hleft pair hpair
    · obtain rfl := List.mem_singleton.1 hname
      exact hjoined

/-- **The qualifiers of joined columns.**  A query holds its joins behind the main table.  In the constraint of a join on
pairs of columns everything in front of a dot is a quoted name.  Without a prefix each is the reference of a table of
the query.  Under a prefix that is so exactly if each left column that names its table names one without an alias, or
becomes an alias under the prefix. -/
theorem select_qualifies_iff (h : select t table joins items criteria = .ok s)
    (hscoped : ∀ j ∈ joins, ∀ pairs ∈ j.pairs?, Join.Scoped (tables table joins) pairs) :
    ∃ rendered rest,
      s.sql = "SELECT " ++ items.render t ++ " FROM " ++ (t.parseTable table).render ++ String.join rendered ++ rest ∧
      List.Forall₂ (fun j text => ∀ pairs ∈ j.pairs?, ∃ constraint names,
        text = " " ++ j.kind.keyword ++ " " ++ (j.tableRef t).render ++ " ON " ++ constraint ∧
        t.dialect.qualifiers? constraint = some names ∧
        (t.tablePrefix = "" → ∀ name ∈ names, t.dialect.quote name ∈ references t table joins) ∧
        ((∀ name ∈ names, t.dialect.quote name ∈ references t table joins) ↔
          ∀ pair ∈ pairs, ∀ name ∈ Join.leftTable? pair.1, t.Resolves (tables table joins) name)) joins rendered := by
  simp only [select, query, fromClause, bind_eq_ok, pure_eq_ok] at h
  obtain ⟨_, ⟨rendered, hrendered, rfl⟩, clauses, hclauses, rfl⟩ := h
  refine ⟨rendered, clauses.sql, by simp [ofFragment, Fragment.raw, String.append_assoc], ?_⟩
  have hjoins := (List.forall₂_and_left joins rendered).2 ⟨fun _ hj => hj, mapM_eq_ok_iff.1 hrendered⟩
  refine hjoins.imp fun j text hjoin pairs hpairs => ?_
  obtain ⟨hj, hrender⟩ := hjoin
  rw [t.parseTable_eq] at hrender
  obtain ⟨parts, hparts, rfl⟩ := Join.render_pairs hpairs hrender
  have hpairsScoped := hscoped j hj pairs hpairs
  have hqualifies := Join.qualifies_pairs (fun pair hpair => (hpairsScoped pair hpair).1) hparts
  have hknown : (∀ name ∈ pairs.flatMap (Join.pairQualifiers t (Target.tableSpec table) j),
      t.dialect.quote name ∈ references t table joins) ↔ _ := qualifiers_known_iff hj pairs
  refine ⟨_, _, rfl, hqualifies.qualifiers?_eq, fun hprefixed => hknown.2 fun pair hpair name hname => ?_, hknown⟩
  -- nothing in front of an alias leaves it as it was declared
  rw [Target.Resolves, hprefixed, String.empty_append]
  exact (hpairsScoped pair hpair).2 name hname

/-- Two joins in a chain, where the left column of the second names the table of the first: by its name, or by its alias
if it has one. -/
def chain (asName : Option String) : List Join :=
  [⟨.inner, "posts", asName, some (.pairs [("id", "user_id")])⟩,
    ⟨.inner, "comments", some "c", some (.pairs [(asName.getD "posts" ++ ".id", "post_id")])⟩]

/-- A table is named by its own name, which is put under the prefix wherever it stands. -/
theorem select_qualifies_table : ∃ s, select ⟨.pgSql, "app_"⟩ "users(u)" (chain none) .all {} = .ok s ∧
    ∃ rendered rest, s.sql = "SELECT * FROM \"app_users\" AS \"u\"" ++ String.join rendered ++ rest ∧
      List.Forall₂ (fun j text => ∀ pairs ∈ j.pairs?, ∃ constraint names,
        text = " " ++ j.kind.keyword ++ " " ++ (j.tableRef ⟨.pgSql, "app_"⟩).render ++ " ON " ++ constraint ∧
        Dialect.pgSql.qualifiers? constraint = some names ∧
        ∀ name ∈ names, Dialect.pgSql.quote name ∈ references ⟨.pgSql, "app_"⟩ "users(u)" (chain none))
        (chain none) rendered := by
  obtain ⟨s, hs⟩ : ∃ s, select ⟨.pgSql, "app_"⟩ "users(u)" (chain none) .all {} = .ok s := ⟨_, rfl⟩
  obtain ⟨rendered, rest, hsql, hjoins⟩ := select_qualifies_iff hs (by decide +kernel)
  have hresolves : ∀ j ∈ chain none, ∀ pairs ∈ j.pairs?, ∀ pair ∈ pairs, ∀ name ∈ Join.leftTable? pair.1,
      Target.Resolves ⟨.pgSql, "app_"⟩ (tables "users(u)" (chain none)) name := by decide +kernel
  refine ⟨s, hs, rendered, rest, hsql, ?_⟩
  refine ((List.forall₂_and_left _ _).2 ⟨hresolves, hjoins⟩).imp fun j text hjoin pairs hpairs => ?_
  obtain ⟨hj, htext⟩ := hjoin
  obtain ⟨constraint, names, hwritten, hnames, -, hknown⟩ := htext pairs hpairs
  exact ⟨constraint, names, hwritten, hnames, hknown.2 (hj pairs hpairs)⟩

/-- **An alias is put under the prefix too** where a left column names it, and then it is no table of the query. -/
theorem select_misses_alias : ∃ s, select ⟨.pgSql, "app_"⟩ "users(u)" (chain (some "p")) .all {} = .ok s ∧
    (∀ j ∈ chain (some "p"), ∀ pairs ∈ j.pairs?, Join.Scoped (tables "users(u)" (chain (some "p"))) pairs) ∧
    s.sql = "SELECT * FROM \"app_users\" AS \"u\" INNER JOIN \"app_posts\" AS \"p\" ON \"u\".id = \"p\".user_id " ++
      "INNER JOIN \"app_comments\" AS \"c\" ON \"app_p\".id = \"c\".post_id" ∧
    Dialect.pgSql.qualifiers? "\"app_p\".id = \"c\".post_id" = some ["app_p", "c"] ∧
    Dialect.pgSql.quote "app_p" ∉ references ⟨.pgSql, "app_"⟩ "users(u)" (chain (some "p")) :=
  ⟨_, rfl, by decide +kernel, by decide +kernel, by decide +kernel, by decide +kernel⟩

end Statement

end SqlToolkit
