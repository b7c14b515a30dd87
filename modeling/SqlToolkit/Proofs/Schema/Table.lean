import Mathlib.Data.List.Infix
import SqlToolkit.Proofs.Schema.Declaration
import SqlToolkit.Proofs.Statement.Pattern

/-!
# The table of a schema statement

Every statement of a blueprint names the blueprint's table, under the prefix and once, unless
the dialect lets it name none (`Tableless`).  Where the name stands depends on the statement
and on the dialect (`Concerns`): as an identifier after the first words, after the name of an
index, or in a string literal together with a column.

The statements that rename and drop a table differ most between dialects, so each has a reader
of its own (`renamed?`, `dropped?`).  One dialect drops a table by a statement inside a
string literal, which is read twice.
-/
namespace SqlToolkit.Schema
open Text Outcome

/-! ## Renaming and dropping -/

/-- The tables of a statement that renames one: the old name and the new one. -/
def renamed? (d : Dialect) : String → Option (List String) :=
  found? d.schemaQuotes <|
    match d with
    | .mySql => [.words "RENAME TABLE ", .identifier, .words " TO ", .identifier]
    | .sybase => [.words "sp_rename ", .literal, .words ", ", .literal]
    | .msSql => [.words "EXEC sp_rename ", .literal, .words ", ", .literal]
    | .pgSql | .sqlite | .oracle => [.words "ALTER TABLE ", .identifier, .words " RENAME TO ", .identifier]

/-- The table of a statement that drops one. -/
def dropped? (d : Dialect) : String → Option (List String) :=
  found? d.schemaQuotes [.words "DROP TABLE ", .identifier]

/-- The table of a statement that drops one if it is there, wherever it is named. -/
def droppedIfExists? (d : Dialect) (sql : String) : Option (List String) :=
  match d with
  | .sybase =>
    found? d.schemaQuotes [.words "IF OBJECT_ID(", .literal, .words ") IS NOT NULL DROP TABLE ", .identifier] sql
  | .oracle =>
    -- what is executed is a statement in a literal
    (found? d.schemaQuotes [.words "BEGIN EXECUTE IMMEDIATE ", .literal, .words "; "] sql).bind fun texts =>
      texts.head?.bind (dropped? d)
  | .mySql | .pgSql | .sqlite | .msSql => found? d.schemaQuotes [.words "DROP TABLE IF EXISTS ", .identifier] sql

theorem dropped?_dropTable (d : Dialect) (table : String) :
    dropped? d ("DROP TABLE " ++ d.quoteSchema table) = some [table] := by
  rw [dropped?, found?, String.toList_append, scan_words]
  exact scan_identifier_last _ table

theorem renamed?_renameTable (d : Dialect) (table name : String) :
    renamed? d (d.renameTable table name) = some [table, name] := by
  have hidentifiers (d : Dialect) (front : String) {between : String} (hbetween : Separates between) :
      found? d.schemaQuotes [.words front, .identifier, .words between, .identifier]
        (front ++ d.quoteSchema table ++ between ++ d.quoteSchema name) = some [table, name] :=
    (quoting_schemaQuotes d).found?_identifiers front table hbetween name
  have hliterals (d : Dialect) (procedure : String) :
      found? d.schemaQuotes [.words procedure, .literal, .words ", ", .literal]
        (procedure ++ literal table ++ ", " ++ literal name) = some [table, name] := by
    have hfound := (quoting_schemaQuotes d).found?_literals procedure table (show Separates ", " by decide) name
      (show Free _ "".toList from free_nil _)
    rwa [String.append_empty] at hfound
  cases d with
  | mySql => exact hidentifiers .mySql _ (by decide)
  | sybase => exact hliterals .sybase _
  | msSql => exact hliterals .msSql _
  | pgSql => exact hidentifiers .pgSql _ (by decide)
  | sqlite => exact hidentifiers .sqlite _ (by decide)
  | oracle => exact hidentifiers .oracle _ (by decide)

/-- One dialect names the table in a test as well. -/
theorem droppedIfExists?_dropTableIfExists (d : Dialect) (table : String) :
    droppedIfExists? d (d.dropTableIfExists table) = some (if d = .sybase then [table, table] else [table]) := by
  have hquotes := quoting_schemaQuotes d
  have htested : found? Dialect.sybase.schemaQuotes
      [.words "IF OBJECT_ID(", .literal, .words ") IS NOT NULL DROP TABLE ", .identifier]
      ("IF OBJECT_ID(" ++ literal table ++ ") IS NOT NULL DROP TABLE " ++ Dialect.sybase.quoteSchema table) =
        some [table, table] := by
    have hquotes := quoting_schemaQuotes .sybase
    simp only [found?, String.toList_append, List.append_assoc]
    rw [scan_words, hquotes.scan_literal_words table (by decide), Dialect.quoteSchema, scan_identifier_last]
    rfl
  have hexecuted (code : String) : found? Dialect.oracle.schemaQuotes
      [.words "BEGIN EXECUTE IMMEDIATE ", .literal, .words "; "]
      ("BEGIN EXECUTE IMMEDIATE " ++ literal code ++
        "; EXCEPTION WHEN OTHERS THEN IF SQLCODE != -942 THEN RAISE; END IF; END;") = some [code] := by
    have hquotes := quoting_schemaQuotes .oracle
    have hend : "; EXCEPTION WHEN OTHERS THEN IF SQLCODE != -942 THEN RAISE; END IF; END;" =
      "; " ++ "EXCEPTION WHEN OTHERS THEN IF SQLCODE != -942 THEN RAISE; END IF; END;" := by decide
    rw [hend]
    simp only [found?, String.toList_append, List.append_assoc]
    rw [scan_words, hquotes.scan_literal_words code (by decide)]
    rfl
  have hdropped (d : Dialect) : found? d.schemaQuotes [.words "DROP TABLE IF EXISTS ", .identifier]
      ("DROP TABLE IF EXISTS " ++ d.quoteSchema table) = some [table] := by
    rw [found?, String.toList_append, scan_words]
    exact scan_identifier_last _ table
  cases d with
  | sybase => exact htested
  | oracle =>
    unfold droppedIfExists? Dialect.dropTableIfExists
    dsimp only
    rw [hexecuted, Option.bind_some, List.head?_cons, Option.bind_some, dropped?_dropTable]
    rfl
  | mySql => exact hdropped .mySql
  | pgSql => exact hdropped .pgSql
  | sqlite => exact hdropped .sqlite
  | msSql => exact hdropped .msSql

/-! ## Statements of a blueprint -/

/-- A statement that names no table: in some dialects an enumeration is a type of its own, and an index is dropped
by its name alone. -/
inductive Tableless (d : Dialect) : String → Prop
  | type (hd : d = .pgSql) (name : String) (values : List String) : Tableless d (createEnumType name values)
  | index (hd : d = .pgSql ∨ d = .sqlite ∨ d = .oracle) (index : String) :
    Tableless d ("DROP INDEX " ++ d.quoteSchema index)

/-- A statement names this table, and in a known place. -/
inductive Concerns (d : Dialect) (table sql : String) : Prop
  | creates (existence : String) (hexistence : existence = "" ∨ existence = "IF NOT EXISTS ") :
    found? d.schemaQuotes [.words ("CREATE TABLE " ++ existence), .identifier] sql = some [table] → Concerns d table sql
  | alters : found? d.schemaQuotes [.words "ALTER TABLE ", .identifier] sql = some [table] → Concerns d table sql
  | indexes (index : String) (kind : String) (hkind : kind = "" ∨ kind = "UNIQUE ") :
    found? d.schemaQuotes [.words ("CREATE " ++ kind ++ "INDEX "), .identifier, .words " ON ", .identifier] sql =
      some [index, table] → Concerns d table sql
  | comments (column : String) :
    found? d.schemaQuotes [.words "COMMENT ON COLUMN ", .identifier, .words ".", .identifier] sql =
      some [table, column] → Concerns d table sql
  | dropsIndexOn (index : String) :
    found? d.schemaQuotes [.words "DROP INDEX ", .identifier, .words " ON ", .identifier] sql =
      some [index, table] → Concerns d table sql
  | dropsIndexOf (index : String) :
    found? d.schemaQuotes [.words "DROP INDEX ", .identifier, .words ".", .identifier] sql =
      some [table, index] → Concerns d table sql
  | renamesColumn (column name procedure : String)
    (hprocedure : procedure = "sp_rename " ∨ procedure = "EXEC sp_rename ") :
    found? d.schemaQuotes [.words procedure, .literal, .words ", ", .literal] sql =
      some [table ++ "." ++ column, name] → Concerns d table sql

variable {d : Dialect} {table : String}

/-- An alteration names its table first. -/
theorem concerns_alter (d : Dialect) (table : String) {words : String} (hwords : words.toList.head? = some ' ')
    (rest : String) : Concerns d table ("ALTER TABLE " ++ d.quoteSchema table ++ words ++ rest) := by
  have hrest := (quoting_schemaQuotes d).free_spaced (spaced_words hwords rest)
  rw [String.append_assoc, String.append_assoc]
  exact .alters (found?_first "ALTER TABLE " table hrest)

theorem concerns_modifyColumn {column type definition : String} {sqls : List String}
    (h : d.modifyColumn table column type definition = .ok sqls) : ∀ sql ∈ sqls, Concerns d table sql := by
  unfold Dialect.modifyColumn at h
  cases d with
  | mySql | msSql | sybase =>
    cases h
    rw [List.forall_mem_singleton]
    exact concerns_alter _ table (by decide) definition
  | oracle =>
    cases h
    rw [List.forall_mem_singleton, String.append_assoc]
    exact concerns_alter .oracle table (by decide) _
  | sqlite => cases h
  | pgSql =>
    cases h
    have hcolumn (rest : String) : Concerns .pgSql table ("ALTER TABLE " ++ Dialect.pgSql.quoteSchema table ++
        " ALTER COLUMN " ++ Dialect.pgSql.quoteSchema column ++ rest) := by
      rw [String.append_assoc]
      exact concerns_alter .pgSql table (by decide) _
    rw [List.forall_mem_cons]
    refine ⟨?_, fun sql hsql => ?_⟩
    · rw [String.append_assoc]
      exact hcolumn _
    · split at hsql
      · rw [List.mem_singleton] at hsql
        subst hsql
        exact hcolumn _
      · split at hsql
        · rw [List.mem_singleton] at hsql
          subst hsql
          exact hcolumn _
        · cases hsql

/-! ### Commands and keys -/

variable {s : Scope} {sql : String}

theorem tableless_or_concerns_dropIndex (d : Dialect) (table index : String) :
    Tableless d (d.dropIndex table index) ∨ Concerns d table (d.dropIndex table index) := by
  have hpair (d : Dialect) (first second : String) {between : String} (hbetween : Separates between) :
      found? d.schemaQuotes [.words "DROP INDEX ", .identifier, .words between, .identifier]
        ("DROP INDEX " ++ d.quoteSchema first ++ between ++ d.quoteSchema second) = some [first, second] :=
    (quoting_schemaQuotes d).found?_identifiers _ first hbetween second
  cases d with
  | mySql => exact .inr (.dropsIndexOn index (hpair .mySql index table (by decide)))
  | msSql => exact .inr (.dropsIndexOn index (hpair .msSql index table (by decide)))
  | sybase => exact .inr (.dropsIndexOf index (hpair .sybase table index (by decide)))
  | pgSql => exact .inl (.index (.inl rfl) index)
  | sqlite => exact .inl (.index (.inr (.inl rfl)) index)
  | oracle => exact .inl (.index (.inr (.inr rfl)) index)

theorem concerns_dropColumn (d : Dialect) (table column : String) : Concerns d table (d.dropColumn table column) := by
  cases d with
  | sybase => exact concerns_alter .sybase table (by decide) _
  | mySql => exact concerns_alter .mySql table (by decide) _
  | pgSql => exact concerns_alter .pgSql table (by decide) _
  | sqlite => exact concerns_alter .sqlite table (by decide) _
  | oracle => exact concerns_alter .oracle table (by decide) _
  | msSql => exact concerns_alter .msSql table (by decide) _

/-- A column is renamed by altering its table, or by a procedure that is given the table and the column as one text. -/
theorem concerns_renameColumn (d : Dialect) (table column name : String) :
    Concerns d table (d.renameColumn table column name) := by
  unfold Dialect.renameColumn
  cases d with
  | sybase =>
    have hfound := (quoting_schemaQuotes .sybase).found?_literals "sp_rename " (table ++ "." ++ column)
      (show Separates ", " by decide) name (show Free _ "".toList from free_nil _)
    rw [String.append_empty] at hfound
    exact .renamesColumn column name "sp_rename " (.inl rfl) hfound
  | msSql =>
    have hrest : Free Dialect.msSql.schemaQuotes ", 'COLUMN'".toList := ⟨by decide, by decide⟩
    have hfound := (quoting_schemaQuotes .msSql).found?_literals "EXEC sp_rename " (table ++ "." ++ column)
      (show Separates ", " by decide) name hrest
    exact .renamesColumn column name "EXEC sp_rename " (.inr rfl) hfound
  | mySql | pgSql | sqlite | oracle =>
    dsimp only
    rw [String.append_assoc, String.append_assoc]
    exact concerns_alter _ table (by decide) _

theorem tableless_or_concerns_commandText {c : Command} (h : Blueprint.commandText s c = .ok sql) :
    Tableless s.dialect sql ∨ Concerns s.dialect s.table sql := by
  cases c with
  | dropColumn name =>
    cases h
    exact .inr (concerns_dropColumn s.dialect s.table name)
  | renameColumn column name =>
    cases h
    exact .inr (concerns_renameColumn s.dialect s.table column name)
  | dropIndex name =>
    cases h
    exact tableless_or_concerns_dropIndex s.dialect s.table name
  | dropForeign name =>
    dsimp only [Blueprint.commandText] at h
    split at h
    · cases h
    · cases h
      right
      exact concerns_alter s.dialect s.table (by decide) _
    · cases h
      right
      exact concerns_alter s.dialect s.table (by decide) _

theorem concerns_addReference {f : ForeignKey} (h : Blueprint.addReference s f = .ok sql) :
    Concerns s.dialect s.table sql := by
  unfold Blueprint.addReference at h
  split at h
  · cases h
  obtain ⟨constraint, -, h⟩ := bind_eq_ok.1 h
  cases h
  exact concerns_alter s.dialect s.table (by decide) constraint

theorem concerns_addPrimary {columns : List String} (h : Blueprint.addPrimary s columns = .ok sql) :
    Concerns s.dialect s.table sql := by
  unfold Blueprint.addPrimary at h
  split at h
  · cases h
  cases h
  rw [String.append_assoc]
  exact concerns_alter s.dialect s.table (by decide) _

/-! ### Columns and indexes -/

theorem tableless_before {c : Column} (h : sql ∈ (c.render s).before) : Tableless s.dialect sql := by
  unfold Column.render at h
  split at h
  · cases h
  dsimp only at h
  unfold Column.before at h
  split at h
  · next hpg =>
    rw [List.mem_singleton] at h
    subst h
    simp only [Bool.and_eq_true, decide_eq_true_eq] at hpg
    exact .type hpg.2 _ _
  · cases h

theorem concerns_after {c : Column} (h : sql ∈ (c.render s).after) : Concerns s.dialect s.table sql := by
  unfold Column.render at h
  split at h
  · cases h
  dsimp only at h
  unfold Column.after at h
  split at h
  · split at h
    · next comment _ _ =>
      rw [List.mem_singleton] at h
      subst h
      refine .comments c.name ?_
      have hquotes := quoting_schemaQuotes s.dialect
      have hrest := hquotes.free_words (show Separates " IS " by decide) (literal comment).toList
      simp only [found?, String.toList_append, List.append_assoc, Scope.quote, Dialect.quoteSchema]
      rw [scan_words, hquotes.scan_identifier_words s.table (by decide), scan_identifier c.name hrest]
      rfl
    · cases h
  · cases h

theorem concerns_alterColumn {c : Column} {sqls : List String} (h : Blueprint.alterColumn c s = .ok sqls) :
    ∀ sql ∈ sqls, Tableless s.dialect sql ∨ Concerns s.dialect s.table sql := by
  obtain ⟨change, hchange, rfl⟩ : ∃ change, (∀ sql ∈ change, Concerns s.dialect s.table sql) ∧
      (c.render s).before ++ change ++ (c.render s).after = sqls := by
    unfold Blueprint.alterColumn at h
    dsimp only at h
    split at h
    · obtain ⟨change, hchange, h⟩ := bind_eq_ok.1 h
      exact ⟨change, concerns_modifyColumn hchange, pure_eq_ok.1 h⟩
    · refine ⟨_, ?_, pure_eq_ok.1 h⟩
      rw [List.forall_mem_singleton, String.append_assoc, String.append_assoc, String.append_assoc]
      exact concerns_alter s.dialect s.table (by decide) _
  simp only [List.forall_mem_append]
  exact ⟨⟨fun sql hsql => .inl (tableless_before hsql), fun sql hsql => .inr (hchange sql hsql)⟩,
    fun sql hsql => .inr (concerns_after hsql)⟩

/-- The kind of an index in the statement that makes it. -/
def Index.kind (i : Index) : String := if i.unique then "UNIQUE " else ""

/-- **An index** is made on its table, under the prefix. -/
theorem Index.found?_render (i : Index) (s : Scope) :
    found? s.dialect.schemaQuotes [.words ("CREATE " ++ i.kind ++ "INDEX "), .identifier, .words " ON ", .identifier]
      (i.render s) = some [i.nameIn s, s.table] := by
  have hquotes := quoting_schemaQuotes s.dialect
  have hrest := hquotes.free_words (show Separates " (" by decide) ((s.quoteList i.columns).toList ++ ")".toList)
  have hrender : i.render s = "CREATE " ++ i.kind ++ "INDEX " ++ s.quote (i.nameIn s) ++ " ON " ++ s.quote s.table ++
      " (" ++ s.quoteList i.columns ++ ")" := rfl
  have hassoc : i.render s = ("CREATE " ++ i.kind ++ "INDEX ") ++ (s.quote (i.nameIn s) ++ (" ON " ++
      (s.quote s.table ++ (" (" ++ (s.quoteList i.columns ++ ")"))))) := by
    rw [hrender]
    simp only [String.append_assoc]
  rw [found?, hassoc, String.toList_append, scan_words]
  simp only [String.toList_append, Scope.quote, Dialect.quoteSchema]
  rw [hquotes.scan_identifier_words (i.nameIn s) (by decide), scan_identifier s.table hrest]
  rfl

theorem concerns_index (i : Index) (s : Scope) : Concerns s.dialect s.table (i.render s) := by
  refine .indexes (i.nameIn s) i.kind ?_ (i.found?_render s)
  unfold Index.kind
  split
  · exact .inr rfl
  · exact .inl rfl

/-! ### References -/

/-- The names in a reference up to that of the other table. -/
def ForeignKey.marks (f : ForeignKey) : List Mark :=
  .words "CONSTRAINT " :: .identifier :: .words " FOREIGN KEY (" ::
    (Mark.list f.columns.length ++ [.words ") REFERENCES ", .identifier])

/-- **A reference** names the other table under the prefix. -/
theorem ForeignKey.found?_render {f : ForeignKey} {text : String} (h : f.render s = .ok text) :
    found? s.dialect.schemaQuotes f.marks text = some (f.nameIn s :: (f.columns ++ [s.tablePrefix ++ f.table])) := by
  have hquotes := quoting_schemaQuotes s.dialect
  unfold ForeignKey.render at h
  split at h
  · cases h
  dsimp only at h
  generalize (if f.references.isEmpty then f.columns else f.references) = referenced at h
  cases h
  have hrest := hquotes.free_words (show Separates " (" by decide)
    ((s.quoteList referenced).toList ++ (")".toList ++ f.actions.toList))
  have hlist : s.quoteList f.columns = ", ".intercalate (f.columns.map fun name =>
    wrap name s.dialect.schemaQuotes.1 s.dialect.schemaQuotes.2) := rfl
  rw [found?, ForeignKey.marks, hlist]
  simp only [String.toList_append, List.append_assoc, Scope.quote, Scope.quoteTable, Dialect.quoteSchema]
  rw [scan_words, hquotes.scan_identifier_words (f.nameIn s) (by decide), hquotes.scan_list f.columns (by decide),
    scan_identifier (s.tablePrefix ++ f.table) hrest]
  rfl

/-! ## The statements of a blueprint -/

theorem infix_intercalate {separator text : String} {texts : List String} (h : text ∈ texts) :
    text.toList <:+: (separator.intercalate texts).toList := by
  induction texts with
  | nil => cases h
  | cons first texts ih =>
    cases texts with
    | nil =>
      rw [List.mem_singleton] at h
      subst h
      rw [String.intercalate_singleton]
    | cons second texts =>
      rw [String.intercalate_cons_cons, String.toList_append, String.toList_append]
      rcases List.mem_cons.1 h with rfl | hrest
      · rw [List.append_assoc]
        exact (List.prefix_append _ _).isInfix
      · exact (ih hrest).trans (List.suffix_append _ _).isInfix

namespace Blueprint

/-- Where the statements of a blueprint name its table and others. -/
structure Addressed (b : Blueprint) (d : Dialect) (table : String) (sqls : List String) : Prop where
  /-- Every statement names the blueprint's table, or none. -/
  concerns : ∀ sql ∈ sqls, Tableless d sql ∨ Concerns d table sql
  /-- The table is created under its name. -/
  creation : b.mode = .create → ∃ sql ∈ sqls, ∃ existence,
    found? d.schemaQuotes [.words ("CREATE TABLE " ++ existence), .identifier] sql = some [table]
  /-- So are its indexes. -/
  index : ∀ i ∈ b.indexes, ∃ sql ∈ sqls, found? d.schemaQuotes
    [.words ("CREATE " ++ i.kind ++ "INDEX "), .identifier, .words " ON ", .identifier] sql =
      some [i.nameIn (b.scope d), table]
  /-- References name other tables under the same prefix. -/
  reference : ∀ f ∈ b.allForeignKeys, ∃ sql ∈ sqls, ∃ text, text.toList <:+: sql.toList ∧
    found? d.schemaQuotes f.marks text = some (f.nameIn (b.scope d) :: (f.columns ++ [b.tablePrefix ++ f.table]))

variable {b : Blueprint} {sqls : List String}

/-- Every reference is one of the definitions. -/
theorem exists_reference {definitions : List String} (h : b.definitions s = .ok definitions) :
    ∀ f ∈ b.allForeignKeys, ∃ text ∈ definitions, f.render s = .ok text := by
  unfold Blueprint.definitions at h
  obtain ⟨references, hreferences, h⟩ := bind_eq_ok.1 h
  cases h
  intro f hf
  obtain ⟨text, htext, hrender⟩ := exists_of_mapM hreferences f hf
  exact ⟨text, List.mem_append_right _ htext, hrender⟩

theorem addressed_create (h : b.buildCreate (b.scope d) = .ok sqls) :
    b.Addressed d (b.tablePrefix ++ b.table) sqls := by
  unfold buildCreate at h
  split at h
  · cases h
  obtain ⟨definitions, hdefinitions, h⟩ := bind_eq_ok.1 h
  obtain ⟨existence, hexistence, h⟩ := bind_eq_ok.1 h
  cases h
  have hcreates : found? d.schemaQuotes [.words ("CREATE TABLE " ++ existence), .identifier]
      ("CREATE TABLE " ++ existence ++ (b.scope d).quote (b.scope d).table ++ " (" ++ ", ".intercalate definitions ++
        ")" ++ b.tableOptions (b.scope d)) = some [b.tablePrefix ++ b.table] := by
    have hrest := (quoting_schemaQuotes d).free_spaced
      (spaced_words (show " (".toList.head? = some ' ' by decide)
        (", ".intercalate definitions ++ (")" ++ b.tableOptions (b.scope d))))
    have hfound := found?_first ("CREATE TABLE " ++ existence) (b.tablePrefix ++ b.table) hrest
    simp only [String.append_assoc] at hfound ⊢
    exact hfound
  have hmem (before : List String) (statement : String) (indexes after : List String) :
      statement ∈ before ++ [statement] ++ indexes ++ after := by simp
  refine ⟨?_, fun _ => ⟨_, hmem _ _ _ _, existence, hcreates⟩, fun i hi => ?_, fun f hf => ?_⟩
  · simp only [List.forall_mem_append, List.forall_mem_singleton, List.forall_mem_map, List.forall_mem_flatMap]
    refine ⟨⟨⟨?_, ?_⟩, ?_⟩, ?_⟩
    · exact fun c _ sql hsql => .inl (tableless_before hsql)
    · exact .inr (.creates existence (existenceClause_eq hexistence) hcreates)
    · exact fun i _ => .inr (concerns_index i (b.scope d))
    · exact fun c _ sql hsql => .inr (concerns_after hsql)
  · exact ⟨i.render (b.scope d), by simp [List.mem_map_of_mem hi], i.found?_render (b.scope d)⟩
  · obtain ⟨text, htext, hrender⟩ := exists_reference hdefinitions f hf
    have hinside : text.toList <:+: (", ".intercalate definitions).toList := infix_intercalate htext
    refine ⟨_, hmem _ _ _ _, text, ?_, ForeignKey.found?_render hrender⟩
    refine hinside.trans ⟨("CREATE TABLE " ++ existence ++ (b.scope d).quote (b.scope d).table ++ " (").toList,
      (")" ++ b.tableOptions (b.scope d)).toList, ?_⟩
    simp only [String.toList_append, List.append_assoc]

theorem addressed_alter (hmode : b.mode = .alter) (h : b.buildAlter (b.scope d) = .ok sqls) :
    b.Addressed d (b.tablePrefix ++ b.table) sqls := by
  unfold buildAlter at h
  obtain ⟨columns, hcolumns, h⟩ := bind_eq_ok.1 h
  obtain ⟨commands, hcommands, h⟩ := bind_eq_ok.1 h
  obtain ⟨references, hreferences, h⟩ := bind_eq_ok.1 h
  obtain ⟨primary, hprimary, h⟩ := bind_eq_ok.1 h
  dsimp only at h
  split at h
  · cases h
  cases h
  refine ⟨?_, fun hcreate => ?_, fun i hi => ?_, fun f hf => ?_⟩
  · simp only [List.forall_mem_append, List.forall_mem_map]
    refine ⟨⟨⟨⟨?_, ?_⟩, ?_⟩, ?_⟩, ?_⟩
    · rw [List.forall_mem_flatten]
      exact forall_of_mapM hcolumns fun c _ change hc => concerns_alterColumn hc
    · exact forall_of_mapM hcommands fun c _ sql hc => tableless_or_concerns_commandText hc
    · exact fun i _ => .inr (concerns_index i (b.scope d))
    · exact forall_of_mapM hreferences fun f _ sql hf => .inr (concerns_addReference hf)
    · exact forall_of_mapM hprimary fun columns _ sql hp => .inr (concerns_addPrimary hp)
  · rw [hmode] at hcreate
    cases hcreate
  · exact ⟨i.render (b.scope d), by simp [List.mem_map_of_mem hi], i.found?_render (b.scope d)⟩
  · obtain ⟨sql, hsql, hadd⟩ := exists_of_mapM hreferences f hf
    unfold addReference at hadd
    split at hadd
    · cases hadd
    obtain ⟨text, hrender, hadd⟩ := bind_eq_ok.1 hadd
    cases hadd
    refine ⟨_, List.mem_append_left _ (List.mem_append_right _ hsql), text, ?_, ForeignKey.found?_render hrender⟩
    rw [String.toList_append]
    exact (List.suffix_append _ _).isInfix

/-- **Every statement of a blueprint** names tables under the prefix. -/
theorem addressed (h : b.build d = .ok sqls) : b.Addressed d (b.tablePrefix ++ b.table) sqls := by
  unfold build at h
  cases hmode : b.mode with
  | create =>
    rw [hmode] at h
    exact addressed_create h
  | alter =>
    rw [hmode] at h
    exact addressed_alter hmode h

end Blueprint

end SqlToolkit.Schema
