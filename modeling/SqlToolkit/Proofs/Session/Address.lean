import SqlToolkit.Proofs.Schema.Table
import SqlToolkit.Proofs.Script.Introduced
import SqlToolkit.Proofs.Session.Handed
import SqlToolkit.Proofs.Statement.Named

/-!
# One table, whatever is done with it

A table is named in many ways: after the first words of queries and writes, in joins, in the
statements of blueprints, in references of other tables, in literals that are given to
procedures or executed, as a bound value, and in raw SQL.  Some of these add the prefix when a
statement is compiled, some when a session asks for it, and some when a blueprint is built, and
the quotes are not the same.

**All of them name the same table** (`addresses`): what a server reads in each of these places
is the name that was given behind the session's prefix, once.  What is read is what is handed to
the backend, for every operation on tables that a session offers.
-/
namespace SqlToolkit
namespace Session
open Schema

variable {σ : Type} {s : Session σ} {name : String}

/-- A callback that declares what a table holds, and leaves what it is called. -/
structure KeepsName (declare : Blueprint → Blueprint) : Prop where
  table (b : Blueprint) : (declare b).table = b.table
  tablePrefix (b : Blueprint) : (declare b).tablePrefix = b.tablePrefix

/-- The table of a lookup and the select clause of its query; raw SQL has neither. -/
def Lookup.source? (t : Target) : Lookup → Option (String × String)
  | select table _ items _ => some (table, "SELECT " ++ items.render t)
  | selectOne table _ items _ => some (table, "SELECT " ++ items.render t)
  | selectValue table column _ => some (table, "SELECT " ++ (SelectList.ofText column).render t)
  | getOne table _ items _ => some (table, "SELECT " ++ items.render t)
  | selectRandom table _ items _ => some (table, "SELECT " ++ items.render t)
  | query .. | queryValue .. => none
  | aggregate function table _ column _ => some (table, Statement.aggregateClause function column)
  | count table _ column _ => some (table, Statement.aggregateClause .count column)
  | has table _ _ => some (table, Statement.aggregateClause .count "*")

/-- Where a session names a table, a server reads the same name. -/
structure Addresses (s : Session σ) (name : String) : Prop where
  select (joins : List Join) (items : SelectList) (criteria : Criteria) (statement : Statement) :
    Statement.select s.target name joins items criteria = .ok statement →
    (Command.trySelect name joins items criteria).handed s = [statement] ∧
      found? s.target.dialect.quotes [.words ("SELECT " ++ items.render s.target ++ " FROM "), .identifier]
        statement.sql = some [s.fullName name]
  /-- Lookups, aggregates among them. -/
  lookup (l : Lookup) (clause : String) (statement : Statement) :
    l.source? s.target = some (name, clause) → l.statement s.target = .ok statement →
    l.handed s = [statement] ∧
      found? s.target.dialect.quotes [.words (clause ++ " FROM "), .identifier] statement.sql = some [s.fullName name]
  insert (rows : List RowData) (statement : Statement) :
    Statement.insert s.target name rows = .ok statement →
    (Command.insert name rows).handed s = [statement] ∧
      found? s.target.dialect.quotes [.words "INSERT INTO ", .identifier] statement.sql = some [s.fullName name]
  update (data : RowData) (criteria : Criteria) (statement : Statement) :
    Statement.update s.target name data criteria = .ok statement →
    (Command.update name data criteria).handed s = [statement] ∧
      found? s.target.dialect.quotes [.words "UPDATE ", .identifier] statement.sql = some [s.fullName name]
  replace (replacements : Replacements) (criteria : Criteria) (statement : Statement) :
    Statement.replace s.target name replacements criteria = .ok statement →
    (Command.replace name replacements criteria).handed s = [statement] ∧
      found? s.target.dialect.quotes [.words "UPDATE ", .identifier] statement.sql = some [s.fullName name]
  delete (criteria : Criteria) (statement : Statement) : Statement.delete s.target name criteria = .ok statement →
    (Command.delete name criteria).handed s = [statement] ∧
      found? s.target.dialect.quotes [.words "DELETE FROM ", .identifier] statement.sql = some [s.fullName name]
  join (j : Join) (main : TableRef) (text : String) : j.table = name → j.render main s.target = .ok text →
    found? s.target.dialect.quotes [.words (" " ++ j.kind.keyword ++ " "), .identifier] text = some [s.fullName name]
  create (columns : List (String × String)) (options : List String) :
    ∀ statement ∈ (Command.create name columns options).handed s,
      Tableless s.target.dialect statement.sql ∨ Concerns s.target.dialect (s.fullName name) statement.sql
  createTable (declare : Blueprint → Blueprint) : KeepsName declare →
    ∀ statement ∈ (Command.createTable name declare).handed s,
      Tableless s.target.dialect statement.sql ∨ Concerns s.target.dialect (s.fullName name) statement.sql
  alterTable (declare : Blueprint → Blueprint) : KeepsName declare →
    ∀ statement ∈ (Command.alterTable name declare).handed s,
      Tableless s.target.dialect statement.sql ∨ Concerns s.target.dialect (s.fullName name) statement.sql
  /-- The statement that creates a table is among those of its blueprint, and so are those of its indexes. -/
  blueprint (b : Blueprint) (sqls : List String) : b.table = name → b.tablePrefix = s.target.tablePrefix →
    b.build s.target.dialect = .ok sqls → Blueprint.Addressed b s.target.dialect (s.fullName name) sqls
  /-- References from other tables. -/
  reference (b : Blueprint) (sqls : List String) (f : ForeignKey) : f ∈ b.allForeignKeys → f.table = name →
    b.tablePrefix = s.target.tablePrefix → b.build s.target.dialect = .ok sqls →
    ∃ sql ∈ sqls, ∃ text, text.toList <:+: sql.toList ∧ found? s.target.dialect.schemaQuotes f.marks text =
      some (f.nameIn (b.scope s.target.dialect) :: (f.columns ++ [s.fullName name]))
  renameTable (other : String) : ∃ sql, (Command.renameTable name other).handed s = [⟨sql, []⟩] ∧
    renamed? s.target.dialect sql = some [s.fullName name, s.fullName other]
  renameTableTo (other : String) : ∃ sql, (Command.renameTable other name).handed s = [⟨sql, []⟩] ∧
    renamed? s.target.dialect sql = some [s.fullName other, s.fullName name]
  dropTable : ∃ sql, (Command.dropTable name).handed s = [⟨sql, []⟩] ∧
    dropped? s.target.dialect sql = some [s.fullName name]
  /-- One dialect names the table in a test as well. -/
  dropTableIfExists : ∃ sql, (Command.dropTableIfExists name).handed s = [⟨sql, []⟩] ∧
    droppedIfExists? s.target.dialect sql =
      some (if s.target.dialect = .sybase then [s.fullName name, s.fullName name] else [s.fullName name])
  hasTable : (Command.hasTable name).handed s = [⟨s.target.dialect.tableExistsQuery, [.text (s.fullName name)]⟩]
  /-- Raw SQL that is run by itself. -/
  execute (before after : String) (params : List Value) : Script.Around before after → Script.IsTokenName name →
    ∃ statement, (Command.execute (before ++ "FROM <" ++ name ++ ">" ++ after) params).handed s = [statement] ∧
      found? s.target.dialect.quotes [.words (s.target.renderRaw ⟨before⟩ ++ "FROM "), .identifier] statement.sql =
        some [s.fullName name]
  /-- Raw SQL in queries and writes. -/
  raw (before after : String) : Script.Around before after → Script.IsTokenName name →
    found? s.target.dialect.quotes [.words (s.target.renderRaw ⟨before⟩ ++ "FROM "), .identifier]
      (s.target.renderRaw ⟨before ++ "FROM <" ++ name ++ ">" ++ after⟩) = some [s.fullName name]
  /-- Raw SQL in schema statements. -/
  rawSchema (u : Scope) (before after : String) : u.dialect = s.target.dialect → u.tablePrefix = s.target.tablePrefix →
    Script.Around before after → Script.IsTokenName name →
    found? s.target.dialect.schemaQuotes [.words (u.renderRaw ⟨before⟩ ++ "FROM "), .identifier]
      (u.renderRaw ⟨before ++ "FROM <" ++ name ++ ">" ++ after⟩) = some [s.fullName name]

/-! ## What is handed over -/

/-- A command that compiles to one statement hands it over. -/
theorem Command.handed_eq_singleton {c : Command} {p : Plan} {statement : Statement} (hplan : c.plan s.target = .ok p)
    (hp : p.statements = [statement]) : c.handed s = [statement] := by
  have hbegun := Command.begun_handed hplan
  rw [hp] at hbegun
  exact hbegun.eq

theorem Lookup.handed_eq_singleton {l : Lookup} {statement : Statement} (h : l.statement s.target = .ok statement) :
    l.handed s = [statement] := by
  rw [l.handed_eq]
  exact (begun_carryOut (Lookup.plan_eq_ok h)).eq

/-- The query of a lookup names the lookup's table. -/
theorem found?_lookup {l : Lookup} {clause : String} {statement : Statement} {t : Target} (hname : PlainName name)
    (hsource : l.source? t = some (name, clause)) (h : l.statement t = .ok statement) :
    found? t.dialect.quotes [.words (clause ++ " FROM "), .identifier] statement.sql =
      some [t.tablePrefix ++ name] := by
  cases l with
  | select | selectOne | selectValue | getOne | selectRandom =>
    cases hsource
    exact Statement.found?_select hname h
  | query | queryValue => cases hsource
  | aggregate | count | has =>
    cases hsource
    exact Statement.found?_aggregate hname h

/-- The statements of a blueprint that is declared under the session's prefix. -/
theorem concerns_built {t : Target} {blueprint : Blueprint} {declare : Blueprint → Blueprint} (hkeeps : KeepsName declare)
    {sqls : List String} (h : Command.built t blueprint declare = .ok sqls) : ∀ sql ∈ sqls,
      Tableless t.dialect sql ∨ Concerns t.dialect (t.tablePrefix ++ blueprint.table) sql := by
  have hconcerns := (Blueprint.addressed h).concerns
  rw [hkeeps.table, hkeeps.tablePrefix] at hconcerns
  exact hconcerns

theorem concerns_handed {c : Command} (blueprint : Blueprint) {declare : Blueprint → Blueprint}
    (hkeeps : KeepsName declare) (hplan : c.plan s.target = (Command.built s.target blueprint declare).map .executeAll) :
    ∀ statement ∈ c.handed s, Tableless s.target.dialect statement.sql ∨
      Concerns s.target.dialect (s.fullName blueprint.table) statement.sql := by
  refine Command.forall_handed fun p hp => ?_
  rw [hplan] at hp
  cases hbuilt : Command.built s.target blueprint declare with
  | error cause =>
    rw [hbuilt] at hp
    cases hp
  | ok sqls =>
    rw [hbuilt] at hp
    cases hp
    exact List.forall_mem_map.2 (concerns_built hkeeps hbuilt)

/-! ## The name -/

/-- **Every path names the same table.** -/
theorem addresses (s : Session σ) (hname : PlainName name) : Addresses s name where
  select joins items criteria statement h :=
    ⟨Command.handed_eq_singleton (congrArg (Except.map (Plan.query · .rows)) h) rfl, Statement.found?_select hname h⟩
  lookup l clause statement hsource h := ⟨Lookup.handed_eq_singleton h, found?_lookup hname hsource h⟩
  insert rows statement h :=
    ⟨Command.handed_eq_singleton (congrArg (Except.map Plan.insert) h) rfl, Statement.found?_insert h⟩
  update data criteria statement h :=
    ⟨Command.handed_eq_singleton (congrArg (Except.map Plan.execute) h) rfl, Statement.found?_update h⟩
  replace replacements criteria statement h :=
    ⟨Command.handed_eq_singleton (congrArg (Except.map Plan.execute) h) rfl, Statement.found?_replace h⟩
  delete criteria statement h :=
    ⟨Command.handed_eq_singleton (congrArg (Except.map Plan.execute) h) rfl, Statement.found?_delete h⟩
  join j main text htable h := by
    subst htable
    exact Join.found?_render h
  create columns options := by
    have hkeeps : KeepsName fun b =>
        { b with
          columns := columns.map fun c => Column.ofDefinition c.1 c.2
          options := options.map RawSql.mk
          ifNotExists := s.target.dialect.supportsIfNotExists } := ⟨fun _ => rfl, fun _ => rfl⟩
    exact concerns_handed (.create name) hkeeps rfl
  createTable declare hkeeps := concerns_handed (.create name) hkeeps rfl
  alterTable declare hkeeps := concerns_handed (.alter name) hkeeps rfl
  blueprint b sqls htable hfront h := by
    have haddressed := Blueprint.addressed h
    rw [htable, hfront] at haddressed
    exact haddressed
  reference b sqls f hf htable hfront h := by
    obtain ⟨sql, hsql, text, htext, hfound⟩ := (Blueprint.addressed h).reference f hf
    rw [htable, hfront] at hfound
    exact ⟨sql, hsql, text, htext, hfound⟩
  renameTable other :=
    ⟨_, Command.handed_eq_singleton rfl rfl, renamed?_renameTable s.target.dialect (s.fullName name) (s.fullName other)⟩
  renameTableTo other :=
    ⟨_, Command.handed_eq_singleton rfl rfl, renamed?_renameTable s.target.dialect (s.fullName other) (s.fullName name)⟩
  dropTable := ⟨_, Command.handed_eq_singleton rfl rfl, dropped?_dropTable s.target.dialect (s.fullName name)⟩
  dropTableIfExists :=
    ⟨_, Command.handed_eq_singleton rfl rfl, droppedIfExists?_dropTableIfExists s.target.dialect (s.fullName name)⟩
  hasTable := Command.handed_eq_singleton rfl rfl
  execute before after params haround hshape :=
    ⟨_, Command.handed_eq_singleton rfl rfl, Script.found?_from (quoting_quotes s.target.dialect) haround hshape rfl⟩
  raw before after haround hshape := Script.found?_from (quoting_quotes s.target.dialect) haround hshape rfl
  rawSchema u before after hdialect hfront haround hshape := by
    have hquote : u.quoteTable name = s.target.dialect.quoteSchema (s.fullName name) := by
      rw [Scope.quoteTable, Scope.quote, hdialect, hfront]
      rfl
    exact Script.found?_from (quoting_schemaQuotes s.target.dialect) haround hshape hquote

/-- A name with every quote in it, under a prefix with an apostrophe: what is executed has the quotes of the
identifier doubled, and then those of the literal.  A plain name under this prefix is found in raw SQL. -/
theorem addresses_quoted :
    let s : Session Unit := ⟨{ hollow with dialect := .oracle }, (), ⟨.oracle, "o'"⟩, false, [], none, none, none⟩
    PlainName "a \"b\" [c]" ∧ Addresses s "a \"b\" [c]" ∧ (Command.dropTableIfExists "a \"b\" [c]").handed s =
      [⟨"BEGIN EXECUTE IMMEDIATE 'DROP TABLE \"o''a \"\"b\"\" [c]\"'; EXCEPTION WHEN OTHERS THEN " ++
        "IF SQLCODE != -942 THEN RAISE; END IF; END;", []⟩] ∧
    found? ('"', '"') [.words "SELECT * FROM ", .identifier] (s.target.renderRaw ⟨"SELECT * FROM <users> u"⟩) =
      some ["o'users"] := by
  intro s
  have hquoted : PlainName "a \"b\" [c]" := ⟨by decide +kernel, by decide +kernel⟩
  have husers : PlainName "users" := ⟨by decide +kernel, by decide +kernel⟩
  have haround : Script.Around "SELECT * " " u" := by
    refine ⟨?_, ?_⟩
    · rintro _ ⟨⟩
      decide
    · rintro _ ⟨⟩
      decide
  have hraw := (addresses s husers).raw "SELECT * " " u" haround (by decide)
  have hbefore : s.target.renderRaw ⟨"SELECT * "⟩ ++ "FROM " = "SELECT * FROM " := by decide +kernel
  have hwhole : "SELECT * " ++ "FROM <" ++ "users" ++ ">" ++ " u" = "SELECT * FROM <users> u" := by decide
  rw [hbefore, hwhole] at hraw
  exact ⟨hquoted, addresses s hquoted, by decide +kernel, hraw⟩

end Session
end SqlToolkit
