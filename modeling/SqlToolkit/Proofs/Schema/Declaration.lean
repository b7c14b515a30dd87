import SqlToolkit.Proofs.Outcome
import SqlToolkit.Proofs.Schema.Clause
import SqlToolkit.Schema.Blueprint

/-!
# Table declarations

`Declaration.read?` reads a statement that creates a table as a server does, as far as names
go: it takes the tokens, finds the definitions between the commas that no parenthesis holds,
and tells columns, the primary key and references apart by how they begin.

The main theorem, `create_reads_back`, says that reading gives back what a blueprint declares:
its table, a definition for each column in order, the primary key, and the references of the
columns and of the table.  Names, values and comments may hold any characters.  Only raw SQL
is left out, which could hold anything.
-/
namespace SqlToolkit.Schema
open Text

/-! ## Reading -/

/-- A definition in a table declaration. -/
inductive Definition where
  | column (name : String)
  | primaryKey (columns : List String)
  | reference (name : String) (columns : List String) (table : String) (referenced : List String)
deriving DecidableEq, Repr

/-- What a statement that creates a table declares. -/
structure Declaration where
  table : String
  definitions : List Definition
deriving DecidableEq, Repr

/-- What follows a fixed text. -/
def after? : List Char → List Token → Option (List Token)
  | [], ts => some ts
  | c :: cs, t :: ts => if t = .plain c then after? cs ts else none
  | _ :: _, [] => none

/-- An identifier and what follows it. -/
def identifier? : List Token → Option (String × List Token)
  | .identifier name :: ts => some (String.ofList name, ts)
  | _ => none

/-- Tokens without the blanks before them. -/
def unspaced (ts : List Token) : List Token := ts.dropWhile fun t => t = .plain ' '

/-- The one identifier that a part holds. -/
def name? (part : List Token) : Option String :=
  match identifier? (unspaced part) with
  | some (name, []) => some name
  | _ => none

/-- Items with commas between them up to the end of the parenthesis, and what follows that. -/
def listed? {α : Type} (item? : List Token → Option α) (ts : List Token) : Option (List α × List Token) := do
  let (parts, rest) ← parts? 0 ts
  if parts = [[]] then return ([], rest)
  let items ← parts.mapM item?
  return (items, rest)

/-- Names with commas between them up to the end of the parenthesis, and what follows that. -/
def names? (ts : List Token) : Option (List String × List Token) := listed? name? ts

namespace Definition

def readPrimaryKey? (ts : List Token) : Option Definition := do
  let ts ← after? "PRIMARY KEY (".toList ts
  let (columns, rest) ← names? ts
  if rest.isEmpty then return .primaryKey columns else none

def readReference? (ts : List Token) : Option Definition := do
  let ts ← after? "CONSTRAINT ".toList ts
  let (name, ts) ← identifier? ts
  let ts ← after? " FOREIGN KEY (".toList ts
  let (columns, ts) ← names? ts
  let ts ← after? " REFERENCES ".toList ts
  let (table, ts) ← identifier? ts
  let ts ← after? " (".toList ts
  let (referenced, _) ← names? ts
  return .reference name columns table referenced

/-- A column begins with its name, a key and a reference with words of their own. -/
def read? (ts : List Token) : Option Definition :=
  match identifier? (unspaced ts) with
  | some (name, _) => some (.column name)
  | none => (readPrimaryKey? (unspaced ts)).or (readReference? (unspaced ts))

end Definition

/-- The declaration that a statement makes in a dialect. -/
def Declaration.read? (d : Dialect) (sql : String) : Option Declaration := do
  let ts ← tokens? d.schemaQuotes sql.toList
  let ts ← after? "CREATE TABLE ".toList ts
  let (table, ts) ← identifier? ((after? "IF NOT EXISTS ".toList ts).getD ts)
  let ts ← after? " (".toList ts
  let (parts, rest) ← parts? 0 ts
  let definitions ← parts.mapM Definition.read?
  if rest.isEmpty then return ⟨table, definitions⟩ else none

theorem after?_plains (cs : List Char) (ts : List Token) : after? cs (plains cs ++ ts) = some ts := by
  induction cs with
  | nil => rfl
  | cons c cs ih =>
    show (if Token.plain c = .plain c then after? cs (plains cs ++ ts) else none) = some ts
    rw [if_pos rfl, ih]

/-- Parts that are read to known results. -/
theorem mapM_eq_some {α β : Type} {f : α → Option β} {xs : List α} {ys : List β}
    (h : List.Forall₂ (fun x y => f x = some y) xs ys) : xs.mapM f = some ys := by
  induction h with
  | nil => rfl
  | cons hxy _ ih =>
    rw [List.mapM_cons, hxy, ih]
    rfl

/-- The blanks before the parts make no difference. -/
theorem mapM_spaced {β : Type} {f : List Token → Option β} (hf : ∀ ts, f (.plain ' ' :: ts) = f ts)
    (ts : List Token) (tss : List (List Token)) :
    (ts :: tss.map (.plain ' ' :: ·)).mapM f = (ts :: tss).mapM f := by
  have hrest : (tss.map (.plain ' ' :: ·)).mapM f = tss.mapM f := by
    induction tss with
    | nil => rfl
    | cons us tss ih => rw [List.map_cons, List.mapM_cons, List.mapM_cons, hf, ih]
  rw [List.mapM_cons, List.mapM_cons, hrest]

/-! ### Names -/

/-- The tokens of names with commas between them. -/
def nameTokens (names : List String) : List Token :=
  (plains [',', ' ']).intercalate (names.map fun name => [.identifier name.toList])

theorem reads_quote (s : Scope) (name : String) :
    Reads s.dialect.schemaQuotes (s.quote name).toList [.identifier name.toList] := by
  rw [Scope.quote, Dialect.quoteSchema, wrap, String.toList_ofList]
  exact reads_identifier name.toList

theorem reads_quoteList (s : Scope) (names : List String) :
    Reads s.dialect.schemaQuotes (s.quoteList names).toList (nameTokens names) := by
  have htexts : (s.quoteList names).toList = [',', ' '].intercalate (names.map fun name => (s.quote name).toList) := by
    rw [Scope.quoteList, String.toList_intercalate, List.map_map]
    rfl
  rw [htexts]
  exact (quoting_schemaQuotes s.dialect).reads_intercalate (by decide) (by simp) fun name _ => reads_quote s name

theorem nesting_nameTokens (names : List String) : nesting 1 (nameTokens names) = some 1 := by
  refine nesting_intercalate (by decide) fun ts hts => ?_
  obtain ⟨name, -, rfl⟩ := List.mem_map.1 hts
  rfl

/-- Items are read back. -/
theorem listed?_intercalate {α : Type} {item? : List Token → Option α} {tokens : α → List Token}
    (hspaced : ∀ ts, item? (.plain ' ' :: ts) = item? ts) (hne : ∀ x, tokens x ≠ []) (hbalanced : ∀ x, Balanced (tokens x))
    (hread : ∀ x, item? (tokens x) = some x) (xs : List α) (rest : List Token) :
    listed? item? ((plains [',', ' ']).intercalate (xs.map tokens) ++ .plain ')' :: rest) = some (xs, rest) := by
  cases xs with
  | nil => rfl
  | cons x xs =>
    have hparts := parts?_intercalate (hbalanced x) (List.forall_mem_map.2 fun y (_ : y ∈ xs) => hbalanced y) rest
    have hitems : (tokens x :: xs.map tokens).mapM item? = some (x :: xs) := by
      rw [← List.map_cons]
      refine mapM_eq_some ?_
      rw [List.forall₂_map_left_iff, List.forall₂_same]
      exact fun y _ => hread y
    have hsome : tokens x :: (xs.map tokens).map (.plain ' ' :: ·) ≠ [[]] := fun h => hne x (List.cons.inj h).1
    rw [listed?, List.map_cons, hparts]
    simp only [Option.bind_eq_bind, Option.bind_some]
    rw [if_neg hsome, mapM_spaced hspaced, hitems]
    rfl

/-- Names are read back. -/
theorem names?_nameTokens (names : List String) (rest : List Token) :
    names? (nameTokens names ++ .plain ')' :: rest) = some (names, rest) := by
  have hname (name : String) : name? [.identifier name.toList] = some name := by
    simp [name?, unspaced, identifier?]
  have hbalanced (name : String) : Balanced [.identifier name.toList] := rfl
  exact listed?_intercalate (fun _ => rfl) (fun _ => by simp) hbalanced hname names rest

/-! ## Definitions -/

/-- A text is one part of the statement around it, and is read to a definition. -/
def Declares (quotes : Char × Char) (text : String) (definition : Definition) : Prop :=
  ∃ ts, Reads quotes text.toList ts ∧ Balanced ts ∧ Definition.read? ts = some definition

/-- A reference without raw SQL is what it is read to. -/
def ForeignKey.declared (f : ForeignKey) (s : Scope) : Definition :=
  .reference (f.nameIn s) f.columns (s.tablePrefix ++ f.table) (if f.references.isEmpty then f.columns else f.references)

variable {s : Scope}

theorem declares_column {c : Column} (hraw : c.RawFree) (s : Scope) :
    Declares s.dialect.schemaQuotes (c.render s).definition (.column c.name) := by
  obtain ⟨ts, hreads, hbalanced⟩ := reads_definition hraw s
  refine ⟨_, hreads, ?_, ?_⟩
  · have hname : Balanced [.identifier c.name.toList] := rfl
    exact hname.append hbalanced
  · simp [Definition.read?, unspaced, identifier?]

theorem declares_primaryKey (s : Scope) (columns : List String) :
    Declares s.dialect.schemaQuotes ("PRIMARY KEY (" ++ s.quoteList columns ++ ")") (.primaryKey columns) := by
  have hquotes := quoting_schemaQuotes s.dialect
  refine ⟨plains "PRIMARY KEY (".toList ++ (nameTokens columns ++ plains [')']), ?_, ?_, ?_⟩
  · rw [String.toList_append, String.toList_append, List.append_assoc]
    exact hquotes.reads_plain_append (by decide) (hquotes.reads_append_plain (reads_quoteList s columns) (by decide))
  · have hopening : nesting 0 (plains "PRIMARY KEY (".toList) = some 1 := by decide
    rw [Balanced, nesting_append, hopening, Option.bind_some, nesting_append, nesting_nameTokens]
    rfl
  · have hread : Definition.readPrimaryKey? (plains "PRIMARY KEY (".toList ++ (nameTokens columns ++ [.plain ')'])) =
        some (.primaryKey columns) := by
      simp only [Definition.readPrimaryKey?, after?_plains, names?_nameTokens, Option.bind_eq_bind, Option.bind_some]
      rfl
    show (Definition.readPrimaryKey? (plains "PRIMARY KEY (".toList ++ (nameTokens columns ++ [.plain ')']))).or _ = _
    rw [hread]
    rfl

/-- The tokens of a reference, with those of its actions behind them. -/
def referenceTokens (name : String) (columns : List String) (table : String) (referenced : List String)
    (actions : List Token) : List Token :=
  plains "CONSTRAINT ".toList ++ (.identifier name.toList :: (plains " FOREIGN KEY (".toList ++
    (nameTokens columns ++ .plain ')' :: (plains " REFERENCES ".toList ++ (.identifier table.toList ::
      (plains " (".toList ++ (nameTokens referenced ++ .plain ')' :: actions)))))))

theorem balanced_referenceTokens (name : String) (columns : List String) (table : String) (referenced : List String)
    {actions : List Token} (h : Balanced actions) :
    Balanced (referenceTokens name columns table referenced actions) := by
  have hidentifier (n : Nat) (name : List Char) (ts : List Token) :
      nesting n (.identifier name :: ts) = nesting n ts := rfl
  have hclosing (ts : List Token) : nesting 1 (.plain ')' :: ts) = nesting 0 ts := rfl
  have hconstraint : nesting 0 (plains "CONSTRAINT ".toList) = some 0 := by decide
  have hforeign : nesting 0 (plains " FOREIGN KEY (".toList) = some 1 := by decide
  have hreferences : nesting 0 (plains " REFERENCES ".toList) = some 0 := by decide
  have hopening : nesting 0 (plains " (".toList) = some 1 := by decide
  simp only [Balanced, referenceTokens, nesting_append, hidentifier, hclosing, hconstraint, hforeign, hreferences,
    hopening, nesting_nameTokens, Option.bind_some]
  exact h

theorem read?_referenceTokens (name : String) (columns : List String) (table : String) (referenced : List String)
    (actions : List Token) : Definition.read? (referenceTokens name columns table referenced actions) =
      some (.reference name columns table referenced) := by
  have hkey : Definition.readPrimaryKey? (referenceTokens name columns table referenced actions) = none := rfl
  have hread : Definition.readReference? (referenceTokens name columns table referenced actions) =
      some (.reference name columns table referenced) := by
    simp only [Definition.readReference?, referenceTokens, after?_plains, identifier?, names?_nameTokens,
      Option.bind_eq_bind, Option.bind_some, String.ofList_toList]
    rfl
  show (Definition.readPrimaryKey? (referenceTokens name columns table referenced actions)).or
    (Definition.readReference? (referenceTokens name columns table referenced actions)) = _
  rw [hkey, hread]
  rfl

theorem calm_actions (f : ForeignKey) : Calm f.actions.toList := by
  have hkeyword (text : String) (htext : Calm text.toList) (action : ReferenceAction) :
      Calm (text ++ action.keyword).toList := by
    rw [String.toList_append]
    refine htext.append ?_
    cases action <;> decide
  unfold ForeignKey.actions
  rw [String.toList_append]
  refine Calm.append ?_ ?_
  · cases f.onDelete with
    | none => decide
    | some action => exact hkeyword _ (by decide) action
  · cases f.onUpdate with
    | none => decide
    | some action => exact hkeyword _ (by decide) action

theorem declares_reference {f : ForeignKey} {text : String} (h : f.render s = .ok text) :
    Declares s.dialect.schemaQuotes text (f.declared s) := by
  have hquotes := quoting_schemaQuotes s.dialect
  have hactions := (calm_actions f).steps 0
  unfold ForeignKey.render at h
  unfold ForeignKey.declared
  split at h
  · cases h
  dsimp only at h
  generalize (if f.references.isEmpty then f.columns else f.references) = referenced at h ⊢
  cases h
  have hback : Unquoted (')' :: f.actions.toList) := unquoted_cons.2 ⟨by decide, hactions.1⟩
  have hend := hquotes.reads_append_plain (reads_quoteList s referenced) hback
  have htable := hquotes.reads_between (reads_quote s (s.tablePrefix ++ f.table))
    (show Unquoted " (".toList by decide) (by decide) hend
  have hcolumns := hquotes.reads_between (reads_quoteList s f.columns)
    (show Unquoted ") REFERENCES ".toList by decide) (by decide) htable
  have hname := hquotes.reads_between (reads_quote s (f.nameIn s))
    (show Unquoted " FOREIGN KEY (".toList by decide) (by decide) hcolumns
  have hall := hquotes.reads_plain_append (show Unquoted "CONSTRAINT ".toList by decide) hname
  refine ⟨referenceTokens (f.nameIn s) f.columns (s.tablePrefix ++ f.table) referenced (plains f.actions.toList), ?_,
    balanced_referenceTokens _ _ _ _ hactions.2, ?_⟩
  · simp only [Scope.quoteTable, String.toList_append, List.append_assoc]
    exact hall
  · exact read?_referenceTokens _ _ _ _ _

/-! ## The statement -/

/-- The definitions of a table, read one after another. -/
theorem exists_parts {quotes : Char × Char} (hquotes : Quoting quotes) {texts : List String}
    {definitions : List Definition} (h : List.Forall₂ (Declares quotes) texts definitions) : ∃ tss,
      Reads quotes (", ".intercalate texts).toList ((plains [',', ' ']).intercalate tss) ∧
        (∀ ts ∈ tss, Balanced ts) ∧ List.Forall₂ (fun ts definition => Definition.read? ts = some definition) tss
          definitions := by
  induction h with
  | nil => exact ⟨[], hquotes.reads_plain rfl, by simp, .nil⟩
  | @cons text definition texts definitions htext htexts ih =>
    obtain ⟨ts, hreads, hbalanced, hdefinition⟩ := htext
    obtain ⟨tss, hrest, hbalancedRest, hdefinitions⟩ := ih
    refine ⟨ts :: tss, ?_, List.forall_mem_cons.2 ⟨hbalanced, hbalancedRest⟩, .cons hdefinition hdefinitions⟩
    cases htexts with
    | nil =>
      cases hdefinitions
      simpa using hreads
    | cons =>
      cases hdefinitions with
      | cons =>
        rw [String.intercalate_cons_cons, List.intercalate_cons_cons, String.toList_append, String.toList_append,
          List.append_assoc, List.append_assoc]
        exact hquotes.reads_between hreads (by decide) (by decide) hrest

/-- A statement of a table and its definitions is read back. -/
theorem read?_statement {s : Scope} {texts : List String} {definitions : List Definition} (hne : texts ≠ [])
    (h : List.Forall₂ (Declares s.dialect.schemaQuotes) texts definitions) {existence : String}
    (hexistence : existence = "" ∨ existence = "IF NOT EXISTS ") :
    Declaration.read? s.dialect
        ("CREATE TABLE " ++ existence ++ s.quote s.table ++ " (" ++ ", ".intercalate texts ++ ")") =
      some ⟨s.table, definitions⟩ := by
  have hquotes := quoting_schemaQuotes s.dialect
  obtain ⟨tss, hreads, hbalanced, hdefinitions⟩ := exists_parts hquotes h
  have hdefined := hquotes.reads_append_plain hreads (show Unquoted [')'] by decide)
  have hbody := hquotes.reads_between (reads_quote s s.table) (show Unquoted " (".toList by decide) (by decide) hdefined
  have hunquoted : Unquoted ("CREATE TABLE " ++ existence).toList := by
    rcases hexistence with rfl | rfl <;> decide
  have hall := (hquotes.reads_plain_append hunquoted hbody).tokens?_eq
  obtain ⟨ts, tss, rfl⟩ : ∃ us uss, tss = us :: uss := by
    cases hdefinitions with
    | nil =>
      cases h
      exact absurd rfl hne
    | cons => exact ⟨_, _, rfl⟩
  obtain ⟨hts, htss⟩ := List.forall_mem_cons.1 hbalanced
  have hparts := parts?_intercalate hts htss []
  have hread := mapM_eq_some hdefinitions
  rw [← mapM_spaced fun _ => rfl] at hread
  have htext : ("CREATE TABLE " ++ existence ++ s.quote s.table ++ " (" ++ ", ".intercalate texts ++ ")").toList =
      ("CREATE TABLE " ++ existence).toList ++ ((s.quote s.table).toList ++
        (" (".toList ++ ((", ".intercalate texts).toList ++ [')']))) := by
    simp only [String.toList_append, List.append_assoc]
    rfl
  have hexisting (ts : List Token) :
      (after? "IF NOT EXISTS ".toList (plains existence.toList ++ .identifier s.table.toList :: ts)).getD
        (plains existence.toList ++ .identifier s.table.toList :: ts) = .identifier s.table.toList :: ts := by
    rcases hexistence with rfl | rfl <;> rfl
  have hfront : plains ("CREATE TABLE " ++ existence).toList = plains "CREATE TABLE ".toList ++ plains existence.toList := by
    simp [plains]
  rw [Declaration.read?, htext, hall, hfront]
  simp only [Option.bind_eq_bind, Option.bind_some, List.append_assoc, after?_plains, List.singleton_append, hexisting,
    identifier?, String.ofList_toList]
  rw [show plains [')'] = [.plain ')'] from rfl, hparts, Option.bind_some, hread]
  rfl

/-! ## Blueprints -/

/-- A blueprint without raw SQL. -/
structure Blueprint.RawFree (b : Blueprint) : Prop where
  columns : ∀ c ∈ b.columns, c.RawFree
  engine : b.engine = none
  charset : b.charset = none
  collation : b.collation = none
  options : b.options = []

/-- What a blueprint for a new table declares. -/
def Blueprint.declaration (b : Blueprint) (d : Dialect) : Declaration where
  table := b.tablePrefix ++ b.table
  definitions := b.columns.map (fun c => .column c.name) ++ (b.primary.map .primaryKey).toList ++
    (b.columns.filterMap ForeignKey.ofColumn ++ b.foreignKeys).map fun f => f.declared (b.scope d)

/-- A statement creates a table. -/
def isCreateTable (sql : String) : Bool := "CREATE TABLE ".toList.isPrefixOf sql.toList

theorem declares_definitions {b : Blueprint} (hraw : b.RawFree) {s : Scope} {texts : List String}
    (h : b.definitions s = .ok texts) :
    List.Forall₂ (Declares s.dialect.schemaQuotes) texts
      (b.columns.map (fun c => .column c.name) ++ (b.primary.map .primaryKey).toList ++
        b.allForeignKeys.map fun f => f.declared s) := by
  obtain ⟨references, hreferences, htexts⟩ := Outcome.bind_eq_ok.1 h
  cases htexts
  refine List.rel_append (List.rel_append ?_ ?_) ?_
  · rw [List.forall₂_map_left_iff, List.forall₂_map_right_iff, List.forall₂_same]
    exact fun c hc => declares_column (hraw.columns c hc) s
  · cases b.primary with
    | none => exact .nil
    | some columns => exact .cons (declares_primaryKey s columns) .nil
  · have hall := Outcome.mapM_eq_ok_iff.1 hreferences
    rw [List.forall₂_map_right_iff]
    exact hall.flip.imp fun f text hf => declares_reference hf

theorem tableOptions_eq {b : Blueprint} (hraw : b.RawFree) (s : Scope) : b.tableOptions s = "" := by
  unfold Blueprint.tableOptions
  rw [hraw.engine, hraw.charset, hraw.collation, hraw.options]
  split <;> rfl

theorem existenceClause_eq {b : Blueprint} {d : Dialect} {existence : String} (h : b.existenceClause d = .ok existence) :
    existence = "" ∨ existence = "IF NOT EXISTS " := by
  unfold Blueprint.existenceClause at h
  split at h
  · cases h
    exact .inl rfl
  · split at h
    · cases h
      exact .inr rfl
    · cases h

/-! ### The other statements -/

/-- It is known by its first words. -/
theorem isCreateTable_append {front : String} (hfront : isCreateTable front = false)
    (hlength : "CREATE TABLE ".toList.length ≤ front.toList.length) (rest : String) :
    isCreateTable (front ++ rest) = false := by
  unfold isCreateTable at *
  rw [Bool.eq_false_iff] at hfront ⊢
  rw [Ne, List.isPrefixOf_iff_prefix] at hfront ⊢
  intro hwords
  rw [String.toList_append] at hwords
  exact hfront (List.prefix_of_prefix_length_le hwords (List.prefix_append _ _) hlength)

theorem isCreateTable_before {c : Column} {s : Scope} {sql : String} (h : sql ∈ (c.render s).before) :
    isCreateTable sql = false := by
  unfold Column.render at h
  split at h
  · cases h
  · simp only [Column.before] at h
    split at h
    · rw [List.mem_singleton.1 h]
      unfold createEnumType
      rw [String.append_assoc, String.append_assoc, String.append_assoc]
      exact isCreateTable_append (by decide) (by decide) _
    · cases h

theorem isCreateTable_after {c : Column} {s : Scope} {sql : String} (h : sql ∈ (c.render s).after) :
    isCreateTable sql = false := by
  unfold Column.render at h
  split at h
  · cases h
  · simp only [Column.after] at h
    split at h
    · split at h
      · rw [List.mem_singleton.1 h]
        simp only [String.append_assoc]
        exact isCreateTable_append (by decide) (by decide) _
      · cases h
    · cases h

theorem isCreateTable_index (i : Index) (s : Scope) : isCreateTable (i.render s) = false := by
  have hfront : isCreateTable ("CREATE " ++ (if i.unique then "UNIQUE " else "") ++ "INDEX ") = false ∧
      13 ≤ ("CREATE " ++ (if i.unique then "UNIQUE " else "") ++ "INDEX ").toList.length := by
    cases i.unique <;> decide
  unfold Index.render
  generalize "CREATE " ++ (if i.unique then "UNIQUE " else "") ++ "INDEX " = front at hfront ⊢
  simp only [String.append_assoc]
  exact isCreateTable_append hfront.1 hfront.2 _

/-- **Creating a table reads back to its declaration**, whatever its names, texts and comments
hold: one of the statements creates a table, and it declares the blueprint's table, a
definition for each column in order, the primary key, and the references. -/
theorem create_reads_back {b : Blueprint} {d : Dialect} {statements : List String} (hmode : b.mode = .create)
    (hraw : b.RawFree) (hbuild : b.build d = .ok statements) :
    ∃ sql, statements.filter isCreateTable = [sql] ∧ Declaration.read? d sql = some (b.declaration d) := by
  unfold Blueprint.build at hbuild
  rw [hmode] at hbuild
  simp only [Blueprint.buildCreate] at hbuild
  split at hbuild
  · cases hbuild
  next hcolumns =>
  obtain ⟨texts, htexts, hbuild⟩ := Outcome.bind_eq_ok.1 hbuild
  obtain ⟨existence, hexistence, hbuild⟩ := Outcome.bind_eq_ok.1 hbuild
  cases hbuild
  have hdeclares := declares_definitions hraw htexts
  have hne : texts ≠ [] := by
    rintro rfl
    have hnil := List.forall₂_nil_left_iff.1 hdeclares
    simp only [List.append_eq_nil_iff, List.map_eq_nil_iff] at hnil
    rw [hnil.1.1] at hcolumns
    exact hcolumns rfl
  have hread := read?_statement hne hdeclares (existenceClause_eq hexistence)
  rw [tableOptions_eq hraw, String.append_empty]
  refine ⟨_, ?_, hread⟩
  have hbefore : ((b.columns.map fun c => c.render (b.scope d)).flatMap ColumnText.before).filter isCreateTable = [] := by
    refine List.filter_eq_nil_iff.2 fun sql hsql => ?_
    obtain ⟨text, htext, hsql⟩ := List.mem_flatMap.1 hsql
    obtain ⟨c, -, rfl⟩ := List.mem_map.1 htext
    simp [isCreateTable_before hsql]
  have hafter : ((b.columns.map fun c => c.render (b.scope d)).flatMap ColumnText.after).filter isCreateTable = [] := by
    refine List.filter_eq_nil_iff.2 fun sql hsql => ?_
    obtain ⟨text, htext, hsql⟩ := List.mem_flatMap.1 hsql
    obtain ⟨c, -, rfl⟩ := List.mem_map.1 htext
    simp [isCreateTable_after hsql]
  have hindexes : (b.indexes.map fun i => i.render (b.scope d)).filter isCreateTable = [] := by
    refine List.filter_eq_nil_iff.2 fun sql hsql => ?_
    obtain ⟨i, -, rfl⟩ := List.mem_map.1 hsql
    simp [isCreateTable_index]
  have hcreate (rest : String) : isCreateTable ("CREATE TABLE " ++ rest) = true := by
    rw [isCreateTable, String.toList_append]
    rfl
  simp only [List.filter_append, hbefore, hafter, hindexes, List.nil_append, List.append_nil, String.append_assoc]
  rw [List.filter_cons_of_pos (hcreate _)]
  rfl

/-- A table whose names and texts hold all that could end them. -/
def crowded : Blueprint where
  table := "order], (d\""
  mode := .create
  tablePrefix := "p'"
  columns := [
    { name := "kind, (x)", type := .enum, args := { values := ["a','b", "),"] }, default := some (.value (.text "it's, (")),
      comment := some "--; ', (" },
    { name := "\x60user\"]", type := .bigInteger, reference := some { table := "us]ers\x60", column := "i,d" } }]
  primary := some ["kind, (x)", "\x60user\"]"]
  foreignKeys := [{ columns := ["kind, (x)"], table := "kinds" }]

theorem create_reads_back_crowded : ∃ statements sql, crowded.build .msSql = .ok statements ∧
    statements.filter isCreateTable = [sql] ∧ Declaration.read? .msSql sql = some ⟨"p'order], (d\"", [
      .column "kind, (x)",
      .column "\x60user\"]",
      .primaryKey ["kind, (x)", "\x60user\"]"],
      .reference "p'order], (d\"_\x60user\"]_foreign" ["\x60user\"]"] "p'us]ers\x60" ["i,d"],
      .reference "p'order], (d\"_kind, (x)_foreign" ["kind, (x)"] "p'kinds" ["kind, (x)"]]⟩ := by
  have hraw : crowded.RawFree := by
    refine ⟨fun c hc => ?_, rfl, rfl, rfl, rfl⟩
    simp only [crowded, List.mem_cons, List.not_mem_nil, or_false] at hc
    rcases hc with rfl | rfl <;> exact ⟨rfl, rfl, by simp⟩
  obtain ⟨statements, hbuild⟩ : ∃ statements, crowded.build .msSql = .ok statements := ⟨_, rfl⟩
  obtain ⟨sql, hfilter, hread⟩ := create_reads_back rfl hraw hbuild
  refine ⟨statements, sql, hbuild, hfilter, hread.trans ?_⟩
  decide +kernel

end SqlToolkit.Schema
