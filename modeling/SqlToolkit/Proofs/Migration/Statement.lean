import SqlToolkit.Migration.History
import SqlToolkit.Proofs.Session.Run

/-!
# The statements of a history

A history sends few statements of its own: the question whether its table exists, the
statements that make it, the query for the applied migrations, the insertion of a row
and the deletion of the rows of a name.  The last three are compiled from criteria and
row data, like any other statement.  They are written out here, once for every dialect, prefix and
table, so that what a database does with them can be said about their texts.

Each operation of a history then does to the connection what the backend does for its
statement, whatever the backend is.
-/
namespace SqlToolkit
namespace History

open Schema

variable (h : History) (t : Target)

/-- The question whether the table exists. -/
def existsStatement : Statement := ⟨t.dialect.tableExistsQuery, [.text (t.tablePrefix ++ h.table)]⟩

/-- The query for the applied migrations. -/
def readStatement : Statement :=
  ⟨"SELECT id, migration, batch, executed_at FROM " ++ (t.parseTable h.table).render ++
    " ORDER BY batch ASC, id ASC", []⟩

/-- The statements that make the table. -/
def createStatements : Except CompileError (List String) :=
  { declare (.create h.table) with tablePrefix := t.tablePrefix }.build t.dialect

/-- The insertion of a migration in a batch. -/
def insertStatement (name : String) (batch : Int64) : Statement :=
  ⟨"INSERT INTO " ++ t.quoteTable h.table ++ " (migration, batch) VALUES (?, ?)",
    [.text name, .int batch]⟩

/-- The deletion of a migration. -/
def deleteStatement (name : String) : Statement :=
  ⟨"DELETE FROM " ++ t.quoteTable h.table ++ " WHERE migration = ?", [.text name]⟩

/-! ## Insertion -/

/-- The data of an inserted row. -/
def rowData (name : String) (batch : Int64) : RowData :=
  (({} : RowData).set "migration" (.value (.text name))).set "batch" (.value (.int batch))

theorem tuples_rowData (name : String) (batch : Int64) :
    Statement.tuples t (rowData name batch) 0 [rowData name batch] =
      .ok [⟨"(?, ?)", [.text name, .int batch]⟩] := by
  have hsame : (rowData name batch).sameKeys (rowData name batch) = true := by rfl
  have htuple : Statement.tuple t (rowData name batch).keys (rowData name batch) =
      ⟨"(?, ?)", [.text name, .int batch]⟩ := by rfl
  simp only [Statement.tuples, hsame, htuple]
  rfl

theorem insert_eq (name : String) (batch : Int64) :
    Statement.insert t h.table [rowData name batch] = .ok (h.insertStatement t name batch) := by
  have hempty : (rowData name batch).isEmpty = false := by rfl
  have hkeys : (rowData name batch).keys = ["migration", "batch"] := by rfl
  have hcolumns : ["migration", "batch"].mapM Statement.insertColumn = .ok ["migration", "batch"] := by
    rfl
  have hlist : ", ".intercalate ["migration", "batch"] = "migration, batch" := by decide +kernel
  have hjoin : Fragment.join [⟨"(?, ?)", [.text name, .int batch]⟩] ", " =
      ⟨"(?, ?)", [.text name, .int batch]⟩ := by rfl
  have hwords : " (" ++ ("migration, batch" ++ (") VALUES " ++ "(?, ?)")) =
      " (migration, batch) VALUES (?, ?)" := by decide +kernel
  rw [Statement.insert, tuples_rowData, hempty, hkeys, hcolumns]
  simp only [Bind.bind, Except.bind, pure, Except.pure, hlist, hjoin, Statement.ofFragment,
    Fragment.sql_append, Fragment.params_append, Fragment.raw, String.append_assoc, hwords]
  rfl

/-! ## Deletion -/

/-- The criteria of the rows of a name. -/
def named (name : String) : Criteria := ({} : Criteria).field "migration" (.value (.text name))

theorem whereClause_named (name : String) :
    (named name).whereClause t = .ok ⟨" WHERE migration = ?", [.text name]⟩ := by
  have hnamed : named name = { conditions := [.compare "migration" none (.value (.text name))] } := by
    rfl
  have hcompare : (Condition.compare "migration" none (.value (.text name))).compile t.renderRaw =
      .ok ⟨"migration = ?", [.text name]⟩ := by rfl
  rw [hnamed]
  simp only [Criteria.whereClause, Criteria.predicate, Condition.compileAll, Condition.compileParts,
    hcompare]
  rfl

theorem delete_eq (name : String) :
    Statement.delete t h.table (named name) = .ok (h.deleteStatement t name) := by
  rw [Statement.delete, whereClause_named]
  simp only [Bind.bind, Except.bind, pure, Except.pure, Statement.ofFragment, Fragment.sql_append,
    Fragment.params_append, Fragment.raw, deleteStatement, String.append_assoc, List.nil_append]

/-! ## Reading -/

theorem render_columns : columns.render t = "id, migration, batch, executed_at" := by rfl

theorem clauses_applicationOrder :
    applicationOrder.clauses t = .ok ⟨" ORDER BY batch ASC, id ASC", []⟩ := by
  have horder : applicationOrder =
      { orderBy := [.column "batch" (some .ascending), .column "id" (some .ascending)] } := by rfl
  have hnone (logic : Logic) : Condition.compileAll t.renderRaw logic [] = .ok {} := by rfl
  have hclause (keyword : String) : Criteria.clause keyword {} = {} := by rfl
  have hlist : Criteria.listClause " ORDER BY " ["batch ASC", "id ASC"] =
      ⟨" ORDER BY batch ASC, id ASC", []⟩ := by decide +kernel
  have htexts : [OrderItem.column "batch" (some .ascending), .column "id" (some .ascending)].map
      (Criteria.orderText t) = ["batch ASC", "id ASC"] := by rfl
  rw [horder]
  simp only [Criteria.clauses, Criteria.whereClause, Criteria.predicate, hnone, hclause, htexts, hlist,
    Criteria.windowClause, Bind.bind, Except.bind, pure, Except.pure]
  rfl

theorem select_eq :
    Statement.select t h.table [] columns applicationOrder = .ok (h.readStatement t) := by
  have hfrom : Statement.fromClause t h.table [] = .ok (" FROM " ++ (t.parseTable h.table).render) := by
    show Except.ok (" FROM " ++ (t.parseTable h.table).render ++ String.join []) = _
    rw [String.join_nil, String.append_empty]
  have hwords : "SELECT " ++ "id, migration, batch, executed_at" ++ " FROM " =
      "SELECT id, migration, batch, executed_at FROM " := by decide +kernel
  unfold Statement.select Statement.query
  rw [hfrom, clauses_applicationOrder, render_columns]
  show Except.ok (⟨"SELECT " ++ "id, migration, batch, executed_at" ++
    (" FROM " ++ (t.parseTable h.table).render) ++ " ORDER BY batch ASC, id ASC", []⟩ : Statement) = _
  rw [← String.append_assoc, hwords]
  rfl

/-! ## Operations -/

open Migration

variable {h} {σ : Type} {s : Session σ} {bad : DatabaseError → σ → Prop}

theorem settles_hasTable {good : List Row → σ → Prop}
    (hquery : Settles (s.backend.query (h.existsStatement s.target) s.connection) good bad) :
    Settles (ending (Session.hasTable h.table) s)
      (fun present u => ∃ rows, present = !rows.isEmpty ∧ s.Keeps u ∧ good rows u.connection)
      (fun e u => s.Keeps u ∧ bad e u.connection) := by
  unfold Session.hasTable
  exact .get_bind (.bind (Session.settles_fetch hquery) (fun _ _ hu => hu)
    fun rows _ hu => .pure ⟨rows, rfl, hu⟩)

theorem settles_applied {good : List Row → σ → Prop}
    (hquery : Settles (s.backend.query (h.readStatement s.target) s.connection) good bad) :
    Settles (ending h.applied s)
      (fun applied u => ∃ rows, applied = rows.map AppliedMigration.ofRow ∧ s.Keeps u ∧
        good rows u.connection)
      (fun e u => ∃ cause, e = .database cause ∧ s.Keeps u ∧ bad cause u.connection) := by
  have hselect := Session.settles_trySelect (h.select_eq s.target) hquery
  have hlift : Settles (ending (lift (Session.trySelect h.table [] columns applicationOrder)) s)
      (fun rows u => s.Keeps u ∧ good rows u.connection)
      (fun e u => ∃ cause, e = .database cause ∧ s.Keeps u ∧ bad cause u.connection) :=
    .adapt (hselect.imp (fun _ _ hu => hu) fun cause _ hu => ⟨cause, rfl, hu⟩)
  exact .bind hlift (fun _ _ hu => hu) fun rows _ hu => .pure ⟨rows, rfl, hu⟩

theorem settles_recordApplied {good : WriteResult → σ → Prop} {name : String} {batch : Int64}
    (hexecute : Settles
      (s.backend.execute (h.insertStatement s.target name batch) s.connection) good bad) :
    Settles (ending (h.recordApplied name batch) s)
      (fun _ u => s.Keeps u ∧ ∃ result, good result u.connection)
      (fun e u => ∃ cause, e = .database cause ∧ s.Keeps u ∧ bad cause u.connection) := by
  have hinsert := Session.settles_insert (h.insert_eq s.target name batch) hexecute
  have hlift : Settles (ending (lift (Session.insert h.table [rowData name batch])) s)
      (fun result u => s.Keeps u ∧ good result u.connection)
      (fun e u => ∃ cause, e = .database cause ∧ s.Keeps u ∧ bad cause u.connection) :=
    .adapt (hinsert.imp (fun _ _ hu => hu) fun cause _ hu => ⟨cause, rfl, hu⟩)
  exact .bind hlift (fun _ _ hu => hu) fun result _ hu => .pure ⟨hu.1, result, hu.2⟩

theorem settles_recordReverted {good : WriteResult → σ → Prop} {name : String}
    (hexecute : Settles (s.backend.execute (h.deleteStatement s.target name) s.connection) good bad) :
    Settles (ending (h.recordReverted name) s)
      (fun _ u => s.Keeps u ∧ ∃ result, good result u.connection)
      (fun e u => ∃ cause, e = .database cause ∧ s.Keeps u ∧ bad cause u.connection) := by
  have hdelete := Session.settles_delete (h.delete_eq s.target name) hexecute
  have hlift : Settles (ending (lift (Session.delete h.table (named name))) s)
      (fun _ u => s.Keeps u ∧ ∃ result, good result u.connection)
      (fun e u => ∃ cause, e = .database cause ∧ s.Keeps u ∧ bad cause u.connection) :=
    .adapt (hdelete.imp (fun _ _ ⟨hkeeps, result, _, hgood⟩ => ⟨hkeeps, result, hgood⟩)
      fun cause _ hu => ⟨cause, rfl, hu⟩)
  exact .bind hlift (fun _ _ hu => hu) fun _ _ hu => .pure hu

end History
end SqlToolkit
