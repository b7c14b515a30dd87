import SqlToolkit.Proofs.Migration.Scripted
import SqlToolkit.Proofs.Script.Rendered
import SqlToolkit.Proofs.Session.Diary

/-!
# The string literals of a migration

A migration that is kept in scripts sends its statements one after another, up to the first
that fails.  So what is sent holds the string literals of the script in order, all of them
if nothing fails (`literals_kept`).

That is so for scripts whose identifier tokens stand outside literals.  A token in a literal
is replaced like any other, and the literal that is sent is not that of the script
(`literal_replaced`).
-/
namespace SqlToolkit

open Script

variable {σ : Type}

/-- The string literals in the statements among entries. -/
def sentLiterals (es : List (Entry Step)) : List String :=
  (es.filterMap Entry.statement?).flatMap fun statement => literals statement.sql

theorem sentLiterals_append (es es' : List (Entry Step)) :
    sentLiterals (es ++ es') = sentLiterals es ++ sentLiterals es' := by
  unfold sentLiterals
  rw [List.filterMap_append, List.flatMap_append]

/-- A statement is sent with its literals, whether it is refused or not. -/
theorem Sent.sentLiterals_eq {t : Target} {sql : String} {es : List (Entry Step)} {r : Except MigrationError Unit}
    (h : Sent t sql es r) : sentLiterals es = literals (t.renderRaw ⟨sql⟩) := by
  obtain ⟨answer, rfl, -⟩ := h
  simp [sentLiterals, Entry.statement?]

/-- Statements that are sent in turn are sent from the first on, all of them if none is refused. -/
theorem InTurn.sentLiterals_eq {t : Target} {sqls : List String} {es : List (Entry Step)}
    {r : Except MigrationError Unit} (h : InTurn (Sent t) sqls es r) :
    ∃ count, sentLiterals es = (sqls.take count).flatMap (fun sql => literals (t.renderRaw ⟨sql⟩)) ∧
      (r = .ok () → sqls.length ≤ count) := by
  induction h with
  | nil => exact ⟨0, rfl, fun _ => le_rfl⟩
  | failed hsent => exact ⟨1, by simp [hsent.sentLiterals_eq], by rintro ⟨⟩⟩
  | next hsent _ ih =>
    obtain ⟨count, hrest, hall⟩ := ih
    refine ⟨count + 1, ?_, fun hr => Nat.succ_le_succ (hall hr)⟩
    rw [sentLiterals_append, hsent.sentLiterals_eq, hrest, List.take_succ_cons, List.flatMap_cons]

/-- What a program sends holds the literals of a script, from the first on and all of them if the program succeeds. -/
structure KeepsLiterals (script : String) (s : Session σ) (program : (τ : Type) → Migration.Program τ Unit) :
    Prop where
  inOrder : sentLiterals (entriesOf (program (Recorder Step σ)) s) <+: literals script
  all : (ending (program σ) s).1 = .ok () →
    sentLiterals (entriesOf (program (Recorder Step σ)) s) = literals script

theorem KeepsLiterals.of_records {script : String} {s : Session σ} {program : (τ : Type) → Migration.Program τ Unit}
    (h : Undisturbed s.target script)
    (hrecords : Records (program (Recorder Step σ)) (program σ) s (ScriptedMigration.scriptConduct s.target script)) :
    KeepsLiterals script s program := by
  obtain ⟨count, hsent, hall⟩ := InTurn.sentLiterals_eq hrecords.entriesOf
  have hkept : ((statements script).take count).flatMap (fun sql => literals (s.target.renderRaw ⟨sql⟩)) =
      ((statements script).take count).flatMap literals :=
    List.flatMap_congr fun sql hsql => literals_renderRaw h (List.mem_of_mem_take hsql)
  rw [hkept] at hsent
  have hscript := literals_statements h.isClosed
  refine ⟨?_, fun hr => ?_⟩
  · rw [hsent, ← hscript]
    nth_rewrite 2 [← List.take_append_drop count (statements script)]
    rw [List.flatMap_append]
    exact List.prefix_append _ _
  · rw [hsent, List.take_of_length_le (hall hr), hscript]

namespace Migration

/-- **Scripts keep their string literals** if their tokens stand outside these: what applying
or reverting a migration sends holds the literals of its script in order and unchanged,
whatever the backend answers, and all of them if it succeeds. -/
theorem literals_kept (m : ScriptedMigration) (s : Session σ) (hup : Undisturbed s.target m.up)
    (hdown : ∀ script, m.down = some script → Undisturbed s.target script) :
    KeepsLiterals m.up s (fun τ => (ofScripts m : Migration τ).up) ∧
      ∀ script, m.down = some script → KeepsLiterals script s fun τ => (ofScripts m : Migration τ).down := by
  refine ⟨.of_records hup (records_runScript m.up), fun script hscript => .of_records (hdown script hscript) ?_⟩
  have hconduct := records_down_ofScripts (s := s) m
  unfold ScriptedMigration.downConduct at hconduct
  rwa [hscript] at hconduct

/-- A backend that accepts all statements. -/
def willing : Backend Unit where
  dialect := .sqlite
  query _ c := (.ok [], c)
  execute _ c := (.ok {}, c)
  start c := (.ok (), c)
  commit c := (.ok (), c)
  rollback c := (.ok (), c)
  inTransaction _ := false

/-- A session on it. -/
def ready : Session Unit where
  backend := willing
  connection := ()
  target := ⟨.sqlite, "app_"⟩

/-- Notes that hold all that a script could be cut at. -/
def notes : ScriptedMigration where
  name := "notes"
  up := "INSERT INTO <notes> VALUES ('it''s; a --< b'); -- into '<notes>'\nUPDATE <notes> SET a = ';'"
  down := some "DELETE FROM <notes> WHERE <notes.a> = ''';--'"

theorem literals_kept_notes :
    KeepsLiterals notes.up ready (fun τ => (ofScripts notes : Migration τ).up) ∧
      sentLiterals (entriesOf (ofScripts notes : Migration (Recorder Step Unit)).up ready) =
        ["it's; a --< b", ";"] ∧
      KeepsLiterals "DELETE FROM <notes> WHERE <notes.a> = ''';--'" ready
        fun τ => (ofScripts notes : Migration τ).down := by
  have hkept := literals_kept notes ready (by decide +kernel) fun script hscript => by
    cases hscript
    decide +kernel
  refine ⟨hkept.1, ?_, hkept.2 _ rfl⟩
  rw [hkept.1.all (by decide +kernel)]
  decide +kernel

/-- All quotes are closed and the statement is sent, but the literal is sent as another. -/
theorem literal_replaced :
    Script.isClosed "INSERT INTO notes VALUES ('<b>')" = true ∧
      literals "INSERT INTO notes VALUES ('<b>')" = ["<b>"] ∧
      (ending (runScript "INSERT INTO notes VALUES ('<b>')") ready).1 = .ok () ∧
      sentLiterals (entriesOf (runScript "INSERT INTO notes VALUES ('<b>')") ready) = ["\x60b\x60"] := by
  decide +kernel

end Migration
end SqlToolkit
