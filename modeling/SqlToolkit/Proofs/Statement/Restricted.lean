import SqlToolkit.Criteria.Document
import SqlToolkit.Proofs.Statement.Usage
import SqlToolkit.Text.Search

/-!
# Which writes are restricted

A write under criteria is the write without criteria, followed by a condition clause if the criteria hold a comparison
at any depth, and by nothing if they hold none.  Groups alone restrict nothing: a group without content disappears, and
so does every group around it, so criteria may hold conditions and still leave a write to all rows.
-/
namespace SqlToolkit
open Outcome

/-- The condition clause is a keyword and a predicate with text if there is a comparison, and nothing otherwise. -/
theorem Criteria.whereClause_eq_ok {c : Criteria} {t : Target} {f : Fragment} (h : c.whereClause t = .ok f) :
    ∃ predicate, c.predicate t.renderRaw = .ok predicate ∧
      (Condition.comparisonsAll c.conditions ≠ [] →
        predicate.sql ≠ "" ∧ f = Fragment.raw " WHERE " ++ predicate) ∧
      (Condition.comparisonsAll c.conditions = [] → f = {}) := by
  obtain ⟨predicate, hpredicate, h⟩ := bind_eq_ok.1 h
  obtain rfl := pure_eq_ok.1 h
  have hempty : predicate.isEmpty = true ↔ Condition.comparisonsAll c.conditions = [] := by
    unfold Criteria.predicate at hpredicate
    split at hpredicate
    · cases hpredicate
    · exact Condition.isEmpty_compileAll hpredicate
  refine ⟨predicate, hpredicate, fun hsome => ?_, fun hnone => ?_⟩
  · have htext : ¬ predicate.isEmpty = true := mt hempty.1 hsome
    refine ⟨by simpa [Fragment.isEmpty] using htext, ?_⟩
    rw [clause, if_neg htext]
  · rw [clause, if_pos (hempty.2 hnone)]

namespace Write

/-- **A write is restricted exactly when its criteria hold a comparison.**  It is then the write without criteria,
followed by a condition clause whose predicate has text; without a comparison it is the write to all rows. -/
theorem restricted_iff_compared (w : Write) (t : Target) (table : String) (c : Criteria) {statement : Statement}
    (h : w.compile t table c = .ok statement) :
    ∃ bare predicate, w.compile t table {} = .ok bare ∧ c.predicate t.renderRaw = .ok predicate ∧
      (Condition.comparisonsAll c.conditions ≠ [] → predicate.sql ≠ "" ∧
        statement = ⟨bare.sql ++ " WHERE " ++ predicate.sql, bare.params ++ predicate.params⟩) ∧
      (Condition.comparisonsAll c.conditions = [] → statement = bare) := by
  have hlast : w.compile t table c = w.compile t table {} >>= fun bare => bare.followedBy <$> c.whereClause t :=
    Usage.outcome_eq (.write t table w) c
  rw [hlast] at h
  obtain ⟨bare, hbare, h⟩ := bind_eq_ok.1 h
  obtain ⟨f, hf, h⟩ := bind_eq_ok.1 h
  obtain rfl := pure_eq_ok.1 h
  obtain ⟨predicate, hpredicate, hsome, hnone⟩ := Criteria.whereClause_eq_ok hf
  refine ⟨bare, predicate, hbare, hpredicate, fun hcompared => ?_, fun hcompared => ?_⟩
  · obtain ⟨htext, rfl⟩ := hsome hcompared
    refine ⟨htext, ?_⟩
    simp [Statement.followedBy, Fragment.raw, String.append_assoc]
  · rw [hnone hcompared, Statement.followedBy_empty]

/-- One comparison inside a group, beside a group without content, restricts an update. -/
theorem restricted_iff_compared_nested :
    let t : Target := ⟨.pgSql, "app_"⟩
    let data : RowData := ⟨[("age", .value (.int 1))]⟩
    let inner : Condition := .group .and [.compare "id" none (.value (.int 7))]
    let c : Criteria := { conditions := [.group .or [], .group .or [inner]] }
    let written : Statement :=
      ⟨"UPDATE \"app_users\" SET age = ? WHERE ((id = ?))", [.int 1, .int 7]⟩
    (update data).compile t "users" c = .ok written ∧
      ∃ bare predicate, (update data).compile t "users" {} = .ok bare ∧ c.predicate t.renderRaw = .ok predicate ∧
        (Condition.comparisonsAll c.conditions ≠ [] → predicate.sql ≠ "" ∧
          written = ⟨bare.sql ++ " WHERE " ++ predicate.sql, bare.params ++ predicate.params⟩) ∧
        (Condition.comparisonsAll c.conditions = [] → written = bare) := by
  intro t data inner c written
  have h : (update data).compile t "users" c = .ok written := by decide +kernel
  exact ⟨h, restricted_iff_compared (update data) t "users" c h⟩

/-- Criteria with a condition that restrict nothing: their only group has no content, and all rows are removed. -/
theorem unrestricted_hollow :
    let c : Criteria := { conditions := [.group .or []] }
    Criteria.ofDocument (.record [("OR", .record [])]) = .ok c ∧ ({} : Criteria).group .or {} = c ∧
      c.conditions ≠ [] ∧ delete.compile ⟨.sqlite, ""⟩ "users" c = .ok ⟨"DELETE FROM `users`", []⟩ ∧
      Text.contains "DELETE FROM `users`" "WHERE" = false := by
  intro c
  refine ⟨rfl, rfl, List.cons_ne_nil _ _, ?_, ?_⟩
  · decide +kernel
  · decide +kernel

end Write
end SqlToolkit
