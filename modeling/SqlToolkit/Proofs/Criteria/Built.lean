import SqlToolkit.Criteria.Document
import SqlToolkit.Proofs.Condition.Tree
import SqlToolkit.Proofs.Text.Column

/-!
# How criteria come to be

Conditions are read from keys and put into groups; criteria are built from them step by step or read from a document.
`Built` says exactly that, for conditions and for criteria.  Every column of built criteria may be written bare
(`Plain`), because each step checks the names it takes.  Raw SQL is the only part of criteria that is not checked, so
what is shown of bound values asks for conditions without it (`RawFree`).
-/
namespace SqlToolkit

namespace Condition

/-! ### Conditions from keys -/

/-- A condition that was read from a key, or a group of such conditions. -/
inductive Built : Condition → Prop
  | parse {key : String} {operand : Operand} {c : Condition} :
      Condition.parse key operand = .ok c → Built c
  | group (logic : Logic) {children : List Condition} :
      (∀ c ∈ children, Built c) → Built (.group logic children)

/-- A key gives a comparison of the operand with a bare column. -/
theorem parse_eq_ok {key : String} {operand : Operand} {c : Condition}
    (h : parse key operand = .ok c) :
    ∃ column operator, c = .compare column operator operand ∧ Text.isColumn column = true := by
  unfold parse at h
  split at h
  · cases h
  · obtain ⟨⟨column, token⟩, -, h⟩ := Outcome.bind_eq_ok.1 h
    simp only [Outcome.bind_eq_ok, Outcome.pure_eq_ok] at h
    obtain ⟨operator, -, name, hname, rfl⟩ := h
    obtain ⟨rfl, hcolumn⟩ := validateColumn_eq_ok.1 hname
    exact ⟨_, operator, rfl, hcolumn⟩

theorem Built.plain {c : Condition} (h : Built c) : c.Plain := by
  induction h with
  | parse h =>
    obtain ⟨column, operator, rfl, hcolumn⟩ := parse_eq_ok h
    exact .compare hcolumn
  | group logic _ ih => exact .group logic ih

mutual

theorem built_ofDocument (key : String) (d : Document) {c : Condition}
    (h : ofDocument key d = .ok c) : Built c := by
  cases d with
  | record entries =>
    simp only [ofDocument] at h
    split at h
    · obtain ⟨children, hchildren, h⟩ := Outcome.bind_eq_ok.1 h
      obtain rfl := Outcome.pure_eq_ok.1 h
      exact .group _ (built_ofEntries entries hchildren)
    · obtain ⟨operand, -, h⟩ := Outcome.bind_eq_ok.1 h
      exact .parse h
  | _ =>
    simp only [ofDocument] at h
    split at h
    · cases h
    · obtain ⟨operand, -, h⟩ := Outcome.bind_eq_ok.1 h
      exact .parse h

theorem built_ofEntries (entries : List (String × Document)) {cs : List Condition}
    (h : ofEntries entries = .ok cs) : ∀ c ∈ cs, Built c := by
  match entries with
  | [] =>
    simp only [ofEntries, Except.ok.injEq] at h
    simp [← h]
  | (key, content) :: rest =>
    simp only [ofEntries] at h
    obtain ⟨first, hfirst, h⟩ := Outcome.bind_eq_ok.1 h
    obtain ⟨others, hothers, h⟩ := Outcome.bind_eq_ok.1 h
    obtain rfl := Outcome.pure_eq_ok.1 h
    exact List.forall_mem_cons.2 ⟨built_ofDocument key content hfirst, built_ofEntries rest hothers⟩

end

end Condition

namespace Criteria

/-! ### Criteria from steps -/

/-- Criteria that were read from a document or built by steps from nothing, with built criteria nested in them. -/
inductive Built : Criteria → Prop
  | empty : Built {}
  | document {d : Document} {c : Criteria} : ofDocument d = .ok c → Built c
  | field {c : Criteria} (key : String) (operand : Operand) : Built c → Built (c.field key operand)
  | condition {c : Criteria} {added : Condition} : Built c → added.Built → Built (c.condition added)
  | group {c nested : Criteria} (logic : Logic) : Built c → Built nested → Built (c.group logic nested)
  | groupBy {c : Criteria} (column : String) : Built c → Built (c.groupByColumn column)
  | having {c nested : Criteria} : Built c → Built nested → Built (c.havingAll nested)
  | order {c : Criteria} (column : String) (direction : Option Direction) :
      Built c → Built (c.orderByColumn column direction)
  | orderRaw {c : Criteria} (sql : RawSql) : Built c → Built (c.orderByRaw sql)
  | limit {c : Criteria} (count : Nat) : Built c → Built (c.limit count)
  | skip {c : Criteria} (offset : Nat) : Built c → Built (c.skip offset)

/-- The part of an ordering is raw SQL or a bare column. -/
def PlainItem : OrderItem → Prop
  | .column name _ => Text.isColumn name = true
  | .raw _ => True

/-- Every column of the criteria may be written bare. -/
structure Plain (c : Criteria) : Prop where
  conditions : ∀ x ∈ c.conditions, x.Plain
  groupBy : ∀ name ∈ c.groupBy, Text.isColumn name = true
  having : ∀ x ∈ c.having, x.Plain
  orderBy : ∀ item ∈ c.orderBy, PlainItem item

/-- No operand of the criteria is raw SQL. -/
structure RawFree (c : Criteria) : Prop where
  conditions : ∀ x ∈ c.conditions, x.RawFree
  having : ∀ x ∈ c.having, x.RawFree

theorem plain_empty : Plain {} := ⟨by simp, by simp, by simp, by simp⟩

theorem Plain.addCondition {c : Criteria} (h : c.Plain) {added : Condition} (ha : added.Plain) :
    Plain { c with conditions := c.conditions ++ [added] } :=
  { h with conditions := List.forall_mem_append.2 ⟨h.conditions, List.forall_mem_singleton.2 ha⟩ }

theorem Plain.addGroupBy {c : Criteria} (h : c.Plain) {names : List String}
    (hn : ∀ name ∈ names, Text.isColumn name = true) :
    Plain { c with groupBy := c.groupBy ++ names } :=
  { h with groupBy := List.forall_mem_append.2 ⟨h.groupBy, hn⟩ }

theorem Plain.addHaving {c : Criteria} (h : c.Plain) {added : List Condition}
    (ha : ∀ x ∈ added, x.Plain) : Plain { c with having := c.having ++ added } :=
  { h with having := List.forall_mem_append.2 ⟨h.having, ha⟩ }

theorem Plain.addOrder {c : Criteria} (h : c.Plain) {items : List OrderItem}
    (hi : ∀ item ∈ items, PlainItem item) : Plain { c with orderBy := c.orderBy ++ items } :=
  { h with orderBy := List.forall_mem_append.2 ⟨h.orderBy, hi⟩ }

/-- What is plain stays plain when only the window or the recorded cause changes. -/
theorem Plain.mark {c : Criteria} (h : c.Plain) (window : Option Window) (error : Option CompileError) :
    Plain { c with window, error } :=
  ⟨h.conditions, h.groupBy, h.having, h.orderBy⟩

theorem Plain.checkCount {c : Criteria} (h : c.Plain) (n : Nat) : (c.checkCount n).Plain := by
  unfold Criteria.checkCount
  split
  · exact h
  · exact h.mark _ _

/-! ### Criteria from documents -/

theorem plain_orderOf {d : Document} {items : List OrderItem} (h : orderOf d = .ok items) :
    ∀ item ∈ items, PlainItem item := by
  unfold orderOf at h
  split at h
  · refine Outcome.forall_of_mapM h fun entry _ item hitem => ?_
    simp only [Outcome.bind_eq_ok, Outcome.pure_eq_ok] at hitem
    obtain ⟨_, -, name, hname, rfl⟩ := hitem
    exact isColumn_of_validateColumn hname
  · obtain ⟨columns, -, h⟩ := Outcome.bind_eq_ok.1 h
    refine Outcome.forall_of_mapM h fun column _ item hitem => ?_
    simp only [Outcome.bind_eq_ok, Outcome.pure_eq_ok] at hitem
    obtain ⟨name, hname, rfl⟩ := hitem
    exact isColumn_of_validateColumn hname

/-- An entry of a record adds only checked columns. -/
theorem Plain.addEntry {c d : Criteria} (h : c.Plain) {key : String} {content : Document}
    (hd : c.addEntry key content = .ok d) : d.Plain := by
  unfold Criteria.addEntry at hd
  split at hd <;> simp only [Outcome.bind_eq_ok, Outcome.pure_eq_ok] at hd
  · obtain ⟨items, hitems, rfl⟩ := hd
    exact h.addOrder (plain_orderOf hitems)
  · obtain ⟨window, -, rfl⟩ := hd
    exact h.mark _ _
  · obtain ⟨columns, -, names, hnames, rfl⟩ := hd
    exact h.addGroupBy (Outcome.forall_of_mapM hnames fun _ _ _ hname => isColumn_of_validateColumn hname)
  · obtain ⟨entries, -, conditions, hconditions, rfl⟩ := hd
    exact h.addHaving fun x hx => (Condition.built_ofEntries entries hconditions x hx).plain
  · obtain ⟨condition, hcondition, rfl⟩ := hd
    exact h.addCondition (Condition.built_ofDocument key content hcondition).plain

theorem plain_ofDocument {d : Document} {c : Criteria} (h : ofDocument d = .ok c) : c.Plain := by
  obtain ⟨entries, -, h⟩ := Outcome.bind_eq_ok.1 h
  suffices ∀ (entries : List (String × Document)) (start : Criteria), start.Plain →
      entries.foldlM (fun c entry => c.addEntry entry.1 entry.2) start = .ok c → c.Plain from
    this entries {} plain_empty h
  intro entries
  induction entries with
  | nil =>
    intro start hstart h
    rw [List.foldlM_nil] at h
    exact Outcome.pure_eq_ok.1 h ▸ hstart
  | cons entry rest ih =>
    intro start hstart h
    rw [List.foldlM_cons] at h
    obtain ⟨next, hnext, h⟩ := Outcome.bind_eq_ok.1 h
    exact ih next (hstart.addEntry hnext) h

/-- **Every column of built criteria may be written bare**, because each step checks the names that it takes. -/
theorem Built.plain {c : Criteria} (h : Built c) : c.Plain := by
  induction h with
  | empty => exact plain_empty
  | document h => exact plain_ofDocument h
  | field key operand _ ih =>
    unfold Criteria.field
    split
    · next added hadded => exact ih.addCondition (Condition.Built.parse hadded).plain
    · exact ih.mark _ _
  | condition _ ha ih => exact ih.addCondition ha.plain
  | group logic _ _ ihc ihn => exact (ihc.mark _ _).addCondition (.group logic ihn.conditions)
  | groupBy column _ ih =>
    unfold Criteria.groupByColumn
    split
    · next name hname => exact ih.addGroupBy (List.forall_mem_singleton.2 (isColumn_of_validateColumn hname))
    · exact ih.mark _ _
  | having _ _ ihc ihn => exact (ihc.mark _ _).addHaving ihn.conditions
  | order column direction _ ih =>
    unfold Criteria.orderByColumn
    split
    · next name hname => exact ih.addOrder (List.forall_mem_singleton.2 (isColumn_of_validateColumn hname))
    · exact ih.mark _ _
  | orderRaw sql _ ih => exact ih.addOrder (List.forall_mem_singleton.2 trivial)
  | limit count _ ih => exact (ih.checkCount count).mark _ _
  | skip offset _ ih => exact (ih.checkCount offset).mark _ _

end Criteria
end SqlToolkit
