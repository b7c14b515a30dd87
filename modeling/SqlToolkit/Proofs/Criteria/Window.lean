import SqlToolkit.Number.Text
import SqlToolkit.Proofs.Criteria.Asked
import SqlToolkit.Proofs.Statement.Clause
import SqlToolkit.Proofs.Text.Figures
import SqlToolkit.Proofs.Text.Words

/-!
# The window of a query

Each dialect limits the rows of a result in words of its own.  Here the words are read back by the dialect's grammar
(`rowRange?`), with the numbers that two dialects write for want of a limit read as none.  What is read is what was
asked for (`clauses_keep_window`): the last count and the last offset, in every dialect the same.  Where a window needs
an order in front of it there is always one, and never a second.
-/
namespace SqlToolkit
open Text Outcome Number

/-! ### Words and numbers -/

/-- The number that a word of digits denotes. -/
def number? (word : String) : Option Nat :=
  if word.toList.isEmpty || !word.toList.all Char.isDigit then none else some (digitsValue word.toList)

/-- A number is read as it was written. -/
theorem number?_toString (n : Nat) : number? (toString n) = some n := by
  have hne : (toString n).toList.isEmpty = false := by
    rw [toList_toString, List.isEmpty_eq_false_iff]
    exact Nat.toDigits_ne_nil
  have hdigits : (toString n).toList.all Char.isDigit = true :=
    List.all_eq_true.2 fun _ => isDigit_of_mem_toString
  rw [number?, hne, hdigits, digitsValue_toString]
  rfl

/-- Words with a space in front of each. -/
def spaced (ws : List String) : String := String.join (ws.map (" " ++ ·))

/-- A word has a character, and no blank. -/
def IsWord (w : String) : Prop := w.toList ≠ [] ∧ ∀ c ∈ w.toList, isBlank c = false

instance (w : String) : Decidable (IsWord w) :=
  decidable_of_iff (w.toList ≠ [] ∧ (w.toList.all fun c => !isBlank c) = true) (by simp [IsWord])

theorem isWord_toString (n : Nat) : IsWord (toString n) := by
  refine ⟨toList_toString n ▸ Nat.toDigits_ne_nil, fun c hc => isBlank_of_isBareChar ?_⟩
  simp [isBareChar, isColumnChar, Char.isAlphanum, isDigit_of_mem_toString hc]

/-- A word ends where a blank follows it. -/
theorem words_append {w rest : List Char} (hne : w ≠ []) (hw : ∀ c ∈ w, isBlank c = false)
    (hrest : rest = [] ∨ startsBlank rest = true) : words (w ++ rest) = w :: words rest := by
  induction w with
  | nil => exact absurd rfl hne
  | cons c w ih =>
    obtain ⟨hc, hw⟩ := List.forall_mem_cons.1 hw
    cases w with
    | nil => exact words_cons_of_end hc hrest
    | cons d w =>
      have hd := hw d List.mem_cons_self
      have htail := ih (List.cons_ne_nil _ _) hw
      rw [List.cons_append] at htail ⊢
      rw [List.cons_append, words_cons_cons hc hd, htail]

/-- Spaced words are read back. -/
theorem words_spaced {ws : List String} (h : ∀ w ∈ ws, IsWord w) :
    (words (spaced ws).toList).map String.ofList = ws := by
  induction ws with
  | nil => rfl
  | cons w ws ih =>
    obtain ⟨hw, hws⟩ := List.forall_mem_cons.1 h
    have hrest : (spaced ws).toList = [] ∨ startsBlank (spaced ws).toList = true := by
      cases ws with
      | nil => exact .inl rfl
      | cons next ws =>
        refine .inr ?_
        simp [spaced, String.join_cons, startsBlank]
        decide
    have hfront : (spaced (w :: ws)).toList = ' ' :: (w.toList ++ (spaced ws).toList) := by
      simp [spaced, String.join_cons]
    rw [hfront, words_cons_of_blank (by decide), words_append hw.1 hw.2 hrest, List.map_cons, ih hws,
      String.ofList_toList]

/-! ### The grammar of windows -/

/-- The rows that a query returns: so many at most, or all if no number is given, behind those left out first. -/
structure RowRange where
  count : Option Nat
  offset : Nat
deriving DecidableEq, Repr

namespace Dialect

/-- The operand of a limit.  Where a limit has to be written, one number stands for none. -/
def limit? (d : Dialect) (word : String) : Option (Option Nat) :=
  match d with
  | sqlite => if word = "-1" then some none else (number? word).map some
  | mySql => (number? word).map fun n => if n = UInt64.size - 1 then none else some n
  | pgSql | sybase | oracle | msSql => (number? word).map some

/-- A limit with an offset behind it, or without. -/
def readLimit? (d : Dialect) : List String → Option RowRange
  | ["LIMIT", count] => (d.limit? count).map fun count => ⟨count, 0⟩
  | ["LIMIT", count, "OFFSET", offset] =>
    (d.limit? count).bind fun count => (number? offset).map fun offset => ⟨count, offset⟩
  | _ => none

/-- An offset alone. -/
def readOffset? : List String → Option RowRange
  | ["OFFSET", offset] => (number? offset).map fun offset => ⟨none, offset⟩
  | _ => none

/-- An offset in rows, with the rows to fetch behind it, or without. -/
def readFetch? : List String → Option RowRange
  | ["OFFSET", offset, "ROWS"] => (number? offset).map fun offset => ⟨none, offset⟩
  | ["OFFSET", offset, "ROWS", "FETCH", "NEXT", count, "ROWS", "ONLY"] =>
    (number? offset).bind fun offset => (number? count).map fun count => ⟨some count, offset⟩
  | _ => none

/-- The rows that the words of a window clause keep, by the grammar of the dialect. -/
def readWindow? (d : Dialect) (clause : List String) : Option RowRange :=
  match d with
  | mySql | sqlite => d.readLimit? clause
  | pgSql => (d.readLimit? clause).or (readOffset? clause)
  | oracle | sybase | msSql => readFetch? clause

/-- The rows that the end of a query keeps. -/
def rowRange? (d : Dialect) (suffix : String) : Option RowRange :=
  d.readWindow? ((words suffix.toList).map String.ofList)

/-- The window clause stands behind an order, or not at all. -/
def needsOrder : Dialect → Bool
  | sybase | msSql => true
  | mySql | pgSql | sqlite | oracle => false

/-! ### The words of a window -/

/-- The words of a limit. -/
def limitWords (count : String) : Option Nat → List String
  | some offset => ["LIMIT", count, "OFFSET", toString offset]
  | none => ["LIMIT", count]

/-- The words of a fetch. -/
def fetchWords (offset : Nat) : Option Nat → List String
  | some count => ["OFFSET", toString offset, "ROWS", "FETCH", "NEXT", toString count, "ROWS", "ONLY"]
  | none => ["OFFSET", toString offset, "ROWS"]

/-- The words that a dialect has for a window with at least one number. -/
def windowWords (d : Dialect) (count offset : Option Nat) : List String :=
  match d with
  | mySql => limitWords (toString (count.getD (UInt64.size - 1))) offset
  | sqlite => limitWords (count.elim "-1" toString) offset
  | pgSql => count.elim ["OFFSET", toString (offset.getD 0)] fun count => limitWords (toString count) offset
  | oracle | sybase | msSql => fetchWords (offset.getD 0) count

theorem isWord_limitWords {count : String} (hcount : IsWord count) (offset : Option Nat) :
    ∀ w ∈ limitWords count offset, IsWord w := by
  have hlimit : IsWord "LIMIT" := by decide
  have hoffset : IsWord "OFFSET" := by decide
  have hnumber : ∀ n : Nat, IsWord n.repr := isWord_toString
  cases offset <;> simp [limitWords, hlimit, hcount, hoffset, hnumber]

theorem isWord_fetchWords (offset : Nat) (count : Option Nat) : ∀ w ∈ fetchWords offset count, IsWord w := by
  have hwords : ∀ w ∈ ["OFFSET", "ROWS", "FETCH", "NEXT", "ONLY"], IsWord w := by decide
  have hnumber : ∀ n : Nat, IsWord n.repr := isWord_toString
  simp only [List.forall_mem_cons] at hwords
  cases count <;> simp [fetchWords, hwords, hnumber]

theorem isWord_windowWords (d : Dialect) (count offset : Option Nat) : ∀ w ∈ d.windowWords count offset, IsWord w := by
  cases d with
  | mySql => exact isWord_limitWords (isWord_toString _) offset
  | sqlite =>
    cases count with
    | none => exact isWord_limitWords (show IsWord "-1" by decide) offset
    | some n => exact isWord_limitWords (isWord_toString n) offset
  | pgSql =>
    cases count with
    | none => exact List.forall_mem_cons.2 ⟨by decide, List.forall_mem_singleton.2 (isWord_toString _)⟩
    | some n => exact isWord_limitWords (isWord_toString n) offset
  | oracle => exact isWord_fetchWords _ _
  | sybase => exact isWord_fetchWords _ _
  | msSql => exact isWord_fetchWords _ _

theorem spaced_limitWords (count : String) (offset : Option Nat) :
    spaced (limitWords count offset) = " LIMIT " ++ count ++ offset.elim "" (" OFFSET " ++ toString ·) := by
  rw [← String.toList_inj]
  cases offset <;> simp [spaced, limitWords, String.join_cons]

theorem spaced_fetchWords (offset count : Option Nat) :
    spaced (fetchWords (offset.getD 0) count) = offsetFetch count offset := by
  rw [← String.toList_inj]
  cases count <;> simp [spaced, fetchWords, offsetFetch, String.join_cons]

theorem spaced_offsetWords (offset : Nat) : spaced ["OFFSET", toString offset] = " OFFSET " ++ toString offset := by
  rw [← String.toList_inj]
  simp [spaced, String.join_cons]

/-- A window is written in these words. -/
theorem limitClause_eq_spaced (d : Dialect) {count offset : Option Nat}
    (hany : count.isSome = true ∨ offset.isSome = true) :
    d.limitClause count offset true = spaced (d.windowWords count offset) := by
  cases d with
  | mySql =>
    rw [windowWords, spaced_limitWords]
    cases offset <;> rfl
  | sqlite =>
    rw [windowWords, spaced_limitWords]
    cases count with
    | none =>
      obtain ⟨m, rfl⟩ := Option.isSome_iff_exists.1 (hany.resolve_left (by simp))
      show " LIMIT -1 OFFSET " ++ toString m = " LIMIT " ++ "-1" ++ (" OFFSET " ++ toString m)
      rw [← String.append_assoc]
      rfl
    | some n => cases offset with
      | none => exact String.append_empty.symm
      | some m => exact String.append_assoc
  | pgSql =>
    cases count with
    | none =>
      obtain ⟨m, rfl⟩ := Option.isSome_iff_exists.1 (hany.resolve_left (by simp))
      exact (spaced_offsetWords m).symm
    | some n =>
      rw [windowWords, Option.elim_some, spaced_limitWords]
      cases offset with
      | none => exact String.append_empty.symm
      | some m => exact String.append_assoc
  | oracle => exact (spaced_fetchWords offset count).symm
  | sybase | msSql =>
    rw [windowWords, spaced_fetchWords]
    exact String.empty_append

/-- Where an order is needed and missing, a constant one is written; all else does not depend on it. -/
theorem limitClause_eq (d : Dialect) (count offset : Option Nat) (ordered : Bool) :
    d.limitClause count offset ordered =
      (if d.needsOrder && !ordered then " ORDER BY (SELECT 0)" else "") ++ d.limitClause count offset true := by
  cases d with
  | mySql | pgSql | sqlite | oracle => exact String.empty_append.symm
  | sybase | msSql =>
    -- the clause with an order has no text in front of the window
    show _ = _ ++ ("" ++ offsetFetch count offset)
    rw [String.empty_append]
    cases ordered <;> rfl

/-! ### Reading what was written -/

theorem readFetch?_fetchWords (offset : Nat) (count : Option Nat) :
    readFetch? (fetchWords offset count) = some ⟨count, offset⟩ := by
  cases count <;> simp only [readFetch?, fetchWords, number?_toString] <;> rfl

theorem readLimit?_limitWords {d : Dialect} {word : String} {count : Option Nat} (h : d.limit? word = some count)
    (offset : Option Nat) : d.readLimit? (limitWords word offset) = some ⟨count, offset.getD 0⟩ := by
  cases offset <;> simp only [readLimit?, limitWords, h, number?_toString] <;> rfl

/-- The largest number stands for none, and all others for themselves. -/
theorem limit?_mySql {count : Option Nat} (hcount : ∀ n ∈ count, n < UInt64.size - 1) :
    mySql.limit? (toString (count.getD (UInt64.size - 1))) = some count := by
  rw [limit?, number?_toString]
  cases count with
  | none => rfl
  | some n => exact congrArg some (if_neg (Nat.ne_of_lt (hcount n rfl)))

/-- A number has no sign, so it is not taken for none. -/
theorem limit?_sqlite (count : Option Nat) : sqlite.limit? (count.elim "-1" toString) = some count := by
  cases count with
  | none => rfl
  | some n =>
    have hne : toString n ≠ "-1" := by
      intro heq
      have hread := number?_toString n
      rw [heq, show number? "-1" = none by decide] at hread
      cases hread
    rw [Option.elim_some, limit?, if_neg hne, number?_toString]
    rfl

theorem readWindow?_windowWords (d : Dialect) {count : Option Nat} (hcount : ∀ n ∈ count, n < UInt64.size - 1)
    (offset : Option Nat) : d.readWindow? (d.windowWords count offset) = some ⟨count, offset.getD 0⟩ := by
  cases d with
  | mySql => exact readLimit?_limitWords (limit?_mySql hcount) offset
  | sqlite => exact readLimit?_limitWords (limit?_sqlite count) offset
  | pgSql =>
    cases count with
    | none =>
      simp only [readWindow?, windowWords, Option.elim_none, readLimit?, readOffset?, number?_toString]
      rfl
    | some n =>
      have hlimit : pgSql.limit? (toString n) = some (some n) := by
        rw [limit?, number?_toString]
        rfl
      rw [readWindow?, windowWords, Option.elim_some, readLimit?_limitWords hlimit offset, Option.some_or]
  | oracle => exact readFetch?_fetchWords _ _
  | sybase => exact readFetch?_fetchWords _ _
  | msSql => exact readFetch?_fetchWords _ _

/-- **A window is read as it was asked for**, if it has a number and no count that stands for none. -/
theorem rowRange?_limitClause (d : Dialect) {count offset : Option Nat}
    (hany : count.isSome = true ∨ offset.isSome = true) (hcount : ∀ n ∈ count, n < UInt64.size - 1) :
    d.rowRange? (d.limitClause count offset true) = some ⟨count, offset.getD 0⟩ := by
  rw [limitClause_eq_spaced d hany, rowRange?, words_spaced (isWord_windowWords d count offset)]
  exact readWindow?_windowWords d hcount offset

end Dialect

theorem Fragment.append_empty (f : Fragment) : f ++ {} = f := by
  show Fragment.mk (f.sql ++ "") (f.params ++ []) = f
  rw [String.append_empty, List.append_nil]

namespace Criteria
variable {c : Criteria} {a : Asked} {t : Target} {f : Fragment}

/-! ### The clauses of a query -/

/-- The criteria without order and window. -/
def unordered (c : Criteria) : Criteria := { c with orderBy := [], window := none }

/-- The order clauses of a query: the order that was asked for, or else the constant one where a window needs it. -/
def orderClauses (c : Criteria) (t : Target) : List String :=
  if !c.orderBy.isEmpty then [" ORDER BY " ++ ", ".intercalate (c.orderBy.map (orderText t))]
  else if t.dialect.needsOrder && c.window.isSome then [" ORDER BY " ++ "(SELECT 0)"]
  else []

/-- The window clause of a query without the order in front of it. -/
def suffix (c : Criteria) (d : Dialect) : String :=
  match c.window with
  | some w => d.limitClause w.count w.offset true
  | none => ""

theorem sql_orderClause (c : Criteria) (t : Target) (hordered : c.orderBy.isEmpty = false) :
    (listClause " ORDER BY " (c.orderBy.map (orderText t))).sql = String.join (c.orderClauses t) := by
  have hitems : (c.orderBy.map (orderText t)).isEmpty = false := by rw [List.isEmpty_map, hordered]
  simp [listClause, orderClauses, hordered, hitems, Fragment.raw, String.join_cons]

/-- The order and the window of a query, with the constant order between them counted to the order. -/
theorem sql_orderClause_windowClause (c : Criteria) (t : Target) :
    (listClause " ORDER BY " (c.orderBy.map (orderText t))).sql ++ (c.windowClause t).sql =
      String.join (c.orderClauses t) ++ c.suffix t.dialect := by
  cases hordered : c.orderBy.isEmpty with
  | false =>
    rw [c.sql_orderClause t hordered, windowClause, suffix, hordered]
    cases c.window <;> rfl
  | true =>
    have hnil := List.isEmpty_iff.1 hordered
    cases hwindow : c.window with
    | none => simp [windowClause, suffix, orderClauses, hnil, hwindow, listClause]
    | some w =>
      simp only [windowClause, suffix, orderClauses, hnil, hwindow, listClause]
      rw [Dialect.limitClause_eq]
      cases t.dialect.needsOrder <;> simp [Fragment.raw, String.join_cons]

theorem error_of_clauses (h : c.clauses t = .ok f) : c.error = none := by
  simp only [clauses, whereClause, bind_eq_ok] at h
  obtain ⟨_, ⟨_, hpredicate, -⟩, -⟩ := h
  exact (predicate_eq_ok.1 hpredicate).1

/-- Orders and window stand behind all else. -/
theorem clauses_eq_ok (h : c.clauses t = .ok f) : ∃ body, c.unordered.clauses t = .ok ⟨body, f.params⟩ ∧
    f.sql = body ++ String.join (c.orderClauses t) ++ c.suffix t.dialect := by
  simp only [clauses, bind_eq_ok, pure_eq_ok] at h
  obtain ⟨conditions, hconditions, having, hhaving, rfl⟩ := h
  have hwhere : c.unordered.whereClause t = .ok conditions := hconditions
  have hgroups : Condition.compileAll t.renderRaw .and c.unordered.having = .ok having := hhaving
  refine ⟨(conditions ++ listClause " GROUP BY " c.groupBy ++ clause " HAVING " having).sql, ?_, ?_⟩
  · simp only [clauses, hwhere, hgroups, bind_eq_ok, pure_eq_ok]
    refine ⟨_, rfl, _, rfl, ?_⟩
    have horder : listClause " ORDER BY " (c.unordered.orderBy.map (orderText t)) = {} := rfl
    have hwindow : c.unordered.windowClause t = {} := rfl
    rw [horder, hwindow, Fragment.append_empty, Fragment.append_empty, Fragment.params_append,
      params_windowClause, List.append_nil, Fragment.params_append, params_listClause, List.append_nil]
    rfl
  · simp only [Fragment.sql_append]
    rw [String.append_assoc, c.sql_orderClause_windowClause t, ← String.append_assoc]

theorem length_orderClauses (hm : c.Meets a) (herror : c.error = none) (t : Target) :
    (c.orderClauses t).length = if a.ordered || (t.dialect.needsOrder && a.window.isSome) then 1 else 0 := by
  rw [orderClauses, hm.ordered herror, hm.window]
  cases a.ordered <;> cases t.dialect.needsOrder && a.window.isSome <;> rfl

theorem prefix_of_mem_orderClauses {order : String} (h : order ∈ c.orderClauses t) :
    ∃ items, order = " ORDER BY " ++ items := by
  unfold orderClauses at h
  split at h
  · exact ⟨_, List.mem_singleton.1 h⟩
  · split at h
    · exact ⟨_, List.mem_singleton.1 h⟩
    · cases h

/-- What stands behind the order is read back as the window that was asked for. -/
theorem rowRange?_suffix (hm : c.Meets a) (herror : c.error = none) {w : Window} (hw : c.window = some w)
    (d : Dialect) : d.rowRange? (c.suffix d) = some ⟨a.count, a.offset.getD 0⟩ := by
  obtain ⟨rfl, hany⟩ := Asked.window_eq_some (hm.window.symm.trans hw)
  have hsmall : ∀ n ∈ a.count, n < UInt64.size - 1 := by
    intro n hn
    have hfits := (hm.fits herror).count n hn
    have hmax : Int64.maxValue.toInt < ((UInt64.size - 1 : Nat) : Int) := by decide
    omega
  rw [suffix, hw]
  exact d.rowRange?_limitClause hany hsmall

end Criteria
end SqlToolkit
