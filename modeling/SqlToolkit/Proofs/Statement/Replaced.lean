import Mathlib.Data.List.Nodup
import SqlToolkit.Proofs.Statement.Assignment
import SqlToolkit.Proofs.Statement.Binding
import SqlToolkit.Proofs.Statement.Named
import SqlToolkit.Proofs.Statement.Restricted

/-!
# What replacements do to a row

Replacements are made by calls, one pair of an old and a new value after the other, or read from a record, which stands
for such calls.  They hold each column once and its pairs in the order of the calls (`Replacements.Built.holds`).  The
statement assigns each of the columns by cases, so what it does to a row is read off its text: a column gets the new
value of the first call for it whose old value is known to be the value of the column, and all else stays
(`Statement.replaced`).  Nothing is known to be equal to null, so a pair whose old value is null applies to no row.
-/
namespace SqlToolkit
open Text Outcome Lexeme

namespace Replacements

/-- The pairs of a column in order. -/
def pairsIn (columns : List (String × List (Value × Value))) (column : String) : List (Value × Value) :=
  ((columns.find? fun entry => entry.1 == column).map Prod.snd).getD []

theorem pairsIn_cons (entry : String × List (Value × Value)) (columns : List (String × List (Value × Value)))
    (column : String) :
    pairsIn (entry :: columns) column = if entry.1 = column then entry.2 else pairsIn columns column := by
  by_cases h : entry.1 = column
  · rw [if_pos h, pairsIn, List.find?_cons_of_pos (by simpa using h)]
    rfl
  · rw [if_neg h, pairsIn, List.find?_cons_of_neg (by simpa using h)]
    rfl

/-- A column with an old and a new value. -/
abbrev Call := String × Value × Value

/-- Replaces what the call says. -/
def after (r : Replacements) (call : Call) : Replacements := r.replace call.1 call.2.1 call.2.2

/-- The calls that the entries of a record stand for: the pairs of each column, one column after the other. -/
inductive Lists : List (String × Document) → List Call → Prop
  | nil : Lists [] []
  | cons {column : String} {content : Document} {pairs : List (Value × Value)} {entries : List (String × Document)}
      {calls : List Call} : pairsOf content = .ok pairs → Lists entries calls →
      Lists ((column, content) :: entries) (pairs.map (fun pair => (column, pair)) ++ calls)

/-- Replacements as they can be made, with the calls in order: from nothing, by replacing values, or from a record. -/
inductive Built : List Call → Replacements → Prop
  | empty : Built [] {}
  | replace {calls : List Call} {r : Replacements} (column : String) (old new : Value) : Built calls r →
      Built (calls ++ [(column, old, new)]) (r.replace column old new)
  | document {entries : List (String × Document)} {calls : List Call} {r : Replacements} : Lists entries calls →
      ofDocument (.record entries) = .ok r → Built calls r

/-! ### One call -/

/-- What is kept about the columns and their pairs. -/
structure Holds (r : Replacements) (calls : List Call) : Prop where
  nodup : (r.columns.map Prod.fst).Nodup
  nonempty : ∀ entry ∈ r.columns, entry.2 ≠ []
  pairs_eq : ∀ column, pairsIn r.columns column = (calls.filter fun call => call.1 == column).map Prod.snd

theorem keys_addPair (column : String) (pair : Value × Value) (columns : List (String × List (Value × Value))) :
    (addPair column pair columns).map Prod.fst =
      if column ∈ columns.map Prod.fst then columns.map Prod.fst else columns.map Prod.fst ++ [column] := by
  induction columns with
  | nil => rfl
  | cons entry columns ih =>
    by_cases h : entry.1 = column
    · simp [addPair, h]
    · have h' : ¬ column = entry.1 := fun heq => h heq.symm
      simp only [addPair, h, if_false, List.map_cons, ih, List.mem_cons, h', false_or]
      split
      · rfl
      · rfl

theorem nonempty_addPair {column : String} {pair : Value × Value} {columns : List (String × List (Value × Value))}
    (h : ∀ entry ∈ columns, entry.2 ≠ []) : ∀ entry ∈ addPair column pair columns, entry.2 ≠ [] := by
  induction columns with
  | nil => simp [addPair]
  | cons entry columns ih =>
    obtain ⟨hentry, hcolumns⟩ := List.forall_mem_cons.1 h
    by_cases hsame : entry.1 = column
    · simp only [addPair, hsame, if_true]
      exact List.forall_mem_cons.2 ⟨by simp, hcolumns⟩
    · simp only [addPair, hsame, if_false]
      exact List.forall_mem_cons.2 ⟨hentry, ih hcolumns⟩

theorem pairsIn_addPair (column : String) (pair : Value × Value) (columns : List (String × List (Value × Value)))
    (other : String) :
    pairsIn (addPair column pair columns) other =
      if column = other then pairsIn columns other ++ [pair] else pairsIn columns other := by
  induction columns with
  | nil =>
    rw [addPair, pairsIn_cons]
    rfl
  | cons entry columns ih =>
    by_cases hsame : entry.1 = column
    · subst hsame
      rw [addPair, if_pos rfl, pairsIn_cons, pairsIn_cons]
      by_cases h : entry.1 = other
      · simp [h]
      · simp [h]
    · rw [addPair, if_neg hsame, pairsIn_cons, pairsIn_cons, ih]
      by_cases h : entry.1 = other
      · -- the entry is of the column that is asked for, so that is not the one that gets the pair
        have hother : ¬ column = other := fun heq => hsame (h.trans heq.symm)
        simp [h, hother]
      · simp [h]

/-- One more call is one more pair of its column. -/
theorem Holds.after {calls : List Call} {r : Replacements} (h : r.Holds calls) (call : Call) :
    (r.after call).Holds (calls ++ [call]) where
  nodup := by
    show ((addPair call.1 call.2 r.columns).map Prod.fst).Nodup
    rw [keys_addPair]
    split
    · exact h.nodup
    · next hnew => simpa using List.Nodup.concat hnew h.nodup
  nonempty := nonempty_addPair h.nonempty
  pairs_eq := by
    intro column
    show pairsIn (addPair call.1 call.2 r.columns) column = _
    rw [pairsIn_addPair, h.pairs_eq]
    by_cases hcolumn : call.1 = column
    · simp [hcolumn]
    · simp [hcolumn]

/-! ### Many calls -/

theorem Holds.foldl {calls : List Call} {r : Replacements} (h : r.Holds calls) (more : List Call) :
    (more.foldl Replacements.after r).Holds (calls ++ more) := by
  induction more generalizing calls r with
  | nil => simpa using h
  | cons call more ih =>
    have hnext := ih (h.after call)
    rwa [List.append_assoc, List.singleton_append] at hnext

/-- The replacements with those of one more entry of a record. -/
def withEntry (r : Replacements) (entry : String × Document) : Except CompileError Replacements := do
  let pairs ← pairsOf entry.2
  return pairs.foldl (fun (r : Replacements) pair => r.replace entry.1 pair.1 pair.2) r

/-- A record that is read gives what the calls give that it stands for. -/
theorem eq_foldl_of_lists {entries : List (String × Document)} {calls : List Call} (hlists : Lists entries calls)
    {r s : Replacements} (h : entries.foldlM withEntry r = .ok s) :
    s = calls.foldl Replacements.after r := by
  induction hlists generalizing r with
  | nil => exact (Except.ok.inj h).symm
  | @cons column content pairs entries calls hpairs _ ih =>
    rw [List.foldlM_cons] at h
    obtain ⟨next, hnext, h⟩ := bind_eq_ok.1 h
    obtain ⟨pairs', hpairs', hnext⟩ := bind_eq_ok.1 hnext
    obtain rfl := pure_eq_ok.1 hnext
    obtain rfl : pairs = pairs' := Except.ok.inj (hpairs.symm.trans hpairs')
    rw [ih h, List.foldl_append, List.foldl_map]
    rfl

/-- Every record that is read stands for calls. -/
theorem exists_lists {entries : List (String × Document)} {r s : Replacements}
    (h : entries.foldlM withEntry r = .ok s) :
    ∃ calls, Lists entries calls := by
  induction entries generalizing r with
  | nil => exact ⟨[], .nil⟩
  | cons entry entries ih =>
    rw [List.foldlM_cons] at h
    obtain ⟨next, hnext, h⟩ := bind_eq_ok.1 h
    obtain ⟨pairs, hpairs, -⟩ := bind_eq_ok.1 hnext
    obtain ⟨calls, hcalls⟩ := ih h
    exact ⟨_, .cons hpairs hcalls⟩

/-- Everything that is read from a document is built. -/
theorem exists_built {d : Document} {r : Replacements} (h : ofDocument d = .ok r) : ∃ calls, Built calls r := by
  cases d with
  | record entries =>
    obtain ⟨calls, hcalls⟩ := exists_lists h
    exact ⟨calls, .document hcalls h⟩
  | _ => cases h

/-- **Replacements hold the pairs of every column in the order of the calls.** -/
theorem Built.holds {calls : List Call} {r : Replacements} (h : Built calls r) : r.Holds calls := by
  have hempty : Holds {} [] := ⟨List.nodup_nil, by simp, fun _ => rfl⟩
  induction h with
  | empty => exact hempty
  | replace column old new _ ih => exact ih.after (column, old, new)
  | document hlists h =>
    rw [eq_foldl_of_lists hlists h]
    exact hempty.foldl _

end Replacements

/-! ### The text of a replacement -/

namespace Statement
variable {t : Target} {table : String}

/-- The branches of an assignment and its end. -/
def branches (column : String) : List (Value × Value) → Fragment
  | [] => (Fragment.raw "ELSE").spaced ((Fragment.raw column).spaced (.raw "END"))
  | pair :: pairs =>
    (Fragment.raw "WHEN").spaced (((Fragment.raw column).binary "=" (.value pair.1)).spaced
      ((Fragment.raw "THEN").spaced ((Fragment.value pair.2).spaced (branches column pairs))))

theorem reads_branches {column : String} (hcolumn : isColumn column = true) (pairs : List (Value × Value)) :
    (branches column pairs).Reads (Assignment.branchLexemes column pairs) := by
  have hword := Fragment.reads_column hcolumn
  induction pairs with
  | nil =>
    have helse : (Fragment.raw "ELSE").Reads [word "ELSE"] := rfl
    have hend : (Fragment.raw "END").Reads [word "END"] := rfl
    exact helse.spaced (hword.spaced hend)
  | cons pair pairs ih =>
    have hwhen : (Fragment.raw "WHEN").Reads [word "WHEN"] := rfl
    have hthen : (Fragment.raw "THEN").Reads [word "THEN"] := rfl
    have hop : (Fragment.raw "=").Reads [word "="] := rfl
    have htest := hword.binary hop (Fragment.reads_value pair.1)
    exact hwhen.spaced (htest.spaced (hthen.spaced ((Fragment.reads_value pair.2).spaced ih)))

theorem intercalate_empty_cons (text : String) (texts : List String) :
    "".intercalate (text :: texts) = text ++ "".intercalate texts := by
  cases texts with
  | nil => simp
  | cons next texts => simp [String.intercalate_cons_cons]

/-- The branches behind a space are written one after the other. -/
theorem sql_branches (column : String) (pairs : List (Value × Value)) :
    (Fragment.join (pairs.map (replaceBranch column)) "").sql ++ (" ELSE " ++ column ++ " END") =
      " " ++ (branches column pairs).sql := by
  simp only [Fragment.join, List.map_map]
  induction pairs with
  | nil =>
    rw [← String.toList_inj]
    simp [branches, Fragment.spaced, Fragment.raw]
  | cons pair pairs ih =>
    rw [← String.toList_inj] at ih ⊢
    rw [List.map_cons, intercalate_empty_cons, String.append_assoc, String.toList_append, ih]
    simp [branches, replaceBranch, Fragment.spaced, Fragment.raw, Fragment.value, Fragment.binary]

theorem params_branches (column : String) (pairs : List (Value × Value)) :
    (branches column pairs).params = pairs.flatMap boundPair := by
  induction pairs with
  | nil => rfl
  | cons pair pairs ih =>
    rw [List.flatMap_cons, ← ih]
    rfl

/-- **An assignment is read as the branches of its pairs.** -/
theorem reads_replaceAssignment {column : String} {pairs : List (Value × Value)} {f : Fragment}
    (h : replaceAssignment column pairs = .ok f) :
    isColumn column = true ∧ f.Reads (Assignment.lexemes column pairs) := by
  have hparams : f.params = (branches column pairs).params := by
    rw [params_branches, params_replaceAssignment h]
  unfold replaceAssignment at h
  obtain ⟨name, hname, hf⟩ := bind_eq_ok.1 h
  obtain ⟨heq, hcolumn⟩ := validateColumn_eq_ok.1 hname
  subst heq
  have hsql : f.sql = ((Fragment.raw name).binary "=" ((Fragment.raw "CASE").spaced (branches name pairs))).sql := by
    rw [← pure_eq_ok.1 hf, Fragment.sql_append, Fragment.sql_append, String.append_assoc]
    simp only [Fragment.raw, sql_branches]
    rw [← String.toList_inj]
    simp [Fragment.spaced, Fragment.binary]
  have hcase : (Fragment.raw "CASE").Reads [word "CASE"] := rfl
  have hop : (Fragment.raw "=").Reads [word "="] := rfl
  have hreads := (Fragment.reads_column hcolumn).binary hop (hcase.spaced (reads_branches hcolumn pairs))
  refine ⟨hcolumn, ?_⟩
  unfold Fragment.Reads at hreads ⊢
  rw [hsql, hparams]
  exact hreads

/-! ### The text of the statement -/

/-- The text behind the name of the table, whatever it is. -/
theorem setText?_update (t : Target) (table text : String) :
    setText? t.dialect.quotes ("UPDATE " ++ t.quoteTable table ++ " SET " ++ text) = some text.toList := by
  have hupdate : "UPDATE ".toList.isPrefixOf? ("UPDATE ".toList ++ ((t.quoteTable table).toList ++
      (" SET ".toList ++ text.toList))) = some ((t.quoteTable table).toList ++ (" SET ".toList ++ text.toList)) :=
    List.isPrefixOf?_eq_some_iff_append_eq.2 rfl
  have hset : " SET ".toList.isPrefixOf? (" SET ".toList ++ text.toList) = some text.toList :=
    List.isPrefixOf?_eq_some_iff_append_eq.2 rfl
  have hfree : Schema.Free t.dialect.quotes (" SET ".toList ++ text.toList) :=
    (quoting_quotes t.dialect).free_words (by decide) _
  unfold setText?
  simp only [String.toList_append, List.append_assoc]
  rw [hupdate, Option.bind_some]
  show (readQuoted _ ((wrap (t.tablePrefix ++ table) _ _).toList ++ _)).bind _ = _
  rw [readQuoted_wrap _ _ hfree.1, Option.bind_some, hset]

/-- Behind the assignments there is nothing, or there are conditions. -/
theorem exists_pour_conditions {set : Fragment} {ls : List (Lexeme Value)} (hset : set.Reads ls) {criteria : Criteria}
    {conditions : Fragment} (h : criteria.whereClause t = .ok conditions) :
    ∃ rest, pour (cut (set.sql ++ conditions.sql).toList) (set.params ++ conditions.params) = ls ++ rest ∧
      (rest = [] ∨ ∃ after, rest = word "WHERE" :: after) := by
  obtain ⟨predicate, -, hsome, hnone⟩ := Criteria.whereClause_eq_ok h
  by_cases hcompared : Condition.comparisonsAll criteria.conditions = []
  · obtain rfl := hnone hcompared
    have hpour := pour_append hset [] []
    refine ⟨[], ?_, .inl rfl⟩
    simpa [pour] using hpour
  · obtain ⟨-, rfl⟩ := hsome hcompared
    have hword : cut "WHERE".toList = [word "WHERE"] := by decide
    have htext : (set.sql ++ (Fragment.raw " WHERE " ++ predicate).sql).toList =
        set.sql.toList ++ ' ' :: ("WHERE".toList ++ ' ' :: predicate.sql.toList) := by
      simp [Fragment.raw]
    -- the predicate may be raw text, so nothing is said of its lexemes
    refine ⟨word "WHERE" :: pour (cut predicate.sql.toList) predicate.params, ?_, .inr ⟨_, rfl⟩⟩
    rw [htext, cut_space, cut_space, hword]
    exact pour_append hset _ _

/-- The parts of a replacement: an assignment for each column, and the conditions. -/
theorem exists_of_replace {r : Replacements} (hnonempty : ∀ entry ∈ r.columns, entry.2 ≠ []) {criteria : Criteria}
    {s : Statement} (h : replace t table r criteria = .ok s) :
    r.columns ≠ [] ∧ ∃ assignments conditions,
      List.Forall₂ (fun entry f => replaceAssignment entry.1 entry.2 = .ok f) r.columns assignments ∧
      criteria.whereClause t = .ok conditions ∧
      s = ⟨"UPDATE " ++ t.quoteTable table ++ " SET " ++ ((Fragment.join assignments ", ").sql ++ conditions.sql),
        (Fragment.join assignments ", ").params ++ conditions.params⟩ := by
  -- no column is without pairs, so none is left out
  have hall : r.columns.filter (fun entry => !entry.2.isEmpty) = r.columns := by
    rw [List.filter_eq_self]
    intro entry hentry
    simpa using hnonempty entry hentry
  unfold replace at h
  split at h
  · cases h
  · next hempty =>
    refine ⟨fun hcolumns => hempty (by simp [Replacements.isEmpty, hcolumns]), ?_⟩
    obtain ⟨assignments, hassignments, h⟩ := bind_eq_ok.1 h
    obtain ⟨conditions, hconditions, h⟩ := bind_eq_ok.1 h
    obtain rfl := pure_eq_ok.1 h
    rw [hall] at hassignments
    refine ⟨assignments, conditions, mapM_eq_ok_iff.1 hassignments, hconditions, ?_⟩
    simp [ofFragment, Fragment.raw, String.append_assoc]

/-- **A replacement is read as the mappings of its columns.** -/
theorem updated?_replace {r : Replacements} (hnonempty : ∀ entry ∈ r.columns, entry.2 ≠ []) {criteria : Criteria}
    {s : Statement} (h : replace t table r criteria = .ok s) (db : Comparisons) (row : String → Value) :
    s.updated? t.dialect.quotes db row =
      Assignment.assigned? db row (r.columns.map fun entry => Assignment.mapping entry.1 entry.2) := by
  obtain ⟨hne, assignments, conditions, hassignments, hconditions, rfl⟩ := exists_of_replace hnonempty h
  have hcolumns : ∀ entry ∈ r.columns, isColumn entry.1 = true :=
    forall_right hassignments.flip fun f _ entry hf => (reads_replaceAssignment hf).1
  have hreads : List.Forall₂ Fragment.Reads assignments
      (r.columns.map fun entry => Assignment.lexemes entry.1 entry.2) := by
    rw [List.forall₂_map_right_iff]
    exact hassignments.flip.imp fun f entry hf => (reads_replaceAssignment hf).2
  obtain ⟨rest, hpour, hrest⟩ := exists_pour_conditions (Fragment.reads_commas hreads) hconditions
  unfold updated?
  rw [setText?_update, Option.bind_some]
  simp only [hpour]
  rw [Assignment.readAll_commas hne hcolumns hnonempty hrest (by simp), Option.bind_some]

/-! ### The row that comes of it -/

/-- The row in which each column has the new value of the first call for it whose old value is known to be its value. -/
def replaced (db : Comparisons) (calls : List Replacements.Call) (row : String → Value) (column : String) : Value :=
  match calls.find? fun call => call.1 == column && db.same (row column) call.2.1.coerce with
  | some call => call.2.2.coerce
  | none => row column

/-- The first pair of the column and the first call for it are one. -/
theorem replaced_eq {calls : List Replacements.Call} {r : Replacements} (h : r.Holds calls) (db : Comparisons)
    (row : String → Value) (column : String) :
    replaced db calls row column =
      match (Replacements.pairsIn r.columns column).find? fun pair => db.same (row column) pair.1.coerce with
      | some pair => pair.2.coerce
      | none => row column := by
  have hfind : (calls.find? fun call => call.1 == column && db.same (row column) call.2.1.coerce).map Prod.snd =
      (Replacements.pairsIn r.columns column).find? fun pair => db.same (row column) pair.1.coerce := by
    rw [h.pairs_eq, List.find?_map, List.find?_filter]
    simp only [Function.comp_apply, Bool.decide_and, Bool.decide_eq_true]
  rw [replaced, ← hfind]
  cases calls.find? fun call => call.1 == column && db.same (row column) call.2.1.coerce with
  | none => rfl
  | some call => rfl

/-- The mappings of the columns make the row of the calls. -/
theorem assigned?_mapping {calls : List Replacements.Call} {r : Replacements} (h : r.Holds calls) (db : Comparisons)
    (row : String → Value) :
    Assignment.assigned? db row (r.columns.map fun entry => Assignment.mapping entry.1 entry.2) =
      some (replaced db calls row) := by
  have htargets : (r.columns.map fun entry => Assignment.mapping entry.1 entry.2).map Assignment.target =
      r.columns.map Prod.fst := by
    rw [List.map_map]
    rfl
  unfold Assignment.assigned?
  rw [htargets, if_pos h.nodup]
  congr 1
  funext column
  have hfind : ((r.columns.map fun entry => Assignment.mapping entry.1 entry.2).find? fun a => a.target == column) =
      (r.columns.find? fun entry => entry.1 == column).map fun entry => Assignment.mapping entry.1 entry.2 := by
    rw [List.find?_map]
    rfl
  rw [replaced_eq h, hfind, Replacements.pairsIn]
  cases hentry : r.columns.find? fun entry => entry.1 == column with
  | none => rfl
  | some entry =>
    obtain rfl : entry.1 = column := by simpa using List.find?_some hentry
    exact Assignment.value_mapping db row entry.1 entry.2

/-- **A replacement gives each column the new value of its first pair that applies, and touches nothing else.**  Its
assignments are read off the text of the statement, with any conditions behind them, and all of them see the row as it
was.  A null value is never known to be an old value: it is kept. -/
theorem replace_maps_first (t : Target) (table : String) (criteria : Criteria) {calls : List Replacements.Call}
    {r : Replacements} (hbuilt : Replacements.Built calls r) {s : Statement} (h : replace t table r criteria = .ok s)
    (db : Comparisons) (row : String → Value) :
    s.updated? t.dialect.quotes db row = some (replaced db calls row) ∧
      ∀ column, (row column).isNull = true → replaced db calls row column = row column := by
  have hholds := hbuilt.holds
  refine ⟨?_, fun column hnull => ?_⟩
  · rw [updated?_replace hholds.nonempty h, assigned?_mapping hholds]
  · have hnone : (calls.find? fun call => call.1 == column && db.same (row column) call.2.1.coerce) = none := by
      rw [List.find?_eq_none]
      intro call _
      simp [Comparisons.same, hnull]
    rw [replaced, hnone]

/-- Two pairs of one column do not chain, although another column comes between them. -/
theorem replace_maps_first_chain :
    let t : Target := ⟨.sqlite, ""⟩
    let calls : List Replacements.Call :=
      [("a", .int 1, .int 2), ("b", .text "x", .text "y"), ("a", .int 2, .int 3)]
    let r := ((Replacements.replace {} "a" (.int 1) (.int 2)).replace "b" (.text "x") (.text "y")).replace "a" (.int 2)
      (.int 3)
    let criteria := ({} : Criteria).condition (.compare "c" (some .like) (.raw ⟨"'?'"⟩))
    let s : Statement :=
      ⟨"UPDATE `t` SET a = CASE WHEN a = ? THEN ? WHEN a = ? THEN ? ELSE a END, " ++
        "b = CASE WHEN b = ? THEN ? ELSE b END WHERE c LIKE '?'", [.int 1, .int 2, .int 2, .int 3, .text "x", .text "y"]⟩
    let db : Comparisons := fun _ x y => x == y
    let row (column : String) : Value := if column = "a" then .int 1 else .text column
    Replacements.Built calls r ∧ replace t "t" r criteria = .ok s ∧
      ∃ row', s.updated? t.dialect.quotes db row = some row' ∧ row' "a" = .int 2 ∧ row' "b" = .text "b" ∧
        row' "c" = .text "c" := by
  intro t calls r criteria s db row
  have hbuilt : Replacements.Built calls r := .replace "a" _ _ (.replace "b" _ _ (.replace "a" _ _ .empty))
  have hs : replace t "t" r criteria = .ok s := by decide +kernel
  exact ⟨hbuilt, hs, _, (replace_maps_first t "t" criteria hbuilt hs db row).1, rfl, rfl, rfl⟩

/-- Null is to be replaced by one, and the column is null: nothing is replaced. -/
theorem replace_misses_null :
    let t : Target := ⟨.sqlite, ""⟩
    let r := Replacements.replace {} "a" .null (.int 1)
    let s : Statement := ⟨"UPDATE `t` SET a = CASE WHEN a = ? THEN ? ELSE a END", [.null, .int 1]⟩
    let db : Comparisons := fun _ x y => x == y
    Replacements.Built [("a", .null, .int 1)] r ∧ replace t "t" r {} = .ok s ∧
      (s.updated? t.dialect.quotes db fun _ => .null).map (fun row => row "a") = some .null := by
  intro t r s db
  refine ⟨.replace "a" _ _ .empty, ?_, ?_⟩
  · decide +kernel
  · decide +kernel

end Statement
end SqlToolkit
