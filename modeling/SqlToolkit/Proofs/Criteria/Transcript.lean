import SqlToolkit.Criteria.Document
import SqlToolkit.Proofs.Criteria.Step

/-!
# Records of criteria and the steps they stand for

A record gives criteria at once and stops at the first entry that is malformed; steps give criteria one after another
and go on.  Each shape that an entry may have stands for certain steps (`StepOf`, `ClauseOf`), and a record for the
steps of its entries in order (`Transcript`).  What is shown here is that both ways lead to the same criteria, or to the
same cause: the cause that stops the record is the first one that the steps leave behind, since nested entries are read
where nested criteria are taken over.
-/
namespace SqlToolkit
open Outcome

/-! ### The steps of an entry -/

mutual

/-- The step that an entry of a tree of conditions stands for. -/
inductive StepOf : String → Document → BuildStep → Prop
  | scalar (key : String) {d : Document} : d.asList = none → d.asRecord = none →
      StepOf key d (.field key (.value (.ofDocument d)))
  | list (key : String) (items : List Document) :
      StepOf key (.list items) (.field key (.list (items.map Value.ofDocument)))
  | group {key : String} {logic : Logic} {entries : List (String × Document)} {nested : List BuildStep} :
      Logic.ofKey? key = some logic → StepsOf entries nested → StepOf key (.record entries) (.group logic nested)

/-- The steps of the entries of a tree of conditions, in order. -/
inductive StepsOf : List (String × Document) → List BuildStep → Prop
  | nil : StepsOf [] []
  | cons {key : String} {d : Document} {step : BuildStep} {entries : List (String × Document)}
      {steps : List BuildStep} :
      StepOf key d step → StepsOf entries steps → StepsOf ((key, d) :: entries) (step :: steps)

end

/-- The keys that name a clause. -/
def clauseKeys : List String := ["ORDER", "LIMIT", "GROUP", "HAVING"]

/-- The word for a direction. -/
def Direction.word : Direction → String
  | .ascending => "ASC"
  | .descending => "DESC"

/-- A text is the word for a direction, in any case. -/
def Direction.Spells (direction : Direction) (text : String) : Prop :=
  text.toList.map Char.toUpper = direction.word.toList

/-- A column of an ordering with the text of its direction. -/
structure Ordered where
  column : String
  text : String
  direction : Direction
  spells : direction.Spells text

/-- The steps that an entry of a record of criteria stands for. -/
inductive ClauseOf : String → Document → List BuildStep → Prop
  | condition {key : String} {d : Document} {step : BuildStep} : key ∉ clauseKeys → StepOf key d step →
      ClauseOf key d [step]
  | groupBy (column : String) : ClauseOf "GROUP" (.text column) [.groupBy column]
  | groupByAll (columns : List String) : ClauseOf "GROUP" (.list (columns.map .text)) (columns.map .groupBy)
  | having {entries : List (String × Document)} {nested : List BuildStep} : StepsOf entries nested →
      ClauseOf "HAVING" (.record entries) [.having nested]
  | order (columns : List Ordered) :
      ClauseOf "ORDER" (.record (columns.map fun o => (o.column, .text o.text)))
        (columns.map fun o => .order o.column o.direction)
  | limit (count : Nat) : ClauseOf "LIMIT" (.integer count) [.limit count]
  | window (offset count : Nat) :
      ClauseOf "LIMIT" (.list [.integer offset, .integer count]) [.limit count, .skip offset]

/-- The steps that a record of criteria stands for, in the order of its entries. -/
inductive Transcript : List (String × Document) → List BuildStep → Prop
  | nil : Transcript [] []
  | cons {key : String} {d : Document} {steps more : List BuildStep} {entries : List (String × Document)} :
      ClauseOf key d steps → Transcript entries more → Transcript ((key, d) :: entries) (steps ++ more)

/-! ### Conditions -/

namespace Condition

/-- What is no record is the operand of its key, whether the key is one of a group or not. -/
theorem ofDocument_eq_parse {key : String} {d : Document} {operand : Operand} (hd : d.asRecord = none)
    (hoperand : Operand.ofDocument key d = .ok operand) : ofDocument key d = parse key operand := by
  have hnone : ∀ entries, d = .record entries → False := by
    rintro entries rfl
    cases hd
  rw [ofDocument, hoperand]
  · cases hlogic : Logic.ofKey? key with
    | none => rfl
    | some logic =>
      -- under the key of a group both refuse what is no record, whatever the operand
      rw [parse, hlogic]
      rfl
  · exact hnone

end Condition

/-- A step adds the conditions that were read, or it is malformed for the cause for which none were. -/
structure BuildStep.Adds (x : Outcome Condition) (step : BuildStep) : Prop where
  faults : step.faults.head? = failure? x
  apply : ∀ added, x = .ok added → ∀ c, step.apply c = c.condition added

/-- Several steps add the conditions that were read, or one of them is malformed for the cause for which none were. -/
structure BuildStep.AddsAll (x : Outcome (List Condition)) (steps : List BuildStep) : Prop where
  faults : (faultsAll steps).head? = failure? x
  apply : ∀ added, x = .ok added → ∀ c, applyAll steps c = { c with conditions := c.conditions ++ added }

namespace BuildStep

theorem adds_field {key : String} {d : Document} {operand : Operand} (hd : d.asRecord = none)
    (hoperand : Operand.ofDocument key d = .ok operand) : Adds (Condition.ofDocument key d) (.field key operand) := by
  rw [Condition.ofDocument_eq_parse hd hoperand]
  refine ⟨Option.head?_toList, fun added hadded c => ?_⟩
  show c.field key operand = _
  rw [Criteria.field, hadded]
  rfl

mutual

/-- The step of an entry adds the condition that the entry is read as. -/
theorem adds_stepOf {key : String} {d : Document} {step : BuildStep} (h : StepOf key d step) :
    Adds (Condition.ofDocument key d) step := by
  match h with
  | .scalar _ hlist hrecord =>
    refine adds_field hrecord ?_
    cases d with
    | list items => cases hlist
    | record entries => cases hrecord
    | _ => rfl
  | .list _ items => exact adds_field rfl rfl
  | .group hlogic hnested =>
    have hall := addsAll_stepsOf hnested
    rw [Condition.ofDocument, hlogic]
    refine ⟨?_, fun added hadded c => ?_⟩
    · exact hall.faults.trans (failure?_bind_pure _ _).symm
    · obtain ⟨children, hchildren, hadded⟩ := bind_eq_ok.1 hadded
      obtain rfl := pure_eq_ok.1 hadded
      show c.group _ (applyAll _ {}) = _
      rw [hall.apply children hchildren {}]
      show ({ c with error := c.error.or none } : Criteria).condition _ = _
      rw [Option.or_none]
      rfl

theorem addsAll_stepsOf {entries : List (String × Document)} {steps : List BuildStep} (h : StepsOf entries steps) :
    AddsAll (Condition.ofEntries entries) steps := by
  match h with
  | .nil =>
    refine ⟨rfl, fun added hadded c => ?_⟩
    obtain rfl := Except.ok.inj hadded
    show c = { c with conditions := c.conditions ++ [] }
    rw [List.append_nil]
  | .cons hstep hsteps =>
    have hone := adds_stepOf hstep
    have hall := addsAll_stepsOf hsteps
    rw [Condition.ofEntries]
    refine ⟨?_, fun added hadded c => ?_⟩
    · rw [faultsAll, List.head?_append, hone.faults, hall.faults]
      exact (failure?_both _ _ _).symm
    · obtain ⟨first, hfirst, hadded⟩ := bind_eq_ok.1 hadded
      obtain ⟨others, hothers, hadded⟩ := bind_eq_ok.1 hadded
      obtain rfl := pure_eq_ok.1 hadded
      rw [applyAll, hone.apply first hfirst, hall.apply others hothers]
      simp [Criteria.condition]

end

end BuildStep

/-! ### Clauses -/

namespace Criteria

/-- Criteria without a recorded cause, or the cause. -/
def settled (c : Criteria) : Outcome Criteria :=
  match c.error with
  | none => .ok c
  | some cause => .error cause

theorem settled_of_ok {c : Criteria} (h : c.error = none) : c.settled = .ok c := by
  rw [settled, h]

theorem settled_of_error {c : Criteria} {cause : CompileError} (h : c.error = some cause) :
    c.settled = .error cause := by
  rw [settled, h]

/-- The first malformed step decides. -/
theorem settled_of_fault {c : Criteria} (hc : c.error = none) {steps : List BuildStep} {cause : CompileError}
    (h : (BuildStep.faultsAll steps).head? = some cause) : (BuildStep.applyAll steps c).settled = .error cause := by
  refine settled_of_error ?_
  rw [BuildStep.error_applyAll, hc, h]
  rfl

/-- Steps that add what passes a check, and are malformed for the cause for which it is not passed, amount to the check
followed by the addition. -/
theorem settled_once {α : Type} (x : Outcome α) {c : Criteria} (hc : c.error = none) {add : α → Criteria}
    (herror : ∀ a, (add a).error = c.error) {steps : List BuildStep}
    (hfaults : (BuildStep.faultsAll steps).head? = failure? x)
    (hok : ∀ a, x = .ok a → BuildStep.applyAll steps c = add a) :
    (x >>= fun a => pure (add a)) = (BuildStep.applyAll steps c).settled := by
  cases hx : x with
  | error cause => exact (settled_of_fault hc (hfaults.trans (by rw [hx]; rfl))).symm
  | ok a =>
    rw [hok a hx]
    exact (settled_of_ok ((herror a).trans hc)).symm

/-- Steps that each add what passes their check amount to one check of all, followed by one addition. -/
theorem settled_each {α β : Type} (check : α → Outcome β) (step : α → BuildStep) (add : List β → Criteria → Criteria)
    (hnil : ∀ c, add [] c = c) (hcons : ∀ b bs c, add bs (add [b] c) = add (b :: bs) c)
    (herror : ∀ bs c, (add bs c).error = c.error) {xs : List α}
    (hok : ∀ x ∈ xs, ∀ b, check x = .ok b → ∀ c, (step x).apply c = add [b] c)
    (hfaults : ∀ x ∈ xs, (step x).faults.head? = failure? (check x)) {c : Criteria} (hc : c.error = none) :
    (xs.mapM check >>= fun bs => pure (add bs c)) = (BuildStep.applyAll (xs.map step) c).settled := by
  induction xs generalizing c with
  | nil =>
    rw [List.mapM_nil, List.map_nil, BuildStep.applyAll, settled_of_ok hc]
    exact congrArg Except.ok (hnil c)
  | cons x xs ih =>
    obtain ⟨hx, hxs⟩ := List.forall_mem_cons.1 hok
    obtain ⟨hfault, hfaults⟩ := List.forall_mem_cons.1 hfaults
    rw [List.mapM_cons, List.map_cons]
    -- the members before this one have passed, so a failure here is the first on both sides
    cases hcheck : check x with
    | error cause =>
      have hfirst : (BuildStep.faultsAll (step x :: xs.map step)).head? = some cause := by
        rw [BuildStep.faultsAll, List.head?_append, hfault, hcheck]
        rfl
      exact (settled_of_fault hc hfirst).symm
    | ok b =>
      have hadded : (add [b] c).error = none := (herror [b] c).trans hc
      rw [BuildStep.applyAll, hx b hcheck c, ← ih hxs hfaults hadded]
      cases xs.mapM check with
      | error cause => rfl
      | ok bs => exact congrArg Except.ok (hcons b bs c).symm

theorem settled_groupBy (columns : List String) {c : Criteria} (hc : c.error = none) :
    (columns.mapM validateColumn >>= fun names => pure { c with groupBy := c.groupBy ++ names }) =
      (BuildStep.applyAll (columns.map .groupBy) c).settled := by
  refine settled_each validateColumn .groupBy (fun names c => { c with groupBy := c.groupBy ++ names }) (fun c => ?_)
    (fun b bs c => ?_) (fun _ _ => rfl) (fun column _ name hname c => ?_) (fun column _ => Option.head?_toList) hc
  · simp
  · simp
  · show c.groupByColumn column = _
    rw [groupByColumn, hname]

/-- The item of an ordering for a column and its direction. -/
def itemOf (o : Ordered) : Outcome OrderItem := do
  let name ← validateColumn o.column
  return .column name (some o.direction)

theorem settled_order (columns : List Ordered) {c : Criteria} (hc : c.error = none) :
    (columns.mapM itemOf >>= fun items => pure { c with orderBy := c.orderBy ++ items }) =
      (BuildStep.applyAll (columns.map fun o => .order o.column o.direction) c).settled := by
  refine settled_each itemOf (fun o => .order o.column o.direction)
    (fun items c => { c with orderBy := c.orderBy ++ items }) (fun c => ?_) (fun b bs c => ?_)
    (fun _ _ => rfl) (fun o _ item hitem c => ?_) (fun o _ => ?_) hc
  · simp
  · simp
  · obtain ⟨name, hname, hitem⟩ := bind_eq_ok.1 hitem
    obtain rfl := pure_eq_ok.1 hitem
    show c.orderByColumn o.column (some o.direction) = _
    rw [orderByColumn, hname]
  · exact Option.head?_toList.trans (failure?_bind_pure _ _).symm

theorem directionOf_spelled (o : Ordered) : directionOf o.column (.text o.text) = .ok o.direction := by
  have hspells := o.spells
  unfold Direction.Spells at hspells
  simp only [directionOf, Document.asText, Option.map_some, hspells]
  cases o.direction <;> rfl

theorem textsOf_texts (what : String) (texts : List String) : textsOf what (.list (texts.map .text)) = .ok texts := by
  rw [textsOf, List.mapM_map]
  exact mapM_eq_ok_iff.2 (List.forall₂_same.2 fun _ _ => rfl)

theorem orderOf_columns (columns : List Ordered) :
    orderOf (.record (columns.map fun o => (o.column, .text o.text))) = columns.mapM itemOf := by
  rw [orderOf, List.mapM_map]
  congr 1
  funext o
  show (directionOf o.column (.text o.text) >>= _) = _
  rw [directionOf_spelled]
  rfl

theorem checkRowCount_eq_ok {n m : Nat} (h : checkRowCount n = .ok m) : m = n := by
  unfold checkRowCount at h
  split at h
  · exact (Except.ok.inj h).symm
  · cases h

theorem checkCount_of_ok {n m : Nat} (h : checkRowCount n = .ok m) (c : Criteria) : c.checkCount n = c := by
  rw [checkCount, h]

theorem rowCountOf_integer (n : Nat) : rowCountOf (.integer n) = checkRowCount n := by
  simp [rowCountOf, Document.asNatural]

theorem settled_limit (count : Nat) {c : Criteria} (hc : c.error = none) (hwindow : c.window = none) :
    (windowOf (.integer count) >>= fun w => pure { c with window := some w }) =
      (BuildStep.applyAll [.limit count] c).settled := by
  have hread : windowOf (.integer count) = checkRowCount count >>= fun n => pure ⟨some n, none⟩ := by
    rw [windowOf, rowCountOf_integer]
  rw [hread]
  refine settled_once _ hc ?_ ?_ fun w hw => ?_
  · exact fun _ => rfl
  · rw [failure?_bind_pure, BuildStep.faultsAll, BuildStep.faultsAll, List.append_nil]
    exact Option.head?_toList
  · obtain ⟨n, hcount, hw⟩ := bind_eq_ok.1 hw
    obtain rfl := pure_eq_ok.1 hw
    obtain rfl := checkRowCount_eq_ok hcount
    show c.limit n = _
    rw [limit, checkCount_of_ok hcount, hwindow]
    rfl

/-- The count of a window is checked before its offset, and its limit is set before its offset. -/
theorem settled_window (offset count : Nat) {c : Criteria} (hc : c.error = none) :
    (windowOf (.list [.integer offset, .integer count]) >>= fun w => pure { c with window := some w }) =
      (BuildStep.applyAll [.limit count, .skip offset] c).settled := by
  have hread : windowOf (.list [.integer offset, .integer count]) =
      checkRowCount count >>= fun n => checkRowCount offset >>= fun m => pure ⟨some n, some m⟩ := by
    rw [windowOf, rowCountOf_integer, rowCountOf_integer]
  rw [hread]
  refine settled_once _ hc ?_ ?_ fun w hw => ?_
  · exact fun _ => rfl
  · rw [failure?_both, BuildStep.faultsAll, BuildStep.faultsAll, BuildStep.faultsAll, List.append_nil,
      List.head?_append]
    simp only [BuildStep.faults, Option.head?_toList]
  · obtain ⟨n, hcount, hw⟩ := bind_eq_ok.1 hw
    obtain ⟨m, hoffset, hw⟩ := bind_eq_ok.1 hw
    obtain rfl := pure_eq_ok.1 hw
    obtain rfl := checkRowCount_eq_ok hcount
    obtain rfl := checkRowCount_eq_ok hoffset
    show (c.limit n).skip m = _
    rw [limit, checkCount_of_ok hcount, skip, checkCount_of_ok hoffset]
    rfl

theorem settled_having {entries : List (String × Document)} {nested : List BuildStep} (h : StepsOf entries nested)
    {c : Criteria} (hc : c.error = none) :
    (Condition.ofEntries entries >>= fun conditions => pure { c with having := c.having ++ conditions }) =
      (BuildStep.applyAll [.having nested] c).settled := by
  have hall := BuildStep.addsAll_stepsOf h
  refine settled_once _ hc ?_ ?_ fun conditions hread => ?_
  · exact fun _ => rfl
  · rw [BuildStep.faultsAll, BuildStep.faultsAll, List.append_nil]
    exact hall.faults
  · show c.havingAll (BuildStep.applyAll nested {}) = _
    rw [hall.apply conditions hread {}]
    show ({ c with error := c.error.or none, having := _ } : Criteria) = _
    rw [Option.or_none]
    rfl

theorem settled_condition {key : String} {d : Document} {step : BuildStep} (h : StepOf key d step) {c : Criteria}
    (hc : c.error = none) :
    (Condition.ofDocument key d >>= fun added => pure { c with conditions := c.conditions ++ [added] }) =
      (BuildStep.applyAll [step] c).settled := by
  have hone := BuildStep.adds_stepOf h
  refine settled_once _ hc ?_ ?_ fun added hread => ?_
  · exact fun _ => rfl
  · rw [BuildStep.faultsAll, BuildStep.faultsAll, List.append_nil]
    exact hone.faults
  · exact hone.apply added hread c

/-! ### Records -/

/-- An entry adds what its steps add; a limit keeps the offset that is there already, where an entry takes none. -/
theorem addEntry_eq {key : String} {d : Document} {steps : List BuildStep} (h : ClauseOf key d steps) {c : Criteria}
    (hc : c.error = none) (hwindow : key = "LIMIT" → c.window = none) :
    c.addEntry key d = (BuildStep.applyAll steps c).settled := by
  cases h with
  | condition hkey hstep =>
    rw [← settled_condition hstep hc]
    simp only [clauseKeys, List.mem_cons, List.not_mem_nil, or_false, not_or] at hkey
    obtain ⟨horder, hlimit, hgroup, hhaving⟩ := hkey
    unfold addEntry
    split
    · exact absurd rfl horder
    · exact absurd rfl hlimit
    · exact absurd rfl hgroup
    · exact absurd rfl hhaving
    · rfl
  | groupBy column => exact settled_groupBy [column] hc
  | groupByAll columns =>
    rw [← settled_groupBy columns hc]
    show (textsOf "GROUP" (.list (columns.map .text)) >>= _) = _
    rw [textsOf_texts]
    rfl
  | having hnested => exact settled_having hnested hc
  | order columns =>
    rw [← settled_order columns hc, ← orderOf_columns]
    rfl
  | limit count => exact settled_limit count hc (hwindow rfl)
  | window offset count => exact settled_window offset count hc

/-- Only the entry for it sets the window. -/
theorem window_addEntry {c next : Criteria} {key : String} {d : Document} (h : c.addEntry key d = .ok next)
    (hkey : key ≠ "LIMIT") : next.window = c.window := by
  unfold addEntry at h
  split at h <;> simp only [bind_eq_ok, pure_eq_ok] at h
  · obtain ⟨items, -, rfl⟩ := h
    rfl
  · exact absurd rfl hkey
  · obtain ⟨columns, -, names, -, rfl⟩ := h
    rfl
  · obtain ⟨entries, -, conditions, -, rfl⟩ := h
    rfl
  · obtain ⟨condition, -, rfl⟩ := h
    rfl

/-- A record of distinct keys adds what its steps add. -/
theorem foldlM_addEntry {entries : List (String × Document)} {steps : List BuildStep} (h : Transcript entries steps)
    (hkeys : (entries.map Prod.fst).Nodup) {c : Criteria} (hc : c.error = none)
    (hwindow : "LIMIT" ∈ entries.map Prod.fst → c.window = none) :
    entries.foldlM (fun c entry => c.addEntry entry.1 entry.2) c = (BuildStep.applyAll steps c).settled := by
  induction h generalizing c with
  | nil => exact (settled_of_ok hc).symm
  | @cons key d steps more entries hclause _ ih =>
    obtain ⟨hfresh, hkeys⟩ := List.nodup_cons.1 hkeys
    have hentry := addEntry_eq hclause hc fun hkey => hwindow (hkey ▸ List.mem_cons_self)
    rw [List.foldlM_cons, BuildStep.applyAll_append]
    -- the reader stops at a malformed entry; the steps go on, but keep its cause
    cases hfault : (BuildStep.applyAll steps c).error with
    | some cause =>
      have hrest : (BuildStep.applyAll more (BuildStep.applyAll steps c)).error = some cause := by
        rw [BuildStep.error_applyAll, hfault]
        rfl
      rw [hentry, settled_of_error hfault, settled_of_error hrest]
      rfl
    | none =>
      rw [settled_of_ok hfault] at hentry
      rw [hentry]
      refine ih hkeys hfault fun hlimit => ?_
      have hkey : key ≠ "LIMIT" := fun hkey => hfresh (hkey ▸ hlimit)
      rw [window_addEntry hentry hkey]
      exact hwindow (List.mem_cons_of_mem _ hlimit)

/-- **A record and its steps agree.**  The record is read exactly when the steps leave no cause behind, and then both
give the same criteria; else the record fails for the very cause that compiling the criteria of the steps reports. -/
theorem ofDocument_agrees {entries : List (String × Document)} {steps : List BuildStep} (h : Transcript entries steps)
    (hkeys : (entries.map Prod.fst).Nodup) :
    ((∃ c, ofDocument (.record entries) = .ok c) ↔ (ofSteps steps).error = none) ∧
      ((ofSteps steps).error = none → ofDocument (.record entries) = .ok (ofSteps steps)) ∧
      ((ofSteps steps).error ≠ none → ∃ cause, ofDocument (.record entries) = .error cause ∧
        (ofSteps steps).compile = .error cause) := by
  have hread : ofDocument (.record entries) = (ofSteps steps).settled := foldlM_addEntry h hkeys rfl fun _ => rfl
  cases herror : (ofSteps steps).error with
  | none =>
    rw [settled_of_ok herror] at hread
    exact ⟨⟨fun _ => rfl, fun _ => ⟨_, hread⟩⟩, fun _ => hread, fun hsome => absurd rfl hsome⟩
  | some cause =>
    rw [settled_of_error herror] at hread
    have hcompile : (ofSteps steps).compile = .error cause := by
      rw [compile, predicate, herror]
    refine ⟨⟨fun ⟨c, hc⟩ => ?_, fun hnone => ?_⟩, fun hnone => ?_, fun _ => ⟨cause, hread, hcompile⟩⟩
    · rw [hread] at hc
      cases hc
    · cases hnone
    · cases hnone

/-- A group, an ordering in small letters and a window before a condition: with the column `age` the record gives what
the steps build.  With the key `a ge` in the group and a later bad column, both ways report the key. -/
theorem ofDocument_agrees_nested :
    let entries (key column : String) : List (String × Document) :=
      [("OR #1", .record [(key, .integer 18), ("ORDER", .list [.null])]), ("ORDER", .record [(column, .text "desc")]),
        ("LIMIT", .list [.integer 20, .integer 10]), ("id", .null)]
    let steps (key column : String) : List BuildStep :=
      [.group .or [.field key (.value (.int 18)), .field "ORDER" (.list [.null])], .order column .descending, .limit 10,
        .skip 20, .field "id" (.value .null)]
    (∀ key column, Transcript (entries key column) (steps key column)) ∧
      (∀ key column, ((entries key column).map Prod.fst).Nodup) ∧
      ofDocument (.record (entries "age[>]" "age")) = .ok (ofSteps (steps "age[>]" "age")) ∧
      ∃ cause, ofDocument (.record (entries "a ge" "a ge")) = .error cause ∧
        (ofSteps (steps "a ge" "a ge")).compile = .error cause ∧ cause = .invalidKey "a ge" := by
  intro entries steps
  have htranscript : ∀ key column, Transcript (entries key column) (steps key column) := by
    intro key column
    have hgroup : StepOf "OR #1" (.record [(key, .integer 18), ("ORDER", .list [.null])])
        (.group .or [.field key (.value (.int 18)), .field "ORDER" (.list [.null])]) :=
      .group (by decide +kernel) (.cons (.scalar key rfl rfl) (.cons (.list "ORDER" [.null]) .nil))
    have hwindow := ClauseOf.window 20 10
    have hrest : Transcript [("id", .null)] [.field "id" (.value .null)] :=
      .cons (.condition (by decide) (.scalar "id" rfl rfl)) .nil
    have horder := ClauseOf.order [⟨column, "desc", .descending, rfl⟩]
    exact .cons (.condition (by decide) hgroup) (.cons horder (.cons hwindow hrest))
  have hkeys : ∀ key column, ((entries key column).map Prod.fst).Nodup := by
    intro key column
    show ["OR #1", "ORDER", "LIMIT", "id"].Nodup
    decide
  have hread := ofDocument_agrees (htranscript "age[>]" "age") (hkeys _ _)
  have hfailed := ofDocument_agrees (htranscript "a ge" "a ge") (hkeys _ _)
  have herror : ∀ key column, (ofSteps (steps key column)).error = (BuildStep.faultsAll (steps key column)).head? :=
    fun _ _ => BuildStep.error_ofSteps _
  have hsound : (BuildStep.faultsAll (steps "age[>]" "age")).head? = none := by decide +kernel
  have hfault : (BuildStep.faultsAll (steps "a ge" "a ge")).head? = some (.invalidKey "a ge") := by decide +kernel
  refine ⟨htranscript, hkeys, hread.2.1 ((herror _ _).trans hsound), ?_⟩
  obtain ⟨cause, hcause, hcompile⟩ := hfailed.2.2 (by rw [herror, hfault]; exact Option.some_ne_none _)
  refine ⟨cause, hcause, hcompile, ?_⟩
  rw [compile, predicate, herror, hfault] at hcompile
  exact (Except.error.inj hcompile).symm

end Criteria
end SqlToolkit
