import SqlToolkit.Proofs.Schema.Clause

/-!
# Templates as text

A type is written from a template, which is text with the names of slots in braces.  Filling the template gives the same
as going through this text once and putting in what belongs to each slot (`Template.fillSlots_source`).  What was put in is
not looked at again, so names and values may hold braces and names of slots themselves.  Outside its slots no template in
the type table has a brace, and so the braces in a type are those that were put in (`Template.braces_fill`).

Enumerated values are read back from the list that they are written in.
-/
namespace SqlToolkit
open Text Number

namespace Text

/-! ### Lists of literals -/

/-- String literals with a comma and a space between them, and what follows the last. -/
def literals? (cs : List Char) : Option (List String × List Char) :=
  match _h : readQuoted? ('\'', '\'') cs with
  | some (value, ',' :: ' ' :: rest) => (literals? rest).map fun r => (String.ofList value :: r.1, r.2)
  | some (value, rest) => some ([String.ofList value], rest)
  | none => none
termination_by cs.length
decreasing_by
  have hcs := congrArg List.length (readQuoted?_eq_some_iff.1 _h).1
  simp only [enclose, List.length_cons, List.length_append] at hcs
  omega

theorem literals?_of_next {cs value rest : List Char} (h : readQuoted? ('\'', '\'') cs = some (value, ',' :: ' ' :: rest)) :
    literals? cs = (literals? rest).map fun r => (String.ofList value :: r.1, r.2) := by
  rw [literals?]
  split
  · next heq =>
    rw [h] at heq
    cases heq
    rfl
  · next hlast heq =>
    rw [h] at heq
    cases heq
    exact (hlast _ rfl).elim
  · next heq =>
    rw [h] at heq
    cases heq

theorem literals?_of_last {cs value rest : List Char} (h : readQuoted? ('\'', '\'') cs = some (value, rest))
    (hlast : rest.head? ≠ some ',') : literals? cs = some ([String.ofList value], rest) := by
  rw [literals?]
  split
  · next heq =>
    rw [h] at heq
    cases heq
    exact absurd rfl hlast
  · next heq =>
    rw [h] at heq
    cases heq
    rfl
  · next heq =>
    rw [h] at heq
    cases heq

/-- A list of string literals in parentheses, and what follows it. -/
def literalList? : List Char → Option (List String × List Char)
  | '(' :: ')' :: rest => some ([], rest)
  | '(' :: cs =>
    match literals? cs with
    | some (values, ')' :: rest) => some (values, rest)
    | _ => none
  | _ => none

end Text

namespace Schema

theorem exists_valueList (value : String) (values : List String) :
    ∃ cs, (valueList (value :: values)).toList = '\'' :: cs := by
  cases values with
  | nil => exact ⟨_, by simpa [valueList, enclose] using toList_literal value⟩
  | cons next values =>
    rw [valueList_cons_cons, String.toList_append, String.toList_append, toList_literal]
    exact ⟨_, rfl⟩

theorem literals?_valueList (value : String) (values : List String) (rest : List Char) :
    literals? ((valueList (value :: values)).toList ++ ')' :: rest) = some (value :: values, ')' :: rest) := by
  have hread (value : String) {rest : List Char} (hfree : rest.head? ≠ some '\'') :
      readQuoted? ('\'', '\'') ((literal value).toList ++ rest) = some (value.toList, rest) :=
    (delimits_wrap '\'' '\'' value _ rest).2 ⟨rfl, hfree⟩
  induction values generalizing value with
  | nil =>
    have hvalue : valueList [value] = literal value := by simp [valueList]
    rw [hvalue, literals?_of_last (hread value (by simp)) (by simp), String.ofList_toList]
  | cons next values ih =>
    have htext : (valueList (value :: next :: values)).toList ++ ')' :: rest = (literal value).toList ++
        (',' :: ' ' :: ((valueList (next :: values)).toList ++ ')' :: rest)) := by
      rw [valueList_cons_cons, String.toList_append, String.toList_append, List.append_assoc, List.append_assoc]
      rfl
    rw [htext, literals?_of_next (hread value (by simp)), ih next, String.ofList_toList]
    rfl

/-- **Values are read back** from their list. -/
theorem literalList?_valueList (values : List String) (rest : List Char) :
    literalList? ('(' :: ((valueList values).toList ++ ')' :: rest)) = some (values, rest) := by
  cases values with
  | nil => rfl
  | cons value values =>
    obtain ⟨cs, hcs⟩ := exists_valueList value values
    have hread := literals?_valueList value values rest
    rw [hcs, List.cons_append] at hread ⊢
    rw [literalList?, hread]
    · rfl
    · rintro _ ⟨⟩

/-- Behind the front of a text these values are listed, and in front of its back. -/
def Lists (front : String) (values : List String) (back text : String) : Prop :=
  ∃ list : String, text = front ++ list ∧ literalList? list.toList = some (values, back.toList)

theorem lists_valueList (front : String) (values : List String) (back : String) :
    Lists front values back (front ++ ("(" ++ valueList values ++ ")" ++ back)) := by
  refine ⟨_, rfl, ?_⟩
  have hlist : ("(" ++ valueList values ++ ")" ++ back).toList = '(' :: ((valueList values).toList ++ ')' :: back.toList) := by
    simp
  rw [hlist, literalList?_valueList]

/-! ### Templates and their text -/

/-- The marks around the name of a slot. -/
def isBrace (c : Char) : Bool := c = '\x7b' || c = '\x7d'

/-- The braces in a text. -/
def braces (text : String) : List Char := text.toList.filter isBrace

theorem braces_append (text text' : String) : braces (text ++ text') = braces text ++ braces text' := by
  rw [braces, String.toList_append, List.filter_append]
  rfl

/-- A slot where a template is shown as text: its name in braces. -/
def Slot.placeholder (s : Slot) : List Char := '\x7b' :: (s.name.toList ++ ['\x7d'])

/-- The slot whose name is at the front of a text. -/
def slotAt? (cs : List Char) : Option Slot := Slot.all.find? fun s => s.placeholder.isPrefixOf cs

/-- A text with all slots filled in one pass, in which what was put in is not looked at again. -/
def fillText (content : Slot → String) : List Char → List Char
  | [] => []
  | c :: cs =>
    match slotAt? (c :: cs) with
    | some s => (content s).toList ++ fillText content ((c :: cs).drop s.placeholder.length)
    | none => c :: fillText content cs
termination_by cs => cs.length
decreasing_by
  · simp only [Slot.placeholder, List.length_cons, List.length_drop]
    omega
  · simp

/-- A string with all slots filled. -/
def fillSlots (content : Slot → String) (source : String) : String := String.ofList (fillText content source.toList)

theorem slotAt?_placeholder (s : Slot) (rest : List Char) : slotAt? (s.placeholder ++ rest) = some s := by
  cases s <;> rfl

theorem slotAt?_of_not_brace {c : Char} (hc : isBrace c = false) (cs : List Char) : slotAt? (c :: cs) = none := by
  refine List.find?_eq_none.2 fun s _ hprefix => ?_
  obtain ⟨rfl, -⟩ := List.cons_prefix_cons.1 (List.isPrefixOf_iff_prefix.1 hprefix)
  exact absurd hc (by decide)

theorem fillText_placeholder (content : Slot → String) (s : Slot) (rest : List Char) :
    fillText content (s.placeholder ++ rest) = (content s).toList ++ fillText content rest := by
  have hslot := slotAt?_placeholder s rest
  have hrest : (s.placeholder ++ rest).drop s.placeholder.length = rest := List.drop_left
  generalize htext : s.placeholder ++ rest = text at hslot hrest ⊢
  cases text with
  | nil => cases htext
  | cons c cs =>
    rw [fillText, hslot]
    dsimp only
    rw [hrest]

theorem fillText_append (content : Slot → String) {cs : List Char} (hcs : ∀ c ∈ cs, isBrace c = false) (rest : List Char) :
    fillText content (cs ++ rest) = cs ++ fillText content rest := by
  induction cs with
  | nil => rfl
  | cons c cs ih =>
    obtain ⟨hc, hcs⟩ := List.forall_mem_cons.1 hcs
    rw [List.cons_append, fillText, slotAt?_of_not_brace hc, ih hcs]
    rfl

namespace Template
variable {content : Slot → String} {t : Template}

/-- There is no brace in the fixed text of a template. -/
def isBraceless (t : Template) : Bool := t.all fun part =>
  match part with
  | .fixed text => text.toList.all fun c => !isBrace c
  | .slot _ => true

theorem isBraceless_cons {part : Part} : isBraceless (part :: t) = true ↔
    (∀ text, part = .fixed text → ∀ c ∈ text.toList, isBrace c = false) ∧ t.isBraceless = true := by
  unfold isBraceless
  rw [List.all_cons, Bool.and_eq_true]
  cases part <;> simp

theorem source_fixed (text : String) (t : Template) : source (.fixed text :: t) = text ++ source t := by
  simp [source, String.join_cons]

theorem source_slot (s : Slot) (t : Template) : source (.slot s :: t) = String.ofList s.placeholder ++ source t := by
  rw [← String.toList_inj]
  simp [source, String.join_cons, Slot.placeholder]

/-- **Filling a template is going once through its text.** -/
theorem fillSlots_source (h : t.isBraceless = true) : fillSlots content t.source = t.fill content := by
  rw [fillSlots, ← String.toList_inj, String.toList_ofList]
  induction t with
  | nil =>
    show fillText content [] = []
    rw [fillText]
  | cons part t ih =>
    obtain ⟨hpart, ht⟩ := isBraceless_cons.1 h
    cases part with
    | fixed text => rw [source_fixed, fill_fixed, String.toList_append, String.toList_append,
        fillText_append content (hpart text rfl), ih ht]
    | slot s => rw [source_slot, fill_slot, String.toList_append, String.toList_append, String.toList_ofList,
        fillText_placeholder, ih ht]

/-- The slots of a template, from left to right. -/
def slots (t : Template) : List Slot := t.filterMap fun part =>
  match part with
  | .fixed _ => none
  | .slot s => some s

/-- **The braces in a filled template** are those that were put in. -/
theorem braces_fill (h : t.isBraceless = true) : braces (t.fill content) = t.slots.flatMap fun s => braces (content s) := by
  induction t with
  | nil => rfl
  | cons part t ih =>
    obtain ⟨hpart, ht⟩ := isBraceless_cons.1 h
    cases part with
    | fixed text =>
      have htext : braces text = [] := List.filter_eq_nil_iff.2 fun c hc => by simp [hpart text rfl c hc]
      rw [fill_fixed, braces_append, htext, ih ht]
      rfl
    | slot s =>
      rw [fill_slot, braces_append, ih ht]
      rfl

end Template

/-! ### The type table -/

/-- A clause as a template. -/
def TypeClause.template : TypeClause → Template
  | implied text => .plain text
  | check condition => .fixed "CHECK (" :: (condition ++ [.fixed ")"])

theorem TypeClause.fill_eq (content : Slot → String) (clause : TypeClause) :
    clause.fill content = clause.template.fill content := by
  cases clause with
  | implied text => simp [fill, template, Template.plain, Template.fill]
  | check condition => simp [fill, template, Template.fill, String.join_append, String.append_assoc]

/-- No template of a form has a brace in its fixed text. -/
def TypeForm.isBraceless (form : TypeForm) : Bool :=
  form.type.isBraceless && form.clauses.all fun clause => clause.template.isBraceless

/-- The checks of a form stand behind its other clauses. -/
def TypeForm.hasChecksLast (form : TypeForm) : Bool :=
  form.clauses.filter (fun clause => !clause.isCheck) ++ form.clauses.filter TypeClause.isCheck == form.clauses

/-- So it is with all forms in the type table. -/
theorem isBraceless_form (type : ColumnType) (d : Dialect) :
    (type.form d).isBraceless = true ∧ (type.form d).hasChecksLast = true := by
  have hall : (ColumnType.all.all fun type => type.forms.all fun form => form.isBraceless && form.hasChecksLast) = true := by
    decide +kernel
  have hform := List.all_eq_true.1 (List.all_eq_true.1 hall type type.mem_all) _ (type.form_mem_forms d)
  exact Bool.and_eq_true_iff.1 hform

theorem clauses_concreteType (type : ColumnType) (d : Dialect) (args : TypeArgs) (column enumType : String) :
    (concreteType type d args column enumType).implied ++ (concreteType type d args column enumType).checks =
      ((type.form d).clauses.map TypeClause.template).map (Template.fill (args.content column enumType)) := by
  have hlast : _ ++ _ = (type.form d).clauses := eq_of_beq (isBraceless_form type d).2
  rw [List.map_map, ← List.map_congr_left fun clause _ => clause.fill_eq (args.content column enumType), concreteType,
    ← List.map_append, hlast]

theorem fill_call (content : Slot → String) (name : String) (s : Slot) :
    (Template.call name s).fill content = name ++ ("(" ++ content s ++ ")" ++ "") := by
  simp [Template.call, Template.fill, String.append_assoc]

theorem checks_concreteType_of_checkedText {type : ColumnType} {d : Dialect} {text : String}
    (h : type.form d = checkedText text) (args : TypeArgs) (column enumType : String) :
    (concreteType type d args column enumType).checks =
      ["CHECK (" ++ column ++ " IN " ++ ("(" ++ valueList args.values ++ ")" ++ ")")] := by
  have hfilter : (type.form d).clauses.filter TypeClause.isCheck =
      [.check [.slot .column, .fixed " IN (", .slot .values, .fixed ")"]] := by rw [h]; rfl
  show ((type.form d).clauses.filter TypeClause.isCheck).map _ = _
  rw [hfilter, List.map_singleton, List.singleton_inj, ← String.toList_inj]
  simp [TypeClause.fill, Template.fill, TypeArgs.content]

/-- **A concrete type is its templates with the slots filled**, all in one pass.  Of the templates no brace is left, and
enumerated values are read back wherever they are listed. -/
theorem concreteType_fills_slots (type : ColumnType) (d : Dialect) (args : TypeArgs) (column enumType : String) :
    let written := concreteType type d args column enumType
    let content := args.content column enumType
    let clauses := (type.form d).clauses.map TypeClause.template
    (written.type = fillSlots content (type.form d).type.source ∧
      written.implied ++ written.checks = clauses.map fun clause => fillSlots content clause.source) ∧
    (braces written.type = (type.form d).type.slots.flatMap (fun s => braces (content s)) ∧
      (written.implied ++ written.checks).map braces =
        clauses.map fun clause => clause.slots.flatMap fun s => braces (content s)) ∧
    (type = .enum → d = .mySql → Lists "ENUM" args.values "" written.type) ∧
    (type = .enum → d = .pgSql → written.type = enumType ∧ written.checks = []) ∧
    (type = .enum → d ≠ .mySql → d ≠ .pgSql →
      ∃ check, written.checks = [check] ∧ Lists ("CHECK (" ++ column ++ " IN ") args.values ")" check) := by
  intro written content clauses
  obtain ⟨htype, hbraceless⟩ := Bool.and_eq_true_iff.1 (isBraceless_form type d).1
  have hbraceless : ∀ clause ∈ clauses, clause.isBraceless = true := List.forall_mem_map.2 (List.all_eq_true.1 hbraceless)
  have hclauses : written.implied ++ written.checks = clauses.map (Template.fill content) :=
    clauses_concreteType type d args column enumType
  refine ⟨⟨(Template.fillSlots_source htype).symm, ?_⟩, ⟨Template.braces_fill htype, ?_⟩, ?_, ?_, ?_⟩
  · rw [hclauses]
    exact List.map_congr_left fun clause h => (Template.fillSlots_source (hbraceless clause h)).symm
  · rw [hclauses, List.map_map]
    exact List.map_congr_left fun clause h => Template.braces_fill (hbraceless clause h)
  · rintro rfl rfl
    have htext : written.type = "ENUM" ++ ("(" ++ valueList args.values ++ ")" ++ "") := fill_call content "ENUM" .values
    rw [htext]
    exact lists_valueList "ENUM" args.values ""
  · rintro rfl rfl
    have htext : written.type = enumType ++ "" := Template.fill_slot content .enumType []
    exact ⟨htext.trans String.append_empty, rfl⟩
  · rintro rfl hmysql hpgsql
    obtain ⟨text, hform⟩ : ∃ text, ColumnType.enum.form d = checkedText text := by
      cases d <;> first | exact ⟨_, rfl⟩ | contradiction
    refine ⟨_, checks_concreteType_of_checkedText hform args column enumType, ?_⟩
    exact lists_valueList ("CHECK (" ++ column ++ " IN ") args.values ")"

/-- Names and values that look like slots are kept as they are. -/
theorem concreteType_fills_slots_braces :
    let args : TypeArgs := ⟨none, none, none, ["\x7bcolumn\x7d", "it's", "a, b)"]⟩
    let checks := (concreteType .enum .sqlite args "\"\x7bvalues\x7d\"" "t").checks
    checks = ["CHECK (\"\x7bvalues\x7d\" IN ('\x7bcolumn\x7d', 'it''s', 'a, b)'))"] ∧
      ∃ check, checks = [check] ∧ Lists "CHECK (\"\x7bvalues\x7d\" IN " args.values ")" check := by
  intro args checks
  obtain ⟨-, -, -, -, hchecks⟩ := concreteType_fills_slots .enum .sqlite args "\"\x7bvalues\x7d\"" "t"
  exact ⟨by decide +kernel, hchecks rfl (by decide) (by decide)⟩

end Schema
end SqlToolkit
