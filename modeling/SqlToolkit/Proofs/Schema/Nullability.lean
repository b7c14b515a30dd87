import Mathlib.Data.List.Basic
import SqlToolkit.Proofs.Outcome
import SqlToolkit.Schema.Blueprint

/-!
# The nullability of a changed column

Where a column is changed in PostgreSQL, a statement of its own sets its nullability.  Which one is read off the text of
the definition, where the nullability stands between the name, the type and the default in front of it and the keys and
checks behind it (`definition_eq`).  A column that is not nullable always gets the right statement.  A nullable one gets it
exactly if nothing in its definition spells the opposite (`build_sets_nullability_iff`): a name, a default or a check may,
and so may the end of a default together with the nullability behind it.
-/
namespace SqlToolkit.Schema
open Text Outcome

/-! ### Searching a definition -/

/-- Around a nullability that permits null the opposite is spelled in what stands before or behind it, or where what
stands before ends in the first of its words. -/
theorem notNull_infix_iff (before behind : List Char) :
    " NOT NULL".toList <:+: before ++ (" NULL".toList ++ behind) ↔
      " NOT NULL".toList <:+: before ∨ " NOT".toList <:+ before ∨ " NOT NULL".toList <:+: behind := by
  have hbehind : " NOT NULL".toList <:+: " NULL".toList ++ behind ↔ " NOT NULL".toList <:+: behind := by
    simp [List.infix_cons_iff]
  rw [List.infix_append_iff_ne_nil, hbehind]
  constructor
  · rintro (h | h | ⟨start, rest, hstart, hrest, hsplit, hsuffix, hbegins⟩)
    · exact .inl h
    · exact .inr (.inr h)
    · obtain ⟨c, start, rfl⟩ := List.exists_cons_of_ne_nil hstart
      obtain ⟨d, rest, rfl⟩ := List.exists_cons_of_ne_nil hrest
      obtain ⟨rfl, -⟩ := List.cons_prefix_cons.1 hbegins
      have hwords : "NOT".toList ++ ' ' :: "NULL".toList = start ++ ' ' :: rest := (List.cons.inj hsplit).2
      -- the only blank behind the first is the one in front of the last word
      obtain ⟨rfl, -, -⟩ := (List.append_cons_inj_of_notMem (by decide) (by decide)).1 hwords
      obtain rfl := (List.cons.inj hsplit).1
      exact .inr (.inl hsuffix)
  · rintro (h | h | h)
    · exact .inl h
    · exact .inr (.inr ⟨" NOT".toList, " NULL".toList, by decide, by decide, by decide, h, List.prefix_append _ _⟩)
    · exact .inr (.inl h)

/-- A word without blanks stands in one of the parts between blanks. -/
theorem exists_part_of_infix {word : List Char} (hne : word ≠ []) (hword : ' ' ∉ word) {parts : List String}
    (h : word <:+: (" ".intercalate parts).toList) : ∃ part ∈ parts, word <:+: part.toList := by
  induction parts with
  | nil => exact absurd (List.infix_nil.1 h) hne
  | cons part parts ih =>
    cases parts with
    | nil => exact ⟨part, List.mem_singleton_self part, by simpa using h⟩
    | cons next parts =>
      rw [String.intercalate_cons_cons, String.toList_append, String.toList_append, List.append_assoc,
        List.infix_append_iff_ne_nil] at h
      rcases h with h | h | ⟨start, rest, -, hrest, rfl, -, hbegins⟩
      · exact ⟨part, List.mem_cons_self, h⟩
      · rcases List.infix_cons_iff.1 h with h | h
        · obtain ⟨c, cs, rfl⟩ := List.exists_cons_of_ne_nil hne
          obtain ⟨rfl, -⟩ := List.cons_prefix_cons.1 h
          exact absurd List.mem_cons_self hword
        · obtain ⟨found, hfound, hinfix⟩ := ih h
          exact ⟨found, List.mem_cons_of_mem _ hfound, hinfix⟩
      · obtain ⟨d, rest, rfl⟩ := List.exists_cons_of_ne_nil hrest
        obtain ⟨rfl, -⟩ := List.cons_prefix_cons.1 hbegins
        exact absurd (List.mem_append_right _ List.mem_cons_self) hword

theorem intercalate_cons (separator x : String) (xs : List String) :
    separator.intercalate (x :: xs) = x ++ String.join (xs.map (separator ++ ·)) := by
  induction xs generalizing x with
  | nil => simp
  | cons y ys ih =>
    rw [String.intercalate_cons_cons, ih, List.map_cons, String.join_cons]
    simp only [String.append_assoc]

theorem intercalate_append {separator : String} {xs : List String} (hne : xs ≠ []) (ys : List String) :
    separator.intercalate (xs ++ ys) = separator.intercalate xs ++ String.join (ys.map (separator ++ ·)) := by
  obtain ⟨x, xs, rfl⟩ := List.exists_cons_of_ne_nil hne
  rw [List.cons_append, intercalate_cons, intercalate_cons, List.map_append, String.append_assoc]
  congr 1
  induction xs with
  | nil => simp
  | cons x xs ih => simp [String.join_cons, ih, String.append_assoc]

/-! ### The parts of a definition -/

namespace Column
variable {c : Column} {s : Scope}

/-- The parts in front of the nullability: name, type and default. -/
def front (c : Column) (s : Scope) : List String :=
  [s.quote c.name, c.typeText s] ++ (c.concrete s).implied ++
    (c.default.map fun d => "DEFAULT " ++ d.render s.dialect).toList

/-- The nullability. -/
def nullability (c : Column) : String := if c.nullable then "NULL" else "NOT NULL"

/-- The parts behind the nullability: keys, comment and checks. -/
def back (c : Column) (s : Scope) : List String :=
  (if c.unique then ["UNIQUE"] else []) ++ (if c.primary then ["PRIMARY KEY"] else []) ++ c.inlineComment s ++
    (c.concrete s).checks ++ (c.check.map fun sql => "CHECK (" ++ s.renderRaw sql ++ ")").toList

/-- The text in front of the nullability, and that behind it. -/
def frontText (c : Column) (s : Scope) : String := " ".intercalate (c.front s)

def backText (c : Column) (s : Scope) : String := String.join ((c.back s).map (" " ++ ·))

/-- A definition spells that null is not permitted, though it has a nullability that permits it. -/
def Misleading (c : Column) (s : Scope) : Prop :=
  contains (c.frontText s) " NOT NULL" = true ∨ " NOT".toList <:+ (c.frontText s).toList ∨
    contains (c.backText s) " NOT NULL" = true

instance (c : Column) (s : Scope) : Decidable (c.Misleading s) := inferInstanceAs (Decidable (_ ∨ _ ∨ _))

theorem parts_eq (hincrements : c.type.isIncrements = false) (s : Scope) :
    c.parts s = c.front s ++ c.nullability :: c.back s := by
  simp [parts, constraints, hincrements, front, nullability, back]

theorem definition_eq (hdefinition : c.definition = none) (hincrements : c.type.isIncrements = false) (s : Scope) :
    (c.render s).definition = c.frontText s ++ (" " ++ c.nullability ++ c.backText s) := by
  have hne : c.front s ≠ [] := by simp [front]
  rw [render, hdefinition]
  show " ".intercalate (c.parts s) = _
  rw [parts_eq hincrements, intercalate_append hne, List.map_cons, String.join_cons]
  rfl

/-- What a column that is not nullable says of itself. -/
theorem contains_notNull (hdefinition : c.definition = none) (hincrements : c.type.isIncrements = false)
    (hnullable : c.nullable = false) (s : Scope) : contains (c.render s).definition " NOT NULL" = true := by
  rw [contains, occursIn_iff, definition_eq hdefinition hincrements, nullability, hnullable]
  simp only [String.toList_append]
  exact ⟨(c.frontText s).toList, (c.backText s).toList, by simp⟩

/-- What a nullable column says of itself. -/
theorem contains_null_iff (hdefinition : c.definition = none) (hincrements : c.type.isIncrements = false)
    (hnullable : c.nullable = true) (s : Scope) : contains (c.render s).definition " NULL" = true ∧
      (contains (c.render s).definition " NOT NULL" = true ↔ c.Misleading s) := by
  have htext : (c.render s).definition.toList =
      (c.frontText s).toList ++ (" NULL".toList ++ (c.backText s).toList) := by
    rw [definition_eq hdefinition hincrements, nullability, hnullable]
    simp
  constructor
  · rw [contains, occursIn_iff, htext]
    exact List.infix_append' _ _ _
  · rw [Misleading, contains, contains, contains, occursIn_iff, occursIn_iff, occursIn_iff, htext, notNull_infix_iff]

/-- No definition misleads if the first of the words stands in none of its parts. -/
theorem not_misleading (hdefinition : c.definition = none) (hincrements : c.type.isIncrements = false)
    (hnullable : c.nullable = true) (hparts : ∀ part ∈ c.parts s, ¬ "NOT".toList <:+: part.toList) :
    ¬ c.Misleading s := by
  intro h
  have hspelled := (contains_null_iff hdefinition hincrements hnullable s).2.2 h
  rw [contains, occursIn_iff, render, hdefinition] at hspelled
  have hword : "NOT".toList <:+: " NOT NULL".toList := ⟨[' '], " NULL".toList, by decide⟩
  obtain ⟨part, hpart, hinfix⟩ := exists_part_of_infix (by decide) (by decide) (hword.trans hspelled)
  exact hparts part hpart hinfix

/-! ### The statements of a changed column -/

/-- The beginning of the statements that change a column. -/
def altered (c : Column) (s : Scope) : String := "ALTER TABLE " ++ s.quote s.table ++ " ALTER COLUMN " ++ s.quote c.name

theorem altered_append (c : Column) (s : Scope) (suffix : String) : c.altered s ++ suffix =
    "ALTER TABLE " ++ (s.quote s.table ++ (" ALTER COLUMN " ++ (s.quote c.name ++ suffix))) := by
  have haltered : c.altered s = "ALTER TABLE " ++ s.quote s.table ++ " ALTER COLUMN " ++ s.quote c.name := rfl
  rw [haltered, String.append_assoc, String.append_assoc, String.append_assoc]

/-- The statement after which null is not permitted. -/
def setNotNull (c : Column) (s : Scope) : String := c.altered s ++ " SET NOT NULL"

/-- The statement after which null is permitted. -/
def dropNotNull (c : Column) (s : Scope) : String := c.altered s ++ " DROP NOT NULL"

theorem head?_altered (c : Column) (s : Scope) (suffix : String) :
    (c.altered s ++ suffix).toList.head? = some 'A' := by
  rw [altered_append, String.toList_append]
  simp

theorem head?_createEnumType (enumType : String) (values : List String) :
    (createEnumType enumType values).toList.head? = some 'D' := by
  unfold createEnumType
  simp

/-- The statements around a change begin with other words. -/
theorem altered_notMem_before (c : Column) (s : Scope) (suffix : String) : c.altered s ++ suffix ∉ c.before s := by
  intro h
  rw [before] at h
  have hstatement := List.mem_singleton.1 (List.mem_ite_nil_right.1 h).2
  have hhead := head?_altered c s suffix
  rw [hstatement, head?_createEnumType] at hhead
  exact absurd hhead (by decide)

theorem altered_notMem_after (c : Column) (s : Scope) (suffix : String) : c.altered s ++ suffix ∉ c.after s := by
  intro h
  have hhead := head?_altered c s suffix
  unfold after at h
  split at h
  · rw [List.mem_singleton.1 (List.mem_ite_nil_right.1 h).2] at hhead
    simp at hhead
  · cases h

/-- The statements of a changed column in PostgreSQL. -/
theorem alterColumn_eq_ok {own : List String} (hchange : c.change = true) (hpg : s.dialect = .pgSql)
    (hdefinition : c.definition = none) (h : Blueprint.alterColumn c s = .ok own) :
    own = c.before s ++ ((c.altered s ++ (" TYPE " ++ c.typeText s)) ::
      if contains (c.render s).definition " NOT NULL" then [c.setNotNull s]
      else if contains (c.render s).definition " NULL" then [c.dropNotNull s]
      else []) ++ c.after s := by
  have hquote (name : String) : s.quote name = Dialect.pgSql.quoteSchema name := by rw [Scope.quote, hpg]
  simp only [Blueprint.alterColumn, hchange, ↓reduceIte, hpg, Dialect.modifyColumn] at h
  obtain rfl := pure_eq_ok.1 h
  simp [render, hdefinition, altered_append, setNotNull, dropNotNull, hquote, String.append_assoc]

/-- Of the two statements that set the nullability, a column has the one that its definition spells. -/
theorem mem_alterColumn_iff {own : List String} (hchange : c.change = true) (hpg : s.dialect = .pgSql)
    (hdefinition : c.definition = none) (h : Blueprint.alterColumn c s = .ok own) :
    (c.setNotNull s ∈ own ↔ contains (c.render s).definition " NOT NULL" = true) ∧
      (c.dropNotNull s ∈ own ↔
        contains (c.render s).definition " NOT NULL" = false ∧ contains (c.render s).definition " NULL" = true) := by
  have hset : " SET NOT NULL" ≠ " TYPE " ++ c.typeText s := fun heq => by
    simpa using congrArg String.toList heq
  have hdrop : " DROP NOT NULL" ≠ " TYPE " ++ c.typeText s := fun heq => by
    simpa using congrArg String.toList heq
  rw [alterColumn_eq_ok hchange hpg hdefinition h, setNotNull, dropNotNull]
  simp only [List.mem_append, List.mem_cons, altered_notMem_before, altered_notMem_after, String.append_right_inj, hset,
    hdrop, false_or, or_false]
  cases contains (c.render s).definition " NOT NULL" <;> cases contains (c.render s).definition " NULL" <;> simp

/-- The statements of a changed column set the nullability that it declares, and not the opposite. -/
def SetsNullability (c : Column) (s : Scope) (statements : List String) : Prop :=
  if c.nullable then c.dropNotNull s ∈ statements ∧ c.setNotNull s ∉ statements
  else c.setNotNull s ∈ statements ∧ c.dropNotNull s ∉ statements

/-- A column that declares itself not nullable is made so. -/
theorem setsNullability_of_notNull {own : List String} (hchange : c.change = true) (hpg : s.dialect = .pgSql)
    (hdefinition : c.definition = none) (hincrements : c.type.isIncrements = false) (hnullable : c.nullable = false)
    (h : Blueprint.alterColumn c s = .ok own) : c.SetsNullability s own := by
  have hspelled := contains_notNull hdefinition hincrements hnullable s
  obtain ⟨hset, hdrop⟩ := mem_alterColumn_iff hchange hpg hdefinition h
  rw [SetsNullability, if_neg (by simp [hnullable]), hset, hdrop]
  simp [hspelled]

/-- A column that declares itself nullable is made so, or the opposite where its definition misleads. -/
theorem setsNullability_iff {own : List String} (hchange : c.change = true) (hpg : s.dialect = .pgSql)
    (hdefinition : c.definition = none) (hincrements : c.type.isIncrements = false) (hnullable : c.nullable = true)
    (h : Blueprint.alterColumn c s = .ok own) :
    (c.SetsNullability s own ↔ ¬ c.Misleading s) ∧ (c.setNotNull s ∈ own ↔ c.Misleading s) := by
  obtain ⟨hnull, hnotNull⟩ := contains_null_iff hdefinition hincrements hnullable s
  obtain ⟨hset, hdrop⟩ := mem_alterColumn_iff hchange hpg hdefinition h
  rw [← hnotNull, SetsNullability, if_pos hnullable, hset, hdrop]
  simp [hnull]

end Column

/-! ### The statements of a blueprint -/

namespace Blueprint
variable {b : Blueprint} {c : Column}

/-- The statements of a column stand together in those of the blueprint. -/
theorem infix_buildAlter {s : Scope} {own statements : List String} (h : b.buildAlter s = .ok statements)
    (hc : c ∈ b.columns) (hown : alterColumn c s = .ok own) : own <:+: statements := by
  unfold buildAlter at h
  obtain ⟨columns, hcolumns, h⟩ := bind_eq_ok.1 h
  obtain ⟨commands, -, h⟩ := bind_eq_ok.1 h
  obtain ⟨references, -, h⟩ := bind_eq_ok.1 h
  obtain ⟨primary, -, h⟩ := bind_eq_ok.1 h
  dsimp only at h
  split at h
  · cases h
  cases h
  obtain ⟨found, hfound, hok⟩ := exists_of_mapM hcolumns c hc
  obtain rfl : own = found := Except.ok.inj (hown.symm.trans hok)
  have hflatten : own <:+: columns.flatten := List.infix_of_mem_flatten hfound
  simp only [List.append_assoc]
  exact hflatten.trans (List.prefix_append _ _).isInfix

/-- Changing a column fails in no case in PostgreSQL. -/
theorem exists_alterColumn {s : Scope} (hpg : s.dialect = .pgSql) (c : Column) : ∃ own, alterColumn c s = .ok own := by
  unfold alterColumn
  rw [hpg]
  split <;> exact ⟨_, rfl⟩

/-- **Which nullability a changed column gets in PostgreSQL.**  Its statements stand together among those of the
blueprint.  They set the nullability that the column declares, unless it is nullable and the name, type or default in
front of the nullability or a key or check behind it spells that it is not; then they set the opposite.  None does whose
parts are without the first of the words. -/
theorem build_sets_nullability_iff (hmode : b.mode = .alter) (hc : c ∈ b.columns) (hchange : c.change = true)
    (hdefinition : c.definition = none) (hincrements : c.type.isIncrements = false) :
    ∃ own, alterColumn c (b.scope .pgSql) = .ok own ∧
      (∀ statements, b.build .pgSql = .ok statements → own <:+: statements) ∧
      (c.SetsNullability (b.scope .pgSql) own ↔ ¬ (c.nullable = true ∧ c.Misleading (b.scope .pgSql))) ∧
      (c.nullable = true → c.Misleading (b.scope .pgSql) →
        c.setNotNull (b.scope .pgSql) ∈ own ∧ c.dropNotNull (b.scope .pgSql) ∉ own) ∧
      (c.nullable = true → (∀ part ∈ c.parts (b.scope .pgSql), ¬ "NOT".toList <:+: part.toList) →
        ¬ c.Misleading (b.scope .pgSql)) := by
  have hpg : (b.scope .pgSql).dialect = .pgSql := rfl
  obtain ⟨own, hown⟩ := exists_alterColumn hpg c
  have hinfix (statements : List String) (h : b.build .pgSql = .ok statements) : own <:+: statements := by
    rw [build, hmode] at h
    exact infix_buildAlter h hc hown
  refine ⟨own, hown, hinfix, ?_, fun hnullable hmisleading => ?_, fun hnullable hparts =>
    Column.not_misleading hdefinition hincrements hnullable hparts⟩
  · cases hnullable : c.nullable with
    | false =>
      have hsets := Column.setsNullability_of_notNull hchange hpg hdefinition hincrements hnullable hown
      simp [hsets]
    | true =>
      rw [(Column.setsNullability_iff hchange hpg hdefinition hincrements hnullable hown).1]
      simp
  · have hset := (Column.setsNullability_iff hchange hpg hdefinition hincrements hnullable hown).2.2 hmisleading
    obtain ⟨hspelled, hdrop⟩ := Column.mem_alterColumn_iff hchange hpg hdefinition hown
    exact ⟨hset, fun h => by simpa [hspelled.1 hset] using (hdrop.1 h).1⟩

/-- The words in the name and in the default stand apart, and the column is made nullable. -/
theorem build_sets_nullability_default :
    let c : Column :=
      { name := "NOTE", type := .string, nullable := true, default := some (.value (.text "NULL")), change := true }
    let b := (alter "t").addColumn c
    b.mode = .alter ∧ c ∈ b.columns ∧ c.change = true ∧ c.definition = none ∧ c.type.isIncrements = false ∧
      ¬ c.Misleading (b.scope .pgSql) ∧ ∃ own, alterColumn c (b.scope .pgSql) = .ok own ∧
        c.SetsNullability (b.scope .pgSql) own := by
  intro c b
  have hc : c ∈ b.columns := by decide
  have hmisleading : ¬ c.Misleading (b.scope .pgSql) := by decide +kernel
  obtain ⟨own, hown, -, hsets, -⟩ := build_sets_nullability_iff (b := b) rfl hc rfl rfl rfl
  exact ⟨rfl, hc, rfl, rfl, rfl, hmisleading, own, hown, hsets.2 fun h => hmisleading h.2⟩

/-- **A nullable column is made not nullable** where the text of its default speaks of it. -/
theorem build_misses_nullability :
    let c : Column :=
      { name := "note", type := .string, args := { length := some 50 }, nullable := true,
        default := some (.value (.text "is NOT NULL")), change := true }
    let b := (alter "t").addColumn c
    ∃ own, b.build .pgSql = .ok own ∧
      own = ["ALTER TABLE \"t\" ALTER COLUMN \"note\" TYPE VARCHAR(50)",
        "ALTER TABLE \"t\" ALTER COLUMN \"note\" SET NOT NULL"] ∧
      c.nullable = true ∧ ¬ c.SetsNullability (b.scope .pgSql) own := by
  intro c b
  have hdrop : c.dropNotNull (b.scope .pgSql) ∉ ["ALTER TABLE \"t\" ALTER COLUMN \"note\" TYPE VARCHAR(50)",
      "ALTER TABLE \"t\" ALTER COLUMN \"note\" SET NOT NULL"] := by decide +kernel
  refine ⟨_, by decide +kernel, rfl, rfl, fun hsets => hdrop ?_⟩
  rw [Column.SetsNullability, if_pos rfl] at hsets
  exact hsets.1

end Blueprint

end SqlToolkit.Schema
