import SqlToolkit.Proofs.Text.Column

/-!
# The grammar of columns

A name is a letter or an underscore and what follows it of name characters; a column is a name, or two names around a
dot.  `IsColumnName` says so without reading anything.  Reading finds exactly what the grammar names: a column at the
front of a text, as long as what stands behind cannot be part of one (`readColumn_append_of_rest`), and nothing else
(`isColumnName_of_readColumn`).  A text is a bare column exactly when the grammar names it (`isColumn_iff`).
-/
namespace SqlToolkit.Text

/-! ### Names and columns -/

/-- A letter or an underscore, followed by letters, digits, underscores and dollar signs. -/
inductive IsName : List Char → Prop
  | mk {c : Char} {cs : List Char} : startsName c = true → (∀ d ∈ cs, isColumnChar d = true) → IsName (c :: cs)

/-- A name, or a table's name and a name with a dot between them. -/
inductive IsColumnName : List Char → Prop
  | plain {name : List Char} : IsName name → IsColumnName name
  | qualified {table name : List Char} : IsName table → IsName name → IsColumnName (table ++ '.' :: name)

/-- A column begins with no blank. -/
theorem IsColumnName.exists_cons {column : List Char} (h : IsColumnName column) :
    ∃ c cs, column = c :: cs ∧ isBlank c = false := by
  have hname : ∀ {name}, IsName name → ∃ c cs, name = c :: cs ∧ isBlank c = false := by
    rintro _ ⟨hstart, -⟩
    exact ⟨_, _, rfl, isBlank_of_isBareChar (isBareChar_of_startsName hstart)⟩
  cases h with
  | plain h => exact hname h
  | qualified h _ =>
    obtain ⟨c, cs, rfl, hc⟩ := hname h
    exact ⟨c, _, rfl, hc⟩

theorem isColumnChar_dot : isColumnChar '.' = false := by decide

/-- A text does not go on with what a class of characters holds. -/
def Stops (continues : Char → Bool) (rest : List Char) : Prop := ∀ c ∈ rest.head?, continues c = false

theorem takeWhile_of_stops {continues : Char → Bool} {cs rest : List Char} (h : ∀ c ∈ cs, continues c = true)
    (hrest : Stops continues rest) : (cs ++ rest).takeWhile continues = cs := by
  rw [List.takeWhile_append_of_pos h]
  cases rest with
  | nil => simp
  | cons c rest => simp [hrest c rfl]

theorem dropWhile_of_stops {continues : Char → Bool} {cs rest : List Char} (h : ∀ c ∈ cs, continues c = true)
    (hrest : Stops continues rest) : (cs ++ rest).dropWhile continues = rest := by
  rw [List.dropWhile_append_of_pos h]
  cases rest with
  | nil => rfl
  | cons c rest => simp [hrest c rfl]

/-- The first character that does not go on takes a text apart. -/
theorem eq_append_of_dropWhile {continues : Char → Bool} {cs after : List Char} {c : Char}
    (h : cs.dropWhile continues = c :: after) : continues c = false ∧ cs = cs.takeWhile continues ++ c :: after := by
  have hhead := List.head?_dropWhile_not continues cs
  rw [h] at hhead
  refine ⟨by simpa using hhead, ?_⟩
  rw [← h, List.takeWhile_append_dropWhile]

/-- A name is read in front of what cannot continue it. -/
theorem readName_append {name rest : List Char} (h : IsName name) (hrest : Stops isColumnChar rest) :
    readName isColumnChar (name ++ rest) = some (name, rest) := by
  obtain ⟨hstart, hcontinue⟩ := h
  rw [List.cons_append, readName, if_pos hstart, takeWhile_of_stops hcontinue hrest, dropWhile_of_stops hcontinue hrest]

theorem isName_of_readName {cs name rest : List Char} (h : readName isColumnChar cs = some (name, rest)) :
    IsName name := by
  cases cs with
  | nil => cases h
  | cons c cs =>
    simp only [readName] at h
    split at h
    · next hstart =>
      obtain ⟨rfl, -⟩ : c :: cs.takeWhile isColumnChar = name ∧ _ := by simpa using h
      exact ⟨hstart, fun d hd => List.mem_takeWhile_imp hd⟩
    · cases h

/-- **A column is read** in front of what cannot continue it. -/
theorem readColumn_append_of_rest {column rest : List Char} (h : IsColumnName column)
    (hrest : Stops isBareChar rest) : readColumn (column ++ rest) = some (column, rest) := by
  have hstops : Stops isColumnChar rest := fun c hc => by
    have hbare := hrest c hc
    simp only [isBareChar, Bool.or_eq_false_iff] at hbare
    exact hbare.1
  cases h with
  | plain hname =>
    rw [readColumn, readName_append hname hstops]
    cases rest with
    | nil => rfl
    | cons c rest =>
      have hdot : c ≠ '.' := by
        rintro rfl
        exact absurd (hrest '.' rfl) (by decide)
      split
      · next heq =>
        cases heq
        exact absurd rfl hdot
      · rfl
  | @qualified table name htable hname =>
    have hdot : Stops isColumnChar ('.' :: (name ++ rest)) := by
      rintro c ⟨⟩
      exact isColumnChar_dot
    rw [List.append_assoc, List.cons_append, readColumn, readName_append htable hdot]
    simp only [readName_append hname hstops]

/-- What is read is a column. -/
theorem isColumnName_of_readColumn {cs column rest : List Char} (h : readColumn cs = some (column, rest)) :
    IsColumnName column := by
  unfold readColumn at h
  split at h
  · next table more htable =>
    split at h
    · next name after hname =>
      obtain ⟨rfl, -⟩ : table ++ '.' :: name = column ∧ _ := by simpa using h
      exact .qualified (isName_of_readName htable) (isName_of_readName hname)
    · obtain ⟨rfl, -⟩ : table = column ∧ _ := by simpa using h
      exact .plain (isName_of_readName htable)
  · exact .plain (isName_of_readName h)

/-- **A text may be written bare exactly when it is a column.** -/
theorem isColumn_iff {name : String} : isColumn name = true ↔ IsColumnName name.toList := by
  constructor
  · intro h
    unfold isColumn at h
    split at h
    · next column hread =>
      have hwhole : name.toList = column := by simpa using readColumn_append hread
      exact hwhole ▸ isColumnName_of_readColumn hread
    · cases h
  · intro h
    have hend : Stops isBareChar [] := fun c hc => by cases hc
    have hread := readColumn_append_of_rest h hend
    rw [List.append_nil] at hread
    rw [isColumn, hread]

end SqlToolkit.Text
