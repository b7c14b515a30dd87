import SqlToolkit.Proofs.Condition.Tree
import SqlToolkit.Proofs.Text.Grammar
import SqlToolkit.Proofs.Text.Words

/-!
# The grammar of condition keys

A key is a column with blanks around it, and an operator in brackets behind the column if the comparison is not equality
(`KeyShape`).  `KeyVerdict` gives for every key what is made of it, with one rule for each way in which a key is refused
and two for the keys that are accepted: the key of a group is no condition, then the shape counts, then arithmetic is
told from operators that are not known.  Reading a key follows exactly these rules.  A column that is accepted may be
written bare, and every predicate that is made of it begins with it, but for the membership in an empty list.
-/
namespace SqlToolkit
open Text Outcome

/-! ### Shapes -/

/-- What may stand behind the column of a key: blanks, and between them an operator in brackets. -/
inductive KeyEnd : List Char → Option (List Char) → Prop
  | plain {back : List Char} : Blank back → KeyEnd back none
  | operator {front operator back : List Char} : Blank front → ']' ∉ operator → Blank back →
      KeyEnd (front ++ '[' :: (operator ++ ']' :: back)) (some operator)

/-- A key with its column and the text in its brackets. -/
inductive KeyShape : List Char → List Char → Option (List Char) → Prop
  | mk {front column rest : List Char} {operator : Option (List Char)} : Blank front → IsColumnName column →
      KeyEnd rest operator → KeyShape (front ++ (column ++ rest)) column operator

/-- The key of a group: a connective with blanks around it, and a comment behind a number sign. -/
def IsGroupKey (key : String) : Prop :=
  trimBlanks (key.toList.takeWhile (· != '#')) ∈ ["AND".toList, "OR".toList]

instance (key : String) : Decidable (IsGroupKey key) := inferInstanceAs (Decidable (_ ∈ _))

/-- The text in the brackets is an arithmetic operator. -/
def IsArithmetic (operator : List Char) : Prop :=
  trimBlanks operator ∈ ["+".toList, "-".toList, "*".toList, "/".toList]

instance (operator : List Char) : Decidable (IsArithmetic operator) := inferInstanceAs (Decidable (_ ∈ _))

/-- The words for an operator. -/
def Operator.spellings : Operator → List String
  | greater => [">"]
  | less => ["<"]
  | atLeast => [">="]
  | atMost => ["<="]
  | notEqual => ["!=", "!"]
  | lessGreater => ["<>"]
  | like => ["LIKE", "~"]
  | notLike => ["NOT LIKE", "!~"]
  | isIn => ["IN"]
  | notIn => ["NOT IN"]
  | between => ["BETWEEN"]
  | notBetween => ["NOT BETWEEN"]

/-- The text in the brackets is the operator, in any case and with any blanks for a space. -/
def Operator.Spells (op : Operator) (text : List Char) : Prop :=
  (squeeze (trimBlanks text)).map Char.toUpper ∈ op.spellings.map String.toList

instance (op : Operator) (text : List Char) : Decidable (op.Spells text) := inferInstanceAs (Decidable (_ ∈ _))

/-- What is made of a key and an operand. -/
inductive KeyVerdict (key : String) (operand : Operand) : Outcome Condition → Prop
  | group : IsGroupKey key → KeyVerdict key operand (.error (.invalidGroup key))
  | shape : ¬ IsGroupKey key → (∀ column operator, ¬ KeyShape key.toList column operator) →
      KeyVerdict key operand (.error (.invalidKey key))
  | arithmetic {column text : List Char} : ¬ IsGroupKey key → KeyShape key.toList column (some text) →
      IsArithmetic text → KeyVerdict key operand (.error (.arithmeticInCondition key))
  | unknown {column text : List Char} : ¬ IsGroupKey key → KeyShape key.toList column (some text) →
      ¬ IsArithmetic text → (∀ op : Operator, ¬ op.Spells text) →
      KeyVerdict key operand (.error (.unknownOperator key (String.ofList (trimBlanks text))))
  | plain {column : List Char} : ¬ IsGroupKey key → KeyShape key.toList column none →
      KeyVerdict key operand (.ok (.compare (String.ofList column) none operand))
  | operator {column text : List Char} {op : Operator} : ¬ IsGroupKey key → KeyShape key.toList column (some text) →
      ¬ IsArithmetic text → op.Spells text →
      KeyVerdict key operand (.ok (.compare (String.ofList column) (some op) operand))

/-! ### Reading a key -/

namespace Text

theorem skipBlanks_append {front : List Char} (h : Blank front) (cs : List Char) :
    skipBlanks (front ++ cs) = skipBlanks cs := by
  induction front with
  | nil => rfl
  | cons c front ih =>
    obtain ⟨hc, hfront⟩ := List.forall_mem_cons.1 h
    rw [List.cons_append, skipBlanks_cons_of_blank hc, ih hfront]

/-- The blanks that are skipped. -/
theorem exists_skipped (cs : List Char) : ∃ front, Blank front ∧ cs = front ++ skipBlanks cs :=
  ⟨cs.takeWhile isBlank, fun _ hc => List.mem_takeWhile_imp hc, List.takeWhile_append_dropWhile.symm⟩

theorem skipBlanks_of_blank {cs : List Char} (h : Blank cs) : skipBlanks cs = [] :=
  List.dropWhile_eq_nil_iff.2 h

theorem allBlank_iff {cs : List Char} : allBlank cs = true ↔ Blank cs := List.all_eq_true

end Text

/-- **What stands behind a column** is read exactly when it has the shape. -/
theorem readKeyOperator_eq_some_iff {cs : List Char} {operator : Option (List Char)} :
    readKeyOperator cs = some operator ↔ KeyEnd cs operator := by
  constructor
  · intro h
    obtain ⟨front, hfront, hcs⟩ := exists_skipped cs
    unfold readKeyOperator at h
    split at h
    · next hskip =>
      obtain rfl := Option.some.inj h
      rw [hskip, List.append_nil] at hcs
      exact .plain (hcs ▸ hfront)
    · next body hskip =>
      split at h
      · next bracket after hafter =>
        split at h
        · next hblank =>
          obtain rfl := Option.some.inj h
          obtain ⟨hstop, hbody⟩ := eq_append_of_dropWhile hafter
          obtain rfl : bracket = ']' := by simpa using hstop
          have hnot : ']' ∉ body.takeWhile (· != ']') := fun hmem => by simpa using List.mem_takeWhile_imp hmem
          rw [hcs, hskip]
          nth_rewrite 1 [hbody]
          exact .operator hfront hnot (allBlank_iff.1 hblank)
        · cases h
      · cases h
    · cases h
  · intro h
    cases h with
    | plain hback => rw [readKeyOperator, skipBlanks_of_blank hback]
    | @operator front op back hfront hop hback =>
      -- the text in the brackets ends at the first closing one, since it holds none
      have hskip : skipBlanks (front ++ '[' :: (op ++ ']' :: back)) = '[' :: (op ++ ']' :: back) := by
        rw [skipBlanks_append hfront, skipBlanks_cons_of_not_blank (by decide)]
      have hinside : ∀ c ∈ op, (c != ']') = true := by
        intro c hc
        simpa using fun heq : c = ']' => hop (heq ▸ hc)
      have hstops : Stops (· != ']') (']' :: back) := by
        rintro c ⟨⟩
        decide
      unfold readKeyOperator
      rw [hskip]
      simp only [dropWhile_of_stops hinside hstops, takeWhile_of_stops hinside hstops, allBlank_iff.2 hback, if_true]

/-- Nothing behind a column continues it. -/
theorem KeyEnd.stops {rest : List Char} {operator : Option (List Char)} (h : KeyEnd rest operator) :
    Stops isBareChar rest := by
  have hblank : ∀ {c}, isBlank c = true → isBareChar c = false := fun hc =>
    Bool.eq_false_iff.2 fun hbare => by
      rw [isBlank_of_isBareChar hbare] at hc
      cases hc
  intro c hc
  cases h with
  | plain hback => exact hblank (hback c (List.mem_of_mem_head? hc))
  | @operator front op back hfront _ _ =>
    cases front with
    | nil =>
      obtain rfl : '[' = c := by simpa using hc
      decide
    | cons d front =>
      obtain rfl : d = c := by simpa using hc
      exact hblank (hfront d List.mem_cons_self)

/-- **A key is taken apart** exactly when it has a shape, into the column and the trimmed text in the brackets. -/
theorem splitKey_eq_ok_iff {key column : String} {token : Option String} :
    splitKey key = .ok (column, token) ↔
      ∃ text, KeyShape key.toList column.toList text ∧ token = text.map fun op => String.ofList (trimBlanks op) := by
  constructor
  · intro h
    obtain ⟨front, hfront, hkey⟩ := exists_skipped key.toList
    unfold splitKey at h
    split at h
    · next name rest hread =>
      split at h
      · next text hrest =>
        cases h
        rw [hkey, readColumn_append hread, String.toList_ofList]
        exact ⟨text, .mk hfront (isColumnName_of_readColumn hread) (readKeyOperator_eq_some_iff.1 hrest), rfl⟩
      · cases h
    · cases h
  · rintro ⟨text, hshape, rfl⟩
    -- the front goes with the blanks, and what stands behind the column does not lengthen it
    generalize hkey : key.toList = cs at hshape
    generalize hcolumn : column.toList = name at hshape
    obtain @⟨front, _, rest, _, hfront, hname, hrest⟩ := hshape
    obtain ⟨c, cs, hcons, hc⟩ := hname.exists_cons
    have hskip : skipBlanks (front ++ (name ++ rest)) = name ++ rest := by
      rw [skipBlanks_append hfront, hcons, List.cons_append, skipBlanks_cons_of_not_blank hc]
    have hread : readColumn (skipBlanks key.toList) = some (name, rest) := by
      rw [hkey, hskip, readColumn_append_of_rest hname hrest.stops]
    simp [splitKey, hread, readKeyOperator_eq_some_iff.2 hrest, ← hcolumn]

theorem splitKey_eq_error {key : String} {cause : CompileError} (h : splitKey key = .error cause) :
    cause = .invalidKey key := by
  unfold splitKey at h
  split at h
  · split at h <;> cases h
    rfl
  · cases h
    rfl

/-! ### Reading an operator -/

theorem ofList_eq_iff {cs : List Char} {s : String} : String.ofList cs = s ↔ cs = s.toList := by
  constructor
  · rintro rfl
    exact String.toList_ofList.symm
  · rintro rfl
    exact String.ofList_toList

theorem isSome_ofKey? {key : String} : (Logic.ofKey? key).isSome ↔ IsGroupKey key := by
  rw [IsGroupKey, List.mem_pair, ← ofList_eq_iff, ← ofList_eq_iff]
  unfold Logic.ofKey?
  split <;> simp_all

theorem isSome_ofToken? {text : List Char} :
    (Arithmetic.ofToken? (String.ofList (trimBlanks text))).isSome ↔ IsArithmetic text := by
  simp only [IsArithmetic, List.mem_cons, List.not_mem_nil, or_false, ← ofList_eq_iff]
  unfold Arithmetic.ofToken?
  split <;> simp_all

namespace Operator

theorem toList_normalizeToken (token : String) :
    (normalizeToken token).toList = (squeeze (trimBlanks token.toList)).map Char.toUpper := by
  have hspace : [' '].map Char.toUpper = [' '] := by decide
  rw [normalizeToken, String.toList_intercalate, List.map_map, ← intercalate_words, map_intercalate, hspace]
  simp [Function.comp_def]

/-- The table of operators and the words for each of them are one relation, read in two directions. -/
theorem ofToken?_eq_some_iff {token : String} {op : Operator} :
    ofToken? token = some op ↔ normalizeToken token ∈ op.spellings := by
  unfold ofToken?
  generalize normalizeToken token = normal
  constructor
  · intro h
    split at h <;> cases h <;> simp [spellings]
  · intro h
    cases op <;> simp only [spellings, List.mem_cons, List.not_mem_nil, or_false] at h <;> rcases h with rfl | rfl <;>
      rfl

/-- **A token is read as an operator** exactly when it spells it. -/
theorem ofToken?_eq_some_iff_spells {text : List Char} {op : Operator} :
    ofToken? (String.ofList (trimBlanks text)) = some op ↔ op.Spells text := by
  rw [ofToken?_eq_some_iff, Spells]
  have hnormal := toList_normalizeToken (String.ofList (trimBlanks text))
  rw [String.toList_ofList, trimBlanks_trimBlanks] at hnormal
  rw [← hnormal, List.mem_map_of_injective fun _ _ => String.toList_inj.1]

end Operator

/-! ### What is made of a key -/

/-- Whatever a key is, there is a rule for it. -/
theorem exists_keyVerdict (key : String) (operand : Operand) : ∃ outcome, KeyVerdict key operand outcome := by
  by_cases hgroup : IsGroupKey key
  · exact ⟨_, .group hgroup⟩
  by_cases hshape : ∃ column text, KeyShape key.toList column text
  · obtain ⟨column, text, hshape⟩ := hshape
    cases text with
    | none => exact ⟨_, .plain hgroup hshape⟩
    | some text =>
      by_cases harithmetic : IsArithmetic text
      · exact ⟨_, .arithmetic hgroup hshape harithmetic⟩
      by_cases hspelled : ∃ op : Operator, op.Spells text
      · obtain ⟨op, hop⟩ := hspelled
        exact ⟨_, .operator hgroup hshape harithmetic hop⟩
      · exact ⟨_, .unknown hgroup hshape harithmetic (not_exists.1 hspelled)⟩
  · exact ⟨_, .shape hgroup fun column text h => hshape ⟨column, text, h⟩⟩

theorem KeyShape.isColumnName {key column : List Char} {text : Option (List Char)} (h : KeyShape key column text) :
    IsColumnName column := by
  cases h
  assumption

namespace Condition
variable {key : String} {operand : Operand}

theorem parseOperator_of_isArithmetic {text : List Char} (h : IsArithmetic text) :
    parseOperator key (some (String.ofList (trimBlanks text))) = .error (.arithmeticInCondition key) :=
  if_pos (isSome_ofToken?.2 h)

theorem parseOperator_of_spells {text : List Char} {op : Operator} (harithmetic : ¬ IsArithmetic text)
    (h : op.Spells text) : parseOperator key (some (String.ofList (trimBlanks text))) = .ok (some op) := by
  rw [parseOperator, if_neg (mt isSome_ofToken?.1 harithmetic), Operator.ofToken?_eq_some_iff_spells.2 h]

theorem parseOperator_of_unknown {text : List Char} (harithmetic : ¬ IsArithmetic text)
    (h : ∀ op : Operator, ¬ op.Spells text) :
    parseOperator key (some (String.ofList (trimBlanks text))) =
      .error (.unknownOperator key (String.ofList (trimBlanks text))) := by
  have hnone : Operator.ofToken? (String.ofList (trimBlanks text)) = none :=
    Option.eq_none_iff_forall_ne_some.2 fun op hop => h op (Operator.ofToken?_eq_some_iff_spells.1 hop)
  rw [parseOperator, if_neg (mt isSome_ofToken?.1 harithmetic), hnone]

/-- A key that is no group's is refused for its operator alone once it has a shape: the column of a shape may always be
written bare. -/
theorem parse_of_keyShape {column : List Char} {text : Option (List Char)} (hgroup : ¬ IsGroupKey key)
    (hshape : KeyShape key.toList column text) :
    parse key operand = parseOperator key (text.map fun op => String.ofList (trimBlanks op)) >>= fun operator =>
      pure (compare (String.ofList column) operator operand) := by
  have hsplit : splitKey key = .ok (String.ofList column, text.map fun op => String.ofList (trimBlanks op)) :=
    splitKey_eq_ok_iff.2 ⟨text, String.toList_ofList.symm ▸ hshape, rfl⟩
  have hvalid : validateColumn (String.ofList column) = .ok (String.ofList column) :=
    validateColumn_eq_ok.2 ⟨rfl, isColumn_iff.2 (String.toList_ofList.symm ▸ hshape.isColumnName)⟩
  rw [parse, if_neg (mt isSome_ofKey?.1 hgroup), hsplit]
  show (parseOperator key _ >>= fun operator => validateColumn (String.ofList column) >>= fun column => _) = _
  rw [hvalid]
  rfl

/-- A rule that applies to a key says what is made of it. -/
theorem parse_of_keyVerdict {outcome : Outcome Condition} (h : KeyVerdict key operand outcome) :
    parse key operand = outcome := by
  cases h with
  | group hgroup =>
    rw [parse, if_pos (isSome_ofKey?.2 hgroup)]
    rfl
  | shape hgroup hshape =>
    -- a key that is taken apart would have a shape
    have hsplit : splitKey key = .error (.invalidKey key) := by
      cases hsplit : splitKey key with
      | error cause => rw [splitKey_eq_error hsplit]
      | ok parts =>
        obtain ⟨text, htext, -⟩ := splitKey_eq_ok_iff.1 hsplit
        exact absurd htext (hshape _ _)
    rw [parse, if_neg (mt isSome_ofKey?.1 hgroup), hsplit]
    rfl
  | arithmetic hgroup hshape harithmetic =>
    rw [parse_of_keyShape hgroup hshape, Option.map_some, parseOperator_of_isArithmetic harithmetic]
    rfl
  | unknown hgroup hshape harithmetic hunknown =>
    rw [parse_of_keyShape hgroup hshape, Option.map_some, parseOperator_of_unknown harithmetic hunknown]
    rfl
  | plain hgroup hshape =>
    rw [parse_of_keyShape hgroup hshape]
    rfl
  | operator hgroup hshape harithmetic hop =>
    rw [parse_of_keyShape hgroup hshape, Option.map_some, parseOperator_of_spells harithmetic hop]
    rfl

theorem parse_eq_iff {outcome : Outcome Condition} : parse key operand = outcome ↔ KeyVerdict key operand outcome := by
  constructor
  · rintro rfl
    obtain ⟨outcome, houtcome⟩ := exists_keyVerdict key operand
    rwa [parse_of_keyVerdict houtcome]
  · exact parse_of_keyVerdict

theorem sql_binary_raw (column op : String) (f : Fragment) :
    ((Fragment.raw column).binary op f).sql = column ++ " " ++ (op ++ " " ++ f.sql) := by
  simp [Fragment.binary, Fragment.raw, String.append_assoc]

/-- The predicate of a comparison begins with the column, but for the membership in an empty list. -/
theorem Leaf.begins {column : String} {operator : Option Operator} {f : Fragment} (h : Leaf column operator operand f)
    (hne : operand ≠ .list []) : ∃ rest, f.sql = column ++ " " ++ rest := by
  cases h with
  | equal | scalar | raw => exact ⟨_, sql_binary_raw ..⟩
  | null | notNull => exact ⟨_, rfl⟩
  | @member _ negated values =>
    have hvalues : values.isEmpty = false := by
      cases values with
      | nil => exact absurd rfl hne
      | cons v values => rfl
    have hword : (if negated then " NOT IN (" else " IN (") = " " ++ if negated then "NOT IN (" else "IN (" := by
      cases negated <;> rfl
    rw [Fragment.inList, if_neg (Bool.eq_false_iff.1 hvalues), hword]
    simp only [Fragment.raw, String.append_assoc]
    exact ⟨_, rfl⟩
  | @range _ negated low high =>
    have hword : (if negated then " NOT BETWEEN " else " BETWEEN ") =
        " " ++ if negated then "NOT BETWEEN " else "BETWEEN " := by
      cases negated <;> rfl
    rw [Fragment.between, hword]
    simp only [Fragment.raw, String.append_assoc]
    exact ⟨_, rfl⟩

/-- **Condition keys are accepted by exactly one grammar.**  For every key and operand, reading the key gives what the
rules give.  It never fails for the column as such.  A condition that is read compares a column that may be written bare
with the operand, and its predicate begins with that column whenever the operand is not an empty list. -/
theorem parse_grammar (key : String) (operand : Operand) :
    (∀ outcome, parse key operand = outcome ↔ KeyVerdict key operand outcome) ∧
      (∀ name, parse key operand ≠ .error (.invalidIdentifier name)) ∧
      ∀ condition, parse key operand = .ok condition → ∃ column operator,
        condition = .compare column operator operand ∧ validateColumn column = .ok column ∧
          ∀ render f, compile render condition = .ok f → operand ≠ .list [] →
            ∃ rest, f.sql = column ++ " " ++ rest := by
  refine ⟨fun outcome => parse_eq_iff, fun name h => ?_, fun condition h => ?_⟩
  · cases parse_eq_iff.1 h
  · obtain ⟨column, operator, rfl, hcolumn⟩ : ∃ column operator,
        condition = .compare (String.ofList column) operator operand ∧ IsColumnName column := by
      cases parse_eq_iff.1 h with
      | plain _ hshape | operator _ hshape => exact ⟨_, _, rfl, hshape.isColumnName⟩
    refine ⟨_, _, rfl, validateColumn_eq_ok.2 ⟨rfl, isColumn_iff.2 (String.toList_ofList.symm ▸ hcolumn)⟩, ?_⟩
    exact fun render f hf hne => (leaf_of_compileCompare hf).begins hne

/-- A table's column behind a blank, and an operator in small letters with two blanks in it. -/
theorem parse_grammar_notIn :
    let key := " users.age [ not \u3000in ]"
    let operand : Operand := .list [.null]
    parse key operand = .ok (.compare "users.age" (some .notIn) operand) ∧
      ∀ render f, compile render (.compare "users.age" (some .notIn) operand) = .ok f →
        ∃ rest, f.sql = "users.age" ++ " " ++ rest := by
  have hcolumn : IsColumnName "users.age".toList := isColumn_iff.1 (by decide)
  have hend : KeyEnd " [ not \u3000in ]".toList (some " not \u3000in ".toList) :=
    readKeyOperator_eq_some_iff.1 (by decide)
  have hshape : KeyShape " users.age [ not \u3000in ]".toList "users.age".toList (some " not \u3000in ".toList) :=
    .mk (by decide : Blank [' ']) hcolumn hend
  have hop : Operator.notIn.Spells " not \u3000in ".toList := by decide
  have hparse := ((parse_grammar " users.age [ not \u3000in ]" (.list [.null])).1 _).2
    (.operator (by decide) hshape (by decide) hop)
  refine ⟨hparse, fun render f hf => ?_⟩
  obtain ⟨column, operator, heq, -, hsql⟩ := (parse_grammar _ _).2.2 _ hparse
  cases heq
  exact hsql render f hf (by simp)

end Condition
end SqlToolkit
