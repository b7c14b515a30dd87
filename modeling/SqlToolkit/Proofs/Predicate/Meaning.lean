import SqlToolkit.Proofs.Condition.Binding
import SqlToolkit.Proofs.Predicate.Reader

/-!
# Predicates keep their meaning

The predicate of a tree, read back by precedence and filled with its parameters, has the truth value of the tree in
every row.  A comparison is read as one predicate, so nothing around it can take a part of it; members of a group are
joined by one connective and parentheses stand around the group, so precedence never regroups them.
-/
namespace SqlToolkit
open Text Lexeme Formula

namespace Fragment

/-! ### What a fragment is read as -/

/-- The lexemes of the fragment, filled with its values. -/
def Reads (f : Fragment) (lexemes : List (Lexeme Value)) : Prop := fill (cut f.sql.toList) f.params = some lexemes

variable {f g : Fragment} {ls ms ns : List (Lexeme Value)}

/-- A text that goes on after a space. -/
theorem Reads.after (hf : f.Reads ls) {text : String} {tail : List Char} {more : List Value}
    (htext : text.toList = f.sql.toList ++ ' ' :: tail) (htail : fill (cut tail) more = some ms) :
    Reads ⟨text, f.params ++ more⟩ (ls ++ ms) := by
  unfold Reads at hf ⊢
  rw [htext, cut_space, fill_append hf, htail, Option.map_some]

theorem Reads.binary (hf : f.Reads ls) {op : String} (hop : (raw op).Reads ms) (hg : g.Reads ns) :
    (f.binary op g).Reads (ls ++ (ms ++ ns)) := by
  have htext : (op ++ " " ++ g.sql).toList = op.toList ++ ' ' :: g.sql.toList := by simp
  have htail : Reads ⟨op ++ " " ++ g.sql, [] ++ g.params⟩ (ms ++ ns) := hop.after htext hg
  exact hf.after (by simp) htail

theorem Reads.trailing (hf : f.Reads ls) {op : String} (hop : (raw op).Reads ms) :
    (f.trailing op).Reads (ls ++ ms) := by
  have htext : (f.sql ++ " " ++ op).toList = f.sql.toList ++ ' ' :: op.toList := by simp
  have h : Reads ⟨f.sql ++ " " ++ op, f.params ++ []⟩ (ls ++ ms) := hf.after htext hop
  rwa [List.append_nil] at h

theorem Reads.between (hf : f.Reads ls) (low high : Value) (negated : Bool) :
    (f.between low high negated).Reads (ls ++ ((if negated then [word "NOT", word "BETWEEN"] else [word "BETWEEN"]) ++
      [hole low.coerce, word "AND", hole high.coerce])) := by
  cases negated with
  | false =>
    have htext : (f.sql ++ " BETWEEN " ++ "? AND ?").toList = f.sql.toList ++ ' ' :: "BETWEEN ? AND ?".toList := by
      simp
    exact hf.after htext rfl
  | true =>
    have htext : (f.sql ++ " NOT BETWEEN " ++ "? AND ?").toList =
        f.sql.toList ++ ' ' :: "NOT BETWEEN ? AND ?".toList := by
      simp
    exact hf.after htext rfl

theorem Reads.paren (hf : f.Reads ls) : f.paren.Reads (opening :: (ls ++ [closing])) := by
  have htext : ("(" ++ f.sql ++ ")").toList = '(' :: (f.sql.toList ++ ')' :: []) := by simp
  have hopen : single? '(' = some [opening] := by decide
  have hclose : single? ')' = some [closing] := by decide
  have hfilled := fill_append hf [closing] []
  rw [List.append_nil] at hfilled
  unfold Reads
  rw [Fragment.paren, htext, cut_cons_single hopen, cut_append_single hclose]
  change fill (opening :: (cut f.sql.toList ++ [closing])) f.params = _
  rw [fill, hfilled]
  rfl

/-- The lexemes of the members of a list and of the parenthesis that ends it. -/
def listed : List Value → List (Lexeme Value)
  | [] => [closing]
  | [v] => [hole v, closing]
  | v :: w :: values => hole v :: comma :: listed (w :: values)

theorem readValues_listed {values : List Value} (h : values ≠ []) (rest : List (Lexeme Value)) :
    readValues (listed values ++ rest) = some (values, rest) := by
  induction values with
  | nil => exact absurd rfl h
  | cons v values ih =>
    cases values with
    | nil => rfl
    | cons w values =>
      rw [listed, List.cons_append, List.cons_append, readValues, ih (by simp)]
      rfl

theorem fill_marks {values : List Value} (h : values ≠ []) :
    fill (cut ((", ".intercalate (values.map fun _ => "?")).toList ++ [')'])) values = some (listed values) := by
  have hmark : single? '?' = some [hole ()] := by decide
  have hcomma : single? ',' = some [comma] := by decide
  have hspace : single? ' ' = some [] := by decide
  induction values with
  | nil => exact absurd rfl h
  | cons v values ih =>
    cases values with
    | nil =>
      have htext : (", ".intercalate ([v].map fun _ => "?")).toList ++ [')'] = ['?', ')'] := by simp
      rw [htext, cut_cons_single hmark]
      rfl
    | cons w values =>
      have htext : ((", ".intercalate ((v :: w :: values).map fun _ => "?")).toList ++ [')']) =
          '?' :: ',' :: ' ' :: ((", ".intercalate ((w :: values).map fun _ => "?")).toList ++ [')']) := by
        simp [String.intercalate_cons_cons]
      rw [htext, cut_cons_single hmark, cut_cons_single hcomma, cut_cons_single hspace]
      change fill (hole () :: comma :: cut _) _ = _
      rw [fill, fill, ih (by simp)]
      rfl

theorem Reads.inList (hf : f.Reads ls) {values : List Value} (h : values ≠ []) (negated : Bool) :
    (f.inList values negated).Reads (ls ++ ((if negated then [word "NOT", word "IN"] else [word "IN"]) ++
      opening :: listed (values.map Value.coerce))) := by
  have hopen : single? '(' = some [opening] := by decide
  have hmarks : fill (cut ((", ".intercalate (values.map fun _ => "?")).toList ++ [')'])) (values.map Value.coerce) =
      some (listed (values.map Value.coerce)) := by
    have hne : values.map Value.coerce ≠ [] := by simpa using h
    have hmap : (values.map Value.coerce).map (fun _ => "?") = values.map fun _ => "?" := by
      rw [List.map_map]
      rfl
    rw [← hmap]
    exact fill_marks hne
  have hlist : ∀ {k : List Char} {words : List (Lexeme Value)}, fill (cut k) [] = some words →
      fill (cut (k ++ '(' :: ((", ".intercalate (values.map fun _ => "?")).toList ++ [')'])))
        (values.map Value.coerce) = some (words ++ opening :: listed (values.map Value.coerce)) := by
    intro k words hwords
    rw [cut_append_single hopen]
    refine (fill_append hwords _ _).trans ?_
    rw [List.singleton_append, fill, hmarks]
    rfl
  have hne : values.isEmpty = false := by simpa using h
  unfold Fragment.inList
  rw [if_neg (by simp [hne])]
  cases negated with
  | false => exact hf.after (by simp) (hlist (k := "IN ".toList) rfl)
  | true => exact hf.after (by simp) (hlist (k := "NOT IN ".toList) rfl)

end Fragment

/-! ### Comparisons -/

namespace Formula

/-- The name of a column is no number. -/
theorem readInt?_of_isColumn {column : String} (h : isColumn column = true) :
    Number.readInt? column.toList = none := by
  obtain ⟨c, hc, hstarts⟩ := isColumn_starts h
  obtain ⟨cs, hcs⟩ : ∃ cs, column.toList = c :: cs := List.head?_eq_some_iff.1 hc
  have hne : ∀ d, startsName d = false → c ≠ d := by
    intro d hd hcd
    rw [hcd, hd] at hstarts
    cases hstarts
  have hsign : Number.readSign (c :: cs) = (false, c :: cs) := by
    have hminus := hne '-' (by decide)
    have hplus := hne '+' (by decide)
    unfold Number.readSign
    split
    · simp_all
    · simp_all
    · rfl
  rw [hcs, Number.readInt?, hsign]
  simp [isDigit_of_startsName hstarts]

theorem readAtom_column {column : String} (h : isColumn column = true) (rest : List (Lexeme Value)) :
    readAtom (word column :: rest) = readTest column rest := by
  rw [readAtom, readInt?_of_isColumn h]

end Formula

namespace Fragment

/-- The fragment is read as one predicate, whatever follows it, and the predicate has the truth value. -/
def Tests (db : Comparisons) (row : String → Value) (f : Fragment) (x : Truth) : Prop :=
  ∃ lexemes a, f.Reads lexemes ∧ (∀ rest, readAtom (lexemes ++ rest) = some (a, rest)) ∧ a.truth db row = x

variable {db : Comparisons} {row : String → Value} {column : String}

/-- What is said of a column after its name. -/
theorem tests_of_readTest (hcolumn : isColumn column = true) {f : Fragment} {tail : List (Lexeme Value)} {a : Atom}
    (hf : f.Reads ([word column] ++ tail)) (htest : ∀ rest, readTest column (tail ++ rest) = some (a, rest)) :
    f.Tests db row (a.truth db row) := by
  refine ⟨_, a, hf, fun rest => ?_, rfl⟩
  exact (readAtom_column hcolumn _).trans (htest rest)

theorem reads_column (hcolumn : isColumn column = true) : (raw column).Reads [word column] := by
  obtain ⟨hne, hbare⟩ := isColumn_bare hcolumn
  rw [Reads, raw, cut_word hne hbare, String.ofList_toList]
  rfl

theorem reads_value (v : Value) : (value v).Reads [hole v.coerce] := by
  have hmark : cut "?".toList = [hole ()] := by decide
  rw [Reads, value, hmark]
  rfl

theorem tests_null (hcolumn : isColumn column = true) :
    ((raw column).trailing "IS NULL").Tests db row (.ofBool (row column).isNull) := by
  have hop : (raw "IS NULL").Reads [word "IS", word "NULL"] := rfl
  exact tests_of_readTest hcolumn ((reads_column hcolumn).trailing hop) fun _ => rfl

theorem tests_notNull (hcolumn : isColumn column = true) :
    ((raw column).trailing "IS NOT NULL").Tests db row (Truth.ofBool (row column).isNull).not := by
  have hop : (raw "IS NOT NULL").Reads [word "IS", word "NOT", word "NULL"] := rfl
  exact tests_of_readTest hcolumn ((reads_column hcolumn).trailing hop) fun _ => rfl

theorem tests_equal (hcolumn : isColumn column = true) (v : Value) :
    ((raw column).binary "=" (value v)).Tests db row (db.compare .equal (row column) v.coerce) := by
  have hop : (raw "=").Reads [word "="] := rfl
  exact tests_of_readTest hcolumn ((reads_column hcolumn).binary hop (reads_value v)) fun _ => rfl

/-- An operator with one value is read as its relation. -/
theorem tests_scalar (hcolumn : isColumn column = true) {op : Operator} {relation : Relation} {negated : Bool}
    (hop : op.relation? = some (relation, negated)) (v : Value) :
    ((raw column).binary op.keyword (value v)).Tests db row
      ((db.compare relation (row column) v.coerce).notIf negated) := by
  have hone : ∀ {op : String}, (raw op).Reads [word op] →
      (∀ rest, readTest column (word op :: hole v.coerce :: rest) =
        some (.compare column relation negated v.coerce, rest)) →
      ((raw column).binary op (value v)).Tests db row
        ((db.compare relation (row column) v.coerce).notIf negated) := fun hop htest =>
    tests_of_readTest hcolumn ((reads_column hcolumn).binary hop (reads_value v)) htest
  cases op with
  | notLike =>
    obtain ⟨rfl, rfl⟩ := Prod.mk.inj (Option.some.inj hop)
    have htwo : (raw "NOT LIKE").Reads [word "NOT", word "LIKE"] := rfl
    exact tests_of_readTest hcolumn ((reads_column hcolumn).binary htwo (reads_value v)) fun _ => rfl
  | isIn | notIn | between | notBetween => cases hop
  | _ =>
    obtain ⟨rfl, rfl⟩ := Prod.mk.inj (Option.some.inj hop)
    exact hone rfl fun _ => rfl

/-- Membership in the empty list is a comparison of two literals. -/
theorem tests_inList (hcolumn : isColumn column = true) (values : List Value) (negated : Bool) :
    ((raw column).inList values negated).Tests db row
      ((db.member (row column) (values.map Value.coerce)).notIf negated) := by
  by_cases hempty : values = []
  · subst hempty
    cases negated with
    | false =>
      have htext : (raw "1 = 0").Reads [word "1", word "=", word "0"] := rfl
      exact ⟨_, .constant false, htext, fun _ => rfl, rfl⟩
    | true =>
      have htext : (raw "1 = 1").Reads [word "1", word "=", word "1"] := rfl
      exact ⟨_, .constant true, htext, fun _ => rfl, rfl⟩
  · have hvalues : ∀ rest, readValues (listed (values.map Value.coerce) ++ rest) =
        some (values.map Value.coerce, rest) := readValues_listed (by simpa using hempty)
    have hf := (reads_column hcolumn).inList hempty negated
    refine tests_of_readTest (a := .member column (values.map Value.coerce) negated) hcolumn hf fun rest => ?_
    cases negated with
    | false => simp [readTest, hvalues]
    | true => simp [readTest, hvalues]

theorem tests_between (hcolumn : isColumn column = true) (low high : Value) (negated : Bool) :
    ((raw column).between low high negated).Tests db row
      ((db.range (row column) low.coerce high.coerce).notIf negated) := by
  have hf := (reads_column hcolumn).between low high negated
  refine tests_of_readTest (a := .range column low.coerce high.coerce negated) hcolumn hf fun rest => ?_
  cases negated <;> rfl

end Fragment

namespace Condition
variable {db : Comparisons} {row : String → Value}

/-- **A comparison is read as one predicate with its truth.** -/
theorem Leaf.tests {column : String} {operator : Option Operator} {operand : Operand} {f : Fragment}
    (h : Leaf column operator operand f) (hcolumn : isColumn column = true) (hraw : ∀ sql, operand ≠ .raw sql) :
    f.Tests db row (leafTruth db (row column) operator operand) := by
  cases h with
  | @equal v hv =>
    rw [leafTruth, if_neg (by simp [hv])]
    exact Fragment.tests_equal hcolumn v
  | null => exact Fragment.tests_null hcolumn
  | @notNull op hdifference =>
    rw [leafTruth, if_pos (by simp [Value.isNull, hdifference])]
    exact Fragment.tests_notNull hcolumn
  | @scalar op v hshape hnull =>
    have hnull : ¬ (v.isNull && op.isDifference) = true := by simpa [testsNull] using hnull
    obtain ⟨⟨relation, negated⟩, hop⟩ : ∃ r, op.relation? = some r := by
      cases op <;> first | exact ⟨_, rfl⟩ | cases hshape
    rw [leafTruth, if_neg hnull, hop]
    exact Fragment.tests_scalar hcolumn hop v
  | @member _ negated values hshape =>
    have hmember : ((Fragment.raw column).inList values negated).Tests db row
        ((db.member (row column) (values.map Value.coerce)).notIf negated) :=
      Fragment.tests_inList hcolumn values negated
    cases operator with
    | none =>
      obtain rfl : false = negated := by simpa using hshape
      exact hmember
    | some op =>
      have hshape : op.shape = .membership negated := by simpa using hshape
      simpa only [leafTruth, hshape] using hmember
  | range low high hshape =>
    simpa only [leafTruth, hshape] using Fragment.tests_between hcolumn low high _
  | raw => exact absurd rfl (hraw _)

end Condition

/-! ### Groups -/

namespace Fragment

/-- What the fragment is read as, at a level of the descent, has the truth value. -/
def Means (level : List (Lexeme Value) → Formula → Prop) (db : Comparisons) (row : String → Value) (f : Fragment)
    (x : Truth) : Prop :=
  ∃ lexemes φ, f.Reads lexemes ∧ level lexemes φ ∧ φ.truth db row = x

/-- A fragment without text has no truth value; any other is read at the level. -/
inductive Renders (level : List (Lexeme Value) → Formula → Prop) (db : Comparisons) (row : String → Value) :
    Fragment → Option Truth → Prop
  | void {f : Fragment} : f.isEmpty = true → Renders level db row f none
  | formula {f : Fragment} {x : Truth} : f.isEmpty = false → f.Means level db row x → Renders level db row f (some x)

variable {db : Comparisons} {row : String → Value} {f g : Fragment} {x y : Truth}

theorem Tests.means (h : f.Tests db row x) : f.Means Primary db row x := by
  obtain ⟨lexemes, a, hreads, hatom, htruth⟩ := h
  exact ⟨lexemes, .atom a, hreads, primary_atom hatom, htruth⟩

theorem Means.mono {level level' : List (Lexeme Value) → Formula → Prop} (h : f.Means level db row x)
    (hlevel : ∀ lexemes φ, level lexemes φ → level' lexemes φ) : f.Means level' db row x := by
  obtain ⟨lexemes, φ, hreads, hφ, htruth⟩ := h
  exact ⟨lexemes, φ, hreads, hlevel _ _ hφ, htruth⟩

theorem Means.paren (h : f.Means Disjunction db row x) : f.paren.Means Primary db row x := by
  obtain ⟨lexemes, φ, hreads, hφ, htruth⟩ := h
  exact ⟨_, φ, hreads.paren, hφ.parens, htruth⟩

theorem Means.and (hf : f.Means Primary db row x) (hg : g.Means Conjunction db row y) :
    (f.binary "AND" g).Means Conjunction db row (x.and y) := by
  obtain ⟨ls, φ, hls, hφ, rfl⟩ := hf
  obtain ⟨ms, ψ, hms, hψ, rfl⟩ := hg
  have hop : (raw "AND").Reads [word "AND"] := rfl
  exact ⟨_, .and φ ψ, hls.binary hop hms, hφ.and hψ, rfl⟩

theorem Means.or (hf : f.Means Conjunction db row x) (hg : g.Means Disjunction db row y) :
    (f.binary "OR" g).Means Disjunction db row (x.or y) := by
  obtain ⟨ls, φ, hls, hφ, rfl⟩ := hf
  obtain ⟨ms, ψ, hms, hψ, rfl⟩ := hg
  have hop : (raw "OR").Reads [word "OR"] := rfl
  exact ⟨_, .or φ ψ, hls.binary hop hms, hφ.or hψ, rfl⟩

theorem join_singleton (f : Fragment) (separator : String) : join [f] separator = f := by
  simp [join]

/-- A separator joins as an operator does. -/
theorem join_cons_cons (f g : Fragment) (rest : List Fragment) {separator op : String}
    (hop : separator = " " ++ op ++ " ") :
    join (f :: g :: rest) separator = f.binary op (join (g :: rest) separator) := by
  simp [join, binary, String.intercalate_cons_cons, hop, String.append_assoc]

/-- Members joined by `AND` all hold. -/
theorem means_all {parts : List Fragment} {xs : List Truth}
    (h : List.Forall₂ (fun f x => f.Means Primary db row x) parts xs) (hne : parts ≠ []) :
    (join parts " AND ").Means Conjunction db row (.all xs) := by
  induction h with
  | nil => exact absurd rfl hne
  | @cons f x parts xs hf hrest ih =>
    cases hrest with
    | nil =>
      rw [join_singleton]
      simpa [Truth.all] using hf.mono fun _ _ => Primary.conjunction
    | cons _ _ =>
      have hop : " AND " = " " ++ "AND" ++ " " := rfl
      rw [join_cons_cons _ _ _ hop]
      exact hf.and (ih (by simp))

/-- Of members joined by `OR` one holds. -/
theorem means_any {parts : List Fragment} {xs : List Truth}
    (h : List.Forall₂ (fun f x => f.Means Primary db row x) parts xs) (hne : parts ≠ []) :
    (join parts " OR ").Means Disjunction db row (.any xs) := by
  induction h with
  | nil => exact absurd rfl hne
  | @cons f x parts xs hf hrest ih =>
    have hconj : f.Means Conjunction db row x := hf.mono fun _ _ => Primary.conjunction
    cases hrest with
    | nil =>
      rw [join_singleton]
      simpa [Truth.any] using hconj.mono fun _ _ => Conjunction.disjunction
    | cons _ _ =>
      have hop : " OR " = " " ++ "OR" ++ " " := rfl
      rw [join_cons_cons _ _ _ hop]
      exact hconj.or (ih (by simp))

end Fragment

namespace Condition
variable {db : Comparisons} {row : String → Value} {render : RawSql → String}

/-- The members with text are those with a truth value. -/
theorem means_members {conditions : List Condition} {fs : List Fragment}
    (h : List.Forall₂ (fun c f => compile render c = .ok f) conditions fs)
    (hmembers : ∀ c ∈ conditions, ∀ f, compile render c = .ok f → f.Renders Primary db row (truth db row c)) :
    List.Forall₂ (fun f x => f.Means Primary db row x) (fs.filter fun f => !f.isEmpty) (truths db row conditions) := by
  induction h with
  | nil => exact .nil
  | @cons c f conditions fs hf _ ih =>
    obtain ⟨hc, hcs⟩ := List.forall_mem_cons.1 hmembers
    have hrenders := hc f hf
    rw [truths]
    generalize truth db row c = m at hrenders
    cases hrenders with
    | void hempty =>
      rw [List.filter_cons_of_neg (by simp [hempty])]
      exact ih hcs
    | formula hempty hmeans =>
      rw [List.filter_cons_of_pos (by simp [hempty])]
      exact .cons hmeans (ih hcs)

/-- Members joined by their connective are read together, and have their truth values under it. -/
theorem renders_joinFilter {conditions : List Condition} {fs : List Fragment}
    (h : List.Forall₂ (fun c f => compile render c = .ok f) conditions fs)
    (hmembers : ∀ c ∈ conditions, ∀ f, compile render c = .ok f → f.Renders Primary db row (truth db row c))
    (logic : Logic) :
    (Fragment.join (fs.filter fun f => !f.isEmpty) logic.separator).Renders Disjunction db row
      (logic.combine (truths db row conditions)) := by
  have hparts := means_members h hmembers
  have hempty := isEmpty_joinFilter fs logic.separator
  generalize hfilter : fs.filter (fun f => !f.isEmpty) = parts at hparts hempty ⊢
  generalize truths db row conditions = xs at hparts ⊢
  by_cases hnil : parts = []
  · subst hnil
    rw [List.forall₂_nil_left_iff] at hparts
    subst hparts
    exact .void rfl
  · have hsome : fs.all Fragment.isEmpty = false := by
      refine Bool.eq_false_iff.2 fun hall => hnil ?_
      rw [← hfilter, List.filter_eq_nil_iff]
      intro f hf
      simp [List.all_eq_true.1 hall f hf]
    obtain ⟨x, xs', rfl⟩ : ∃ x xs', xs = x :: xs' := by
      cases hparts with
      | nil => exact absurd rfl hnil
      | cons _ _ => exact ⟨_, _, rfl⟩
    have hjoin := hempty.trans hsome
    cases logic with
    | and =>
      exact .formula hjoin ((Fragment.means_all hparts hnil).mono fun _ _ => Conjunction.disjunction)
    | or => exact .formula hjoin (Fragment.means_any hparts hnil)

theorem renders_compile {c : Condition} (hplain : c.Plain) (hraw : c.RawFree) :
    ∀ f, compile render c = .ok f → f.Renders Primary db row (truth db row c) := by
  have hboth := hplain.and hraw
  clear hplain hraw
  induction hboth with
  | compare h =>
    intro f hf
    have hleaf := leaf_of_compileCompare hf
    rw [truth]
    exact .formula hleaf.isEmpty (hleaf.tests h.1 h.2).means
  | group logic _ ih =>
    intro f h
    obtain ⟨inner, hinner, rfl⟩ := compile_group_eq_ok.1 h
    obtain ⟨fs, hfs, rfl⟩ := compileAll_eq_ok.1 hinner
    have hrenders := renders_joinFilter hfs ih logic
    rw [truth]
    generalize logic.combine (truths db row _) = m at hrenders ⊢
    generalize Fragment.join (fs.filter fun f => !f.isEmpty) logic.separator = inner at hrenders ⊢
    cases hrenders with
    | void hempty =>
      rw [if_pos hempty]
      exact .void hempty
    | formula hempty hmeans =>
      rw [if_neg (by simp [hempty])]
      exact .formula (Fragment.isEmpty_paren _) hmeans.paren

/-- A predicate that renders conditions is read back with their truth; without text it restricts nothing. -/
theorem truth_of_renders {f : Fragment} {m : Option Truth} (h : f.Renders Disjunction db row m)
    (hvoid : f.isEmpty = true → f.params = []) : f.truth db row = some (m.getD .yes) := by
  cases h with
  | void hempty =>
    have hsql : f.sql = "" := by simpa [Fragment.isEmpty] using hempty
    rw [Fragment.truth, hsql, hvoid hempty]
    rfl
  | formula hempty hmeans =>
    obtain ⟨lexemes, φ, hreads, hφ, rfl⟩ := hmeans
    have hfill : fill (cut f.sql.toList) f.params = some lexemes := hreads
    have hformula := hφ.ofLexemes
    cases lexemes with
    | nil => cases hformula
    | cons lexeme lexemes =>
      simp only [Fragment.truth, hfill, hformula]
      rfl

/-- The predicate of one tree, with the parentheses of a group, has the truth of the tree. -/
theorem truth_compile (db : Comparisons) (row : String → Value) {c : Condition} (hplain : c.Plain)
    (hraw : c.RawFree) {f : Fragment} (h : compile render c = .ok f) :
    f.truth db row = some ((truth db row c).getD .yes) := by
  have hrenders : f.Renders Primary db row (truth db row c) := renders_compile hplain hraw f h
  refine truth_of_renders ?_ (params_eq_nil_of_compile h)
  generalize truth db row c = m at hrenders ⊢
  cases hrenders with
  | void hempty => exact .void hempty
  | formula hempty hmeans => exact .formula hempty (hmeans.mono fun _ _ hφ => hφ.conjunction.disjunction)

end Condition
end SqlToolkit
