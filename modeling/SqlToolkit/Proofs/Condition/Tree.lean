import SqlToolkit.Condition
import SqlToolkit.Proofs.Outcome

/-!
# Condition trees and their predicates

A tree of conditions is taken apart here once for all: what holds of every comparison (`Each`), how a group compiles
from its members, and the six shapes that the predicate of a comparison can have (`Leaf`).  A predicate is without text
only if nothing inside it has text, so leaving out empty groups never loses a value.
-/
namespace SqlToolkit

namespace Fragment

/-- Fragments with text, joined, have no text only when there are none. -/
theorem isEmpty_join {parts : List Fragment} (h : ∀ f ∈ parts, f.isEmpty = false) (separator : String) :
    (join parts separator).isEmpty = parts.isEmpty := by
  cases parts with
  | nil => simp [join, isEmpty]
  | cons f rest =>
    have hf : f.sql ≠ "" := by simpa [isEmpty] using h f (by simp)
    cases rest <;> simp [join, isEmpty, hf]

theorem isEmpty_binary (l : Fragment) (op : String) (r : Fragment) : (l.binary op r).isEmpty = false := by
  simp [isEmpty, binary]

theorem isEmpty_trailing (f : Fragment) (op : String) : (f.trailing op).isEmpty = false := by
  simp [isEmpty, trailing]

theorem isEmpty_between (f : Fragment) (low high : Value) (negated : Bool) :
    (f.between low high negated).isEmpty = false := by
  simp [isEmpty, between]

theorem isEmpty_inList (f : Fragment) (values : List Value) (negated : Bool) :
    (f.inList values negated).isEmpty = false := by
  unfold inList
  split
  · cases negated <;> simp [isEmpty, raw]
  · simp [isEmpty]

theorem isEmpty_paren (f : Fragment) : f.paren.isEmpty = false := by
  simp [isEmpty, paren]

end Fragment

namespace Condition

/-! ### Trees -/

/-- Every comparison of a tree has a property. -/
inductive Each (p : String → Option Operator → Operand → Prop) : Condition → Prop
  | compare {column : String} {operator : Option Operator} {operand : Operand} :
      p column operator operand → Each p (.compare column operator operand)
  | group (logic : Logic) {children : List Condition} :
      (∀ c ∈ children, Each p c) → Each p (.group logic children)

theorem Each.and {p q : String → Option Operator → Operand → Prop} {c : Condition} (hp : Each p c)
    (hq : Each q c) : Each (fun column operator operand =>
      p column operator operand ∧ q column operator operand) c := by
  induction hp with
  | compare hp =>
    cases hq with
    | compare hq => exact .compare ⟨hp, hq⟩
  | group logic _ ih =>
    cases hq with
    | group _ hq => exact .group logic fun c hc => ih c hc (hq c hc)

/-- Every column of the tree may be written bare. -/
def Plain : Condition → Prop := Each fun column _ _ => Text.isColumn column = true

/-- No operand of the tree is raw SQL. -/
def RawFree : Condition → Prop := Each fun _ _ operand => ∀ sql, operand ≠ .raw sql

/-! ### Comparisons -/

/-- The comparison of a value is written as a test for null, which binds nothing. -/
def testsNull (operator : Option Operator) (v : Value) : Bool :=
  v.isNull && (operator.map Operator.isDifference).getD true

/-- The predicate of a comparison with a column, by operator and operand. -/
inductive Leaf (column : String) : Option Operator → Operand → Fragment → Prop
  /-- No operator and a value stand for equality. -/
  | equal {v : Value} : v.isNull = false →
      Leaf column none (.value v) ((Fragment.raw column).binary "=" (.value v))
  /-- Equality with null. -/
  | null : Leaf column none (.value .null) ((Fragment.raw column).trailing "IS NULL")
  /-- Difference from null. -/
  | notNull {op : Operator} : op.isDifference = true →
      Leaf column (some op) (.value .null) ((Fragment.raw column).trailing "IS NOT NULL")
  | scalar {op : Operator} {v : Value} : op.shape = .scalar → testsNull (some op) v = false →
      Leaf column (some op) (.value v) ((Fragment.raw column).binary op.keyword (.value v))
  /-- Membership is what a list stands for without an operator too. -/
  | member {operator : Option Operator} {negated : Bool} (values : List Value) :
      (operator.map Operator.shape).getD (.membership false) = .membership negated →
      Leaf column operator (.list values) ((Fragment.raw column).inList values negated)
  | range {op : Operator} {negated : Bool} (low high : Value) : op.shape = .range negated →
      Leaf column (some op) (.list [low, high]) ((Fragment.raw column).between low high negated)
  /-- Raw SQL binds nothing. -/
  | raw {operator : Option Operator} {sql : RawSql} (op : String) {operand : Fragment} :
      operand.params = [] → Leaf column operator (.raw sql) ((Fragment.raw column).binary op operand)

/-- Every comparison that compiles has one of these shapes. -/
theorem leaf_of_compileCompare {render : RawSql → String} {column : String} {operator : Option Operator}
    {operand : Operand} {f : Fragment} (h : compileCompare render column operator operand = .ok f) :
    Leaf column operator operand f := by
  unfold compileCompare at h
  split at h
  · obtain rfl := Except.ok.inj h
    unfold compileEquality
    split
    · exact .raw _ rfl
    · exact .null
    · next v hv => exact .equal (by cases v <;> simp_all [Value.isNull])
    · exact .member _ rfl
  · next op =>
    split at h
    · next hshape =>
      unfold compileScalar at h
      split at h
      · cases h
      · obtain rfl := Except.ok.inj h
        exact .raw _ rfl
      · next v =>
        split at h <;> obtain rfl := Except.ok.inj h
        · next hnull =>
          simp only [Bool.and_eq_true] at hnull
          obtain rfl : v = .null := by cases v <;> simp_all [Value.isNull]
          exact .notNull hnull.2
        · next hnull => exact .scalar hshape (by simpa [testsNull] using hnull)
    · next negated hshape =>
      unfold compileMembership at h
      split at h
      · obtain rfl := Except.ok.inj h
        exact .member _ (by simpa using hshape)
      · obtain rfl := Except.ok.inj h
        exact .raw _ rfl
      · cases h
    · next negated hshape =>
      unfold compileRange at h
      split at h
      · obtain rfl := Except.ok.inj h
        exact .range _ _ hshape
      · cases h
      · cases h

theorem Leaf.isEmpty {column : String} {operator : Option Operator} {operand : Operand} {f : Fragment}
    (h : Leaf column operator operand f) : f.isEmpty = false := by
  cases h with
  | equal => exact Fragment.isEmpty_binary ..
  | null => exact Fragment.isEmpty_trailing ..
  | notNull => exact Fragment.isEmpty_trailing ..
  | scalar => exact Fragment.isEmpty_binary ..
  | member => exact Fragment.isEmpty_inList ..
  | range => exact Fragment.isEmpty_between ..
  | raw => exact Fragment.isEmpty_binary ..

/-! ### Compiled trees -/

/-- Several conditions compile when each does; those without text are left out. -/
theorem compileParts_eq_ok {render : RawSql → String} {conditions : List Condition}
    {parts : List Fragment} :
    compileParts render conditions = .ok parts ↔
      ∃ fs, List.Forall₂ (fun c f => compile render c = .ok f) conditions fs ∧
        parts = fs.filter fun f => !f.isEmpty := by
  induction conditions generalizing parts with
  | nil => simp [compileParts, eq_comm]
  | cons c cs ih =>
    simp only [compileParts, Outcome.bind_eq_ok, Outcome.pure_eq_ok]
    constructor
    · rintro ⟨f, hf, others, ho, rfl⟩
      obtain ⟨fs, hfs, rfl⟩ := ih.1 ho
      refine ⟨f :: fs, .cons hf hfs, ?_⟩
      cases h : f.isEmpty <;> simp [h]
    · rintro ⟨gs, hgs, rfl⟩
      cases hgs with
      | @cons _ f _ fs hf hfs =>
        refine ⟨f, hf, _, ih.2 ⟨fs, hfs, rfl⟩, ?_⟩
        cases h : f.isEmpty <;> simp [h]

theorem compile_group_eq_ok {render : RawSql → String} {logic : Logic} {children : List Condition}
    {f : Fragment} :
    compile render (.group logic children) = .ok f ↔
      ∃ inner, compileAll render logic children = .ok inner ∧
        f = if inner.isEmpty then inner else inner.paren := by
  simp only [compile, compileAll, Outcome.bind_eq_ok, Outcome.pure_eq_ok]
  constructor
  · rintro ⟨parts, hparts, rfl⟩
    exact ⟨_, ⟨parts, hparts, rfl⟩, rfl⟩
  · rintro ⟨_, ⟨parts, hparts, rfl⟩, rfl⟩
    exact ⟨parts, hparts, rfl⟩

theorem compileAll_eq_ok {render : RawSql → String} {logic : Logic} {conditions : List Condition}
    {f : Fragment} :
    compileAll render logic conditions = .ok f ↔
      ∃ fs, List.Forall₂ (fun c f => compile render c = .ok f) conditions fs ∧
        f = Fragment.join (fs.filter fun f => !f.isEmpty) logic.separator := by
  simp only [compileAll, Outcome.bind_eq_ok, Outcome.pure_eq_ok, compileParts_eq_ok]
  constructor
  · rintro ⟨_, ⟨fs, hfs, rfl⟩, rfl⟩
    exact ⟨fs, hfs, rfl⟩
  · rintro ⟨fs, hfs, rfl⟩
    exact ⟨_, ⟨fs, hfs, rfl⟩, rfl⟩

/-- What joining members and parentheses around them keep. -/
structure Closed (P : Fragment → Prop) : Prop where
  join : ∀ (logic : Logic) {fs : List Fragment}, (∀ f ∈ fs, P f) → P (Fragment.join fs logic.separator)
  paren : ∀ {f : Fragment}, P f → P f.paren

namespace Closed

variable {P : Fragment → Prop} {p : String → Option Operator → Operand → Prop} {render : RawSql → String}

theorem joinFilter (hclosed : Closed P) {conditions : List Condition} {fs : List Fragment}
    (h : List.Forall₂ (fun c f => compile render c = .ok f) conditions fs)
    (hmembers : ∀ c ∈ conditions, ∀ f, compile render c = .ok f → P f) (logic : Logic) :
    P (Fragment.join (fs.filter fun f => !f.isEmpty) logic.separator) :=
  hclosed.join logic fun f hf => Outcome.forall_right h hmembers f (List.mem_of_mem_filter hf)

/-- What is kept holds of a compiled tree if it holds of the predicate of every comparison in it. -/
theorem compile (hclosed : Closed P)
    (hleaf : ∀ column operator operand f, p column operator operand → Leaf column operator operand f → P f)
    {c : Condition} (h : Each p c) : ∀ f, compile render c = .ok f → P f := by
  induction h with
  | compare hp =>
    intro f hf
    exact hleaf _ _ _ f hp (leaf_of_compileCompare hf)
  | group logic _ ih =>
    intro f h
    obtain ⟨inner, hinner, rfl⟩ := compile_group_eq_ok.1 h
    obtain ⟨fs, hfs, rfl⟩ := compileAll_eq_ok.1 hinner
    have hjoin := hclosed.joinFilter hfs ih logic
    split
    · exact hjoin
    · exact hclosed.paren hjoin

/-- What is kept holds of conditions side by side if it holds of the predicate of every comparison in them. -/
theorem compileAll (hclosed : Closed P)
    (hleaf : ∀ column operator operand f, p column operator operand → Leaf column operator operand f → P f)
    {logic : Logic} {conditions : List Condition} {f : Fragment} (hconditions : ∀ c ∈ conditions, Each p c)
    (h : compileAll render logic conditions = .ok f) : P f := by
  obtain ⟨fs, hfs, rfl⟩ := compileAll_eq_ok.1 h
  exact hclosed.joinFilter hfs (fun c hc => hclosed.compile hleaf (hconditions c hc)) logic

end Closed

/-- Induction on trees: comparisons, and groups whose members are done. -/
theorem inductionOn {motive : Condition → Prop} (c : Condition)
    (compare : ∀ column operator operand, motive (.compare column operator operand))
    (group : ∀ logic children, (∀ c ∈ children, motive c) → motive (.group logic children)) : motive c := by
  refine @Condition.rec motive (fun cs => ∀ c ∈ cs, motive c) compare group ?_ ?_ c
  · simp
  · exact fun _ _ hc hcs => List.forall_mem_cons.2 ⟨hc, hcs⟩

/-- Joined members have no text only when no member has. -/
theorem isEmpty_joinFilter (fs : List Fragment) (separator : String) :
    (Fragment.join (fs.filter fun f => !f.isEmpty) separator).isEmpty = fs.all Fragment.isEmpty := by
  rw [Fragment.isEmpty_join (by simp), Bool.eq_iff_iff, List.isEmpty_iff, List.filter_eq_nil_iff,
    List.all_eq_true]
  simp

end Condition
end SqlToolkit
