import SqlToolkit.Criteria
import SqlToolkit.Proofs.Outcome

/-!
# Conditions that differ in values only

Two operands are alike when they differ in values only: both are values and both or neither null, or both are lists of
one length, or both are the same raw SQL.  Trees are alike when their comparisons are, one by one.  Alike trees compile
to alike fragments, which have one text and equally many values, or both fail with one cause.  So a value can choose
neither a word of a predicate nor an error.
-/
namespace SqlToolkit

/-! ### Fragments -/

theorem isEmpty_eq_of_length_eq {α β : Type} {xs : List α} {ys : List β} (h : xs.length = ys.length) :
    xs.isEmpty = ys.isEmpty := by
  rw [Bool.eq_iff_iff, List.isEmpty_iff_length_eq_zero, List.isEmpty_iff_length_eq_zero, h]

/-- Fragments with the same text and equally many values. -/
structure Fragment.Alike (f g : Fragment) : Prop where
  sql : f.sql = g.sql
  params : f.params.length = g.params.length

namespace Fragment
variable {f f' g g' : Fragment}

theorem Alike.refl (f : Fragment) : f.Alike f := ⟨rfl, rfl⟩

theorem Alike.isEmpty (h : f.Alike f') : f.isEmpty = f'.isEmpty := by
  rw [Fragment.isEmpty, Fragment.isEmpty, h.sql]

theorem alike_value (v w : Value) : (value v).Alike (value w) := ⟨rfl, rfl⟩

theorem Alike.append (hf : f.Alike f') (hg : g.Alike g') : (f ++ g).Alike (f' ++ g') := by
  refine ⟨?_, ?_⟩
  · rw [sql_append, sql_append, hf.sql, hg.sql]
  · rw [params_append, params_append, List.length_append, List.length_append, hf.params, hg.params]

theorem Alike.binary (hf : f.Alike f') (op : String) (hg : g.Alike g') : (f.binary op g).Alike (f'.binary op g') := by
  refine ⟨?_, ?_⟩
  · simp only [Fragment.binary, hf.sql, hg.sql]
  · simp only [Fragment.binary, List.length_append, hf.params, hg.params]

theorem Alike.paren (h : f.Alike f') : f.paren.Alike f'.paren := by
  refine ⟨?_, h.params⟩
  simp only [Fragment.paren, h.sql]

theorem alike_between (f : Fragment) (low high low' high' : Value) (negated : Bool) :
    (f.between low high negated).Alike (f.between low' high' negated) := by
  refine ⟨rfl, ?_⟩
  simp [between]

/-- Of a list only its length is written. -/
theorem alike_inList (f : Fragment) {values values' : List Value} (h : values.length = values'.length)
    (negated : Bool) : (f.inList values negated).Alike (f.inList values' negated) := by
  have hmarks : values.map (fun _ => "?") = values'.map (fun _ => "?") := by
    rw [List.map_const', List.map_const', h]
  unfold inList
  rw [isEmpty_eq_of_length_eq h, hmarks]
  split
  · exact .refl _
  · refine ⟨rfl, ?_⟩
    simp [h]

theorem alike_join {parts parts' : List Fragment} (h : List.Forall₂ Alike parts parts') (separator : String) :
    (join parts separator).Alike (join parts' separator) := by
  have hsql : parts.map sql = parts'.map sql := by
    induction h with
    | nil => rfl
    | cons hf _ ih => rw [List.map_cons, List.map_cons, hf.sql, ih]
  have hparams : (parts.flatMap params).length = (parts'.flatMap params).length := by
    clear hsql
    induction h with
    | nil => rfl
    | cons hf _ ih => rw [List.flatMap_cons, List.flatMap_cons, List.length_append, List.length_append, hf.params, ih]
  refine ⟨?_, hparams⟩
  simp only [join, hsql]

end Fragment

/-! ### Operands and trees -/

/-- Operands of conditions that differ in values only, and neither in being null nor in the length of a list. -/
inductive Operand.Alike : Operand → Operand → Prop
  | value {v w : Value} : v.isNull = w.isNull → Alike (.value v) (.value w)
  | list {values values' : List Value} : values.length = values'.length → Alike (.list values) (.list values')
  | raw (sql : RawSql) : Alike (.raw sql) (.raw sql)

namespace Condition

mutual

/-- Trees that differ in the values of their operands only. -/
inductive Alike : Condition → Condition → Prop
  | compare (column : String) (operator : Option Operator) {x y : Operand} :
      x.Alike y → Alike (.compare column operator x) (.compare column operator y)
  | group (logic : Logic) {cs ds : List Condition} : AlikeAll cs ds → Alike (.group logic cs) (.group logic ds)

/-- Lists of such trees. -/
inductive AlikeAll : List Condition → List Condition → Prop
  | nil : AlikeAll [] []
  | cons {c d : Condition} {cs ds : List Condition} : Alike c d → AlikeAll cs ds → AlikeAll (c :: cs) (d :: ds)

end

theorem AlikeAll.append {cs ds cs' ds' : List Condition} (h : AlikeAll cs ds) (h' : AlikeAll cs' ds') :
    AlikeAll (cs ++ cs') (ds ++ ds') := by
  match h with
  | .nil => exact h'
  | .cons hc hcs => exact .cons hc (hcs.append h')

/-! ### Compilation -/

open Outcome

variable (render : RawSql → String) {x y : Operand}

theorem compileEquality_value (column : Fragment) {v : Value} (h : v.isNull = false) :
    compileEquality render column (.value v) = column.binary "=" (.value v) := by
  cases v with
  | null => cases h
  | _ => rfl

theorem alike_compileEquality (column : Fragment) (h : x.Alike y) :
    (compileEquality render column x).Alike (compileEquality render column y) := by
  cases h with
  | @value v w hnull =>
    cases hv : v.isNull with
    | false =>
      rw [compileEquality_value render column hv, compileEquality_value render column (hnull ▸ hv)]
      exact (Fragment.Alike.refl _).binary _ (Fragment.alike_value _ _)
    | true =>
      have heq : ∀ u : Value, u.isNull = true → u = .null := by
        intro u hu
        cases u with
        | null => rfl
        | _ => cases hu
      rw [heq v hv, heq w (hnull ▸ hv)]
      exact .refl _
  | list hlength => exact Fragment.alike_inList _ hlength _
  | raw sql => exact .refl _

theorem agree_compileScalar (column : String) (op : Operator) (h : x.Alike y) :
    Agree Fragment.Alike (compileScalar render column op x) (compileScalar render column op y) := by
  cases h with
  | @value v w hnull =>
    simp only [compileScalar, hnull]
    split
    · exact .ok (.refl _)
    · exact .ok ((Fragment.Alike.refl _).binary _ (Fragment.alike_value _ _))
  | list _ => exact .error _
  | raw sql => exact .ok (.refl _)

theorem agree_compileMembership (column : String) (op : Operator) (negated : Bool) (h : x.Alike y) :
    Agree Fragment.Alike (compileMembership render column op negated x)
      (compileMembership render column op negated y) := by
  cases h with
  | value _ => exact .error _
  | list hlength => exact .ok (Fragment.alike_inList _ hlength _)
  | raw sql => exact .ok (.refl _)

/-- A list that is no pair of bounds is reported by its length. -/
theorem agree_compileRange (column : String) (op : Operator) (negated : Bool) (h : x.Alike y) :
    Agree Fragment.Alike (compileRange column op negated x) (compileRange column op negated y) := by
  cases h with
  | value _ => exact .error _
  | @list values values' hlength =>
    match values, values', hlength with
    | [low, high], [low', high'], _ => exact .ok (Fragment.alike_between _ _ _ _ _ _)
    | [], [], _ => exact .error _
    | [_], [_], _ => exact .error _
    | _ :: _ :: _ :: _, _ :: _ :: _ :: _, hlength =>
      simp only [compileRange, hlength]
      exact .error _
  | raw sql => exact .error _

theorem agree_compileCompare (column : String) (operator : Option Operator) (h : x.Alike y) :
    Agree Fragment.Alike (compileCompare render column operator x) (compileCompare render column operator y) := by
  unfold compileCompare
  split
  · exact .ok (alike_compileEquality render _ h)
  · split
    · exact agree_compileScalar render column _ h
    · exact agree_compileMembership render column _ _ h
    · exact agree_compileRange column _ _ h

mutual

/-- **Alike trees compile alike**, or fail with one cause. -/
theorem Alike.agree_compile {c d : Condition} (h : Alike c d) :
    Agree Fragment.Alike (compile render c) (compile render d) := by
  match h with
  | .compare column operator hoperand =>
    simp only [compile]
    exact agree_compileCompare render column operator hoperand
  | .group logic hchildren =>
    simp only [compile]
    refine (hchildren.agree_compileParts).bind fun parts parts' hparts => ?_
    have hinner := Fragment.alike_join hparts logic.separator
    rw [hinner.isEmpty]
    split
    · exact .ok hinner
    · exact .ok hinner.paren

theorem AlikeAll.agree_compileParts {cs ds : List Condition} (h : AlikeAll cs ds) :
    Agree (List.Forall₂ Fragment.Alike) (compileParts render cs) (compileParts render ds) := by
  match h with
  | .nil => exact .ok .nil
  | .cons hc hcs =>
    simp only [compileParts]
    refine (hc.agree_compile).bind fun f g hf => ?_
    refine (hcs.agree_compileParts).bind fun fs gs hfs => ?_
    rw [hf.isEmpty]
    split
    · exact .ok hfs
    · exact .ok (.cons hf hfs)

end

theorem AlikeAll.agree_compileAll {cs ds : List Condition} (h : AlikeAll cs ds) (logic : Logic) :
    Agree Fragment.Alike (compileAll render logic cs) (compileAll render logic ds) :=
  (h.agree_compileParts render).bind fun _ _ hparts => .ok (Fragment.alike_join hparts logic.separator)

end Condition
end SqlToolkit
