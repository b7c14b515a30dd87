import SqlToolkit.Fragment

/-!
# Constructions of fragments

There are ten ways to put a fragment together (`Construction`).  Each lays words, placeholders and other fragments in a
row (`Construction.parts`), and both the text and the values of its result are read off that row from left to right
(`sql_result`, `params_result`).  All else follows from the rows: a fragment that is made by constructions, one after
the other and inside each other, from texts without question marks has a question mark for each value and binds no
truth value (`Constructed.sound`).  So its text can be read together with its values, and reading a construction is
reading its parts one after the other (`placed_result`): a value never leaves the placeholder that it was put in.
-/
namespace SqlToolkit.Fragment

/-! ### Separated lists -/

section Separated
variable {α β : Type}

theorem join_map_intersperse (text : α → String) (separator : α) (xs : List α) :
    String.join ((xs.intersperse separator).map text) = (text separator).intercalate (xs.map text) := by
  induction xs with
  | nil => simp
  | cons x xs ih =>
    cases xs with
    | nil => simp
    | cons y xs =>
      rw [List.intersperse_cons_cons, List.map_cons, List.map_cons, String.join_cons, String.join_cons, ih]
      simp [String.append_assoc]

/-- Separators that yield nothing may be left out. -/
theorem flatMap_intersperse {f : α → List β} {separator : α} (h : f separator = []) (xs : List α) :
    (xs.intersperse separator).flatMap f = xs.flatMap f := by
  induction xs with
  | nil => rfl
  | cons x xs ih =>
    cases xs with
    | nil => rfl
    | cons y xs =>
      rw [List.intersperse_cons_cons, List.flatMap_cons, List.flatMap_cons, h, ih, List.nil_append, ← List.flatMap_cons]

theorem forall_mem_intersperse {p : α → Prop} {separator : α} {xs : List α} (hseparator : p separator)
    (h : ∀ x ∈ xs, p x) : ∀ x ∈ xs.intersperse separator, p x := by
  induction xs with
  | nil => exact h
  | cons x xs ih =>
    obtain ⟨hx, hxs⟩ := List.forall_mem_cons.1 h
    cases xs with
    | nil => exact h
    | cons y xs =>
      rw [List.intersperse_cons_cons]
      exact List.forall_mem_cons.2 ⟨hx, List.forall_mem_cons.2 ⟨hseparator, ih hxs⟩⟩

end Separated

/-! ### Parts -/

/-- The text of a fragment with a value in place of each question mark.  A question mark without a value stays. -/
def place : List Char → List Value → List (Char ⊕ Value)
  | [], _ => []
  | c :: cs, [] => .inl c :: place cs []
  | c :: cs, v :: values => if c = '?' then .inr v :: place cs values else .inl c :: place cs (v :: values)

/-- A fragment as it is read together with its values. -/
def placed (f : Fragment) : List (Char ⊕ Value) := place f.sql.toList f.params

/-- A part of a fragment: text without values, a placeholder with its value, or another fragment. -/
inductive Part where
  | word (text : String)
  | hole (v : Value)
  | operand (f : Fragment)

namespace Part

def sql : Part → String
  | word text => text
  | hole _ => "?"
  | operand f => f.sql

def params : Part → List Value
  | word _ => []
  | hole v => [v.coerce]
  | operand f => f.params

def operands : Part → List Fragment
  | word _ => []
  | hole _ => []
  | operand f => [f]

def placed : Part → List (Char ⊕ Value)
  | word text => text.toList.map .inl
  | hole v => [.inr v.coerce]
  | operand f => f.placed

/-- Placeholders with commas between them. -/
def holes (values : List Value) : List Part := (values.map hole).intersperse (word ", ")

theorem sql_holes (values : List Value) :
    String.join ((holes values).map sql) = ", ".intercalate (values.map fun _ => "?") := by
  rw [holes, join_map_intersperse, List.map_map]
  rfl

theorem params_holes (values : List Value) : (holes values).flatMap params = values.map Value.coerce := by
  rw [holes, flatMap_intersperse (by rfl), List.flatMap_map, List.map_eq_flatMap]
  rfl

theorem operands_holes (values : List Value) : (holes values).flatMap operands = [] := by
  rw [holes, flatMap_intersperse (by rfl), List.flatMap_map]
  exact List.flatMap_eq_nil_iff.2 fun _ _ => rfl

end Part

/-! ### Constructions -/

/-- One way to put a fragment together, with the fragments, texts and values that it takes. -/
inductive Construction where
  | raw (sql : String)
  | value (v : Value)
  | binary (left : Fragment) (op : String) (right : Fragment)
  | trailing (front : Fragment) (op : String)
  | between (front : Fragment) (low high : Value) (negated : Bool)
  | inList (front : Fragment) (values : List Value) (negated : Bool)
  | join (fragments : List Fragment) (separator : String)
  | paren (inner : Fragment)
  | push (front : Fragment) (sql : String)
  | append (front back : Fragment)

namespace Construction

def result : Construction → Fragment
  | raw sql => .raw sql
  | value v => .value v
  | binary left op right => left.binary op right
  | trailing front op => front.trailing op
  | between front low high negated => front.between low high negated
  | inList front values negated => front.inList values negated
  | join fragments separator => .join fragments separator
  | paren inner => inner.paren
  | push front sql => front.push sql
  | append front back => front ++ back

/-- The fragments that it takes, in order. -/
def operands : Construction → List Fragment
  | raw _ => []
  | value _ => []
  | binary left _ right => [left, right]
  | trailing front _ => [front]
  | between front _ _ _ => [front]
  | inList front _ _ => [front]
  | join fragments _ => fragments
  | paren inner => [inner]
  | push front _ => [front]
  | append front back => [front, back]

/-- The texts that it takes. -/
def texts : Construction → List String
  | raw sql => [sql]
  | value _ => []
  | binary _ op _ => [op]
  | trailing _ op => [op]
  | between _ _ _ _ => []
  | inList _ _ _ => []
  | join _ separator => [separator]
  | paren _ => []
  | push _ sql => [sql]
  | append _ _ => []

/-- The fragment that it takes is dropped: whether anything is in an empty list is known without it. -/
def discards : Construction → Bool
  | inList _ values _ => values.isEmpty
  | _ => false

/-- The parts of its result from left to right. -/
def parts : Construction → List Part
  | raw sql => [.word sql]
  | value v => [.hole v]
  | binary left op right => [.operand left, .word " ", .word op, .word " ", .operand right]
  | trailing front op => [.operand front, .word " ", .word op]
  | between front low high negated =>
    [.operand front, .word (if negated then " NOT BETWEEN " else " BETWEEN "), .hole low, .word " AND ", .hole high]
  | inList _ [] negated => [.word (if negated then "1 = 1" else "1 = 0")]
  | inList front values negated =>
    .operand front :: .word (if negated then " NOT IN (" else " IN (") :: (Part.holes values ++ [.word ")"])
  | join fragments separator => (fragments.map .operand).intersperse (.word separator)
  | paren inner => [.word "(", .operand inner, .word ")"]
  | push front sql => [.operand front, .word sql]
  | append front back => [.operand front, .operand back]

/-! ### The row of a construction -/

/-- **The text of a construction is that of its parts**, in order. -/
theorem sql_result (c : Construction) : c.result.sql = String.join (c.parts.map Part.sql) := by
  cases c with
  | inList front values negated =>
    cases values with
    | nil => simp [result, parts, Fragment.inList, Fragment.raw, Part.sql]
    | cons v values =>
      simp only [parts, List.map_cons, List.map_append, String.join_cons, String.join_append, Part.sql_holes]
      simp [result, Fragment.inList, Part.sql, String.append_assoc]
  | join fragments separator =>
    rw [parts, join_map_intersperse, List.map_map]
    rfl
  | _ => simp [result, parts, Part.sql, Fragment.raw, Fragment.value, Fragment.binary, Fragment.trailing,
      Fragment.between, Fragment.paren, Fragment.push, String.append_assoc]

/-- **The values of a construction are those of its parts**, in order. -/
theorem params_result (c : Construction) : c.result.params = c.parts.flatMap Part.params := by
  cases c with
  | inList front values negated =>
    cases values with
    | nil => rfl
    | cons v values =>
      simp only [parts, List.flatMap_cons, List.flatMap_append, Part.params_holes]
      simp [result, Fragment.inList, Part.params]
  | join fragments separator =>
    rw [parts, flatMap_intersperse (by rfl), List.flatMap_map]
    rfl
  | _ => simp [result, parts, Part.params, Fragment.raw, Fragment.value, Fragment.binary, Fragment.trailing,
      Fragment.between, Fragment.paren, Fragment.push]

/-- The fragments in the row are those that the construction takes, in order, unless they are dropped. -/
theorem operands_parts (c : Construction) :
    c.parts.flatMap Part.operands = if c.discards then [] else c.operands := by
  cases c with
  | inList front values negated =>
    cases values with
    | nil => rfl
    | cons v values =>
      simp only [parts, List.flatMap_cons, List.flatMap_append, Part.operands_holes]
      rfl
  | join fragments separator =>
    rw [parts, flatMap_intersperse (by rfl), List.flatMap_map]
    exact List.flatMap_singleton' fragments
  | _ => rfl

/-- What holds of words without question marks, of placeholders and of the fragments that a construction takes, holds of
all its parts if the texts that it takes have no question marks. -/
theorem forall_parts {c : Construction} {p : Part → Prop} (htexts : ∀ text ∈ c.texts, '?' ∉ text.toList)
    (hword : ∀ text, '?' ∉ text.toList → p (.word text)) (hhole : ∀ v, p (.hole v))
    (hoperand : ∀ f ∈ c.operands, p (.operand f)) : ∀ part ∈ c.parts, p part := by
  cases c with
  | inList front values negated =>
    cases values with
    | nil => cases negated <;> simp [parts, hword]
    | cons v values =>
      have hkeyword : p (.word (if negated then " NOT IN (" else " IN (")) := by
        cases negated <;> exact hword _ (by decide)
      -- the commas between the placeholders are words too
      have hholes : ∀ part ∈ Part.holes (v :: values), p part :=
        forall_mem_intersperse (hword ", " (by decide)) (List.forall_mem_map.2 fun v _ => hhole v)
      have hend : ∀ part ∈ [.word ")"], p part := List.forall_mem_singleton.2 (hword ")" (by decide))
      exact List.forall_mem_cons.2 ⟨hoperand front List.mem_cons_self,
        List.forall_mem_cons.2 ⟨hkeyword, List.forall_mem_append.2 ⟨hholes, hend⟩⟩⟩
  | join fragments separator =>
    exact forall_mem_intersperse (hword separator (htexts separator List.mem_cons_self))
      (List.forall_mem_map.2 hoperand)
  | between front low high negated => cases negated <;> simp_all [parts, operands]
  | _ => simp_all [parts, texts, operands]

end Construction

/-! ### Sound parts in a row -/

namespace Part
variable {row : List Part}

/-- The part has a question mark for each value, and no value is a truth value. -/
structure Sound (part : Part) : Prop where
  count_marks : part.sql.toList.count '?' = part.params.length
  ne_bool : ∀ v ∈ part.params, ∀ b, v ≠ .bool b

theorem sound_word {text : String} (h : '?' ∉ text.toList) : (word text).Sound :=
  ⟨List.count_eq_zero.2 h, List.forall_mem_nil _⟩

theorem sound_hole (v : Value) : (hole v).Sound :=
  ⟨by simp [sql, params], List.forall_mem_singleton.2 v.coerce_ne_bool⟩

theorem count_marks_row (h : ∀ part ∈ row, part.Sound) :
    (String.join (row.map sql)).toList.count '?' = (row.flatMap params).length := by
  induction row with
  | nil => rfl
  | cons part row ih =>
    obtain ⟨hpart, hrow⟩ := List.forall_mem_cons.1 h
    rw [List.map_cons, String.join_cons, String.toList_append, List.count_append, hpart.count_marks, ih hrow,
      List.flatMap_cons, List.length_append]

theorem ne_bool_row (h : ∀ part ∈ row, part.Sound) : ∀ v ∈ row.flatMap params, ∀ b, v ≠ .bool b := by
  intro v hv
  obtain ⟨part, hpart, hmem⟩ := List.mem_flatMap.1 hv
  exact (h part hpart).ne_bool v hmem

end Part

theorem place_nil (cs : List Char) : place cs [] = cs.map .inl := by
  induction cs with
  | nil => rfl
  | cons c cs ih => rw [place, ih, List.map_cons]

theorem place_cons_of_ne {c : Char} (h : c ≠ '?') (cs : List Char) (values : List Value) :
    place (c :: cs) values = .inl c :: place cs values := by
  cases values with
  | nil => rfl
  | cons v values => rw [place, if_neg h]

/-- Behind a text with a question mark for each of its values, the next text gets its own values. -/
theorem place_append {cs : List Char} {values : List Value} (h : cs.count '?' = values.length) (ds : List Char)
    (others : List Value) : place (cs ++ ds) (values ++ others) = place cs values ++ place ds others := by
  induction cs generalizing values with
  | nil =>
    obtain rfl := List.length_eq_zero_iff.1 h.symm
    rfl
  | cons c cs ih =>
    by_cases hc : c = '?'
    · subst hc
      rw [List.count_cons_self] at h
      cases values with
      | nil => cases h
      | cons v values => simp [place, ih (Nat.succ.inj h)]
    · rw [List.count_cons_of_ne hc] at h
      rw [List.cons_append, place_cons_of_ne hc, place_cons_of_ne hc, ih h, List.cons_append]

namespace Part
variable {row : List Part}

theorem place_eq_placed (part : Part) : place part.sql.toList part.params = part.placed := by
  cases part with
  | word text => exact place_nil _
  | hole v => simp [place, sql, params, placed]
  | operand f => rfl

/-- Sound parts in a row are read one after the other. -/
theorem place_row (h : ∀ part ∈ row, part.Sound) :
    place (String.join (row.map sql)).toList (row.flatMap params) = row.flatMap placed := by
  induction row with
  | nil => rfl
  | cons part row ih =>
    obtain ⟨hpart, hrow⟩ := List.forall_mem_cons.1 h
    rw [List.map_cons, String.join_cons, String.toList_append, List.flatMap_cons, place_append hpart.count_marks,
      place_eq_placed, ih hrow, List.flatMap_cons]

end Part

/-! ### Constructed fragments -/

/-- The fragment is made by constructions, one after the other and inside each other, from texts without question
marks. -/
inductive Constructed : Fragment → Prop
  | intro (c : Construction) (operands : ∀ f ∈ c.operands, Constructed f)
      (texts : ∀ text ∈ c.texts, '?' ∉ text.toList) : Constructed c.result

namespace Construction
variable {c : Construction}

theorem sound_parts (htexts : ∀ text ∈ c.texts, '?' ∉ text.toList)
    (hoperands : ∀ f ∈ c.operands, (Part.operand f).Sound) : ∀ part ∈ c.parts, part.Sound :=
  forall_parts htexts (fun _ => Part.sound_word) Part.sound_hole hoperands

/-- **A construction of sound fragments is sound.** -/
theorem sound_result (htexts : ∀ text ∈ c.texts, '?' ∉ text.toList)
    (hoperands : ∀ f ∈ c.operands, (Part.operand f).Sound) : (Part.operand c.result).Sound := by
  have hparts := sound_parts htexts hoperands
  constructor
  · rw [Part.sql, Part.params, sql_result, params_result]
    exact Part.count_marks_row hparts
  · rw [Part.params, params_result]
    exact Part.ne_bool_row hparts

end Construction

theorem Constructed.sound {f : Fragment} (h : f.Constructed) : (Part.operand f).Sound := by
  -- on how it was made; a dropped operand was sound like the others, and is not needed
  induction h with
  | intro c _ htexts ih => exact c.sound_result htexts ih

/-- **A construction of constructed fragments reads as its parts**, one after the other. -/
theorem placed_result {c : Construction} (hoperands : ∀ f ∈ c.operands, f.Constructed)
    (htexts : ∀ text ∈ c.texts, '?' ∉ text.toList) : c.result.placed = c.parts.flatMap Part.placed := by
  rw [placed, Construction.sql_result, Construction.params_result]
  exact Part.place_row (Construction.sound_parts htexts fun f hf => (hoperands f hf).sound)

/-- **Values stay at their placeholders.**  A constructed fragment has a question mark for each value and binds no truth
value.  Every construction lays its parts in a row, text and values alike; the fragments that it takes are among them in
order, and only an empty membership test leaves its operand out, text and values.  Read with its values, a construction
of constructed fragments is its parts one after the other. -/
theorem constructed_in_order :
    (∀ f : Fragment, f.Constructed →
      f.sql.toList.count '?' = f.params.length ∧ ∀ v ∈ f.params, ∀ b, v ≠ .bool b) ∧
    (∀ c : Construction,
      c.result.sql = String.join (c.parts.map Part.sql) ∧ c.result.params = c.parts.flatMap Part.params ∧
        c.parts.flatMap Part.operands = if c.discards then [] else c.operands) ∧
    ∀ c : Construction, (∀ f ∈ c.operands, f.Constructed) → (∀ text ∈ c.texts, '?' ∉ text.toList) →
      c.result.placed = c.parts.flatMap Part.placed :=
  ⟨fun _ h => ⟨h.sound.count_marks, h.sound.ne_bool⟩,
    fun c => ⟨c.sql_result, c.params_result, c.operands_parts⟩, fun _ => placed_result⟩

/-- Three predicates in a row: the first binds a truth value, the second a text with a question mark, and the third drops
its operand with the value in it. -/
theorem constructed_in_order_join :
    let c : Construction := .join [binary (raw "a") "=" (value (.bool true)),
      paren (between (push (raw "b") "->k") (.int 1) (.text "?") false), inList (value .null) [] true] " AND "
    c.result = ⟨"a = ? AND (b->k BETWEEN ? AND ?) AND 1 = 1", [.int 1, .int 1, .text "?"]⟩ ∧
      (∀ f ∈ c.operands, f.Constructed) ∧ (∀ text ∈ c.texts, '?' ∉ text.toList) ∧ c.result.Constructed ∧
      c.result.sql.toList.count '?' = c.result.params.length ∧ c.result.placed = c.parts.flatMap Part.placed := by
  intro c
  have ha : Constructed (raw "a") := .intro (.raw "a") (List.forall_mem_nil _) (by decide)
  have htrue : Constructed (value (.bool true)) := .intro (.value _) (List.forall_mem_nil _) (by decide)
  have hequal := Constructed.intro (.binary _ "=" _) (List.forall_mem_cons.2 ⟨ha, List.forall_mem_singleton.2 htrue⟩)
    (by decide)
  have hb : Constructed (raw "b") := .intro (.raw "b") (List.forall_mem_nil _) (by decide)
  have hkey := Constructed.intro (.push _ "->k") (List.forall_mem_singleton.2 hb) (by decide)
  have hrange := Constructed.intro (.between _ (.int 1) (.text "?") false) (List.forall_mem_singleton.2 hkey) (by decide)
  have hparen := Constructed.intro (.paren _) (List.forall_mem_singleton.2 hrange) (by decide)
  have hnull : Constructed (value .null) := .intro (.value _) (List.forall_mem_nil _) (by decide)
  have hempty := Constructed.intro (.inList _ [] true) (List.forall_mem_singleton.2 hnull) (by decide)
  have hoperands : ∀ f ∈ c.operands, f.Constructed := List.forall_mem_cons.2
    ⟨hequal, List.forall_mem_cons.2 ⟨hparen, List.forall_mem_singleton.2 hempty⟩⟩
  have htexts : ∀ text ∈ c.texts, '?' ∉ text.toList := by decide
  have hwhole : c.result.Constructed := .intro c hoperands htexts
  obtain ⟨hsound, -, hplaced⟩ := constructed_in_order
  exact ⟨by decide +kernel, hoperands, htexts, hwhole, (hsound c.result hwhole).1, hplaced c hoperands htexts⟩

end SqlToolkit.Fragment
