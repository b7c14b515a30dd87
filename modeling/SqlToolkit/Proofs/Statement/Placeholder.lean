import Mathlib.Algebra.BigOperators.Group.List.Basic
import Mathlib.Algebra.GroupWithZero.Nat
import SqlToolkit.Criteria
import SqlToolkit.Proofs.Text.Column

/-!
# The placeholders of a text

A question mark is a placeholder unless it stands inside a quoted identifier, so placeholders are counted by a reader
that knows where identifiers begin and end.  The count of a statement is put together from the counts of its pieces:
`Holds d text n` says that a piece has `n` placeholders and leaves no identifier open, whatever follows it.  Identifiers
hold none, however many question marks and quotes are in the name; bare columns and the fixed words of statements hold
none; and every way of putting fragments together keeps one placeholder for each value.
-/
namespace SqlToolkit

namespace Text

/-- The placeholders of a text that starts outside a quoted identifier, or inside one.  Inside, a doubled quote is a
character of the name, and any other quote ends it. -/
def placeholders (quote : Char) : (inName : Bool) → List Char → Nat
  | _, [] => 0
  | false, c :: cs =>
    if c = quote then placeholders quote true cs
    else if c = '?' then placeholders quote false cs + 1 else placeholders quote false cs
  | true, [_] => 0
  | true, c :: d :: cs =>
    if c = quote then
      if d = quote then placeholders quote true cs else placeholders quote false (d :: cs)
    else placeholders quote true (d :: cs)

@[simp] theorem placeholders_nil (quote : Char) (inName : Bool) : placeholders quote inName [] = 0 := by
  cases inName <;> rfl

theorem placeholders_open (quote : Char) (cs : List Char) :
    placeholders quote false (quote :: cs) = placeholders quote true cs := by
  simp [placeholders]

/-- A quote in a name ends the name; if a second one follows, that one starts it again. -/
theorem placeholders_close (quote : Char) (cs : List Char) :
    placeholders quote true (quote :: cs) = placeholders quote false cs := by
  cases cs with
  | nil => simp [placeholders]
  | cons d ds =>
    by_cases h : d = quote
    · subst h
      simp [placeholders]
    · simp [placeholders, h]

theorem placeholders_in_name {quote c : Char} (h : c ≠ quote) (cs : List Char) :
    placeholders quote true (c :: cs) = placeholders quote true cs := by
  cases cs with
  | nil => simp [placeholders]
  | cons d ds => simp [placeholders, h]

/-- Nothing in a name counts, and the name ends where it was closed. -/
theorem placeholders_double (quote : Char) (name rest : List Char) :
    placeholders quote true (double quote name ++ quote :: rest) = placeholders quote false rest := by
  induction name with
  | nil => exact placeholders_close quote rest
  | cons c cs ih =>
    by_cases h : c = quote
    · subst h
      rw [double_cons_self, List.cons_append, List.cons_append, placeholders_close, placeholders_open, ih]
    · rw [double_cons_of_ne h, List.cons_append, placeholders_in_name h, ih]

/-- A character that neither is a placeholder nor quotes identifiers in any dialect. -/
def isNeutral (c : Char) : Bool := c != '?' && c != '"' && c != '\x60'

/-- There are only neutral characters in a text. -/
def Neutral (text : String) : Prop := ∀ c ∈ text.toList, isNeutral c = true

instance (text : String) : Decidable (Neutral text) :=
  decidable_of_iff (text.toList.all isNeutral = true) List.all_eq_true

theorem isNeutral_of_isBareChar {c : Char} (h : isBareChar c = true) : isNeutral c = true := by
  have hne : ∀ d, isBareChar d = false → c ≠ d := by
    intro d hd hcd
    rw [hcd, hd] at h
    cases h
  simp [isNeutral, hne '?' (by decide), hne '"' (by decide), hne '\x60' (by decide)]

/-- A text of the characters of bare columns. -/
theorem neutral_ofList {cs : List Char} (h : ∀ c ∈ cs, isBareChar c = true) : Neutral (String.ofList cs) := by
  unfold Neutral
  rw [String.toList_ofList]
  exact fun c hc => isNeutral_of_isBareChar (h c hc)

theorem neutral_of_isColumn {name : String} (h : isColumn name = true) : Neutral name :=
  fun c hc => isNeutral_of_isBareChar ((isColumn_bare h).2 c hc)

theorem Neutral.append {a b : String} (ha : Neutral a) (hb : Neutral b) : Neutral (a ++ b) := by
  unfold Neutral
  rw [String.toList_append]
  exact List.forall_mem_append.2 ⟨ha, hb⟩

theorem neutral_toString (n : Nat) : Neutral (toString n) := by
  intro c hc
  have hdigit : c.isDigit = true := by
    refine Nat.isDigit_of_mem_toDigits (b := 10) (n := n) (by decide) (by decide) ?_
    rwa [← Nat.toList_repr]
  exact isNeutral_of_isBareChar (by simp [isBareChar, isColumnChar, Char.isAlphanum, hdigit])

theorem Neutral.intercalate {separator : String} (hs : Neutral separator) {texts : List String}
    (h : ∀ text ∈ texts, Neutral text) : Neutral (separator.intercalate texts) := by
  induction texts with
  | nil => simp [Neutral]
  | cons text rest ih =>
    obtain ⟨htext, hrest⟩ := List.forall_mem_cons.1 h
    cases rest with
    | nil => simpa using htext
    | cons next rest =>
      rw [String.intercalate_cons_cons]
      exact (htext.append hs).append (ih hrest)

end Text

namespace Dialect
open Text

/-- The placeholders of a statement in the dialect. -/
def placeholders (d : Dialect) (sql : String) : Nat := Text.placeholders d.quotes.1 false sql.toList

/-- A piece of a statement has `n` placeholders and leaves no identifier open. -/
def Holds (d : Dialect) (text : String) (n : Nat) : Prop :=
  ∀ rest, Text.placeholders d.quotes.1 false (text.toList ++ rest) =
    n + Text.placeholders d.quotes.1 false rest

variable {d : Dialect}

theorem Holds.placeholders_eq {sql : String} {n : Nat} (h : d.Holds sql n) : d.placeholders sql = n := by
  simpa [placeholders] using h []

theorem Holds.append {a b : String} {m n : Nat} (ha : d.Holds a m) (hb : d.Holds b n) :
    d.Holds (a ++ b) (m + n) := by
  intro rest
  rw [String.toList_append, List.append_assoc, ha, hb, Nat.add_assoc]

theorem holds_neutral {a : String} (h : Neutral a) : d.Holds a 0 := by
  have hquote : ∀ c, isNeutral c = true → c ≠ d.quotes.1 ∧ c ≠ '?' := by
    intro c hc
    simp only [isNeutral, Bool.and_eq_true, bne_iff_ne, ne_eq] at hc
    cases d <;> simp [quotes, hc.1.1, hc.1.2, hc.2]
  intro rest
  unfold Neutral at h
  generalize a.toList = cs at h ⊢
  induction cs with
  | nil => simp
  | cons c cs ih =>
    obtain ⟨hc, hcs⟩ := List.forall_mem_cons.1 h
    rw [List.cons_append, Text.placeholders, if_neg (hquote c hc).1, if_neg (hquote c hc).2, ih hcs]

theorem Holds.then {a b : String} {n : Nat} (ha : d.Holds a n) (hb : Neutral b) : d.Holds (a ++ b) n :=
  ha.append (holds_neutral hb)

theorem holds_placeholder : d.Holds "?" 1 := by
  intro rest
  have h : '?' ≠ d.quotes.1 := by cases d <;> decide
  simp [Text.placeholders, h, Nat.add_comm]

/-- In queries one character opens and closes an identifier. -/
theorem quotes_snd (d : Dialect) : d.quotes.2 = d.quotes.1 := by
  cases d <;> rfl

/-- **A quoted identifier holds no placeholder**, whatever its name. -/
theorem holds_quote (d : Dialect) (name : String) : d.Holds (d.quote name) 0 := by
  intro rest
  rw [quote, wrap, quotes_snd, String.toList_ofList, enclose, List.cons_append, List.append_assoc,
    List.singleton_append, placeholders_open, placeholders_double, Nat.zero_add]

/-- Pieces with neutral text between them. -/
theorem holds_intercalate {s : String} (hs : Neutral s) {texts : List String} {ns : List Nat}
    (h : List.Forall₂ d.Holds texts ns) : d.Holds (s.intercalate texts) ns.sum := by
  induction h with
  | nil => exact holds_neutral (by simp [Neutral])
  | @cons text n texts ns htext hrest ih =>
    cases hrest with
    | nil => simpa using htext
    | cons _ _ =>
      rw [String.intercalate_cons_cons, List.sum_cons]
      exact (htext.append (holds_neutral hs)).append ih

/-- Pieces without placeholders one after another. -/
theorem holds_join_zero {texts : List String} (h : ∀ text ∈ texts, d.Holds text 0) :
    d.Holds (String.join texts) 0 := by
  induction texts with
  | nil => exact holds_neutral (by simp [Neutral])
  | cons text rest ih =>
    obtain ⟨htext, hrest⟩ := List.forall_mem_cons.1 h
    rw [String.join_cons]
    exact htext.append (ih hrest)

/-- Pieces without placeholders, with neutral text between them. -/
theorem holds_intercalate_zero {s : String} (hs : Neutral s) {texts : List String}
    (h : ∀ text ∈ texts, d.Holds text 0) : d.Holds (s.intercalate texts) 0 := by
  have key : d.Holds (s.intercalate texts) (texts.map fun _ => 0).sum :=
    holds_intercalate hs (List.forall₂_map_right_iff.2 (List.forall₂_same.2 h))
  simpa using key

end Dialect

namespace Fragment
open Text

/-- The fragment has one placeholder for each of its values. -/
def Matched (d : Dialect) (f : Fragment) : Prop := d.Holds f.sql f.params.length

variable {d : Dialect} {f g : Fragment}

theorem matched_raw {sql : String} (h : d.Holds sql 0) : (raw sql).Matched d := h

theorem matched_empty : Matched d {} := Dialect.holds_neutral (by decide)

theorem matched_value (v : Value) : (value v).Matched d := Dialect.holds_placeholder

theorem Matched.holds (h : f.Matched d) : d.Holds f.sql f.params.length := h

theorem Matched.append (hf : f.Matched d) (hg : g.Matched d) : (f ++ g).Matched d := by
  unfold Matched
  rw [sql_append, params_append, List.length_append]
  exact Dialect.Holds.append hf hg

theorem Matched.paren (hf : f.Matched d) : f.paren.Matched d := by
  have h := ((Dialect.holds_neutral (d := d) (a := "(") (by decide)).append hf.holds).then
    (b := ")") (by decide)
  simpa [Matched, Fragment.paren] using h

theorem Matched.binary (hf : f.Matched d) {op : String} (hop : Neutral op) (hg : g.Matched d) :
    (f.binary op g).Matched d := by
  have hspace : Neutral " " := by decide
  have h := (((hf.holds.then hspace).then hop).then hspace).append hg.holds
  simpa [Matched, Fragment.binary] using h

theorem Matched.trailing (hf : f.Matched d) {op : String} (hop : Neutral op) :
    (f.trailing op).Matched d :=
  (hf.holds.then (b := " ") (by decide)).then hop

theorem Matched.between (hf : f.Matched d) (low high : Value) (negated : Bool) :
    (f.between low high negated).Matched d := by
  have hkeyword : Neutral (if negated then " NOT BETWEEN " else " BETWEEN ") := by
    cases negated <;> decide
  have hbounds : d.Holds "? AND ?" 2 :=
    (Dialect.holds_placeholder.then (b := " AND ") (by decide)).append Dialect.holds_placeholder
  have h := (hf.holds.then hkeyword).append hbounds
  simpa [Matched, Fragment.between] using h

theorem holds_marks (values : List Value) :
    d.Holds (", ".intercalate (values.map fun _ => "?")) values.length := by
  have hmarks : List.Forall₂ d.Holds (values.map fun _ => "?") (values.map fun _ => 1) :=
    List.forall₂_map_left_iff.2 (List.forall₂_map_right_iff.2
      (List.forall₂_same.2 fun _ _ => Dialect.holds_placeholder))
  simpa using Dialect.holds_intercalate (s := ", ") (by decide) hmarks

theorem Matched.inList (hf : f.Matched d) (values : List Value) (negated : Bool) :
    (f.inList values negated).Matched d := by
  unfold Fragment.inList
  split
  · exact matched_raw (Dialect.holds_neutral (by cases negated <;> decide))
  · have hkeyword : Neutral (if negated then " NOT IN (" else " IN (") := by cases negated <;> decide
    have h := ((hf.holds.then hkeyword).append (holds_marks values)).then (b := ")") (by decide)
    simpa [Matched] using h

theorem matched_join {s : String} (hs : Neutral s) {parts : List Fragment}
    (h : ∀ f ∈ parts, f.Matched d) : (join parts s).Matched d := by
  have each : ∀ f ∈ parts, d.Holds f.sql f.params.length := h
  have key := Dialect.holds_intercalate hs (List.forall₂_map_left_iff.2 (List.forall₂_map_right_iff.2
    (List.forall₂_same.2 each)))
  simpa [Matched, join, List.length_flatMap] using key

end Fragment
end SqlToolkit
