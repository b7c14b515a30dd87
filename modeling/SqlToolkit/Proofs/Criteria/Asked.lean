import SqlToolkit.Criteria.Document
import SqlToolkit.Proofs.Criteria.Step

/-!
# What is asked of the rows of a result

Limit, offset and order are asked for one after another, between calls that are about other things, or at once in a
record.  `Answers` follows both ways and notes what was asked last: each of the two numbers is noted apart from the
other, and a record gives its window as a whole.  If no call was malformed, the criteria hold exactly what was asked
(`Answers.meets`), and no number in it is too large.
-/
namespace SqlToolkit
open Outcome

/-- What was asked of the rows of a result: how many of them, how many to leave out first, and whether in an order. -/
structure Asked where
  count : Option Nat := none
  offset : Option Nat := none
  ordered : Bool := false
deriving DecidableEq, Repr, Inhabited

/-- An ordering in a document names a column. -/
def Document.namesColumn : Document → Bool
  | text _ => true
  | list items => !items.isEmpty
  | record entries => !entries.isEmpty
  | _ => false

namespace Asked

/-- The window that was asked for; none if neither number was given. -/
def window (a : Asked) : Option Window :=
  match a.count, a.offset with
  | none, none => none
  | count, offset => some ⟨count, offset⟩

/-- The window of a document is a count, or an offset before a count. -/
def limited (a : Asked) : Document → Asked
  | .integer count => { a with count := some count.toNat, offset := none }
  | .list [.integer offset, .integer count] => { a with count := some count.toNat, offset := some offset.toNat }
  | _ => a

/-- What an entry of a record asks for. -/
def entry (a : Asked) (key : String) (content : Document) : Asked :=
  if key = "LIMIT" then a.limited content
  else if key = "ORDER" then { a with ordered := a.ordered || content.namesColumn }
  else a

/-- No number is larger than a signed 64-bit integer. -/
structure Fits (a : Asked) : Prop where
  count : ∀ n ∈ a.count, (n : Int) ≤ Int64.maxValue.toInt
  offset : ∀ n ∈ a.offset, (n : Int) ≤ Int64.maxValue.toInt

theorem window_count (a : Asked) : a.window.bind Window.count = a.count := by
  unfold window
  cases a.count <;> cases a.offset <;> rfl

theorem window_offset (a : Asked) : a.window.bind Window.offset = a.offset := by
  unfold window
  cases a.count <;> cases a.offset <;> rfl

/-- There is no window only if there is no number. -/
theorem window_eq_none {a : Asked} (h : a.window = none) : a.count = none ∧ a.offset = none := by
  obtain ⟨count, offset, ordered⟩ := a
  cases count with
  | some n => cases h
  | none =>
    cases offset with
    | some m => cases h
    | none => exact ⟨rfl, rfl⟩

/-- A window has at least one number. -/
theorem window_eq_some {a : Asked} {w : Window} (h : a.window = some w) :
    w = ⟨a.count, a.offset⟩ ∧ (a.count.isSome = true ∨ a.offset.isSome = true) := by
  obtain ⟨count, offset, ordered⟩ := a
  cases count with
  | some n => exact ⟨(Option.some.inj h).symm, .inl rfl⟩
  | none =>
    cases offset with
    | some m => exact ⟨(Option.some.inj h).symm, .inr rfl⟩
    | none => cases h

end Asked

namespace Criteria

/-- The criteria were built by calls that asked for this, from nothing or from a record.  Criteria nested in them may be
any, since only their conditions are taken over. -/
inductive Answers : Criteria → Asked → Prop
  | empty : Answers {} {}
  | record {entries : List (String × Document)} {c : Criteria} : ofDocument (.record entries) = .ok c →
      Answers c (entries.foldl (fun a entry => a.entry entry.1 entry.2) {})
  | field {c : Criteria} {a : Asked} (key : String) (operand : Operand) : Answers c a → Answers (c.field key operand) a
  | condition {c : Criteria} {a : Asked} (added : Condition) : Answers c a → Answers (c.condition added) a
  | group {c : Criteria} {a : Asked} (logic : Logic) (nested : Criteria) : Answers c a → Answers (c.group logic nested) a
  | groupBy {c : Criteria} {a : Asked} (column : String) : Answers c a → Answers (c.groupByColumn column) a
  | having {c : Criteria} {a : Asked} (nested : Criteria) : Answers c a → Answers (c.havingAll nested) a
  | order {c : Criteria} {a : Asked} (column : String) (direction : Option Direction) : Answers c a →
      Answers (c.orderByColumn column direction) { a with ordered := true }
  | orderRaw {c : Criteria} {a : Asked} (sql : RawSql) : Answers c a →
      Answers (c.orderByRaw sql) { a with ordered := true }
  | limit {c : Criteria} {a : Asked} (count : Nat) : Answers c a → Answers (c.limit count) { a with count := some count }
  | skip {c : Criteria} {a : Asked} (offset : Nat) : Answers c a →
      Answers (c.skip offset) { a with offset := some offset }

/-- The criteria hold the window that was asked for and, if no call was malformed, an order exactly if one was asked for
and no number that is too large. -/
structure Meets (c : Criteria) (a : Asked) : Prop where
  window : c.window = a.window
  ordered : c.error = none → c.orderBy.isEmpty = !a.ordered
  fits : c.error = none → a.Fits

variable {c d : Criteria} {a : Asked}

theorem meets_empty : Meets {} {} :=
  ⟨rfl, fun _ => rfl, fun _ => ⟨by simp, by simp⟩⟩

/-- A call that touches neither window nor order changes nothing. -/
theorem Meets.unchanged (h : c.Meets a) (hwindow : d.window = c.window) (horder : d.orderBy = c.orderBy)
    (herror : d.error = none → c.error = none) : d.Meets a := by
  refine ⟨hwindow.trans h.window, fun hd => ?_, fun hd => h.fits (herror hd)⟩
  rw [horder]
  exact h.ordered (herror hd)

/-- Parts are added to the order unless the call is malformed. -/
theorem Meets.order (h : c.Meets a) (hwindow : d.window = c.window) {items : List OrderItem}
    (horder : d.error = none → c.error = none ∧ d.orderBy = c.orderBy ++ items) :
    d.Meets { a with ordered := a.ordered || !items.isEmpty } := by
  refine ⟨hwindow.trans h.window, fun hd => ?_, fun hd => ⟨(h.fits (horder hd).1).count, (h.fits (horder hd).1).offset⟩⟩
  obtain ⟨hc, hitems⟩ := horder hd
  have hboth : (c.orderBy ++ items).isEmpty = (c.orderBy.isEmpty && items.isEmpty) := by
    cases c.orderBy <;> rfl
  rw [hitems, hboth, h.ordered hc, Bool.not_or, Bool.not_not]

/-! ### Calls -/

theorem fits_of_checkRowCount {n m : Nat} (h : checkRowCount n = .ok m) : m = n ∧ (n : Int) ≤ Int64.maxValue.toInt := by
  unfold checkRowCount at h
  split at h
  · next hle => exact ⟨(Except.ok.inj h).symm, hle⟩
  · cases h

/-- A number that leaves no cause behind is small enough. -/
theorem error_checkCount_eq_none {n : Nat} (h : (c.checkCount n).error = none) :
    c.error = none ∧ (n : Int) ≤ Int64.maxValue.toInt := by
  rw [BuildStep.error_checkCount, Option.or_eq_none_iff] at h
  refine ⟨h.1, ?_⟩
  cases hcheck : checkRowCount n with
  | ok m => exact (fits_of_checkRowCount hcheck).2
  | error cause =>
    rw [hcheck] at h
    cases h.2

theorem orderBy_checkCount (c : Criteria) (n : Nat) : (c.checkCount n).orderBy = c.orderBy := by
  unfold checkCount
  split <;> rfl

/-- A limit replaces the count alone. -/
theorem Meets.limit (h : c.Meets a) (count : Nat) : (c.limit count).Meets { a with count := some count } := by
  refine ⟨?_, fun herror => ?_, fun herror => ?_⟩
  · show some (Window.mk (some count) (c.window.bind Window.offset)) = _
    rw [h.window, a.window_offset]
    rfl
  · obtain ⟨hc, -⟩ := error_checkCount_eq_none (c := c) herror
    exact (congrArg List.isEmpty (c.orderBy_checkCount count)).trans (h.ordered hc)
  · obtain ⟨hc, hfits⟩ := error_checkCount_eq_none (c := c) herror
    exact ⟨by rintro n ⟨⟩; exact hfits, (h.fits hc).offset⟩

/-- An offset replaces the offset alone. -/
theorem Meets.skip (h : c.Meets a) (offset : Nat) : (c.skip offset).Meets { a with offset := some offset } := by
  refine ⟨?_, fun herror => ?_, fun herror => ?_⟩
  · show some (Window.mk (c.window.bind Window.count) (some offset)) = _
    rw [h.window, a.window_count]
    unfold Asked.window
    cases a.count <;> rfl
  · obtain ⟨hc, -⟩ := error_checkCount_eq_none (c := c) herror
    exact (congrArg List.isEmpty (c.orderBy_checkCount offset)).trans (h.ordered hc)
  · obtain ⟨hc, hfits⟩ := error_checkCount_eq_none (c := c) herror
    exact ⟨(h.fits hc).count, by rintro n ⟨⟩; exact hfits⟩

theorem Meets.orderByColumn (h : c.Meets a) (column : String) (direction : Option Direction) :
    (c.orderByColumn column direction).Meets { a with ordered := true } := by
  unfold Criteria.orderByColumn
  split
  · next name hname =>
    simpa using h.order (d := { c with orderBy := c.orderBy ++ [.column name direction] }) rfl fun hc => ⟨hc, rfl⟩
  · next cause hcause =>
    refine ⟨h.window, fun herror => ?_, fun herror => ?_⟩ <;> cases hc : c.error <;> simp [keepError, hc] at herror

/-! ### Records -/

/-- The numbers of a window in a document. -/
theorem rowCountOf_eq_ok {d : Document} {n : Nat} (h : rowCountOf d = .ok n) :
    ∃ value, d = .integer value ∧ value.toNat = n ∧ (n : Int) ≤ Int64.maxValue.toInt := by
  unfold rowCountOf at h
  split at h
  · next given hgiven =>
    obtain ⟨rfl, hfits⟩ := fits_of_checkRowCount h
    cases d with
    | integer value =>
      refine ⟨value, rfl, ?_, hfits⟩
      simp only [Document.asNatural] at hgiven
      split at hgiven
      · exact Option.some.inj hgiven
      · cases hgiven
    | _ => cases hgiven
  · cases h

/-- A window that was read is the one that the document asks for. -/
theorem limited_of_windowOf {d : Document} {w : Window} (h : windowOf d = .ok w) (a : Asked) :
    (a.limited d).window = some w ∧ (a.limited d).ordered = a.ordered ∧ (a.limited d).Fits := by
  unfold windowOf at h
  split at h
  · obtain ⟨count, hcount, h⟩ := bind_eq_ok.1 h
    obtain ⟨offset, hoffset, h⟩ := bind_eq_ok.1 h
    obtain rfl := pure_eq_ok.1 h
    obtain ⟨_, rfl, rfl, hfits⟩ := rowCountOf_eq_ok hcount
    obtain ⟨_, rfl, rfl, hfits'⟩ := rowCountOf_eq_ok hoffset
    exact ⟨rfl, rfl, by rintro n ⟨⟩; exact hfits, by rintro n ⟨⟩; exact hfits'⟩
  · obtain ⟨count, hcount, h⟩ := bind_eq_ok.1 h
    obtain rfl := pure_eq_ok.1 h
    obtain ⟨_, hvalue, rfl, hfits⟩ := rowCountOf_eq_ok hcount
    cases hvalue
    exact ⟨rfl, rfl, by rintro n ⟨⟩; exact hfits, by simp [Asked.limited]⟩
  · cases h

theorem isEmpty_of_mapM {α β : Type} {f : α → Outcome β} {xs : List α} {ys : List β} (h : xs.mapM f = .ok ys) :
    ys.isEmpty = xs.isEmpty := by
  cases mapM_eq_ok_iff.1 h <;> rfl

/-- An ordering has parts exactly if its document names a column. -/
theorem isEmpty_of_orderOf {d : Document} {items : List OrderItem} (h : orderOf d = .ok items) :
    items.isEmpty = !d.namesColumn := by
  unfold orderOf at h
  split at h
  · rw [isEmpty_of_mapM h]
    simp [Document.namesColumn]
  · obtain ⟨columns, hcolumns, h⟩ := bind_eq_ok.1 h
    rw [isEmpty_of_mapM h]
    unfold textsOf at hcolumns
    split at hcolumns
    · cases hcolumns
      rfl
    · rw [isEmpty_of_mapM hcolumns]
      simp [Document.namesColumn]
    · cases hcolumns

/-- **An entry of a record** adds what it asks for. -/
theorem Meets.addEntry (h : c.Meets a) {key : String} {content : Document} (hd : c.addEntry key content = .ok d) :
    d.Meets (a.entry key content) := by
  unfold Criteria.addEntry at hd
  split at hd <;> simp only [bind_eq_ok, pure_eq_ok] at hd
  · obtain ⟨items, hitems, rfl⟩ := hd
    have hnamed : content.namesColumn = !items.isEmpty := by rw [isEmpty_of_orderOf hitems, Bool.not_not]
    rw [show a.entry "ORDER" content = { a with ordered := a.ordered || content.namesColumn } from rfl, hnamed]
    exact h.order (d := { c with orderBy := c.orderBy ++ items }) rfl fun hc => ⟨hc, rfl⟩
  · obtain ⟨w, hw, rfl⟩ := hd
    obtain ⟨hwindow, hordered, hfits⟩ := limited_of_windowOf hw a
    rw [show a.entry "LIMIT" content = a.limited content from rfl]
    exact ⟨hwindow.symm, fun hc => hordered ▸ h.ordered hc, fun _ => hfits⟩
  · obtain ⟨_, -, _, -, rfl⟩ := hd
    exact h.unchanged rfl rfl id
  · obtain ⟨_, -, _, -, rfl⟩ := hd
    exact h.unchanged rfl rfl id
  · next key hkeyOrder hkeyLimit _ _ =>
    obtain ⟨_, -, rfl⟩ := hd
    rw [Asked.entry, if_neg hkeyLimit, if_neg hkeyOrder]
    exact h.unchanged rfl rfl id

theorem meets_of_foldlM {entries : List (String × Document)} (h : c.Meets a)
    (hd : entries.foldlM (fun c entry => c.addEntry entry.1 entry.2) c = .ok d) :
    d.Meets (entries.foldl (fun a entry => a.entry entry.1 entry.2) a) := by
  induction entries generalizing c a with
  | nil =>
    rw [List.foldlM_nil] at hd
    exact pure_eq_ok.1 hd ▸ h
  | cons entry rest ih =>
    rw [List.foldlM_cons] at hd
    obtain ⟨next, hnext, hd⟩ := bind_eq_ok.1 hd
    exact ih (h.addEntry hnext) hd

/-! ### All ways -/

/-- **Criteria hold what was asked for last**, however the calls are mixed. -/
theorem Answers.meets (h : c.Answers a) : c.Meets a := by
  induction h with
  | empty => exact meets_empty
  | record hread => exact meets_of_foldlM meets_empty hread
  | @field c a key operand _ ih =>
    unfold Criteria.field
    split
    · exact ih.unchanged rfl rfl id
    · exact ih.unchanged rfl rfl fun herror => (Option.or_eq_none_iff.1 herror).1
  | condition added _ ih => exact ih.unchanged rfl rfl id
  | group logic nested _ ih => exact ih.unchanged rfl rfl fun herror => (Option.or_eq_none_iff.1 herror).1
  | groupBy column _ ih =>
    unfold Criteria.groupByColumn
    split
    · exact ih.unchanged rfl rfl id
    · exact ih.unchanged rfl rfl fun herror => (Option.or_eq_none_iff.1 herror).1
  | having nested _ ih => exact ih.unchanged rfl rfl fun herror => (Option.or_eq_none_iff.1 herror).1
  | order column direction _ ih => exact ih.orderByColumn column direction
  | @orderRaw c a sql _ ih =>
    have horder : (c.orderByRaw sql).error = none →
        c.error = none ∧ (c.orderByRaw sql).orderBy = c.orderBy ++ [.raw sql] := fun hc => ⟨hc, rfl⟩
    have hmeets := ih.order (d := c.orderByRaw sql) rfl horder
    simpa using hmeets
  | limit count _ ih => exact ih.limit count
  | skip offset _ ih => exact ih.skip offset

end Criteria
end SqlToolkit
