import SqlToolkit.Proofs.Statement.Placeholder
import SqlToolkit.Statement

/-!
# The pieces of a text between its placeholders

A reader that knows one kind of quotes takes a text apart at the question marks outside them (`pieces`).  Reading with
the quotes of identifiers gives the pieces between the placeholders of a statement, and its values between them the text
that a log should show.  The log is written by a reader that knows apostrophes instead (`fillIn_eq_interleave`), so what
it shows depends on where the two disagree: not on the values, and not on a text where neither quote occurs
(`interleave_pieces_eq`).  A text in front of that is passed alike by both if it is quiet: its apostrophes are paired and
hold all its question marks.  In front of a placeholder any other text makes a difference (`interleave_pieces_ne`).
-/
namespace SqlToolkit

namespace Text

/-- The pieces of a text between the question marks outside quotes, from a place inside or outside them.  A quote that
is doubled in a quoted text switches twice. -/
def pieces (quote : Char) (inside : Bool) : List Char → List (List Char)
  | [] => [[]]
  | c :: cs =>
    if c = '?' ∧ inside = false then [] :: pieces quote false cs
    else (pieces quote (if c = quote then !inside else inside) cs).modifyHead (c :: ·)

/-- Pieces with values between them.  A question mark without a value stays; a value without a question mark is left
out. -/
def interleave : List (List Char) → List Value → List Char
  | [], _ => []
  | [piece], _ => piece
  | piece :: rest, v :: values => piece ++ v.inline.toList ++ interleave rest values
  | piece :: rest, [] => piece ++ '?' :: interleave rest []

/-- Whether the end of a text is inside quotes; nothing if a question mark stands outside them. -/
def passed? (quote : Char) (inside : Bool) : List Char → Option Bool
  | [] => some inside
  | c :: cs =>
    if c = '?' ∧ inside = false then none else passed? quote (if c = quote then !inside else inside) cs

variable {quote other : Char} {inside after : Bool} {cs ds : List Char} {values : List Value}

theorem pieces_ne_nil (quote : Char) (inside : Bool) (cs : List Char) : pieces quote inside cs ≠ [] := by
  induction cs generalizing inside with
  | nil => simp [pieces]
  | cons c cs ih =>
    rw [pieces]
    split
    · simp
    · obtain ⟨piece, rest, h⟩ := List.exists_cons_of_ne_nil (ih (if c = quote then !inside else inside))
      simp [h]

theorem interleave_modifyHead {ps : List (List Char)} (h : ps ≠ []) (cs : List Char) (values : List Value) :
    interleave (ps.modifyHead (cs ++ ·)) values = cs ++ interleave ps values := by
  obtain ⟨piece, rest, rfl⟩ := List.exists_cons_of_ne_nil h
  cases rest with
  | nil => simp [interleave]
  | cons next rest => cases values <;> simp [interleave]

theorem interleave_cons {ps : List (List Char)} (h : ps ≠ []) (piece : List Char) (v : Value) (values : List Value) :
    interleave (piece :: ps) (v :: values) = piece ++ (v.inline.toList ++ interleave ps values) := by
  obtain ⟨next, rest, rfl⟩ := List.exists_cons_of_ne_nil h
  simp [interleave]

/-- A text is its pieces with the question marks between them. -/
theorem interleave_nil (quote : Char) (inside : Bool) (cs : List Char) : interleave (pieces quote inside cs) [] = cs := by
  induction cs generalizing inside with
  | nil => rfl
  | cons c cs ih =>
    rw [pieces]
    split
    · next h =>
      obtain ⟨piece, rest, hpieces⟩ := List.exists_cons_of_ne_nil (pieces_ne_nil quote false cs)
      rw [hpieces, interleave, ← hpieces, ih, h.1]
      · rfl
      · simp
    · have hfront := interleave_modifyHead (pieces_ne_nil quote (if c = quote then !inside else inside) cs) [c] []
      simpa [ih] using hfront

/-- There is one piece more than there are placeholders. -/
theorem length_pieces (hquote : quote ≠ '?') (inName : Bool) (cs : List Char) :
    (pieces quote inName cs).length = placeholders quote inName cs + 1 := by
  induction cs generalizing inName with
  | nil => simp [pieces]
  | cons c cs ih =>
    by_cases hc : c = quote
    · have hmark : ¬ (c = '?' ∧ inName = false) := fun h => hquote (hc.symm.trans h.1)
      rw [pieces, if_neg hmark, if_pos hc, List.length_modifyHead, ih, hc]
      cases inName
      · rw [placeholders_open, Bool.not_false]
      · rw [placeholders_close, Bool.not_true]
    · cases inName with
      | false =>
        by_cases hmark : c = '?'
        · simp [pieces, placeholders, hmark, hquote.symm, ih]
        · simp [pieces, placeholders, hmark, hc, ih]
      | true => simp [pieces, hc, ih, placeholders_in_name hc]

/-- The log is written by a reader that knows apostrophes. -/
theorem fillIn_eq_interleave (inside : Bool) (cs : List Char) (values : List Value) :
    Statement.fillIn inside cs values = interleave (pieces '\'' inside cs) values := by
  have hne (inside : Bool) (cs : List Char) := pieces_ne_nil '\'' inside cs
  have hkept (c : Char) (inside : Bool) (cs : List Char) (values : List Value) :
      interleave ((pieces '\'' inside cs).modifyHead (c :: ·)) values =
        c :: interleave (pieces '\'' inside cs) values :=
    interleave_modifyHead (hne inside cs) [c] values
  induction cs generalizing inside values with
  | nil => cases values <;> rfl
  | cons c cs ih =>
    rw [Statement.fillIn.eq_def, pieces]
    dsimp only
    by_cases hquote : c = '\''
    · have hmark : ¬ (c = '?' ∧ inside = false) := fun h => absurd (hquote.symm.trans h.1) (by decide)
      rw [if_pos hquote, if_neg hmark, if_pos hquote, hkept, ih]
    rw [if_neg hquote, if_neg hquote]
    by_cases hmark : c = '?' ∧ inside = false
    · rw [if_pos hmark, if_pos hmark]
      cases values with
      | nil =>
        obtain ⟨piece, rest, hpieces⟩ := List.exists_cons_of_ne_nil (hne false cs)
        simp only [ih, hmark.1, hmark.2, hpieces, interleave, List.nil_append]
      | cons v values => simp only [ih, hmark.2, interleave_cons (hne false cs), List.nil_append]
    · rw [if_neg hmark, if_neg hmark, hkept, ih]

/-! ### Passing a text -/

theorem passed?_append : passed? quote inside (cs ++ ds) = (passed? quote inside cs).bind (passed? quote · ds) := by
  induction cs generalizing inside with
  | nil => rfl
  | cons c cs ih =>
    rw [List.cons_append, passed?, passed?]
    split
    · rfl
    · exact ih

/-- A text without question marks and quotes changes nothing. -/
theorem passed?_of_not_mem (hmark : '?' ∉ cs) (hquote : quote ∉ cs) : passed? quote inside cs = some inside := by
  induction cs with
  | nil => rfl
  | cons c cs ih =>
    have hc : c ≠ '?' := fun h => hmark (h ▸ List.mem_cons_self)
    have hq : c ≠ quote := fun h => hquote (h ▸ List.mem_cons_self)
    rw [passed?, if_neg fun h => hc h.1, if_neg hq]
    exact ih (fun h => hmark (List.mem_cons_of_mem _ h)) (fun h => hquote (List.mem_cons_of_mem _ h))

/-- The first question mark outside quotes. -/
theorem exists_of_passed?_eq_none (h : passed? quote inside cs = none) :
    ∃ front rest, cs = front ++ '?' :: rest ∧ passed? quote inside front = some false := by
  induction cs generalizing inside with
  | nil => cases h
  | cons c cs ih =>
    rw [passed?] at h
    split at h
    · next hmark => exact ⟨[], cs, by rw [hmark.1]; rfl, by rw [passed?, hmark.2]⟩
    · next hc =>
      obtain ⟨front, rest, rfl, hfront⟩ := ih h
      exact ⟨c :: front, rest, rfl, by rwa [passed?, if_neg hc]⟩

/-- What is passed belongs to the first piece. -/
theorem pieces_append (h : passed? quote inside cs = some after) (ds : List Char) :
    pieces quote inside (cs ++ ds) = (pieces quote after ds).modifyHead (cs ++ ·) := by
  induction cs generalizing inside with
  | nil =>
    obtain rfl := Option.some.inj h
    obtain ⟨piece, rest, hpieces⟩ := List.exists_cons_of_ne_nil (pieces_ne_nil quote inside ds)
    simp [hpieces]
  | cons c cs ih =>
    rw [passed?] at h
    split at h
    · cases h
    · next hc =>
      obtain ⟨piece, rest, hpieces⟩ := List.exists_cons_of_ne_nil (pieces_ne_nil quote after ds)
      rw [List.cons_append, pieces, if_neg hc, ih h, hpieces]
      rfl

theorem length_pieces_append (h : passed? quote inside cs = some after) (ds : List Char) :
    (pieces quote inside (cs ++ ds)).length = (pieces quote after ds).length := by
  rw [pieces_append h, List.length_modifyHead]

theorem pieces_mark (quote : Char) (cs : List Char) :
    pieces quote false ('?' :: cs) = [] :: pieces quote false cs := by
  rw [pieces, if_pos ⟨rfl, rfl⟩]

theorem interleave_append (h : passed? quote inside cs = some after) (ds : List Char) (values : List Value) :
    interleave (pieces quote inside (cs ++ ds)) values = cs ++ interleave (pieces quote after ds) values := by
  rw [pieces_append h, interleave_modifyHead (pieces_ne_nil _ _ _)]

theorem interleave_mark (cs : List Char) (v : Value) (values : List Value) :
    interleave (pieces quote false ('?' :: cs)) (v :: values) =
      v.inline.toList ++ interleave (pieces quote false cs) values := by
  rw [pieces_mark, interleave_cons (pieces_ne_nil _ _ _), List.nil_append]

/-! ### Two readers -/

/-- Where neither quote occurs and there is a value for each question mark, both readers write the same, whatever
stands behind. -/
theorem interleave_pieces_eq (hquote : quote ∉ cs) (hother : other ∉ cs) (hcount : cs.count '?' = values.length)
    (ds : List Char) :
    interleave (pieces quote false (cs ++ ds)) values = interleave (pieces other false (cs ++ ds)) values := by
  induction cs generalizing values with
  | nil =>
    obtain rfl := List.length_eq_zero_iff.1 hcount.symm
    rw [interleave_nil, interleave_nil]
  | cons c cs ih =>
    have hquotes : quote ∉ cs := fun h => hquote (List.mem_cons_of_mem _ h)
    have hothers : other ∉ cs := fun h => hother (List.mem_cons_of_mem _ h)
    by_cases hmark : c = '?'
    · subst hmark
      rw [List.count_cons_self] at hcount
      cases values with
      | nil => cases hcount
      | cons v values =>
        rw [List.cons_append, interleave_mark, interleave_mark, ih hquotes hothers (Nat.succ.inj hcount)]
    · rw [List.count_cons_of_ne hmark] at hcount
      have hpassed {q : Char} (hq : q ∉ c :: cs) : passed? q false [c] = some false :=
        passed?_of_not_mem (by simpa using Ne.symm hmark) fun h => hq (List.mem_singleton.1 h ▸ List.mem_cons_self)
      rw [← List.singleton_append, List.append_assoc, interleave_append (hpassed hquote),
        interleave_append (hpassed hother), ih hquotes hothers hcount]

/-- In front of a placeholder a text that the other reader does not pass makes a difference. -/
theorem interleave_pieces_ne {front : List Char} (hfront : passed? quote false front = some false)
    (hother : passed? other false front ≠ some false) {v : Value} (hvalue : ∀ cs ds, v.inline.toList ++ cs ≠ '?' :: ds) :
    interleave (pieces other false (front ++ '?' :: cs)) (v :: values) ≠
      interleave (pieces quote false (front ++ '?' :: cs)) (v :: values) := by
  rw [interleave_append hfront, interleave_mark]
  intro h
  cases hpassed : passed? other false front with
  | none =>
    -- a question mark in the text takes the value
    obtain ⟨before, rest, rfl, hbefore⟩ := exists_of_passed?_eq_none hpassed
    rw [List.append_assoc, List.append_assoc, interleave_append hbefore, List.append_cancel_left_eq, List.cons_append,
      interleave_mark] at h
    exact hvalue _ _ h
  | some inside =>
    -- the placeholder is taken for a part of a literal
    have hinside : inside = true := by
      cases inside
      · exact absurd hpassed hother
      · rfl
    have hmark : passed? other true ['?'] = some (if '?' = other then false else true) := rfl
    rw [interleave_append hpassed, List.append_cancel_left_eq, hinside, ← List.singleton_append,
      interleave_append hmark] at h
    exact hvalue _ _ h.symm

end Text
end SqlToolkit
