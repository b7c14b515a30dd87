import Mathlib.Data.List.Induction
import SqlToolkit.Calendar
import SqlToolkit.Proofs.Text.Figures

/-!
# The order of stamps

Of two numbers with leading zeros up to one width, the smaller stands first (`padded_append_lt_iff`).  A stamp has the parts
of a moment one after another, each with as many digits as it ever needs.  So names that begin with stamps are in the order
of their moments, whatever follows (`Moment.stamp_append_lt_iff`).  This holds from the year 0 to the year 9999; other years
have a sign.
-/
namespace SqlToolkit
open Number

/-! ### Digits of one width -/

theorem append_lt_append_iff {as bs : List Char} (h : as.length = bs.length) (cs ds : List Char) :
    as ++ cs < bs ++ ds ↔ as < bs ∨ as = bs ∧ cs < ds := by
  induction as generalizing bs with
  | nil =>
    obtain rfl := List.eq_nil_of_length_eq_zero h.symm
    simp
  | cons a as ih =>
    cases bs with
    | nil => cases h
    | cons b bs =>
      rw [List.cons_append, List.cons_append, List.cons_lt_cons_iff, List.cons_lt_cons_iff, ih (Nat.succ.inj h),
        List.cons.injEq, and_or_left, or_assoc, and_assoc]

/-- The value of digits, one behind the others. -/
theorem digitsValue_concat (cs : List Char) (c : Char) :
    digitsValue (cs ++ [c]) = 10 * digitsValue cs + (c.toNat - '0'.toNat) := by
  simp [digitsValue]

/-- **Of two rows of digits with one length** the one with the smaller value stands first. -/
theorem digits_lt_iff {cs ds : List Char} (hlength : cs.length = ds.length) (hcs : ∀ c ∈ cs, c.isDigit = true)
    (hds : ∀ d ∈ ds, d.isDigit = true) :
    (cs < ds ↔ digitsValue cs < digitsValue ds) ∧ (cs = ds ↔ digitsValue cs = digitsValue ds) := by
  have hdigit {c : Char} (h : c.isDigit = true) : 48 ≤ c.toNat ∧ c.toNat ≤ 57 := Char.isDigit_iff_toNat.1 h
  -- the last digit counts least, so it is taken off first
  induction cs using List.reverseRecOn generalizing ds with
  | nil =>
    obtain rfl := List.eq_nil_of_length_eq_zero hlength.symm
    simp
  | append_singleton cs c ih =>
    cases ds using List.reverseRecOn with
    | nil => simp at hlength
    | append_singleton ds d _ =>
      obtain ⟨hcs, hc⟩ := List.forall_mem_append.1 hcs
      obtain ⟨hds, hd⟩ := List.forall_mem_append.1 hds
      have hlength : cs.length = ds.length := by simpa using hlength
      obtain ⟨hlt, heq⟩ := ih hlength hcs hds
      obtain ⟨hc, hc'⟩ := hdigit (hc c (List.mem_singleton_self c))
      obtain ⟨hd, hd'⟩ := hdigit (hd d (List.mem_singleton_self d))
      have hlast : [c] < [d] ↔ c.toNat < d.toNat :=
        List.cons_lt_cons_iff.trans (or_iff_left fun h => List.lt_irrefl [] h.2)
      have hsame : cs ++ [c] = ds ++ [d] ↔ cs = ds ∧ c.toNat = d.toNat := by simp [Char.toNat_inj]
      rw [append_lt_append_iff hlength, hsame, digitsValue_concat, digitsValue_concat, hlt, heq, hlast]
      show (_ ∨ _ ↔ 10 * _ + (_ - 48) < 10 * _ + (_ - 48)) ∧ (_ ↔ 10 * _ + (_ - 48) = 10 * _ + (_ - 48))
      omega

namespace Moment

/-! ### Numbers with leading zeros -/

theorem toList_padded (width n : Nat) :
    (padded width n).toList = List.replicate (width - (toString n).toList.length) '0' ++ (toString n).toList :=
  String.toList_ofList

theorem digitsValue_padded (width n : Nat) : digitsValue (padded width n).toList = n := by
  have hzeros (k : Nat) (cs : List Char) : digitsValue (List.replicate k '0' ++ cs) = digitsValue cs := by
    induction k with
    | zero => rfl
    | succ k ih => exact ih
  rw [toList_padded, hzeros, digitsValue_toString]

theorem isDigit_of_mem_padded {width n : Nat} {c : Char} (h : c ∈ (padded width n).toList) : c.isDigit = true := by
  rw [toList_padded, List.mem_append] at h
  rcases h with h | h
  · rw [(List.mem_replicate.1 h).2]
    rfl
  · exact isDigit_of_mem_toString h

theorem length_padded {width n : Nat} (h : (toString n).length ≤ width) : (padded width n).toList.length = width := by
  rw [← String.length_toList] at h
  rw [toList_padded, List.length_append, List.length_replicate]
  omega

/-- **Numbers with leading zeros** are in their order, and what follows counts only if they are the same. -/
theorem padded_append_lt_iff {width n m : Nat} (hn : (toString n).length ≤ width) (hm : (toString m).length ≤ width)
    (cs ds : List Char) :
    (padded width n).toList ++ cs < (padded width m).toList ++ ds ↔ n < m ∨ n = m ∧ cs < ds := by
  have hlength : (padded width n).toList.length = (padded width m).toList.length := by
    rw [length_padded hn, length_padded hm]
  obtain ⟨hlt, heq⟩ := digits_lt_iff hlength (fun _ => isDigit_of_mem_padded) fun _ => isDigit_of_mem_padded
  rw [append_lt_append_iff hlength, hlt, heq, digitsValue_padded, digitsValue_padded]

/-! ### Moments and their stamps -/

/-- The parts of a moment down to the second, the most significant first. -/
def parts (m : Moment) : List Int := [m.year, m.month, m.day, m.hour, m.minute, m.second]

/-- A moment comes before another, apart from fractions of a second. -/
def Before (a b : Moment) : Prop := a.parts < b.parts

instance (a b : Moment) : Decidable (a.Before b) := inferInstanceAs (Decidable (_ < _))

/-- The moment lies in the calendar, and its year is written without a sign. -/
def isPlain (m : Moment) : Bool := m.isValid && decide (0 ≤ m.year ∧ m.year ≤ 9999)

/-- No part of such a moment has more digits than its place. -/
theorem lengths_of_isPlain {m : Moment} (h : m.isPlain = true) :
    0 ≤ m.year ∧ yearText m.year = padded 4 m.year.toNat ∧ (toString m.year.toNat).length ≤ 4 ∧
      ∀ n ∈ [m.month, m.day, m.hour, m.minute, m.second], (toString n).length ≤ 2 := by
  have hday : daysInMonth m.year m.month ≤ 31 := by
    unfold daysInMonth
    split_ifs <;> decide
  simp only [isPlain, isValid, Bool.and_eq_true, decide_eq_true_eq] at h
  obtain ⟨⟨⟨⟨⟨⟨⟨⟨⟨-, -⟩, -⟩, hmonth⟩, -⟩, hdays⟩, hhour⟩, hminute⟩, hsecond⟩, hyear⟩ := h
  have hlength (n : Nat) : (toString n).length = (Nat.toDigits 10 n).length := by
    rw [← String.length_toList, toList_toString]
  have hshort {n : Nat} (h : n < 100) : (toString n).length ≤ 2 := by
    rw [hlength, Nat.length_toDigits_le_iff (by decide) (by decide)]
    exact h
  refine ⟨hyear.1, if_pos hyear, ?_, ?_⟩
  · rw [hlength, Nat.length_toDigits_le_iff (by decide) (by decide)]
    show m.year.toNat < 10000
    omega
  · simp only [List.forall_mem_cons]
    exact ⟨hshort (by omega), hshort (by omega), hshort (by omega), hshort (by omega), hshort (by omega), by simp⟩

/-- **Stamps are in the order of their moments**, and what follows counts only for one and the same second. -/
theorem stamp_append_lt_iff {a b : Moment} (ha : a.isPlain = true) (hb : b.isPlain = true) (cs ds : List Char) :
    a.stamp.toList ++ cs < b.stamp.toList ++ ds ↔ a.Before b ∨ a.parts = b.parts ∧ cs < ds := by
  obtain ⟨hyear, htext, hlength, hlengths⟩ := lengths_of_isPlain ha
  obtain ⟨hyear', htext', hlength', hlengths'⟩ := lengths_of_isPlain hb
  simp only [List.forall_mem_cons] at hlengths hlengths'
  obtain ⟨hmonth, hday, hhour, hminute, hsecond, -⟩ := hlengths
  obtain ⟨hmonth', hday', hhour', hminute', hsecond', -⟩ := hlengths'
  have hunderscore : "_".toList = ['_'] := rfl
  have hyears : a.year.toNat < b.year.toNat ↔ a.year < b.year := by omega
  have hyears' : a.year.toNat = b.year.toNat ↔ a.year = b.year := by omega
  -- both sides are a choice of the first part in which the moments differ
  simp only [stamp, htext, htext', String.toList_append, List.append_assoc, hunderscore, List.cons_append, List.nil_append,
    padded_append_lt_iff hlength hlength', padded_append_lt_iff hmonth hmonth', padded_append_lt_iff hday hday',
    padded_append_lt_iff hhour hhour', padded_append_lt_iff hminute hminute', padded_append_lt_iff hsecond hsecond',
    hyears, hyears', Before, parts, List.cons_lt_cons_iff, List.cons.injEq, Char.lt_irrefl, List.lt_irrefl, Int.ofNat_lt,
    Int.ofNat_inj, false_or, true_and, and_true, and_false, or_false, and_or_left, or_assoc, and_assoc]

/-- A stamp stands on one line. -/
theorem newline_not_mem_stamp (m : Moment) : '\n' ∉ m.stamp.toList := by
  have hpadded (width n : Nat) : '\n' ∉ (padded width n).toList := fun hmem =>
    absurd (isDigit_of_mem_padded hmem) (by decide)
  have hyear : '\n' ∉ (yearText m.year).toList := by
    unfold yearText
    split
    · exact hpadded 4 _
    · rw [String.toList_append, List.mem_append, not_or]
      exact ⟨by split <;> decide, hpadded 4 _⟩
  simp [stamp, hyear, hpadded]

end Moment
end SqlToolkit
