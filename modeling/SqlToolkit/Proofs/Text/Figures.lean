import SqlToolkit.Value

/-!
# The characters of numbers

Numbers are written with digits, a point and a sign, and with nothing else, apart from the names of infinity and of no
number.  So what holds of all these characters holds of every number as it stands in a statement.
-/
namespace SqlToolkit
open Number

variable {p : Char → Prop}

theorem toList_toString (n : Nat) : (toString n).toList = Nat.toDigits 10 n := Nat.toList_repr

theorem isDigit_of_mem_toString {n : Nat} {c : Char} (h : c ∈ (toString n).toList) : c.isDigit = true :=
  Nat.isDigit_of_mem_toDigits (by decide) (by decide) (toList_toString n ▸ h)

/-- The digits of a number have its value. -/
theorem digitsValue_toString (n : Nat) : digitsValue (toString n).toList = n := by
  rw [toList_toString, digitsValue, ← Nat.ofDigitChars_eq_foldl]
  exact Nat.ofDigitChars_ten_toDigits

theorem forall_digitText (hdigit : ∀ c, c.isDigit = true → p c) (n : Nat) : ∀ c ∈ (digitText n).toList, p c :=
  fun c hc => hdigit c (isDigit_of_mem_toString hc)

theorem digitText_ne_nil (n : Nat) : (digitText n).toList ≠ [] := by
  rw [digitText, toList_toString]
  exact Nat.toDigits_ne_nil

theorem forall_zeros (hdigit : ∀ c, c.isDigit = true → p c) (n : Nat) : ∀ c ∈ List.replicate n '0', p c := by
  intro c hc
  rw [(List.mem_replicate.1 hc).2]
  exact hdigit '0' (by decide)

/-- A positional numeral has digits and perhaps a point. -/
theorem forall_positional (hdigit : ∀ c, c.isDigit = true → p c) (hpoint : p '.') (d : Decimal) :
    ∀ c ∈ (positional false d).toList, p c := by
  have hdigits := forall_digitText hdigit d.digits
  unfold positional
  dsimp only
  split
  · simpa using List.forall_mem_append.2 ⟨hdigits, forall_zeros hdigit d.exponent.toNat⟩
  · split
    · have htake : ∀ c ∈ (digitText d.digits).toList.take ((digitText d.digits).length - d.exponent.natAbs), p c :=
        fun c hc => hdigits c (List.mem_of_mem_take hc)
      have hdrop : ∀ c ∈ (digitText d.digits).toList.drop ((digitText d.digits).length - d.exponent.natAbs), p c :=
        fun c hc => hdigits c (List.mem_of_mem_drop hc)
      simpa using List.forall_mem_append.2 ⟨htake, List.forall_mem_cons.2 ⟨hpoint, hdrop⟩⟩
    · have hzeros := forall_zeros hdigit (d.exponent.natAbs - (digitText d.digits).length)
      have hrest := List.forall_mem_append.2 ⟨hzeros, hdigits⟩
      simpa using List.forall_mem_cons.2 ⟨hdigit '0' (by decide), List.forall_mem_cons.2 ⟨hpoint, hrest⟩⟩

theorem positional_ne_nil (d : Decimal) : (positional false d).toList ≠ [] := by
  unfold positional
  dsimp only
  split
  · rw [String.toList_append, String.toList_append]
    exact List.append_ne_nil_of_left_ne_nil (List.append_ne_nil_of_left_ne_nil (digitText_ne_nil _) _) _
  · split <;> simp

theorem floatText_ne_nil (x : Binary64) : (Value.floatText x).toList ≠ [] := by
  unfold Value.floatText
  split
  · next digits hdigits =>
    unfold Layout.text? at hdigits
    split at hdigits
    · next m e _ =>
      have hbody : (if m = 0 then "0" else Value.inlineLayout.write (shortest Value.inlineLayout.tie m e)).toList ≠ [] := by
        split
        · decide
        · exact positional_ne_nil _
      cases hdigits
      rw [String.toList_append]
      exact List.append_ne_nil_of_right_ne_nil _ hbody
    · cases hdigits
  · split
    · decide
    · split <;> decide

/-- A double has the characters of numbers and of the two names. -/
theorem forall_floatText (hdigit : ∀ c, c.isDigit = true → p c) (hothers : ∀ c ∈ "-.NaNinf".toList, p c)
    (x : Binary64) : ∀ c ∈ (Value.floatText x).toList, p c := by
  have hsub (cs : List Char) (h : cs ⊆ "-.NaNinf".toList) : ∀ c ∈ cs, p c := fun c hc => hothers c (h hc)
  unfold Value.floatText
  split
  · next digits hdigits =>
    unfold Layout.text? at hdigits
    split at hdigits
    · next m e _ =>
      have hsign : ∀ c ∈ (if x.isNegative then "-" else "").toList, p c := by
        cases x.isNegative <;> exact hsub _ (by decide)
      have hbody : ∀ c ∈ (if m = 0 then "0" else
          Value.inlineLayout.write (shortest Value.inlineLayout.tie m e)).toList, p c := by
        split
        · simpa using hdigit '0' (by decide)
        · exact forall_positional hdigit (hothers '.' (by decide)) _
      cases hdigits
      rw [String.toList_append]
      exact List.forall_mem_append.2 ⟨hsign, hbody⟩
    · cases hdigits
  · split
    · exact hsub _ (by decide)
    · split <;> exact hsub _ (by decide)

theorem forall_inline_int (hdigit : ∀ c, c.isDigit = true → p c) (hsign : p '-') (n : Int64) :
    ∀ c ∈ (Value.inline (.int n)).toList, p c := by
  show ∀ c ∈ (toString n.toInt).toList, p c
  cases n.toInt with
  | ofNat k => exact forall_digitText hdigit k
  | negSucc k =>
    show ∀ c ∈ ("-" ++ toString (k + 1)).toList, p c
    rw [String.toList_append]
    exact List.forall_mem_append.2 ⟨List.forall_mem_singleton.2 hsign, forall_digitText hdigit (k + 1)⟩

end SqlToolkit
