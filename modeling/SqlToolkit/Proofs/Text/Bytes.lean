import Mathlib.Data.String.Basic

/-!
# The order of bytes

Strings are compared by their characters, and a file system compares names by their bytes.  The encoding keeps the order:
of two characters the greater has the greater byte where their encodings part (`utf8EncodeChar_append_lt`).  So both orders
of strings are one (`lt_iff_bytes_lt`).
-/
namespace SqlToolkit.Text

/-- The bytes of a string. -/
def bytes (s : String) : List UInt8 := s.toList.flatMap String.utf8EncodeChar

/-- They are what is stored of it. -/
theorem toByteArray_bytes (s : String) : (bytes s).toByteArray = s.toByteArray := by
  rw [bytes, ← String.utf8Encode_toList, List.utf8Encode]

/-- The encodings of two characters part in a byte, whatever follows them. -/
theorem utf8EncodeChar_append_lt {c d : Char} (h : c < d) (cs ds : List UInt8) :
    String.utf8EncodeChar c ++ cs < String.utf8EncodeChar d ++ ds := by
  have hlt : c.val.toNat < d.val.toNat := h
  have hd : d.val.toNat < 0x110000 := by
    have hvalid := d.valid
    rcases hvalid with hvalid | hvalid <;> omega
  rw [String.utf8EncodeChar.eq_1, String.utf8EncodeChar.eq_1]
  -- one case for each pair of lengths; a longer encoding has the greater first byte
  split_ifs <;>
    simp (disch := omega) only [List.cons_append, List.nil_append, List.cons_lt_cons_iff, UInt8.lt_iff_toNat_lt,
      ← UInt8.toNat_inj, UInt8.toNat_ofNat', Nat.mod_eq_of_lt] <;> omega

theorem bytes_lt_of_lt {a b : String} (h : a < b) : bytes a < bytes b := by
  have key {cs ds : List Char} (h : cs < ds) :
      cs.flatMap String.utf8EncodeChar < ds.flatMap String.utf8EncodeChar := by
    induction cs generalizing ds with
    | nil =>
      cases ds with
      | nil => exact absurd h (List.lt_irrefl _)
      | cons d ds =>
        obtain ⟨x, xs, hx⟩ := List.exists_cons_of_ne_nil (String.utf8EncodeChar_ne_nil (c := d))
        rw [List.flatMap_cons, hx]
        exact List.nil_lt_cons x _
    | cons c cs ih =>
      cases ds with
      | nil => exact absurd h (by simp)
      | cons d ds =>
        rw [List.flatMap_cons, List.flatMap_cons]
        rcases List.cons_lt_cons_iff.1 h with hlt | ⟨rfl, hlt⟩
        · exact utf8EncodeChar_append_lt hlt _ _
        · exact List.append_left_lt (ih hlt)
  exact key (String.lt_iff.1 h)

/-- **Strings are ordered as their bytes are.** -/
theorem lt_iff_bytes_lt {a b : String} : a < b ↔ bytes a < bytes b := by
  refine ⟨bytes_lt_of_lt, fun h => ?_⟩
  by_contra hnot
  by_cases heq : b = a
  · subst heq
    exact List.lt_irrefl _ h
  · exact List.lt_asymm h (bytes_lt_of_lt (Std.lt_of_le_of_ne (String.not_lt.1 hnot) heq))

end SqlToolkit.Text
