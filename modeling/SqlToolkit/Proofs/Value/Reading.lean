import SqlToolkit.Dialect
import SqlToolkit.Proofs.Text.Figures
import SqlToolkit.Proofs.Text.Quoted

/-!
# Quoted text and values read back

Identifiers and string literals say themselves where they end, in every dialect, and stand for one text each
(`Text.Delimits`).  So do bytes, which are written as pairs of digits between such quotes.  A value in a statement is
known by its text (`ofInline?_inline`): null by its name, text and bytes by their quotes, and everything else is a number.
Doubles are left out, since a whole one is written like an integer.
-/
namespace SqlToolkit
open Text Number

namespace Value

/-! ### Bytes -/

/-- The value of a hexadecimal digit in either case. -/
def hexDigit? (c : Char) : Option Nat :=
  if c.isDigit then some (c.toNat - '0'.toNat)
  else if 'A' ≤ c ∧ c ≤ 'F' then some (c.toNat - 'A'.toNat + 10)
  else if 'a' ≤ c ∧ c ≤ 'f' then some (c.toNat - 'a'.toNat + 10)
  else none

/-- The bytes that pairs of digits stand for. -/
def bytes? : List Char → Option (List UInt8)
  | [] => some []
  | [_] => none
  | high :: low :: cs => do
    let h ← hexDigit? high
    let l ← hexDigit? low
    let bytes ← bytes? cs
    return UInt8.ofNat (16 * h + l) :: bytes

/-- The bytes at the front of a text, with what follows them. -/
def readBytes? : List Char → Option (List UInt8 × List Char)
  | 'X' :: cs => do
    let (digits, rest) ← readQuoted? ('\'', '\'') cs
    let bytes ← bytes? digits
    return (bytes, rest)
  | _ => none

theorem hexDigit?_digitChar {n : Nat} (h : n < 16) : hexDigit? (Nat.digitChar n).toUpper = some n := by
  have hall : ∀ n < 16, hexDigit? (Nat.digitChar n).toUpper = some n := by decide
  exact hall n h

theorem bytes?_flatMap (bytes : List UInt8) : bytes? (bytes.flatMap byteText) = some bytes := by
  induction bytes with
  | nil => rfl
  | cons b bytes ih =>
    have hb := b.toNat_lt
    have hhigh : hexDigit? (Nat.digitChar (b.toNat / 16)).toUpper = some (b.toNat / 16) := hexDigit?_digitChar (by omega)
    have hlow : hexDigit? (Nat.digitChar (b.toNat % 16)).toUpper = some (b.toNat % 16) := hexDigit?_digitChar (by omega)
    have hvalue : UInt8.ofNat (16 * (b.toNat / 16) + b.toNat % 16) = b := by
      rw [Nat.div_add_mod, UInt8.ofNat_toNat]
    rw [List.flatMap_cons, byteText, List.cons_append, List.cons_append, List.nil_append, bytes?, hhigh, hlow, ih]
    simp only [Option.bind_eq_bind, Option.bind_some, hvalue]
    rfl

/-- Digits are no quotes, so none is doubled. -/
theorem not_mem_flatMap_byteText (bytes : List UInt8) : '\'' ∉ bytes.flatMap byteText := by
  have hdigit : ∀ n < 16, (Nat.digitChar n).toUpper ≠ '\'' := by decide
  intro hmem
  obtain ⟨b, -, hb⟩ := List.mem_flatMap.1 hmem
  have hlt := b.toNat_lt
  simp only [byteText, List.mem_cons, List.not_mem_nil, or_false] at hb
  rcases hb with hb | hb
  · exact hdigit _ (by omega) hb.symm
  · exact hdigit _ (by omega) hb.symm

theorem toList_inline_blob (bytes : List UInt8) :
    (inline (.blob bytes)).toList = 'X' :: enclose '\'' '\'' (bytes.flatMap byteText) := by
  simp [inline, enclose, double_of_not_mem (not_mem_flatMap_byteText bytes)]

/-- **Bytes are read back** wherever they stand, unless a quote follows them. -/
theorem readBytes?_inline (bytes : List UInt8) {rest : List Char} (hfree : rest.head? ≠ some '\'') :
    readBytes? ((inline (.blob bytes)).toList ++ rest) = some (bytes, rest) := by
  have hread : readQuoted? ('\'', '\'') (enclose '\'' '\'' (bytes.flatMap byteText) ++ rest) =
      some (bytes.flatMap byteText, rest) := readQuoted?_eq_some_iff.2 ⟨rfl, hfree⟩
  rw [toList_inline_blob, List.cons_append, readBytes?, hread]
  simp [bytes?_flatMap]

/-! ### Integers -/

theorem exists_digits (n : Nat) : ∃ c cs, (toString n).toList = c :: cs ∧ c.isDigit = true := by
  obtain ⟨c, cs, hcs⟩ := List.exists_cons_of_ne_nil (digitText_ne_nil n)
  exact ⟨c, cs, hcs, isDigit_of_mem_toString (n := n) (hcs ▸ List.mem_cons_self)⟩

/-- An integer begins with a sign or a digit, and so with none of the marks of other values. -/
theorem head_toString (n : Int) : ∃ c cs, (toString n).toList = c :: cs ∧ (c = '-' ∨ c.isDigit = true) := by
  cases n with
  | ofNat k =>
    obtain ⟨c, cs, hcs, hc⟩ := exists_digits k
    exact ⟨c, cs, hcs, .inr hc⟩
  | negSucc k =>
    refine ⟨'-', (toString (k + 1)).toList, ?_, .inl rfl⟩
    show ("-" ++ toString (k + 1)).toList = _
    rw [String.toList_append]
    rfl

/-- The digits of a number behind a sign that was read. -/
theorem readInt?_of_readSign {cs : List Char} {negative : Bool} {k : Nat}
    (h : readSign cs = (negative, (toString k).toList)) :
    readInt? cs = some (if negative then -(k : Int) else k) := by
  obtain ⟨c, ds, hds, -⟩ := exists_digits k
  have hne : (toString k).toList.isEmpty = false := by rw [hds]; rfl
  have hdigits : (toString k).toList.all Char.isDigit = true := List.all_eq_true.2 fun _ => isDigit_of_mem_toString
  rw [readInt?, h]
  simp only [hne, hdigits, digitsValue_toString]
  rfl

theorem readInt?_toString (n : Int) : readInt? (toString n).toList = some n := by
  cases n with
  | ofNat k =>
    have hsign : readSign (toString k).toList = (false, (toString k).toList) := by
      obtain ⟨c, cs, hcs, hc⟩ := exists_digits k
      rw [hcs]
      unfold readSign
      split
      · next heq =>
        cases heq
        exact absurd hc (by decide)
      · next heq =>
        cases heq
        exact absurd hc (by decide)
      · rfl
    exact readInt?_of_readSign hsign
  | negSucc k =>
    have hsign : readSign ("-" ++ toString (k + 1)).toList = (true, (toString (k + 1)).toList) := by
      rw [String.toList_append]
      rfl
    exact readInt?_of_readSign hsign

theorem fitInt?_toInt (n : Int64) : fitInt? n.toInt = some n := by
  rw [fitInt?, if_pos ⟨n.minValue_le_toInt, n.toInt_le⟩, Int64.ofInt_toInt]

/-! ### Values -/

/-- The value is a double. -/
def isFloat : Value → Bool
  | float _ => true
  | _ => false

/-- The value that a whole text denotes. -/
def ofInline? (sql : String) : Option Value :=
  if sql = "NULL" then some null
  else match readQuoted? ('\'', '\'') sql.toList with
    | some (content, []) => some (text (String.ofList content))
    | some _ => none
    | none =>
      match readBytes? sql.toList with
      | some (bytes, []) => some (blob bytes)
      | some _ => none
      | none => ((readInt? sql.toList).bind fitInt?).map int

theorem delimits_inline_text : Delimits ('\'', '\'') fun content => inline (.text content) := delimits_wrap '\'' '\''

/-- An integer begins with none of the marks of other values. -/
theorem ofInline?_int (n : Int64) : ofInline? (inline (.int n)) = some (.int n) := by
  obtain ⟨c, cs, hcs, hc⟩ := head_toString n.toInt
  have hne (mark : Char) (hmark : mark ≠ '-' ∧ mark.isDigit = false) : c ≠ mark := by
    rintro rfl
    simp [hmark] at hc
  have hnull : toString n.toInt ≠ "NULL" := fun heq => by
    rw [heq] at hcs
    exact hne 'N' (by decide) (List.cons.inj hcs).1.symm
  have hquoted : readQuoted? ('\'', '\'') (c :: cs) = none := if_neg (hne _ (by decide))
  have hbytes : readBytes? (c :: cs) = none := by
    unfold readBytes?
    split
    · next heq => exact absurd (List.cons.inj heq).1 (hne _ (by decide))
    · rfl
  show ofInline? (toString n.toInt) = _
  rw [ofInline?, if_neg hnull, hcs, hquoted]
  dsimp only
  rw [hbytes, ← hcs, readInt?_toString]
  simp [fitInt?_toInt]

theorem ofInline?_text (content : String) : ofInline? (inline (.text content)) = some (.text content) := by
  have hread : readQuoted? ('\'', '\'') (inline (.text content)).toList = some (content.toList, []) :=
    (delimits_inline_text content _ []).2 ⟨(List.append_nil _).symm, by simp⟩
  have hnull : inline (.text content) ≠ "NULL" := fun heq => by
    rw [heq] at hread
    exact absurd hread (by simp [readQuoted?])
  rw [ofInline?, if_neg hnull, hread]
  simp

theorem ofInline?_blob (bytes : List UInt8) : ofInline? (inline (.blob bytes)) = some (.blob bytes) := by
  have hread : readBytes? (inline (.blob bytes)).toList = some (bytes, []) := by
    rw [← List.append_nil (inline (.blob bytes)).toList]
    exact readBytes?_inline bytes (by simp)
  have hquoted : readQuoted? ('\'', '\'') (inline (.blob bytes)).toList = none := by
    rw [toList_inline_blob]
    rfl
  have hnull : inline (.blob bytes) ≠ "NULL" := fun heq => by
    rw [heq] at hread
    exact absurd hread (by simp [readBytes?])
  rw [ofInline?, if_neg hnull, hquoted]
  dsimp only
  rw [hread]

/-- **A value is read back**: one that is bound and no double. -/
theorem ofInline?_inline {v : Value} (hfloat : v.isFloat = false) : ofInline? v.coerce.inline = some v.coerce := by
  cases v with
  | null => rfl
  | bool b => exact ofInline?_int _
  | int n => exact ofInline?_int n
  | float x => cases hfloat
  | text content => exact ofInline?_text content
  | blob bytes => exact ofInline?_blob bytes

/-- **What is written between quotes says where it ends and what it stands for**: identifiers of queries and of schema
statements in every dialect, string literals, text and bytes.  Whatever follows, unless it is one more closing quote, is
left alone.  Of the values that are bound no two but doubles are written alike. -/
theorem written_reads_back :
    (∀ d : Dialect, Delimits d.quotes d.quote ∧ Delimits d.schemaQuotes d.quoteSchema) ∧
    Delimits ('\'', '\'') literal ∧ (Delimits ('\'', '\'') fun content => inline (.text content)) ∧
    (∀ (bytes : List UInt8) (rest : List Char), rest.head? ≠ some '\'' →
      readBytes? ((inline (.blob bytes)).toList ++ rest) = some (bytes, rest)) ∧
    ∀ v w : Value, v.isFloat = false → w.isFloat = false → v.coerce.inline = w.coerce.inline → v.coerce = w.coerce := by
  refine ⟨fun d => ⟨delimits_wrap _ _, delimits_wrap _ _⟩, delimits_wrap _ _, delimits_inline_text,
    fun bytes _ hfree => readBytes?_inline bytes hfree, fun v w hv hw heq => ?_⟩
  have hread := ofInline?_inline hv
  rw [heq, ofInline?_inline hw] at hread
  exact (Option.some.inj hread).symm

/-- A name that begins and ends with its closing quote, bytes in front of a semicolon, and a truth value bound as an
integer. -/
theorem written_reads_back_brackets :
    let rest := " (id)".toList
    readQuoted? Dialect.msSql.schemaQuotes ("[]]a]]]]b]]]".toList ++ rest) = some ("]a]]b]".toList, rest) ∧
      [';'].head? ≠ some '\'' ∧ readBytes? ("X'00FF'".toList ++ [';']) = some ([0, 255], [';']) ∧
      isFloat (.bool true) = false ∧ isFloat (.int 1) = false ∧
      (bool true).coerce.inline = (int 1).coerce.inline ∧ (bool true).coerce = (int 1).coerce := by
  intro rest
  obtain ⟨hnames, -, -, hbytes, hvalues⟩ := written_reads_back
  have hname : Dialect.msSql.quoteSchema "]a]]b]" = "[]]a]]]]b]]]" := by decide
  have hblob : inline (.blob [0, 255]) = "X'00FF'" := by decide
  have hfree : [';'].head? ≠ some '\'' := by decide
  have heq : (bool true).coerce.inline = (int 1).coerce.inline := rfl
  refine ⟨((hnames .msSql).2 "]a]]b]" _ rest).2 ⟨by rw [hname], by decide⟩, hfree, ?_, rfl, rfl, heq,
    hvalues (.bool true) (.int 1) rfl rfl heq⟩
  rw [← hblob]
  exact hbytes [0, 255] [';'] hfree

end Value
end SqlToolkit
