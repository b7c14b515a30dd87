/-!
# Searching a text

Whether one text occurs inside another, by trying each place in turn.
-/
namespace SqlToolkit.Text

/-- The first text stands somewhere inside the second. -/
def occursIn (part : List Char) : List Char → Bool
  | [] => part.isEmpty
  | c :: cs => part.isPrefixOf (c :: cs) || occursIn part cs

/-- The first string stands somewhere inside the second. -/
def contains (whole part : String) : Bool := occursIn part.toList whole.toList

theorem occursIn_iff {part : List Char} (cs : List Char) : occursIn part cs = true ↔ part <:+: cs := by
  induction cs with
  | nil => simp [occursIn, List.infix_nil]
  | cons c cs ih => simp [occursIn, List.infix_cons_iff, ih]

end SqlToolkit.Text
