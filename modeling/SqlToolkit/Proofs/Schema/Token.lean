import SqlToolkit.Dialect
import SqlToolkit.Proofs.Text.Quoted

/-!
# The tokens of a schema statement

A schema statement is read as a server reads it: quoted identifiers and string literals are
taken whole, whatever they hold, and everything else one character after another (`tokens?`).
Whether a comma separates two definitions is then a matter of the parentheses that are open
(`parts?`).

`Reads` says which tokens a text gives wherever it stands.  The texts of a statement are put
together from few, and so are their tokens: plain text, identifiers, literals, and texts one
after another.  `nesting` follows the parentheses in the same way.
-/
namespace SqlToolkit.Schema
open Text

/-- A stretch of a schema statement. -/
inductive Token where
  | identifier (name : List Char)
  | literal (text : List Char)
  /-- A character outside quotes. -/
  | plain (c : Char)
deriving DecidableEq, Repr

/-- The tokens of a text with the given quotes around identifiers; nothing when a quote has no end. -/
def tokens? (quotes : Char × Char) : List Char → Option (List Token)
  | [] => some []
  | c :: cs =>
    if c = quotes.1 then
      match _h : readEnclosed quotes.2 cs with
      | some (name, rest) => (tokens? quotes rest).map (.identifier name :: ·)
      | none => none
    else if c = '\'' then
      match _h : readEnclosed '\'' cs with
      | some (text, rest) => (tokens? quotes rest).map (.literal text :: ·)
      | none => none
    else (tokens? quotes cs).map (.plain c :: ·)
termination_by cs => cs.length
decreasing_by
  · have := length_of_readEnclosed _h
    simp only [List.length_cons]
    omega
  · have := length_of_readEnclosed _h
    simp only [List.length_cons]
    omega
  · simp

/-- The characters of a text as tokens. -/
def plains (cs : List Char) : List Token := cs.map .plain

/-! ## Texts and their tokens -/

variable {quotes : Char × Char}

/-- A text cannot be taken for the rest of a quoted one before it. -/
def Free (quotes : Char × Char) (cs : List Char) : Prop := cs.head? ≠ some quotes.2 ∧ cs.head? ≠ some '\''

/-- A text gives these tokens wherever it stands, unless a quote follows it. -/
def Reads (quotes : Char × Char) (cs : List Char) (ts : List Token) : Prop :=
  ∀ rest, Free quotes rest → tokens? quotes (cs ++ rest) = (tokens? quotes rest).map (ts ++ ·)

/-- The quotes of a dialect in schema statements. -/
def isSchemaQuote (c : Char) : Bool := c = '\'' || c = '"' || c = '\x60' || c = '[' || c = ']'

/-- Identifiers stand in quotes that are known, and not in those of literals. -/
structure Quoting (quotes : Char × Char) : Prop where
  isSchemaQuote_fst : isSchemaQuote quotes.1 = true
  isSchemaQuote_snd : isSchemaQuote quotes.2 = true
  ne_literal : quotes.1 ≠ '\''

/-- No character of a text is a quote in any dialect. -/
def Unquoted (cs : List Char) : Prop := (cs.all fun c => !isSchemaQuote c) = true

instance (cs : List Char) : Decidable (Unquoted cs) := inferInstanceAs (Decidable (_ = true))

theorem quoting_schemaQuotes (d : Dialect) : Quoting d.schemaQuotes := by
  cases d <;> exact ⟨by decide, by decide, by decide⟩

theorem unquoted_cons {c : Char} {cs : List Char} :
    Unquoted (c :: cs) ↔ isSchemaQuote c = false ∧ Unquoted cs := by
  simp [Unquoted]

section Quoting

variable (hquotes : Quoting quotes)
include hquotes

theorem Quoting.ne_of_isSchemaQuote {c : Char} (hc : isSchemaQuote c = false) :
    c ≠ quotes.1 ∧ c ≠ quotes.2 ∧ c ≠ '\'' := by
  refine ⟨?_, ?_, ?_⟩
  · rintro rfl
    rw [hquotes.isSchemaQuote_fst] at hc
    cases hc
  · rintro rfl
    rw [hquotes.isSchemaQuote_snd] at hc
    cases hc
  · rintro rfl
    exact absurd hc (by decide)

theorem Quoting.free_cons {c : Char} (hc : isSchemaQuote c = false) (cs : List Char) : Free quotes (c :: cs) := by
  obtain ⟨-, hclosing, hliteral⟩ := hquotes.ne_of_isSchemaQuote hc
  exact ⟨by simpa using hclosing, by simpa using hliteral⟩

theorem Quoting.tokens?_cons {c : Char} (hc : isSchemaQuote c = false) (cs : List Char) :
    tokens? quotes (c :: cs) = (tokens? quotes cs).map (.plain c :: ·) := by
  obtain ⟨hopening, -, hliteral⟩ := hquotes.ne_of_isSchemaQuote hc
  rw [tokens?, if_neg hopening, if_neg hliteral]

omit hquotes in
theorem reads_identifier (name : List Char) :
    Reads quotes (enclose quotes.1 quotes.2 name) [.identifier name] := by
  intro rest hrest
  have hread := readEnclosed_double name hrest.1
  rw [enclose, List.cons_append, List.append_assoc, List.singleton_append, tokens?, if_pos rfl]
  split
  · next found h =>
    rw [hread] at h
    cases h
    rfl
  · next h =>
    rw [hread] at h
    cases h

theorem Quoting.reads_literal (text : List Char) : Reads quotes (enclose '\'' '\'' text) [.literal text] := by
  intro rest hrest
  have hread := readEnclosed_double text hrest.2
  rw [enclose, List.cons_append, List.append_assoc, List.singleton_append, tokens?, if_neg hquotes.ne_literal.symm,
    if_pos rfl]
  split
  · next found h =>
    rw [hread] at h
    cases h
    rfl
  · next h =>
    rw [hread] at h
    cases h

/-- Text without quotes is read whatever follows it. -/
theorem Quoting.tokens?_append {cs : List Char} (hcs : Unquoted cs) (rest : List Char) :
    tokens? quotes (cs ++ rest) = (tokens? quotes rest).map (plains cs ++ ·) := by
  induction cs with
  | nil => simp [plains]
  | cons c cs ih =>
    obtain ⟨hc, hcs⟩ := unquoted_cons.1 hcs
    rw [List.cons_append, hquotes.tokens?_cons hc, ih hcs, Option.map_map]
    rfl

theorem Quoting.reads_plain {cs : List Char} (hcs : Unquoted cs) : Reads quotes cs (plains cs) :=
  fun rest _ => hquotes.tokens?_append hcs rest

/-- Text without quotes in front of another. -/
theorem Quoting.reads_plain_append {cs ds : List Char} {ts : List Token} (hcs : Unquoted cs) (hds : Reads quotes ds ts) :
    Reads quotes (cs ++ ds) (plains cs ++ ts) := by
  intro rest hrest
  rw [List.append_assoc, hquotes.tokens?_append hcs, hds rest hrest, Option.map_map]
  simp [Function.comp_def]

/-- Text without quotes between two others. -/
theorem Quoting.reads_between {cs between ds : List Char} {ts us : List Token} (hcs : Reads quotes cs ts)
    (hbetween : Unquoted between) (hne : between ≠ []) (hds : Reads quotes ds us) :
    Reads quotes (cs ++ (between ++ ds)) (ts ++ (plains between ++ us)) := by
  intro rest hrest
  have hfree : Free quotes (between ++ ds ++ rest) := by
    cases between with
    | nil => exact absurd rfl hne
    | cons c between => exact hquotes.free_cons (unquoted_cons.1 hbetween).1 _
  rw [List.append_assoc, hcs _ hfree, hquotes.reads_plain_append hbetween hds rest hrest, Option.map_map]
  simp [Function.comp_def]

/-- Text without quotes behind another. -/
theorem Quoting.reads_append_plain {cs ds : List Char} {ts : List Token} (hcs : Reads quotes cs ts)
    (hds : Unquoted ds) : Reads quotes (cs ++ ds) (ts ++ plains ds) := by
  cases ds with
  | nil => simpa [plains] using hcs
  | cons d ds => simpa [plains] using hquotes.reads_between hcs hds (by simp) (hquotes.reads_plain (show Unquoted [] from rfl))

/-- Texts that are read to known tokens, with text without quotes between them. -/
theorem Quoting.reads_intercalate {α : Type} {text : α → List Char} {tokens : α → List Token} {xs : List α}
    {between : List Char} (hbetween : Unquoted between) (hne : between ≠ [])
    (h : ∀ x ∈ xs, Reads quotes (text x) (tokens x)) :
    Reads quotes (between.intercalate (xs.map text)) ((plains between).intercalate (xs.map tokens)) := by
  induction xs with
  | nil => exact hquotes.reads_plain rfl
  | cons x xs ih =>
    obtain ⟨hx, hxs⟩ := List.forall_mem_cons.1 h
    cases xs with
    | nil => simpa using hx
    | cons y ys =>
      rw [List.map_cons, List.map_cons, List.map_cons, List.map_cons, List.intercalate_cons_cons,
        List.intercalate_cons_cons, List.append_assoc, List.append_assoc]
      exact hquotes.reads_between hx hbetween hne (ih hxs)

end Quoting

theorem Reads.tokens?_eq {cs : List Char} {ts : List Token} (h : Reads quotes cs ts) : tokens? quotes cs = some ts := by
  have hcs := h [] ⟨by simp, by simp⟩
  rw [List.append_nil] at hcs
  rw [hcs, tokens?]
  simp

/-! ## Parentheses -/

/-- How many parentheses are open after a token, if so many are before; nothing if the token is a comma or ends a
parenthesis outside all of them. -/
def Token.nest (n : Nat) : Token → Option Nat
  | .plain c =>
    if c = '(' then some (n + 1)
    else if c = ')' then (if n = 0 then none else some (n - 1))
    else if c = ',' ∧ n = 0 then none
    else some n
  | _ => some n

/-- The same after several tokens. -/
def nesting (n : Nat) (ts : List Token) : Option Nat := ts.foldlM Token.nest n

/-- Commas stand inside parentheses, and these are closed. -/
def Balanced (ts : List Token) : Prop := nesting 0 ts = some 0

instance (ts : List Token) : Decidable (Balanced ts) := inferInstanceAs (Decidable (_ = _))

/-- A token put in front of the first part. -/
def putFirst (t : Token) : List (List Token) → List (List Token)
  | [] => [[t]]
  | part :: parts => (t :: part) :: parts

/-- The parts of a list between its commas, up to the parenthesis that ends it, and what follows that. -/
def parts? (n : Nat) : List Token → Option (List (List Token) × List Token)
  | [] => none
  | t :: ts =>
    match t.nest n with
    | some m => (parts? m ts).map fun r => (putFirst t r.1, r.2)
    | none => if t = .plain ')' then some ([[]], ts) else (parts? n ts).map fun r => ([] :: r.1, r.2)

theorem Token.nest_add {n m : Nat} {t : Token} (h : t.nest n = some m) (k : Nat) : t.nest (n + k) = some (m + k) := by
  cases t with
  | identifier name => cases h; rfl
  | literal text => cases h; rfl
  | plain c =>
    simp only [Token.nest] at h ⊢
    by_cases hopening : c = '('
    · rw [if_pos hopening] at h ⊢
      cases h
      congr 1
      omega
    rw [if_neg hopening] at h ⊢
    by_cases hclosing : c = ')'
    · rw [if_pos hclosing] at h ⊢
      by_cases hn : n = 0
      · rw [if_pos hn] at h
        cases h
      · rw [if_neg hn] at h
        cases h
        rw [if_neg (by omega)]
        congr 1
        omega
    rw [if_neg hclosing] at h ⊢
    by_cases hcomma : c = ',' ∧ n = 0
    · rw [if_pos hcomma] at h
      cases h
    · rw [if_neg hcomma] at h
      cases h
      rw [if_neg fun hadd => hcomma ⟨hadd.1, by omega⟩]

@[simp] theorem nesting_nil (n : Nat) : nesting n [] = some n := rfl

theorem nesting_cons (n : Nat) (t : Token) (ts : List Token) :
    nesting n (t :: ts) = (t.nest n).bind fun m => nesting m ts := by
  rw [nesting, List.foldlM_cons]
  rfl

theorem nesting_append (n : Nat) (ts us : List Token) :
    nesting n (ts ++ us) = (nesting n ts).bind fun m => nesting m us := by
  rw [nesting, List.foldlM_append]
  rfl

/-- Inside more parentheses as many stay open. -/
theorem nesting_add {n m : Nat} {ts : List Token} (h : nesting n ts = some m) (k : Nat) :
    nesting (n + k) ts = some (m + k) := by
  induction ts generalizing n with
  | nil =>
    cases h
    rfl
  | cons t ts ih =>
    rw [nesting_cons] at h ⊢
    obtain ⟨p, hp, hts⟩ := Option.bind_eq_some_iff.1 h
    rw [Token.nest_add hp k]
    exact ih hts

theorem Balanced.nesting_eq {ts : List Token} (h : Balanced ts) (n : Nat) : nesting n ts = some n := by
  have hadd := nesting_add h n
  rwa [Nat.zero_add] at hadd

theorem Balanced.append {ts us : List Token} (hts : Balanced ts) (hus : Balanced us) : Balanced (ts ++ us) := by
  unfold Balanced at *
  rw [nesting_append, hts]
  exact hus

/-- Balanced lists with anything between them that is balanced inside parentheses. -/
theorem nesting_intercalate {between : List Token} (hbetween : nesting 1 between = some 1) {tss : List (List Token)}
    (h : ∀ ts ∈ tss, Balanced ts) : nesting 1 (between.intercalate tss) = some 1 := by
  induction tss with
  | nil => rfl
  | cons ts tss ih =>
    obtain ⟨hts, htss⟩ := List.forall_mem_cons.1 h
    cases tss with
    | nil => simpa using hts.nesting_eq 1
    | cons us tss =>
      rw [List.intercalate_cons_cons, nesting_append, nesting_append, hts.nesting_eq 1]
      simp only [Option.bind_some, hbetween]
      exact ih htss

/-! ### The parts of a list -/

/-- Several tokens put in front of the first part. -/
def putAll (ts : List Token) (parts : List (List Token)) : List (List Token) := ts.foldr putFirst parts

theorem putAll_cons (ts part : List Token) (parts : List (List Token)) :
    putAll ts (part :: parts) = (ts ++ part) :: parts := by
  induction ts with
  | nil => rfl
  | cons t ts ih =>
    rw [putAll, List.foldr_cons, ← putAll, ih]
    rfl

theorem parts?_append {n m : Nat} {ts : List Token} (h : nesting n ts = some m) (rest : List Token) :
    parts? n (ts ++ rest) = (parts? m rest).map fun r => (putAll ts r.1, r.2) := by
  induction ts generalizing n with
  | nil =>
    cases h
    simp [putAll]
  | cons t ts ih =>
    rw [nesting_cons] at h
    obtain ⟨p, hp, hts⟩ := Option.bind_eq_some_iff.1 h
    rw [List.cons_append, parts?, hp]
    simp only
    rw [ih hts, Option.map_map]
    rfl

/-- Where a balanced part ends in a parenthesis, the list ends. -/
theorem parts?_last {ts : List Token} (h : Balanced ts) (rest : List Token) :
    parts? 0 (ts ++ .plain ')' :: rest) = some ([ts], rest) := by
  have hend : parts? 0 (.plain ')' :: rest) = some ([[]], rest) := rfl
  rw [parts?_append h, hend, Option.map_some, putAll_cons, List.append_nil]

/-- Where it ends in a comma, the next part follows. -/
theorem parts?_next {ts : List Token} (h : Balanced ts) (rest : List Token) :
    parts? 0 (ts ++ .plain ',' :: rest) = (parts? 0 rest).map fun r => (ts :: r.1, r.2) := by
  have hnext : parts? 0 (.plain ',' :: rest) = (parts? 0 rest).map fun r => ([] :: r.1, r.2) := rfl
  rw [parts?_append h, hnext, Option.map_map]
  simp only [Function.comp_def, putAll_cons, List.append_nil]

/-- **A list falls into its parts** at the commas between them, each but the first with the blank before it. -/
theorem parts?_intercalate {ts : List Token} {tss : List (List Token)} (hts : Balanced ts)
    (htss : ∀ us ∈ tss, Balanced us) (rest : List Token) :
    parts? 0 ((plains [',', ' ']).intercalate (ts :: tss) ++ .plain ')' :: rest) =
      some (ts :: tss.map (.plain ' ' :: ·), rest) := by
  have hblank {us : List Token} (hus : Balanced us) : Balanced (.plain ' ' :: us) := by
    have hspace : Balanced [.plain ' '] := rfl
    exact hspace.append hus
  induction tss generalizing ts with
  | nil =>
    rw [List.intercalate_singleton, parts?_last hts]
    rfl
  | cons us tss ih =>
    obtain ⟨hus, htss⟩ := List.forall_mem_cons.1 htss
    have hrest := ih (hblank hus) htss
    have hcomma : (plains [',', ' ']).intercalate (ts :: us :: tss) =
        ts ++ .plain ',' :: (plains [',', ' ']).intercalate ((.plain ' ' :: us) :: tss) := by
      cases tss with
      | nil => simp [plains, List.intercalate_cons_cons]
      | cons vs tss => simp [plains, List.intercalate_cons_cons]
    rw [hcomma, List.append_assoc, List.cons_append, parts?_next hts, hrest]
    rfl

end SqlToolkit.Schema
