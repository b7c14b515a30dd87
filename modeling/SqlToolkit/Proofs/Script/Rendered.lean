import Mathlib.Data.List.Infix
import SqlToolkit.Proofs.Script.Expansion

/-!
# Scripts for a target

A target replaces a name by a quoted one.  In code that is one quoted text of its own.  In a
comment or in other quotes the name is written among the rest, so the text put before table
names must not end the line or the quotes (`Tame`).

`Undisturbed` says of a script where its tokens begin.  Then what is sent of a statement
holds its string literals (`literals_renderRaw`).  Splitting loses none of them
(`literals_statements`), since a literal is never cut and what is dropped or trimmed holds
none.
-/
namespace SqlToolkit.Script
open Text RawSql

/-! ## Replacements -/

/-- A text that changes nothing for what is written around it: no quotes, no line ends, no
comments. -/
structure Tame (cs : List Char) : Prop where
  isQuote_eq : ∀ c ∈ cs, isQuote c = false
  ne_newline : ∀ c ∈ cs, c ≠ '\n'
  no_comment : ¬['-', '-'] <:+: cs

theorem tame_iff {cs : List Char} :
    Tame cs ↔ (cs.all fun c => !isQuote c && c != '\n') = true ∧ ¬['-', '-'] <:+: cs := by
  simp only [List.all_eq_true, Bool.and_eq_true, Bool.not_eq_true', bne_iff_ne]
  exact ⟨fun h => ⟨fun c hc => ⟨h.isQuote_eq c hc, h.ne_newline c hc⟩, h.no_comment⟩,
    fun h => ⟨fun c hc => (h.1 c hc).1, fun c hc => (h.1 c hc).2, h.2⟩⟩

instance (cs : List Char) : Decidable (Tame cs) := decidable_of_iff' _ tame_iff

theorem tame_nil : Tame [] := by decide

/-- The quotes of names are quotes for a script, but not those of literals. -/
theorem isQuote_quotes (d : Dialect) : isQuote d.quotes.1 = true ∧ d.quotes.1 ≠ '\'' := by
  cases d <;> decide

/-- A tame text in code is code. -/
theorem Tame.marks_code {cs : List Char} (h : Tame cs) {rest : List Char} (hrest : rest.head? ≠ some '-') :
    marks .code (cs ++ rest) = cs.map (·, .code) ++ marks .code rest := by
  obtain ⟨hquotes, -, hcomment⟩ := h
  induction cs with
  | nil => rfl
  | cons c cs ih =>
    obtain ⟨hc, hcs⟩ := List.forall_mem_cons.1 hquotes
    have hstart : startsComment (c :: (cs ++ rest)) = false := by
      refine Bool.eq_false_iff.2 fun hstart => ?_
      obtain ⟨rfl, hhead⟩ := startsComment_cons_iff.1 hstart
      rw [head?_append_iff hrest] at hhead
      cases cs with
      | nil => cases hhead
      | cons d ds =>
        cases hhead
        exact hcomment ⟨[], ds, rfl⟩
    rw [List.cons_append, marks_cons, Mode.mark_code, Mode.next_code_of_plain hc hstart,
      ih hcs fun hdouble => hcomment (hdouble.trans (List.suffix_cons c cs).isInfix)]
    rfl

/-- A tame text with a name behind it is tame. -/
theorem Tame.append_name {cs : List Char} (h : Tame cs) {name : List Char} (hname : ∀ c ∈ name, isTokenChar c = true) :
    Tame (cs ++ name) := by
  have hinert {c : Char} (hc : c ∈ name) := isInert_iff.1 (isInert_of_isTokenChar (hname c hc))
  refine ⟨List.forall_mem_append.2 ⟨h.isQuote_eq, fun c hc => (hinert hc).1⟩,
    List.forall_mem_append.2 ⟨h.ne_newline, fun c hc => (hinert hc).2.2⟩, fun hdouble => ?_⟩
  -- there is no hyphen in the name, so both would be in the text
  rcases List.infix_append_iff.1 hdouble with hin | hin | ⟨front, back, hhyphens, hback, hfront⟩
  · exact h.no_comment hin
  · exact (hinert (hin.subset List.mem_cons_self)).2.1 rfl
  · cases back with
    | nil =>
      rw [List.append_nil] at hhyphens
      exact h.no_comment (hhyphens ▸ hback.isInfix)
    | cons c back =>
      have hc : c ∈ ['-', '-'] := hhyphens ▸ List.mem_append_right front List.mem_cons_self
      have hne := (hinert (hfront.subset List.mem_cons_self)).2.1
      simp only [List.mem_cons, List.not_mem_nil, or_false, or_self] at hc
      exact hne hc

/-! ### Where a quoted text is passed over -/

theorem passes_enclose {quote : Char} (hquote : isQuote quote = true) (hliteral : quote ≠ '\'') (content : List Char) :
    Passes .code (enclose quote quote content) := by
  refine ⟨?_, fun rest => ⟨(enclose quote quote content).map (·, .quoted quote), ⟨?_, fun p hp => ?_⟩,
    marks_enclose hquote content rest⟩⟩
  · rintro hhead
    cases hhead
    exact absurd hquote (by decide)
  · simp [enclose]
  · obtain ⟨c, -, rfl⟩ := List.mem_map.1 hp
    simpa [inLiteral] using hliteral

/-- In the same quotes it leaves them and enters them again. -/
theorem passes_reopened {quote : Char} (hquote : isQuote quote = true) (hliteral : quote ≠ '\'') {content : List Char}
    (h : Tame content) : Passes (.quoted quote) (quote :: (content ++ [quote])) := by
  have hhyphen : quote ≠ '-' := by
    rintro rfl
    exact absurd hquote (by decide)
  refine ⟨by simpa using hhyphen,
    fun rest => ⟨(quote, .quoted quote) :: (content.map (·, .code) ++ [(quote, .quoted quote)]), ⟨by simp, ?_⟩, ?_⟩⟩
  · intro p hp
    simp only [List.mem_cons, List.mem_append, List.mem_map, List.not_mem_nil, or_false] at hp
    rcases hp with rfl | ⟨c, -, rfl⟩ | rfl
    · simpa [inLiteral] using hliteral
    · rfl
    · simpa [inLiteral] using hliteral
  · rw [List.cons_append, marks_cons, Mode.next_quoted_self, Mode.mark_quoted, List.append_assoc,
      List.singleton_append, h.marks_code (by simpa using hhyphen), marks_cons, Mode.mark_code,
      Mode.next_code_of_isQuote hquote]
    simp

/-- With a tame text in it, it is passed over everywhere but in literals. -/
theorem passes_enclose_of_tame {quote : Char} (hquote : isQuote quote = true) (hliteral : quote ≠ '\'')
    {content : List Char} (h : Tame content) {mode : Mode} (hmode : mode.Known) (hmodeLiteral : mode ≠ .quoted '\'') :
    Passes mode (enclose quote quote content) := by
  have hfree (other : Char) (hother : isQuote other = true) : other ∉ content := fun hmem => by
    rw [h.isQuote_eq other hmem] at hother
    cases hother
  have hhyphen : quote ≠ '-' := by
    rintro rfl
    exact absurd hquote (by decide)
  cases mode with
  | code => exact passes_enclose hquote hliteral content
  | comment =>
    rw [enclose, double_of_not_mem (hfree quote hquote)]
    refine passes_of_next hmodeLiteral (by simp) (by simpa using hhyphen) fun c hc rest => ?_
    refine Mode.next_comment_of_ne ?_ rest
    simp only [List.mem_cons, List.mem_append, List.not_mem_nil, or_false] at hc
    rcases hc with rfl | hc | rfl
    · rintro rfl
      exact absurd hquote (by decide)
    · exact h.ne_newline c hc
    · rintro rfl
      exact absurd hquote (by decide)
  | quoted other =>
    rw [enclose, double_of_not_mem (hfree quote hquote)]
    by_cases hsame : other = quote
    · subst hsame
      exact passes_reopened hquote hliteral h
    · refine passes_of_next hmodeLiteral (by simp) (by simpa using hhyphen) fun c hc rest => ?_
      refine Mode.next_quoted_of_ne ?_ rest
      simp only [List.mem_cons, List.mem_append, List.not_mem_nil, or_false] at hc
      rcases hc with rfl | hc | rfl
      · exact Ne.symm hsame
      · rintro rfl
        exact hfree c (hmode c rfl) hc
      · exact Ne.symm hsame

/-! ### The names of a target -/

variable {t : Target}

/-- The names of a script as a target writes them. -/
def nameIn (t : Target) (name : String) (isTable : Bool) : String :=
  if isTable then t.quoteTable name else t.dialect.quote name

/-- What stands before a name. -/
def frontIn (t : Target) (isTable : Bool) : List Char := if isTable then t.tablePrefix.toList else []

theorem toList_nameIn (t : Target) (name : String) (isTable : Bool) :
    (nameIn t name isTable).toList =
      enclose t.dialect.quotes.1 t.dialect.quotes.1 (frontIn t isTable ++ name.toList) := by
  unfold nameIn frontIn Target.quoteTable Dialect.quote wrap
  rw [Dialect.quotes_snd]
  cases isTable <;> simp

theorem toList_renderRaw (t : Target) (sql : String) :
    (t.renderRaw ⟨sql⟩).toList = expanded (nameIn t) none sql.toList :=
  toList_expand _ sql

theorem harmless_code (t : Target) : Harmless (nameIn t) .code := by
  refine ⟨by rintro ⟨⟩, fun name isTable _ => ?_⟩
  obtain ⟨hquote, hliteral⟩ := isQuote_quotes t.dialect
  rw [toList_nameIn]
  exact passes_enclose hquote hliteral _

theorem harmless_of_tame (h : Tame t.tablePrefix.toList) {mode : Mode} (hmode : mode.Known)
    (hliteral : mode ≠ .quoted '\'') : Harmless (nameIn t) mode := by
  refine ⟨hliteral, fun name isTable hname => ?_⟩
  obtain ⟨hquote, hquoteLiteral⟩ := isQuote_quotes t.dialect
  have hfront : Tame (frontIn t isTable) := by
    cases isTable with
    | true => exact h
    | false => exact tame_nil
  rw [toList_nameIn, String.toList_ofList]
  exact passes_enclose_of_tame hquote hquoteLiteral (hfront.append_name hname) hmode hliteral

/-! ## Literals and splitting -/

theorem not_inLiteral_of_isDull {mode : Mode} (hmode : ∀ quote, mode ≠ .quoted quote) {cs : List Char}
    (h : (marks mode cs).all isDull = true) : ∀ p ∈ marks mode cs, inLiteral p = false := by
  induction cs generalizing mode with
  | nil => simp
  | cons c cs ih =>
    rw [marks_cons, List.all_cons, Bool.and_eq_true] at h
    have hnext : ∀ quote, mode.next c cs ≠ .quoted quote ∧ mode.mark c cs ≠ .quoted quote := by
      intro quote
      cases mode with
      | quoted other => exact absurd rfl (hmode other)
      | comment => exact ⟨Mode.next_comment_ne_quoted c cs quote, Mode.next_comment_ne_quoted c cs quote⟩
      | code =>
        have hcode : Mode.code.next c cs ≠ .quoted quote := by
          intro hquoted
          rw [isDull, Mode.mark_code, hquoted, Bool.or_eq_true] at h
          rcases h.1 with hblank | hcomment
          · rw [Mode.next_code_of_blank hblank] at hquoted
            cases hquoted
          · simp at hcomment
        exact ⟨hcode, hcode⟩
    rw [marks_cons]
    refine List.forall_mem_cons.2 ⟨?_, ih (fun quote => (hnext quote).1) h.2⟩
    simpa [inLiteral] using (hnext '\'').2

theorem literalTexts_of_isDull {cs : List Char} (h : (marks .code cs).all isDull = true) : literalTexts cs = [] := by
  have hout := not_inLiteral_of_isDull (by rintro quote ⟨⟩) h
  have hruns : allRuns (marks .code cs) = [] := by
    rw [← List.append_nil (marks .code cs), allRuns_append_of_not_inLiteral hout, allRuns_nil]
  rw [literalTexts, hruns, List.filterMap_nil]

/-- Trimming takes off no literal. -/
theorem literalTexts_trimBlanks {cs : List Char} (h : Sealed cs) : literalTexts (trimBlanks cs) = literalTexts cs := by
  obtain ⟨front, back, hfront, hback, hmarks⟩ := marks_trimBlanks cs
  have hfrontOut : ∀ p ∈ front.map (·, Mode.code), inLiteral p = false := by
    intro p hp
    obtain ⟨c, -, rfl⟩ := List.mem_map.1 hp
    rfl
  have hbackDull : (marks (after .code (trimBlanks cs)) back).all isDull = true :=
    all_isDull_of_blank (by simpa using hback)
  have hbackOut := not_inLiteral_of_isDull h.trimBlanks hbackDull
  have hruns : allRuns (marks .code cs) = allRuns (marks .code (trimBlanks cs)) := by
    rw [hmarks, allRuns_append_of_not_inLiteral hfrontOut]
    cases hrest : marks (after .code (trimBlanks cs)) back with
    | nil => rw [List.append_nil]
    | cons p ps =>
      rw [hrest] at hbackOut
      obtain ⟨hp, hps⟩ := List.forall_mem_cons.1 hbackOut
      have hnone : allRuns ps = [] := by
        rw [← List.append_nil ps, allRuns_append_of_not_inLiteral hps, allRuns_nil]
      rw [allRuns_append _ hp, hnone, List.append_nil]
  rw [literalTexts, literalTexts, hruns]

theorem literalTexts_semicolon {a : List Char} (hcode : after .code a = .code) (b : List Char) :
    literalTexts (a ++ ';' :: b) = literalTexts a ++ literalTexts b := by
  rw [literalTexts, marks_semicolon a b hcode, allRuns_append _ rfl, List.filterMap_append]
  rfl

/-- **Splitting keeps all literals**, in order. -/
theorem flatMap_literalTexts {cs : List Char} (h : Sealed cs) : (texts cs).flatMap literalTexts = literalTexts cs := by
  have hwhole : ∀ a, Whole .code a → Sealed a → (texts a).flatMap literalTexts = literalTexts a := by
    intro a ha hsealed
    rw [texts_of_whole ha, ← literalTexts_trimBlanks hsealed]
    cases hvoid : isVoid (trimBlanks a) with
    | false => simp
    | true =>
      rw [isVoid_eq_all_marks] at hvoid
      rw [literalTexts_of_isDull hvoid]
      rfl
  induction cs using semicolonInduction with
  | whole cs hcs => exact hwhole cs hcs h
  | semicolon a b ha hcode ih =>
    have hb : Sealed b := by
      intro quote hopen
      refine h quote ?_
      rw [after_append _ _ (by simp), hcode]
      exact hopen
    rw [texts_append ha hcode, List.flatMap_append, hwhole a ha (sealed_of_code hcode), ih hb,
      literalTexts_semicolon hcode]

/-! ## Scripts whose literals are kept -/

/-- Expansion does not reach into the literals of a script. -/
structure Undisturbed (t : Target) (script : String) : Prop where
  /-- Every quote is closed. -/
  isClosed : Script.isClosed script = true
  /-- No token begins in a literal. -/
  literals : .quoted '\'' ∉ tokenPlaces (marked script.toList)
  /-- Where one begins in other quotes or in a comment, a table's name does not end these. -/
  others : Tame t.tablePrefix.toList ∨ ∀ place ∈ tokenPlaces (marked script.toList), place = .code

theorem undisturbed_iff {t : Target} {script : String} :
    Undisturbed t script ↔ Script.isClosed script = true ∧ .quoted '\'' ∉ tokenPlaces (marked script.toList) ∧
      (Tame t.tablePrefix.toList ∨ ∀ place ∈ tokenPlaces (marked script.toList), place = .code) :=
  ⟨fun h => ⟨h.isClosed, h.literals, h.others⟩, fun h => ⟨h.1, h.2.1, h.2.2⟩⟩

instance (t : Target) (script : String) : Decidable (Undisturbed t script) :=
  have : Decidable (∀ place ∈ tokenPlaces (marked script.toList), place = .code) := List.decidableBAll _ _
  decidable_of_iff' _ undisturbed_iff

theorem mem_of_mem_tokenPlaces {place : Mode} {ps : List (Char × Mode)} (h : place ∈ tokenPlaces ps) :
    ∃ c, (c, place) ∈ ps := by
  induction ps with
  | nil => cases h
  | cons p ps ih =>
    have hrest (hplace : place ∈ tokenPlaces ps) : ∃ c, (c, place) ∈ p :: ps := by
      obtain ⟨c, hc⟩ := ih hplace
      exact ⟨c, List.mem_cons_of_mem p hc⟩
    rw [tokenPlaces] at h
    split at h
    · rcases List.mem_cons.1 h with rfl | h
      · exact ⟨p.1, List.mem_cons_self⟩
      · exact hrest h
    · exact hrest h

theorem Mode.Known.of_mem_marks {mode : Mode} (h : mode.Known) {cs : List Char} {p : Char × Mode}
    (hp : p ∈ marks mode cs) : p.2.Known := by
  induction cs generalizing mode with
  | nil => cases hp
  | cons c cs ih =>
    rw [marks_cons] at hp
    rcases List.mem_cons.1 hp with rfl | hp
    · cases mode with
      | quoted quote => exact h
      | code => exact h.next c cs
      | comment => exact h.next c cs
    · exact ih (h.next c cs) hp

theorem Undisturbed.harmless {script : String} (h : Undisturbed t script) {place : Mode}
    (hplace : place ∈ tokenPlaces (marks .code script.toList)) : Harmless (nameIn t) place := by
  obtain ⟨-, hliterals, hothers⟩ := h
  rw [marked_eq_marks] at hliterals hothers
  rcases hothers with htame | hcode
  · obtain ⟨c, hc⟩ := mem_of_mem_tokenPlaces hplace
    refine harmless_of_tame htame (Mode.known_code.of_mem_marks hc) ?_
    rintro rfl
    exact hliterals hplace
  · rw [hcode place hplace]
    exact harmless_code t

/-- The tokens of a statement are tokens of the script. -/
theorem tokenPlaces_subset {cs text : List Char} (htext : text ∈ texts cs) :
    ∀ place ∈ tokenPlaces (marks .code text), place ∈ tokenPlaces (marks .code cs) := by
  have hwhole : ∀ a, Whole .code a → text ∈ texts a →
      ∀ place ∈ tokenPlaces (marks .code text), place ∈ tokenPlaces (marks .code a) := by
    intro a ha hmem place hplace
    rw [texts_of_whole ha] at hmem
    split at hmem
    · cases hmem
    · rw [List.mem_singleton] at hmem
      subst hmem
      obtain ⟨front, back, -, -, hmarks⟩ := marks_trimBlanks a
      rw [hmarks]
      exact mem_tokenPlaces_append_right _ (mem_tokenPlaces_append_left hplace _)
  induction cs using semicolonInduction with
  | whole cs hcs => exact hwhole cs hcs htext
  | semicolon a b ha hcode ih =>
    intro place hplace
    rw [texts_append ha hcode] at htext
    rw [marks_semicolon a b hcode]
    rcases List.mem_append.1 htext with htext | htext
    · exact mem_tokenPlaces_append_left (hwhole a ha htext place hplace) _
    · exact mem_tokenPlaces_append_right _ (mem_tokenPlaces_cons _ (ih htext place hplace))

theorem literalTexts_expanded {script : String} (h : Undisturbed t script) {text : List Char}
    (htext : text ∈ texts script.toList) : literalTexts (expanded (nameIn t) none text) = literalTexts text := by
  have hopens : ∀ name isTable, ∃ c cs, (nameIn t name isTable).toList = c :: cs ∧ c ≠ '-' := by
    intro name isTable
    refine ⟨t.dialect.quotes.1, _, toList_nameIn t name isTable, ?_⟩
    intro hhyphen
    have hquote := (isQuote_quotes t.dialect).1
    rw [hhyphen] at hquote
    cases hquote
  have hrewritten := rewritten_pieces hopens none text Mode.known_code fun place hplace =>
    h.harmless (tokenPlaces_subset htext place hplace)
  unfold literalTexts allRuns
  rw [hrewritten.runs_eq]

/-- What is sent of a statement holds its literals. -/
theorem literals_renderRaw {script : String} (h : Undisturbed t script) {sql : String}
    (hsql : sql ∈ statements script) : literals (t.renderRaw ⟨sql⟩) = literals sql := by
  rw [statements_eq] at hsql
  obtain ⟨text, htext, rfl⟩ := List.mem_map.1 hsql
  rw [literals_eq, toList_renderRaw, String.toList_ofList, literalTexts_expanded h htext, literals_eq,
    String.toList_ofList]

/-- The statements of a script hold its literals. -/
theorem literals_statements {script : String} (h : isClosed script = true) :
    (statements script).flatMap literals = literals script := by
  rw [literals_eq, ← flatMap_literalTexts fun quote => after_of_isClosed h quote, statements_eq, List.flatMap_map,
    List.map_flatMap]
  simp only [literals_eq, String.toList_ofList]

end SqlToolkit.Script
