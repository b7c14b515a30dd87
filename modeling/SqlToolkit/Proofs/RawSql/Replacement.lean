import SqlToolkit.Proofs.RawSql.Token

/-!
# What expansion replaces

Expansion reads a text in pieces, and a keyword is read together with the table behind it.  What is written in the end
does not depend on these pieces: every token is replaced where it stands, as a table's if the text before it introduces
one, and every character outside the tokens stays where it is (`Written`).

The invariant that carries the reading is that no token with its introduction reaches over the end of a piece (`Seam`).
So whether a token is a table's is known from the text alone, whatever was read before (`expands_expanded`).
-/
namespace SqlToolkit.RawSql
open Text Script

/-! ## Pieces -/

/-- What the first piece of a text can be, and what follows it. -/
inductive FirstPiece (previous : Option Char) : List Char → Piece × List Char → Prop
  | introduced {intro rest : List Char} (token : Token) : previous.any isWordChar = false → IsTableIntro intro →
      FirstPiece previous (intro ++ (token.source ++ rest)) (tokenPiece intro token.first token.second, rest)
  | token {rest : List Char} (token : Token) :
      FirstPiece previous (token.source ++ rest) (tokenPiece [] token.first token.second, rest)
  | plain {c : Char} {cs : List Char} : (∀ (token : Token) rest, c :: cs ≠ token.source ++ rest) →
      (previous.any isWordChar = false → ∀ intro (token : Token) rest, IsTableIntro intro →
        c :: cs ≠ intro ++ (token.source ++ rest)) →
      FirstPiece previous (c :: cs) (.plain c, cs)

theorem stops_source (token : Token) (rest : List Char) : Stops isBlank (token.source ++ rest) := by
  rw [token.source_eq]
  rintro c ⟨⟩
  decide

/-- A token is plain only where neither it nor its introduction begins. -/
theorem firstPiece_readPiece (previous : Option Char) (c : Char) (cs : List Char) :
    FirstPiece previous (c :: cs) (readPiece previous c cs) := by
  unfold readPiece
  dsimp only
  split
  · next found h =>
    split at h
    · cases h
    · next hprevious =>
      split at h
      · next intro rest hread =>
        split at h
        · next first second after htoken =>
          cases h
          obtain ⟨token, rfl, rfl, rfl⟩ := readToken_eq_some_iff_source.1 htoken
          obtain ⟨hcs, hintro⟩ := (readTableIntro_eq_some_iff (stops_source token after)).1 hread
          rw [hcs]
          exact .introduced token (by simpa using hprevious) hintro
        · cases h
      · cases h
  · next hnone =>
    split
    · next first second after htoken =>
      obtain ⟨token, rfl, rfl, hcs⟩ := readToken_eq_some_iff_source.1 htoken
      rw [hcs]
      exact .token token
    · next htoken =>
      refine .plain (fun token rest hcs => ?_) fun hprevious intro token rest hintro hcs => ?_
      · rw [hcs, token.readToken_source] at htoken
        cases htoken
      · have hread := (readTableIntro_eq_some_iff (stops_source token rest)).2 ⟨hcs, hintro⟩
        rw [hprevious, hread] at hnone
        simp [token.readToken_source] at hnone

/-! ## Seams -/

/-- The token stands with an introduction before it, which begins at the place. -/
structure Token.IntroducedAt (token : Token) (text : List Char) (place : Nat) (intro : List Char) : Prop where
  isTableIntro : IsTableIntro intro
  boundary : Boundary (text.take place) intro
  source : intro ++ token.source <+: text.drop place

namespace Token.IntroducedAt
variable {token : Token} {text intro : List Char} {place : Nat}

theorem at_token (h : token.IntroducedAt text place intro) : token.At text (place + intro.length) := by
  obtain ⟨rest, hrest⟩ := h.source
  refine ⟨rest, ?_⟩
  rw [← List.drop_drop, ← hrest, List.append_assoc, List.drop_left]

/-- The characters before the token are those of its introduction. -/
theorem exists_mem (h : token.IntroducedAt text place intro) {i : Nat} (hplace : place ≤ i)
    (hi : i < place + intro.length) : ∃ c ∈ intro, text[i]? = some c := by
  obtain ⟨k, rfl⟩ := Nat.exists_eq_add_of_le hplace
  have hk : k < intro.length := by omega
  obtain ⟨rest, hrest⟩ := h.source
  refine ⟨intro[k], List.getElem_mem hk, ?_⟩
  rw [← List.getElem?_drop, ← hrest, List.append_assoc, List.getElem?_append_left hk, List.getElem?_eq_getElem hk]

theorem length_pos (h : token.IntroducedAt text place intro) : 0 < intro.length := by
  obtain ⟨c, cs, rfl, -⟩ := h.isTableIntro.exists_cons
  exact Nat.succ_pos _

end Token.IntroducedAt

/-- No token with its introduction reaches over the place. -/
def Seam (text : List Char) (seam : Nat) : Prop :=
  ∀ (token : Token) place intro, token.IntroducedAt text place intro →
    seam ≤ place ∨ place + intro.length + token.source.length ≤ seam

theorem seam_zero (text : List Char) : Seam text 0 := fun _ _ _ _ => .inl (Nat.zero_le _)

variable {text : List Char} {seam : Nat}

/-- A character where no introduction begins may be passed. -/
theorem Seam.plain (h : Seam text seam) (hplain : ∀ (token : Token) intro, ¬ token.IntroducedAt text seam intro) :
    Seam text (seam + 1) := by
  intro token place intro htoken
  rcases h token place intro htoken with hbefore | hbehind
  · have hne : seam ≠ place := by
      rintro rfl
      exact hplain token intro htoken
    omega
  · omega

/-- A token may be passed, with characters before it that begin no token. -/
theorem Seam.token (h : Seam text seam) {token : Token} {place : Nat} (htoken : token.At text place)
    (hplace : seam ≤ place) (hfront : ∀ i, seam ≤ i → i < place → text[i]? ≠ some '<') :
    Seam text (place + token.source.length) := by
  intro other start intro hother
  rcases h other start intro hother with hbefore | hbehind
  · rcases Nat.lt_trichotomy place (start + intro.length) with hlater | hsame | hearlier
    · -- the bracket that closes the first token is no part of the introduction of the second
      have hapart := htoken.apart hother.at_token hlater
      by_cases hstart : place + token.source.length ≤ start
      · exact .inl hstart
      · have hlength := token.length_source
        obtain ⟨c, hc, hclose⟩ := hother.exists_mem (i := place + (token.source.length - 1)) (by omega) (by omega)
        rw [htoken.getElem?_last] at hclose
        cases hclose
        exact absurd hc (hother.isTableIntro.not_mem (by decide) (by decide))
    · rw [← hsame, htoken.eq (hsame ▸ hother.at_token)]
      exact .inr (Nat.le_refl _)
    · exact absurd hother.at_token.getElem?_place (hfront _ (by omega) hearlier)
  · have hpos := token.length_source
    omega

/-! ## Expansion from left to right -/

variable {quote : String → Bool → String}

/-- The expansion of a text behind another, one character or token after the other. -/
inductive Expands (quote : String → Bool → String) : List Char → List Char → List Char → Prop
  | nil (before : List Char) : Expands quote before [] []
  | keep {before cs out : List Char} {c : Char} : (∀ (token : Token) rest, c :: cs ≠ token.source ++ rest) →
      Expands quote (before ++ [c]) cs out → Expands quote before (c :: cs) (c :: out)
  | token {before cs out : List Char} (token : Token) {isTable : Bool} : (isTable = true ↔ IntroducesTable before) →
      Expands quote (before ++ token.source) cs out →
      Expands quote before (token.source ++ cs) (tokenText quote isTable token.first token.second ++ out)

/-- Characters that begin no token stay. -/
theorem Expands.keep_append {front before cs out : List Char} (hfront : '<' ∉ front)
    (h : Expands quote (before ++ front) cs out) : Expands quote before (front ++ cs) (front ++ out) := by
  induction front generalizing before with
  | nil => rwa [List.append_nil] at h
  | cons c front ih =>
    rw [List.mem_cons, not_or] at hfront
    refine .keep (fun token rest hcs => ?_) (ih hfront.2 ?_)
    · have hbracket := congrArg List.head? hcs
      rw [token.source_eq] at hbracket
      exact hfront.1 (Option.some.inj hbracket).symm
    · rwa [List.append_assoc]

theorem source_tokenPiece (intro : List Char) (token : Token) :
    (tokenPiece intro token.first token.second).source = intro ++ token.source := by
  obtain ⟨first, second, -, -⟩ := token
  cases second with
  | none => simp [tokenPiece, Piece.source, Token.source, tokenSource]
  | some column => simp [tokenPiece, Piece.source, Token.source, tokenSource]

/-- A token and its introduction, if the text before it says whether it is a table's. -/
theorem Expands.tokenPiece {before intro rest out : List Char} (token : Token) (hintro : '<' ∉ intro)
    (htable : (!intro.isEmpty) = true ↔ IntroducesTable (before ++ intro))
    (h : Expands quote (before ++ (intro ++ token.source)) rest out) :
    Expands quote before (intro ++ (token.source ++ rest))
      (((tokenPiece intro token.first token.second).render quote).toList ++ out) := by
  rw [render_tokenPiece, List.append_assoc]
  refine .keep_append hintro (.token token htable ?_)
  rwa [List.append_assoc]

/-- A token that begins at a seam is introduced by nothing before it. -/
theorem Seam.not_introducesTable {before : List Char} {token : Token} {rest : List Char}
    (h : Seam (before ++ (token.source ++ rest)) before.length) : ¬ IntroducesTable before := by
  rintro ⟨front, intro, rfl, hintro, hboundary⟩
  have hat : token.IntroducedAt (front ++ intro ++ (token.source ++ rest)) front.length intro := by
    refine ⟨hintro, ?_, rest, ?_⟩
    · rwa [List.append_assoc, List.take_left]
    · rw [List.append_assoc front, List.drop_left, List.append_assoc]
  have hpos := hat.length_pos
  have hsource := token.length_source
  rcases h token front.length intro hat with hbefore | hbehind
  · rw [List.length_append] at hbefore
    omega
  · rw [List.length_append] at hbehind
    omega

/-- Behind a token with its introduction there is a seam again. -/
theorem Seam.behind {before intro rest : List Char} {token : Token} (hintro : '<' ∉ intro)
    (h : Seam (before ++ (intro ++ (token.source ++ rest))) before.length) :
    Seam (before ++ (intro ++ token.source) ++ rest) (before ++ (intro ++ token.source)).length := by
  have htoken : token.At (before ++ (intro ++ (token.source ++ rest))) (before.length + intro.length) := by
    refine ⟨rest, ?_⟩
    rw [← List.append_assoc, ← List.length_append, List.drop_left]
  have hnext := h.token htoken (Nat.le_add_right _ _) fun i hi hlt hbracket => by
    obtain ⟨k, rfl⟩ := Nat.exists_eq_add_of_le hi
    rw [List.getElem?_append_right hi, Nat.add_sub_cancel_left, List.getElem?_append_left (by omega)] at hbracket
    exact hintro (List.mem_of_getElem? hbracket)
  simpa [List.append_assoc, Nat.add_assoc] using hnext

theorem getLast?_append_source (before intro : List Char) (token : Token) :
    (before ++ (intro ++ token.source)).getLast? = (RawSql.tokenPiece intro token.first token.second).source.getLast? := by
  rw [source_tokenPiece, token.source_eq, ← List.cons_append, ← List.append_assoc, ← List.append_assoc,
    List.getLast?_concat, ← List.append_assoc, List.getLast?_concat]

/-- A keyword that begins no word inside introduces a table. -/
theorem introducesTable_append {before intro : List Char} (hintro : IsTableIntro intro)
    (hbefore : before.getLast?.any isWordChar = false) : IntroducesTable (before ++ intro) := by
  refine ⟨before, intro, rfl, hintro, ?_⟩
  rwa [← List.append_nil intro, hintro.boundary_iff]

/-- Behind a character where no token with its introduction begins there is a seam again. -/
theorem Seam.behind_plain {before cs : List Char} {c : Char} (h : Seam (before ++ c :: cs) before.length)
    (hplain : before.getLast?.any isWordChar = false → ∀ intro (token : Token) rest, IsTableIntro intro →
      c :: cs ≠ intro ++ (token.source ++ rest)) :
    Seam (before ++ [c] ++ cs) (before ++ [c]).length := by
  rw [List.append_assoc, List.length_append]
  refine h.plain fun token intro hat => ?_
  obtain ⟨rest, hrest⟩ := hat.source
  have hboundary := hat.boundary
  rw [List.take_left, ← List.append_nil intro, hat.isTableIntro.boundary_iff] at hboundary
  rw [List.drop_left, List.append_assoc] at hrest
  exact hplain hboundary intro token rest hat.isTableIntro hrest.symm

/-- **A text is expanded from left to right** behind any text, if no token with its introduction reaches over the place
where it begins. -/
theorem expands_expanded (before cs : List Char) (h : Seam (before ++ cs) before.length) :
    Expands quote before cs (expanded quote before.getLast? cs) := by
  induction hn : cs.length using Nat.strong_induction_on generalizing before cs with
  | _ n ih =>
    subst hn
    cases cs with
    | nil =>
      rw [expanded_nil]
      exact .nil before
    | cons c cs =>
      have hshorter := length_readPiece before.getLast? c cs
      have hpiece := firstPiece_readPiece before.getLast? c cs
      rw [expanded_cons]
      generalize readPiece before.getLast? c cs = step at hshorter hpiece ⊢
      generalize htext : c :: cs = text at h hpiece
      cases hpiece with
      | @introduced intro rest token hprevious hintro =>
        have hbracket := hintro.not_mem (c := '<') (by decide) (by decide)
        have hintroduced := introducesTable_append hintro hprevious
        have hne : intro.isEmpty = false := by
          obtain ⟨d, ds, hcons, -⟩ := hintro.exists_cons
          rw [hcons]
          rfl
        refine .tokenPiece token hbracket (by simp [hintroduced, hne]) ?_
        rw [← getLast?_append_source before]
        exact ih rest.length (Nat.lt_succ_of_le hshorter) _ _ (h.behind hbracket) rfl
      | @token rest token =>
        have htable := h.not_introducesTable
        have hbracket : '<' ∉ ([] : List Char) := List.not_mem_nil
        refine .tokenPiece token hbracket (by simp [htable]) ?_
        rw [← getLast?_append_source before]
        exact ih rest.length (Nat.lt_succ_of_le hshorter) _ _ (h.behind hbracket) rfl
      | plain hnone hintroduced =>
        cases htext
        have hnext := h.behind_plain hintroduced
        have hlast : (before ++ [c]).getLast? = (Piece.plain c).source.getLast? := by
          rw [List.getLast?_concat]
          rfl
        have hrender : ((Piece.plain c).render quote).toList = [c] := by simp [Piece.render]
        rw [hrender, List.singleton_append, ← hlast]
        exact .keep hnone (ih cs.length (Nat.lt_succ_self _) _ _ hnext rfl)

/-! ## Place by place -/

/-- What is written for each character of a text behind another: the replacement of a token for its first character and
nothing for the others, and the character itself outside all tokens. -/
structure Written (quote : String → Bool → String) (before cs : List Char) (written : List (List Char)) : Prop where
  length_eq : written.length = cs.length
  token : ∀ {token : Token} {place : Nat}, token.At cs place →
    ∃ isTable, (isTable = true ↔ IntroducesTable (before ++ cs.take place)) ∧
      written[place]? = some (tokenText quote isTable token.first token.second)
  inside : ∀ {token : Token} {place k : Nat}, token.At cs place → 0 < k → k < token.source.length →
    written[place + k]? = some []
  kept : ∀ {place : Nat} {c : Char}, cs[place]? = some c →
    (∀ (token : Token) start, token.At cs start → place < start ∨ start + token.source.length ≤ place) →
    written[place]? = some [c]

/-- A character that is kept in front of what is written behind it. -/
theorem Written.keep {before cs : List Char} {c : Char} {written : List (List Char)}
    (hnone : ∀ (token : Token) rest, c :: cs ≠ token.source ++ rest) (h : Written quote (before ++ [c]) cs written) :
    Written quote before (c :: cs) ([c] :: written) := by
  have hfirst : ∀ token : Token, ¬ token.At (c :: cs) 0 := fun token ⟨rest, hrest⟩ => hnone token rest hrest.symm
  refine ⟨by simp [h.length_eq], fun {token place} hat => ?_, fun {token place k} hat hpos hk => ?_,
    fun {place d} hd houtside => ?_⟩
  · cases place with
    | zero => exact absurd hat (hfirst token)
    | succ place => simpa [List.append_assoc] using h.token hat
  · cases place with
    | zero => exact absurd hat (hfirst token)
    | succ place =>
      rw [Nat.add_right_comm, List.getElem?_cons_succ]
      exact h.inside hat hpos hk
  · cases place with
    | zero => simpa using hd
    | succ place =>
      refine h.kept hd fun token start hat => ?_
      have := houtside token (start + 1) hat
      omega

/-- The replacement of a token in front of what is written behind it. -/
theorem Written.token_append {before cs : List Char} {token : Token} {isTable : Bool} {written : List (List Char)}
    (htable : isTable = true ↔ IntroducesTable before) (h : Written quote (before ++ token.source) cs written) :
    Written quote before (token.source ++ cs)
      (tokenText quote isTable token.first token.second ::
        (List.replicate (token.source.length - 1) [] ++ written)) := by
  have hlength := token.length_source
  have hfirst : token.At (token.source ++ cs) 0 := List.prefix_append _ _
  -- every other token stands behind this one
  have hbehind : ∀ {other : Token} {place}, other.At (token.source ++ cs) place → 0 < place →
      ∃ later, place = token.source.length + later ∧ other.At cs later := by
    intro other place hat hpos
    obtain ⟨later, rfl⟩ := Nat.exists_eq_add_of_le (hfirst.apart hat hpos)
    rw [Nat.zero_add] at hat
    exact ⟨later, by omega, (Token.At.append_left_iff _).1 hat⟩
  have hwritten : ∀ place, (tokenText quote isTable token.first token.second ::
      (List.replicate (token.source.length - 1) [] ++ written))[token.source.length + place]? = written[place]? := by
    intro place
    have hsucc : token.source.length + place = token.source.length - 1 + place + 1 := by omega
    rw [hsucc, List.getElem?_cons_succ, List.getElem?_append_right (by simp)]
    simp
  refine ⟨by simp [h.length_eq]; omega, fun {other place} hat => ?_, fun {other place k} hat hpos hk => ?_,
    fun {place d} hd houtside => ?_⟩
  · rcases Nat.eq_zero_or_pos place with rfl | hplace
    · obtain rfl := hfirst.eq hat
      exact ⟨isTable, by simpa using htable, rfl⟩
    · obtain ⟨later, rfl, hlater⟩ := hbehind hat hplace
      rw [hwritten, List.take_length_add_append, ← List.append_assoc]
      exact h.token hlater
  · rcases Nat.eq_zero_or_pos place with rfl | hplace
    · obtain rfl := hfirst.eq hat
      obtain ⟨k, rfl⟩ := Nat.exists_eq_succ_of_ne_zero (Nat.ne_of_gt hpos)
      rw [Nat.zero_add, List.getElem?_cons_succ, List.getElem?_append_left (by simp; omega), List.getElem?_replicate,
        if_pos (by omega)]
    · obtain ⟨later, rfl, hlater⟩ := hbehind hat hplace
      rw [Nat.add_assoc, hwritten]
      exact h.inside hlater hpos hk
  · obtain ⟨later, rfl⟩ : ∃ later, place = token.source.length + later := by
      have := houtside token 0 hfirst
      exact ⟨place - token.source.length, by omega⟩
    rw [hwritten]
    refine h.kept ?_ fun other start hat => ?_
    · rwa [List.getElem?_append_right (Nat.le_add_right _ _), Nat.add_sub_cancel_left] at hd
    · have := houtside other _ ((Token.At.append_left_iff _).2 hat)
      omega

/-- **Expansion from left to right replaces every token and keeps every other character.** -/
theorem Expands.exists_written {before cs out : List Char} (h : Expands quote before cs out) :
    ∃ written, Written quote before cs written ∧ out = written.flatten := by
  induction h with
  | nil before =>
    refine ⟨[], ⟨rfl, fun {token place} hat => ?_, fun {token place k} hat => ?_, fun {place c} hc => ?_⟩, rfl⟩
    · simpa using hat.getElem?_place
    · simpa using hat.getElem?_place
    · simp at hc
  | keep hnone _ ih =>
    obtain ⟨written, hwritten, rfl⟩ := ih
    exact ⟨_, hwritten.keep hnone, rfl⟩
  | token token htable _ ih =>
    obtain ⟨written, hwritten, rfl⟩ := ih
    exact ⟨_, hwritten.token_append htable, by simp⟩

/-- A text without tokens is written as it is. -/
theorem Written.flatten_eq {before cs : List Char} {written : List (List Char)} (h : Written quote before cs written)
    (hnone : ∀ (token : Token) place, ¬ token.At cs place) : written.flatten = cs := by
  have hsingle : written = cs.map ([·]) := by
    refine List.ext_getElem? fun place => ?_
    rw [List.getElem?_map]
    cases hc : cs[place]? with
    | none => simpa [h.length_eq] using hc
    | some c => exact h.kept hc fun token start hat => absurd hat (hnone token start)
  rw [hsingle]
  simp [List.flatten_eq_flatMap, List.flatMap_map]

/-- **Raw identifier expansion replaces exactly the tokens.**  Two tokens of a text are the same or lie apart.  The
expansion writes the replacement of every token for the token, as a table's exactly if the text before it introduces a
table, and keeps every other character in its place.  A text without tokens is its own expansion. -/
theorem expand_replaces_tokens (quote : String → Bool → String) (sql : String) :
    (∀ (token other : Token) (place later : Nat), token.At sql.toList place → other.At sql.toList later →
        (place = later ∧ token = other) ∨ place + token.source.length ≤ later ∨
          later + other.source.length ≤ place) ∧
      (∃ written, Written quote [] sql.toList written ∧ (expand quote sql).toList = written.flatten) ∧
      ((∀ (token : Token) place, ¬ token.At sql.toList place) → expand quote sql = sql) := by
  have hexpands : Expands quote [] sql.toList (expanded quote none sql.toList) :=
    expands_expanded [] sql.toList (seam_zero _)
  obtain ⟨written, hwritten, hout⟩ := hexpands.exists_written
  rw [← toList_expand] at hout
  refine ⟨fun token other place later htoken hother => ?_, ⟨written, hwritten, hout⟩, fun hnone => ?_⟩
  · rcases Nat.lt_trichotomy place later with hlt | rfl | hgt
    · exact .inr (.inl (htoken.apart hother hlt))
    · exact .inl ⟨rfl, htoken.eq hother⟩
    · exact .inr (.inr (hother.apart htoken hgt))
  · rw [← String.toList_inj, hout, hwritten.flatten_eq hnone]

end SqlToolkit.RawSql
