import SqlToolkit.Proofs.Migration.Discovery
import SqlToolkit.Proofs.Migration.Stamp
import SqlToolkit.Proofs.Script.Splitting
import SqlToolkit.Proofs.Session.Run

/-!
# New scripts in a folder

A pair of scripts that is made in a folder is found there.  If both are made, there are two files more than before
(`createScripts_cases`), and the folder is read as one migration more (`Free.perm`).  Its scripts are comments, so it runs
nothing and can be reverted.  If one of the files is there already, nothing happens.  Since names begin with stamps,
migrations made at different seconds are registered in the order of time.
-/
namespace SqlToolkit
open Text Outcome

namespace Folder

/-! ### Making files -/

variable {entries : List (String × FolderEntry)} {stem up down : String}

/-- The two files of a migration. -/
def pairOf (stem up down : String) : List (String × FolderEntry) :=
  [(stem ++ upEnding, .file up), (stem ++ downEnding, .file down)]

/-- The name of a migration that is made at a moment. -/
def stemOf (now : Moment) (name : String) : String := now.stamp ++ "_" ++ name

theorem toList_stemOf (now : Moment) (name : String) :
    (stemOf now name).toList = now.stamp.toList ++ '_' :: name.toList := by
  simp [stemOf]

theorem has_eq_false_iff {f : Folder} {file : String} :
    f.has file = false ↔ file ∉ (f.entries.getD []).map Prod.fst := by
  rw [has, List.any_eq_false, List.mem_map, not_exists]
  simp only [decide_eq_true_eq, not_and]

/-- A new file stands behind the others. -/
theorem ending_write {f : Folder} {file text : String} (h : f.has file = false) :
    ending (write file text) f =
      if longestName < file.utf8ByteSize then (.error (.files "File name too long (os error 36)"), f)
      else (.ok (), ⟨f.path, some (f.entries.getD [] ++ [(file, .file text)])⟩) := by
  have hothers : (f.entries.getD []).filter (fun e => decide (e.1 ≠ file)) = f.entries.getD [] := by
    refine List.filter_eq_self.2 fun e he => decide_eq_true ?_
    rintro rfl
    exact has_eq_false_iff.1 h (List.mem_map_of_mem he)
  unfold write
  split
  · rfl
  · show (Except.ok (), (⟨f.path, some ((f.entries.getD []).filter (fun e => decide (e.1 ≠ file)) ++ [_])⟩ : Folder)) = _
    rw [hothers]

/-- Writes a pair of scripts without statements. -/
def writePair (stem : String) : Edit (String × String) := do
  make
  write (stem ++ upEnding) ("-- " ++ stem ++ ": apply\n")
  write (stem ++ downEnding) ("-- " ++ stem ++ ": revert\n")
  return (stem ++ upEnding, stem ++ downEnding)

theorem ending_createScripts {name : String} (hname : name ≠ "") (hchars : ∀ c ∈ name.toList, isNameChar c = true)
    (now : Moment) (f : Folder) : ending (createScripts name now) f =
      match [stemOf now name ++ upEnding, stemOf now name ++ downEnding].find? f.has with
      | some taken => (.error (.fileExists (f.pathOf taken)), f)
      | none => ending (writePair (stemOf now name)) f := by
  have hvalid : (name.isEmpty || !name.toList.all isNameChar) = false := by
    rw [List.all_eq_true.2 hchars, Bool.not_true, Bool.or_false]
    exact Bool.eq_false_iff.2 fun hempty => hname (String.isEmpty_iff.1 hempty)
  have hstem : now.stamp ++ "_" ++ name = stemOf now name := rfl
  have hget (g : Folder → Edit (String × String)) : ending (get >>= g) f = ending (g f) f := rfl
  unfold createScripts
  simp only [hvalid, hstem, Bool.false_eq_true, ↓reduceIte]
  rw [hget]
  cases List.find? f.has [stemOf now name ++ upEnding, stemOf now name ++ downEnding] <;> rfl

/-- Both files are written unless a name is too long. -/
theorem ending_writePair {f : Folder} (hup : f.has (stem ++ upEnding) = false) (hdown : f.has (stem ++ downEnding) = false) :
    ((stem ++ downEnding).utf8ByteSize ≤ longestName ∧ ending (writePair stem) f =
      (.ok (stem ++ upEnding, stem ++ downEnding), ⟨f.path, some (f.entries.getD [] ++
        pairOf stem ("-- " ++ stem ++ ": apply\n") ("-- " ++ stem ++ ": revert\n"))⟩)) ∨
    (longestName < (stem ++ downEnding).utf8ByteSize ∧
      ∃ message after, ending (writePair stem) f = (.error (.files message), after)) := by
  let made : Folder := ⟨f.path, some (f.entries.getD [])⟩
  let started : Folder := ⟨f.path, some (f.entries.getD [] ++ [(stem ++ upEnding, .file ("-- " ++ stem ++ ": apply\n"))])⟩
  have hmake : ending make f = (.ok (), made) := rfl
  have hfree : made.has (stem ++ upEnding) = false := hup
  have hstarted : started.has (stem ++ downEnding) = false := by
    rw [has_eq_false_iff] at hdown ⊢
    show _ ∉ (f.entries.getD [] ++ [_]).map Prod.fst
    rw [List.map_append, List.mem_append, not_or]
    exact ⟨hdown, fun h => append_upEnding_ne stem stem (List.mem_singleton.1 h).symm⟩
  have hlonger : (stem ++ upEnding).utf8ByteSize ≤ (stem ++ downEnding).utf8ByteSize := by
    rw [String.utf8ByteSize_append, String.utf8ByteSize_append]
    exact Nat.add_le_add_left (by decide) _
  unfold writePair
  rw [ending_bind, hmake]
  dsimp only
  rw [ending_bind, ending_write hfree]
  by_cases hlong : longestName < (stem ++ upEnding).utf8ByteSize
  · rw [if_pos hlong]
    exact .inr ⟨by omega, _, _, rfl⟩
  rw [if_neg hlong]
  show (_ ∧ ending (_ >>= _) started = _) ∨ (_ ∧ ∃ _ _, ending (_ >>= _) started = _)
  rw [ending_bind, ending_write hstarted]
  by_cases hlong' : longestName < (stem ++ downEnding).utf8ByteSize
  · rw [if_pos hlong']
    exact .inr ⟨hlong', _, _, rfl⟩
  · rw [if_neg hlong']
    refine .inl ⟨by omega, ?_⟩
    show (_, (⟨_, some ((_ ++ [_]) ++ [_])⟩ : Folder)) = _
    rw [List.append_assoc]
    rfl

/-! ### Folders with two files more -/

variable {e : FolderEntry} {n : String}

theorem mem_pairOf_up : (n ++ upEnding, e) ∈ pairOf stem up down ↔ n = stem ∧ e = .file up := by
  simp [pairOf, append_upEnding_ne]

theorem mem_pairOf_down : (n ++ downEnding, e) ∈ pairOf stem up down ↔ n = stem ∧ e = .file down := by
  simp [pairOf, (append_upEnding_ne _ _).symm]

/-- A folder to which a migration can be added: neither of its names is taken. -/
structure Free (entries : List (String × FolderEntry)) (stem : String) : Prop where
  ne_empty : stem ≠ ""
  up : stem ++ upEnding ∉ entries.map Prod.fst
  down : stem ++ downEnding ∉ entries.map Prod.fst

namespace Free

theorem nodup (h : Free entries stem) (hnodup : (entries.map Prod.fst).Nodup) :
    ((entries ++ pairOf stem up down).map Prod.fst).Nodup := by
  have hpair : [stem ++ upEnding, stem ++ downEnding].Nodup :=
    List.nodup_cons.2 ⟨fun hmem => append_upEnding_ne stem stem (List.mem_singleton.1 hmem), List.nodup_singleton _⟩
  rw [List.map_append]
  refine hnodup.append hpair fun name hname hmem => ?_
  rcases List.mem_pair.1 hmem with rfl | rfl
  · exact h.up hname
  · exact h.down hname

theorem wellNamed (h : Free entries stem) (hnamed : WellNamed entries) :
    WellNamed (entries ++ pairOf stem up down) where
  named e he := by
    rcases List.mem_append.1 he with he | he
    · exact hnamed.named e he
    · rcases List.mem_pair.1 he with rfl | rfl
      · exact fun _ => ⟨stem, h.ne_empty, .inl rfl⟩
      · exact fun _ => ⟨stem, h.ne_empty, .inr rfl⟩
  paired n hne hmem := by
    obtain ⟨⟨name, e⟩, he, rfl⟩ := List.mem_map.1 hmem
    rw [List.map_append, List.mem_append]
    rcases List.mem_append.1 he with he | he
    · exact .inl (hnamed.paired n hne (List.mem_map_of_mem he))
    · obtain ⟨rfl, -⟩ := mem_pairOf_down.1 he
      exact .inr List.mem_cons_self

theorem readable (hread : Readable entries) : Readable (entries ++ pairOf stem up down) := by
  intro n e hne hmem
  rw [List.mem_append, List.mem_append, mem_pairOf_up, mem_pairOf_down] at hmem
  rcases hmem with (hmem | ⟨-, he⟩) | (hmem | ⟨-, he⟩)
  · exact hread n e hne (.inl hmem)
  · exact ⟨up, he⟩
  · exact hread n e hne (.inr hmem)
  · exact ⟨down, he⟩

/-- **What the folder holds** is one migration more. -/
theorem perm (h : Free entries stem) {found found' : List ScriptedMigration} (hholds : Holds entries found)
    (hholds' : Holds (entries ++ pairOf stem up down) found') : found'.Perm (⟨stem, up, some down⟩ :: found) := by
  have hfree {e : FolderEntry} : (stem ++ upEnding, e) ∉ entries := fun hmem => h.up (List.mem_map_of_mem hmem)
  have hfree' {e : FolderEntry} : (stem ++ downEnding, e) ∉ entries := fun hmem => h.down (List.mem_map_of_mem hmem)
  have hnew : ∀ m ∈ found, m.name ≠ stem := fun m hm heq => hfree (heq ▸ (hholds.up m hm).2)
  have hnodup : (⟨stem, up, some down⟩ :: found : List ScriptedMigration).Nodup :=
    List.nodup_cons.2 ⟨fun hm => hnew _ hm rfl, hholds.nodup⟩
  refine (List.perm_ext_iff_of_nodup hholds'.nodup hnodup).2 fun m => ?_
  rw [hholds'.mem_iff, List.mem_cons]
  simp only [List.mem_append, mem_pairOf_up, mem_pairOf_down, FolderEntry.file.injEq]
  by_cases hname : m.name = stem
  · -- only the new files count
    obtain ⟨name, mup, mdown⟩ := m
    obtain rfl : name = stem := hname
    have hnot : (⟨name, mup, mdown⟩ : ScriptedMigration) ∉ found := fun hm => hnew _ hm rfl
    have hdown : (∀ text, mdown = some text ↔ text = down) ↔ mdown = some down := by
      refine ⟨fun h => (h down).2 rfl, ?_⟩
      rintro rfl text
      rw [Option.some.injEq, eq_comm]
    simp only [hfree, hfree', hnot, false_or, or_false, true_and, hdown, ne_eq, h.ne_empty, not_false_eq_true,
      ScriptedMigration.mk.injEq]
  · -- only the old files count
    have hne : m ≠ ⟨stem, up, some down⟩ := fun heq => hname (heq ▸ rfl)
    simp only [hname, false_and, or_false, hne, false_or]
    exact hholds.mem_iff.symm

end Free

theorem free_iff {f : Folder} {now : Moment} {name : String} : Free (f.entries.getD []) (stemOf now name) ↔
    f.has (stemOf now name ++ upEnding) = false ∧ f.has (stemOf now name ++ downEnding) = false := by
  rw [has_eq_false_iff, has_eq_false_iff]
  refine ⟨fun h => ⟨h.up, h.down⟩, fun h => ⟨fun hempty => ?_, h.1, h.2⟩⟩
  have hnil := toList_stemOf now name
  rw [hempty] at hnil
  simp at hnil

/-- Scripts are made, or one of their files is there already, or their names are too long. -/
theorem createScripts_cases {name : String} (hname : name ≠ "") (hchars : ∀ c ∈ name.toList, isNameChar c = true)
    (now : Moment) (f : Folder) :
    let stem := stemOf now name
    (¬ Free (f.entries.getD []) stem ∧ ∃ path, ending (createScripts name now) f = (.error (.fileExists path), f)) ∨
    Free (f.entries.getD []) stem ∧
      (((stem ++ downEnding).utf8ByteSize ≤ longestName ∧ ending (createScripts name now) f =
        (.ok (stem ++ upEnding, stem ++ downEnding), ⟨f.path, some (f.entries.getD [] ++
          pairOf stem ("-- " ++ stem ++ ": apply\n") ("-- " ++ stem ++ ": revert\n"))⟩)) ∨
      (longestName < (stem ++ downEnding).utf8ByteSize ∧
        ∃ message after, ending (createScripts name now) f = (.error (.files message), after))) := by
  intro stem
  rw [ending_createScripts hname hchars, free_iff]
  cases hfound : [stem ++ upEnding, stem ++ downEnding].find? f.has with
  | some taken =>
    refine .inl ⟨fun ⟨hup, hdown⟩ => ?_, _, rfl⟩
    have htaken := List.find?_some hfound
    rcases List.mem_pair.1 (List.mem_of_find?_eq_some hfound) with rfl | rfl
    · cases hup.symm.trans htaken
    · cases hdown.symm.trans htaken
  | none =>
    have hnone := List.find?_eq_none.1 hfound
    have hup : f.has (stem ++ upEnding) = false := by simpa using hnone _ List.mem_cons_self
    have hdown : f.has (stem ++ downEnding) = false := by simpa using hnone _ (List.mem_cons_of_mem _ List.mem_cons_self)
    exact .inr ⟨⟨hup, hdown⟩, ending_writePair hup hdown⟩

/-! ### What is found -/

variable {σ : Type} {f : Folder}

/-- A folder is read as these scripts, and their migrations are registered. -/
structure Discovers (σ : Type) (f : Folder) (found : List ScriptedMigration) : Prop where
  scripts : f.scripts = .ok found
  registered : ∃ r : Registry σ, f.migrations = .ok r ∧ r.migrations = found.map Migration.ofScripts

/-- What a folder is read as; there is nothing in one that is still to be made. -/
def Offers (σ : Type) (f : Folder) (found : List ScriptedMigration) : Prop :=
  f.entries = none ∧ found = [] ∨ Discovers σ f found

theorem exists_discovers (σ : Type) (path : String) (hnamed : WellNamed entries) (hread : Readable entries)
    (hnodup : (entries.map Prod.fst).Nodup) :
    ∃ found, Discovers σ ⟨path, some entries⟩ found ∧ Holds entries found := by
  obtain ⟨found, hscripts, hholds, r, hr, hmigrations⟩ := migrations_of_readable σ path hnamed hread hnodup
  exact ⟨found, ⟨hscripts, r, hmigrations, hr⟩, hholds⟩

/-- A folder that is accepted, or is still to be made, is read as what its files hold. -/
theorem exists_offers (hnodup : ((f.entries.getD []).map Prod.fst).Nodup)
    (haccepted : f.entries = none ∨ ∃ r : Registry σ, f.migrations = .ok r) :
    WellNamed (f.entries.getD []) ∧ Readable (f.entries.getD []) ∧
      ∃ found, Offers σ f found ∧ Holds (f.entries.getD []) found := by
  obtain ⟨path, entries⟩ := f
  cases entries with
  | none => exact ⟨⟨by simp, by simp⟩, by simp [Readable], [], .inl ⟨rfl, rfl⟩, ⟨by simp, by simp, by simp, by simp⟩⟩
  | some entries =>
    obtain ⟨r, hr⟩ := haccepted.resolve_left (by simp)
    obtain ⟨found, hscripts, -⟩ := bind_eq_ok.1 hr
    have hnamed := wellNamed_of_scripts hscripts
    have hread := readable_of_scripts hscripts hnodup
    obtain ⟨found, hfound, hholds⟩ := exists_discovers σ path hnamed hread hnodup
    exact ⟨hnamed, hread, found, .inr hfound, hholds⟩

/-- A migration that runs nothing, and nothing when it is reverted. -/
def IsIdle (m : ScriptedMigration) : Prop :=
  Script.statements m.up = [] ∧ ∃ down, m.down = some down ∧ Script.statements down = []

theorem isIdle_pair {name : String} (hchars : ∀ c ∈ name.toList, isNameChar c = true) (now : Moment) :
    IsIdle ⟨stemOf now name, "-- " ++ stemOf now name ++ ": apply\n", some ("-- " ++ stemOf now name ++ ": revert\n")⟩ := by
  have hstem : '\n' ∉ (stemOf now name).toList := by
    have hname : '\n' ∉ name.toList := fun hmem => absurd (hchars _ hmem) (by decide)
    simp [stemOf, now.newline_not_mem_stamp, hname]
  have hline (text : String) (htext : '\n' ∉ text.toList) :
      Script.statements ("-- " ++ stemOf now name ++ (text ++ "\n")) = [] := by
    have hcomment : "-- " ++ stemOf now name ++ (text ++ "\n") = "--" ++ (" " ++ stemOf now name ++ text) ++ "\n" := by
      simp [← String.toList_inj]
    rw [hcomment]
    exact Script.statements_comment (by simp [hstem, htext])
  exact ⟨hline ": apply" (by decide), _, rfl, hline ": revert" (by decide)⟩

/-- **What is made in a folder is found there.**  Let a folder list each name once, and be accepted or still to be made.
A pair of scripts with a proper name is made just if none of its two files is there and their names are not too long.  Then
the folder is read as what it was read as before and one migration more, which is named for the moment, runs nothing, and
can be reverted.  If a file is there already, nothing is changed.  Of two migrations that were made at different seconds
that of the earlier moment has the smaller name, whatever else they are named, and it stands first wherever both are
registered. -/
theorem createScripts_discovered (hnodup : ((f.entries.getD []).map Prod.fst).Nodup)
    (haccepted : f.entries = none ∨ ∃ r : Registry σ, f.migrations = .ok r) :
    (∀ name : String, name ≠ "" → (∀ c ∈ name.toList, isNameChar c = true) → ∀ (now : Moment) answer after,
      ending (createScripts name now) f = (answer, after) →
      let stem := stemOf now name
      ((∃ files, answer = .ok files) ↔ (f.has (stem ++ upEnding) = false ∧ f.has (stem ++ downEnding) = false) ∧
        (stem ++ downEnding).utf8ByteSize ≤ longestName) ∧
      (∀ files, answer = .ok files → files = (stem ++ upEnding, stem ++ downEnding) ∧
        ∃ found new found', Offers σ f found ∧ new.name = stem ∧ IsIdle new ∧ Discovers σ after found' ∧
          found'.Perm (new :: found)) ∧
      ∀ path, answer = .error (.fileExists path) → after = f) ∧
    ∀ a b : Moment, a.isPlain = true → b.isPlain = true → a.parts ≠ b.parts → ∀ n m : String,
      (stemOf a n < stemOf b m ↔ a.Before b) ∧
      ∀ r : Registry σ, ∀ x ∈ r.migrations, ∀ y ∈ r.migrations, x.name = stemOf a n → y.name = stemOf b m →
        a.Before b → [x, y].Sublist r.migrations := by
  constructor
  · intro name hname hchars now answer after hend stem
    obtain ⟨hnamed, hread, found, hoffers, hholds⟩ := exists_offers hnodup haccepted
    rcases createScripts_cases hname hchars now f with
      ⟨htaken, path, hrun⟩ | ⟨hfree, ⟨hlength, hrun⟩ | ⟨hlong, message, _, hrun⟩⟩
    · -- a name is taken
      cases hend.symm.trans hrun
      exact ⟨iff_of_false (by simp) fun h => htaken (free_iff.2 h.1), by simp, fun _ _ => rfl⟩
    · -- both files are made
      cases hend.symm.trans hrun
      obtain ⟨found', hdiscovers, hholds'⟩ :=
        exists_discovers σ f.path (hfree.wellNamed hnamed) (Free.readable hread) (hfree.nodup hnodup)
      refine ⟨iff_of_true ⟨_, rfl⟩ ⟨free_iff.1 hfree, hlength⟩, ?_, by simp⟩
      rintro _ ⟨⟩
      exact ⟨rfl, found, _, found', hoffers, rfl, isIdle_pair hchars now, hdiscovers, hfree.perm hholds hholds'⟩
    · -- a name is too long
      cases hend.symm.trans hrun
      exact ⟨iff_of_false (by simp) fun h => absurd h.2 (Nat.not_le.2 hlong), by simp, by simp⟩
  · intro a b ha hb hne n m
    have hlt : stemOf a n < stemOf b m ↔ a.Before b := by
      rw [String.lt_iff, toList_stemOf, toList_stemOf, Moment.stamp_append_lt_iff ha hb]
      exact or_iff_left fun h => hne h.1
    refine ⟨hlt, fun r x hx y hy hname hname' hbefore => r.pair_sublist hx hy ?_⟩
    rw [hname, hname']
    exact hlt.2 hbefore

/-- A migration is made in a leap second, beside one with the same name and a folder that is no script. -/
theorem createScripts_discovered_leap_second :
    let f : Folder := ⟨"m", some [("b.up.sql", .file "SELECT 1;"), ("old", .folder)]⟩
    let now : Moment := ⟨2016, 12, 31, 23, 59, 60, 0⟩
    let later : Moment := ⟨2017, 1, 1, 0, 0, 0, 0⟩
    ((f.entries.getD []).map Prod.fst).Nodup ∧ (∃ r : Registry Unit, f.migrations = .ok r) ∧
      (∃ found new found', Offers Unit f found ∧ new.name = "2016_12_31_235960_b" ∧ IsIdle new ∧
        Discovers Unit (ending (createScripts "b" now) f).2 found' ∧ found'.Perm (new :: found)) ∧
      now.isPlain = true ∧ later.isPlain = true ∧ now.parts ≠ later.parts ∧ stemOf now "b" < stemOf later "a" := by
  intro f now later
  have hnodup : ((f.entries.getD []).map Prod.fst).Nodup := by decide
  have hnamed : WellNamed (f.entries.getD []) := by decide +kernel
  have hread : Readable (f.entries.getD []) := by
    have hold : kind "old" = .ignored := by decide +kernel
    rintro n e hne (hmem | hmem)
    · rcases List.mem_pair.1 hmem with heq | heq
      · exact ⟨_, (Prod.ext_iff.1 heq).2⟩
      · cases hold.symm.trans (kind_eq_up_iff.2 ⟨(Prod.ext_iff.1 heq).1.symm, hne⟩)
    · rcases List.mem_pair.1 hmem with heq | heq
      · exact ⟨_, (Prod.ext_iff.1 heq).2⟩
      · cases hold.symm.trans (kind_eq_down_iff.2 ⟨(Prod.ext_iff.1 heq).1.symm, hne⟩)
  obtain ⟨_, ⟨-, r, hr, -⟩, -⟩ := exists_discovers Unit "m" hnamed hread hnodup
  obtain ⟨hmake, horder⟩ := createScripts_discovered (f := f) hnodup (.inr ⟨r, hr⟩)
  have hvalid : now.isPlain = true ∧ later.isPlain = true := by decide
  have hne : now.parts ≠ later.parts := by decide
  obtain ⟨hmade, hfound, -⟩ := hmake "b" (by decide) (by simp [isNameChar]) now _ _ (Prod.mk.eta).symm
  obtain ⟨files, hfiles⟩ := hmade.2 (by decide +kernel)
  obtain ⟨-, found, new, found', hoffers, hname, hidle, hdiscovers, hperm⟩ := hfound files hfiles
  have hstem : stemOf now "b" = "2016_12_31_235960_b" := by decide +kernel
  have hlt : stemOf now "b" < stemOf later "a" := (horder now later hvalid.1 hvalid.2 hne "b" "a").1.2 (by decide)
  exact ⟨hnodup, ⟨r, hr⟩, ⟨found, new, found', hoffers, hname.trans hstem, hidle, hdiscovers, hperm⟩, hvalid.1, hvalid.2,
    hne, hlt⟩

end Folder
end SqlToolkit
