import Mathlib.Data.List.Nodup
import SqlToolkit.Migration.Folder
import SqlToolkit.Proofs.Outcome
import SqlToolkit.Proofs.Text.Bytes

/-!
# Scripts found in a folder

A folder lists its files in any order.  Which of them are scripts, and of what migration, is known from their names alone
(`kind_eq_up_iff`, `kind_eq_down_iff`, `kind_eq_stray_iff`), so whether a folder is refused is known from the names that it
lists (`WellNamed`).  If it is not, the scripts in it are a list with strictly increasing names, and they are known by what
the files hold (`Holds`).  There is one such list, whatever the order of the files (`Holds.unique`), and all of it is
registered.
-/
namespace SqlToolkit
open Text Outcome

namespace Registry
variable {σ : Type}

theorem place_last {m : Migration σ} {ms : List (Migration σ)} (h : ∀ x ∈ ms, x.name < m.name) :
    place m ms = some (ms ++ [m]) := by
  induction ms with
  | nil => rfl
  | cons n rest ih =>
    obtain ⟨hn, hrest⟩ := List.forall_mem_cons.1 h
    have hne : m.name ≠ n.name := fun heq => String.lt_irrefl _ (heq ▸ hn)
    rw [place, if_neg (String.lt_asymm hn), if_neg hne, ih hrest]
    rfl

theorem register_last {r : Registry σ} {m : Migration σ}
    (h : (r.migrations ++ [m]).Pairwise fun a b => a.name < b.name) : r.register m = .ok ⟨r.migrations ++ [m], h⟩ := by
  have hplace : place m r.migrations = some (r.migrations ++ [m]) :=
    place_last fun x hx => (List.pairwise_append.1 h).2.2 x hx m (List.mem_singleton_self m)
  unfold register
  split
  · next placed heq =>
    obtain rfl := Option.some.inj (hplace.symm.trans heq)
    rfl
  · next heq =>
    rw [hplace] at heq
    cases heq

theorem foldlM_register {r : Registry σ} {ms : List (Migration σ)}
    (h : (r.migrations ++ ms).Pairwise fun a b => a.name < b.name) :
    ms.foldlM register r = .ok ⟨r.migrations ++ ms, h⟩ := by
  induction ms generalizing r with
  | nil => simp [pure, Except.pure]
  | cons m ms ih =>
    rw [List.append_cons] at h
    rw [List.foldlM_cons, register_last (List.pairwise_append.1 h).1]
    refine (ih (r := ⟨r.migrations ++ [m], (List.pairwise_append.1 h).1⟩) h).trans ?_
    simp

/-- Migrations in the order of their names are registered as they are. -/
theorem ofList_increasing {ms : List (Migration σ)} (h : ms.Pairwise fun a b => a.name < b.name) :
    ofList ms = .ok ⟨ms, h⟩ := foldlM_register h

/-- Of two registered migrations the one with the smaller name stands first. -/
theorem pair_sublist (r : Registry σ) {x y : Migration σ} (hx : x ∈ r.migrations)
    (hy : y ∈ r.migrations) (hlt : x.name < y.name) : [x, y].Sublist r.migrations := by
  obtain ⟨ms, hincreasing⟩ := r
  dsimp only at hx hy ⊢
  induction ms with
  | nil => cases hx
  | cons m ms ih =>
    obtain ⟨hm, hms⟩ := List.pairwise_cons.1 hincreasing
    rcases List.mem_cons.1 hx with rfl | hx'
    · rcases List.mem_cons.1 hy with rfl | hy'
      · exact absurd hlt (String.lt_irrefl _)
      · exact (List.singleton_sublist.2 hy').cons_cons x
    · rcases List.mem_cons.1 hy with rfl | hy'
      · exact absurd (hm x hx') (String.lt_asymm hlt)
      · exact (ih hms hx' hy').cons m

end Registry

namespace Folder

/-! ### Names of files -/

theorem stem?_eq_some_iff {ending name n : String} : stem? ending name = some n ↔ name = n ++ ending ∧ n ≠ "" := by
  unfold stem?
  simp only [Option.ite_none_right_eq_some, Bool.and_eq_true, decide_eq_true_eq, List.isSuffixOf_iff_suffix,
    Option.some.injEq, ← String.length_toList]
  constructor
  · rintro ⟨⟨hsuffix, hlength⟩, rfl⟩
    refine ⟨?_, fun hempty => ?_⟩
    · rw [← String.toList_inj, String.toList_append, String.toList_ofList]
      exact (List.suffix_iff_eq_append.1 hsuffix).symm
    · have hnil := congrArg (List.length ∘ String.toList) hempty
      simp at hnil
      omega
  · rintro ⟨rfl, hne⟩
    have hlength : n.toList.length ≠ 0 := by simpa using hne
    refine ⟨⟨?_, ?_⟩, ?_⟩
    · rw [String.toList_append]
      exact List.suffix_append _ _
    · rw [String.toList_append, List.length_append]
      omega
    · simp

/-- No file is both. -/
theorem append_upEnding_ne (n m : String) : n ++ upEnding ≠ m ++ downEnding := fun heq => by
  have hreverse := congrArg (List.reverse ∘ String.toList) heq
  simp [upEnding, downEnding] at hreverse

variable {name n : String}

theorem kind_eq_up_iff : kind name = .up n ↔ name = n ++ upEnding ∧ n ≠ "" := by
  rw [← stem?_eq_some_iff, kind]
  cases stem? upEnding name with
  | some m => simp
  | none =>
    cases stem? downEnding name with
    | some m => simp
    | none =>
      dsimp only
      split <;> simp

theorem kind_eq_down_iff : kind name = .down n ↔ name = n ++ downEnding ∧ n ≠ "" := by
  rw [← stem?_eq_some_iff, kind]
  cases hup : stem? upEnding name with
  | some m =>
    obtain ⟨rfl, -⟩ := stem?_eq_some_iff.1 hup
    refine iff_of_false (by simp) fun hdown => ?_
    exact append_upEnding_ne m n (stem?_eq_some_iff.1 hdown).1
  | none =>
    cases stem? downEnding name with
    | some m => simp
    | none =>
      dsimp only
      split <;> simp

/-- A script without a proper name is astray. -/
theorem kind_eq_stray_iff : kind name = .stray ↔ scriptEnding.toList <:+ name.toList ∧
    ¬ ∃ n, n ≠ "" ∧ (name = n ++ upEnding ∨ name = n ++ downEnding) := by
  unfold kind
  cases hup : stem? upEnding name with
  | some n =>
    obtain ⟨hname, hne⟩ := stem?_eq_some_iff.1 hup
    exact iff_of_false (by simp) fun h => h.2 ⟨n, hne, .inl hname⟩
  | none =>
    cases hdown : stem? downEnding name with
    | some n =>
      obtain ⟨hname, hne⟩ := stem?_eq_some_iff.1 hdown
      exact iff_of_false (by simp) fun h => h.2 ⟨n, hne, .inr hname⟩
    | none =>
      have hnone : ¬ ∃ n, n ≠ "" ∧ (name = n ++ upEnding ∨ name = n ++ downEnding) := by
        rintro ⟨n, hne, hname | hname⟩
        · cases hup.symm.trans (stem?_eq_some_iff.2 ⟨hname, hne⟩)
        · cases hdown.symm.trans (stem?_eq_some_iff.2 ⟨hname, hne⟩)
      rw [and_iff_left hnone]
      simp

theorem kind_ne_stray_iff : kind name ≠ .stray ↔ (scriptEnding.toList <:+ name.toList →
    ∃ n, n ≠ "" ∧ (name = n ++ upEnding ∨ name = n ++ downEnding)) := by
  rw [Ne, kind_eq_stray_iff, not_and, not_not]

/-! ### Files by their kind -/

/-- What a kind of file is named for stands in front of its ending. -/
def NamedBefore (ending : String) (name? : FileKind → Option String) : Prop :=
  ∀ name n, name? (kind name) = some n ↔ name = n ++ ending ∧ n ≠ ""

theorem namedBefore_up : NamedBefore upEnding FileKind.up? := fun name n => by
  rw [← kind_eq_up_iff]
  cases kind name <;> simp [FileKind.up?]

theorem namedBefore_down : NamedBefore downEnding FileKind.down? := fun name n => by
  rw [← kind_eq_down_iff]
  cases kind name <;> simp [FileKind.down?]

variable {entries entries' : List (String × FolderEntry)} {ending : String} {name? : FileKind → Option String}

theorem mem_selected (h : NamedBefore ending name?) {e : FolderEntry} :
    (n, e) ∈ selected name? entries ↔ n ≠ "" ∧ (n ++ ending, e) ∈ entries := by
  rw [selected, sorted, List.mem_mergeSort, List.mem_filterMap]
  constructor
  · rintro ⟨⟨name, e'⟩, hmem, heq⟩
    obtain ⟨n', hname, heq⟩ := Option.map_eq_some_iff.1 heq
    cases heq
    obtain ⟨rfl, hne⟩ := (h name n).1 hname
    exact ⟨hne, hmem⟩
  · rintro ⟨hne, hmem⟩
    exact ⟨_, hmem, by rw [(h _ n).2 ⟨rfl, hne⟩]; rfl⟩

/-- Files of a kind have different names, and come in the order of these. -/
theorem pairwise_selected (h : NamedBefore ending name?) (hnodup : (entries.map Prod.fst).Nodup) :
    (selected name? entries).Pairwise fun a b => a.1 < b.1 := by
  have hsorted : (selected name? entries).Pairwise fun a b => decide (a.1 ≤ b.1) = true := by
    refine List.pairwise_mergeSort (fun a b c hab hbc => ?_) (fun a b => ?_) _
    · rw [decide_eq_true_eq] at *
      exact String.le_trans hab hbc
    · rw [Bool.or_eq_true, decide_eq_true_eq, decide_eq_true_eq]
      exact String.le_total a.1 b.1
  have hnames : ((selected name? entries).map Prod.fst).Nodup := by
    have hperm : ((selected name? entries).map Prod.fst).Perm
        ((entries.map Prod.fst).filterMap fun name => name? (kind name)) := by
      refine ((List.mergeSort_perm _ _).map Prod.fst).trans (.of_eq ?_)
      rw [List.map_filterMap, List.filterMap_map]
      refine List.filterMap_congr fun e _ => ?_
      simp [Function.comp_def]
    refine hperm.nodup_iff.2 (hnodup.filterMap fun name name' n hn hn' => ?_)
    rw [((h name n).1 hn).1, ((h name' n).1 hn').1]
  have hne := List.pairwise_map.1 (List.nodup_iff_pairwise_ne.1 hnames)
  refine (hsorted.and hne).imp fun ⟨hle, hne⟩ => ?_
  exact Std.lt_of_le_of_ne (of_decide_eq_true hle) hne

/-! ### Folders that are refused -/

/-- Every script has a proper name, and none is there only to undo. -/
structure WellNamed (entries : List (String × FolderEntry)) : Prop where
  named : ∀ e ∈ entries, scriptEnding.toList <:+ e.1.toList →
    ∃ n, n ≠ "" ∧ (e.1 = n ++ upEnding ∨ e.1 = n ++ downEnding)
  paired : ∀ n, n ≠ "" → n ++ downEnding ∈ entries.map Prod.fst → n ++ upEnding ∈ entries.map Prod.fst

theorem WellNamed.of_perm (h : WellNamed entries) (hperm : entries.Perm entries') : WellNamed entries' where
  named e he := h.named e (hperm.mem_iff.2 he)
  paired n hne hdown := (hperm.map Prod.fst).mem_iff.1 (h.paired n hne ((hperm.map Prod.fst).mem_iff.2 hdown))

/-- That is decided by the kinds of the files. -/
theorem wellNamed_iff : WellNamed entries ↔ ∀ e ∈ entries, kind e.1 ≠ .stray ∧
    ∀ n ∈ FileKind.down? (kind e.1), n ++ upEnding ∈ entries.map Prod.fst := by
  constructor
  · refine fun h e he => ⟨kind_ne_stray_iff.2 (h.named e he), fun n hn => ?_⟩
    obtain ⟨hname, hne⟩ := (namedBefore_down e.1 n).1 hn
    exact h.paired n hne (hname ▸ List.mem_map_of_mem he)
  · refine fun h => ⟨fun e he => kind_ne_stray_iff.1 (h e he).1, fun n hne hdown => ?_⟩
    obtain ⟨e, he, hname⟩ := List.mem_map.1 hdown
    exact (h e he).2 n ((namedBefore_down e.1 n).2 ⟨hname, hne⟩)

instance : Decidable (WellNamed entries) := decidable_of_iff _ wellNamed_iff.symm

theorem find?_stray_eq_none_iff : (entries.find? fun e => kind e.1 = .stray) = none ↔
    ∀ e ∈ entries, scriptEnding.toList <:+ e.1.toList →
      ∃ n, n ≠ "" ∧ (e.1 = n ++ upEnding ∨ e.1 = n ++ downEnding) := by
  rw [List.find?_eq_none]
  refine forall₂_congr fun e _ => ?_
  rw [decide_eq_true_eq]
  exact kind_ne_stray_iff

theorem find?_orphan_eq_none_iff :
    ((selected FileKind.down? entries).find? fun d => !(selected FileKind.up? entries).any fun u => u.1 = d.1) = none ↔
      ∀ n, n ≠ "" → n ++ downEnding ∈ entries.map Prod.fst → n ++ upEnding ∈ entries.map Prod.fst := by
  rw [List.find?_eq_none]
  constructor
  · intro h n hne hdown
    obtain ⟨⟨name, e⟩, hmem, rfl⟩ := List.mem_map.1 hdown
    have hup := h (n, e) ((mem_selected namedBefore_down).2 ⟨hne, hmem⟩)
    simp only [Bool.not_eq_true', Bool.not_eq_false, List.any_eq_true, decide_eq_true_eq] at hup
    obtain ⟨⟨n', e'⟩, hmem', rfl⟩ := hup
    exact List.mem_map_of_mem ((mem_selected namedBefore_up).1 hmem').2
  · rintro h ⟨n, e⟩ hmem
    obtain ⟨hne, hdown⟩ := (mem_selected namedBefore_down).1 hmem
    obtain ⟨⟨name, e'⟩, hmem', rfl⟩ := List.mem_map.1 (h n hne (List.mem_map_of_mem hdown))
    simp only [Bool.not_eq_true', Bool.not_eq_false, List.any_eq_true, decide_eq_true_eq]
    exact ⟨(n, e'), (mem_selected namedBefore_up).2 ⟨hne, hmem'⟩, rfl⟩

/-- The scripts of a migration, from the entry that applies it and those that undo one. -/
def pair (downs : List (String × FolderEntry)) (u : String × FolderEntry) : Except MigrationError ScriptedMigration := do
  let up ← u.2.read
  let down ← (downs.lookup u.1).mapM FolderEntry.read
  return { name := u.1, up, down }

theorem scripts_of_wellNamed (path : String) (h : WellNamed entries) : scripts ⟨path, some entries⟩ =
    (selected FileKind.up? entries).mapM (pair (selected FileKind.down? entries)) := by
  unfold scripts
  simp only [find?_stray_eq_none_iff.2 h.named, find?_orphan_eq_none_iff.2 h.paired]
  rfl

theorem scripts_of_not_wellNamed (path : String) (h : ¬ WellNamed entries) :
    ∃ name, scripts ⟨path, some entries⟩ = .error (.invalidFileName name) := by
  unfold scripts
  dsimp only
  cases hstray : entries.find? fun e => kind e.1 = .stray with
  | some stray => exact ⟨_, rfl⟩
  | none =>
    cases horphan : (selected FileKind.down? entries).find? fun d =>
        !(selected FileKind.up? entries).any fun u => u.1 = d.1 with
    | some orphan => exact ⟨_, rfl⟩
    | none => exact absurd ⟨find?_stray_eq_none_iff.1 hstray, find?_orphan_eq_none_iff.1 horphan⟩ h

/-! ### Folders that are read -/

/-- Every entry is a file that can be read. -/
def FilesOnly (entries : List (String × FolderEntry)) : Prop := ∀ e ∈ entries, ∃ text, e.2 = .file text

/-- Every script is a file that can be read. -/
def Readable (entries : List (String × FolderEntry)) : Prop :=
  ∀ n e, n ≠ "" → (n ++ upEnding, e) ∈ entries ∨ (n ++ downEnding, e) ∈ entries → ∃ text, e = .file text

theorem FilesOnly.readable (h : FilesOnly entries) : Readable entries := fun _ _ _ hmem => hmem.elim (h _) (h _)

/-- Scripts that are in the files: in the order of their names, one migration for each file that applies it, with the text
of the file and that of the file that undoes it, if there is one. -/
structure Holds (entries : List (String × FolderEntry)) (scripts : List ScriptedMigration) : Prop where
  increasing : scripts.Pairwise fun a b => bytes a.name < bytes b.name
  up : ∀ m ∈ scripts, m.name ≠ "" ∧ (m.name ++ upEnding, .file m.up) ∈ entries
  down : ∀ m ∈ scripts, ∀ text, m.down = some text ↔ (m.name ++ downEnding, .file text) ∈ entries
  complete : ∀ n text, n ≠ "" → (n ++ upEnding, .file text) ∈ entries → ∃ m ∈ scripts, m.name = n ∧ m.up = text

theorem Holds.of_perm {scripts : List ScriptedMigration} (h : Holds entries scripts) (hperm : entries.Perm entries') :
    Holds entries' scripts where
  increasing := h.increasing
  up m hm := ⟨(h.up m hm).1, hperm.mem_iff.1 (h.up m hm).2⟩
  down m hm text := (h.down m hm text).trans hperm.mem_iff
  complete n text hne hmem := h.complete n text hne (hperm.mem_iff.2 hmem)

/-- A migration is among the scripts if its files are there, and none that is not its own. -/
theorem Holds.mem_iff {scripts : List ScriptedMigration} (h : Holds entries scripts) {m : ScriptedMigration} :
    m ∈ scripts ↔ m.name ≠ "" ∧ (m.name ++ upEnding, .file m.up) ∈ entries ∧
      ∀ text, m.down = some text ↔ (m.name ++ downEnding, .file text) ∈ entries := by
  refine ⟨fun hm => ⟨(h.up m hm).1, (h.up m hm).2, h.down m hm⟩, fun ⟨hne, hup, hundone⟩ => ?_⟩
  obtain ⟨m', hm', hname, htext⟩ := h.complete m.name m.up hne hup
  have hdown : m'.down = m.down := Option.ext fun text => by
    rw [h.down m' hm' text, hundone text, hname]
  obtain ⟨name, up, down⟩ := m
  obtain ⟨name', up', down'⟩ := m'
  obtain rfl : name' = name := hname
  obtain rfl : up' = up := htext
  obtain rfl : down' = down := hdown
  exact hm'

theorem Holds.nodup {scripts : List ScriptedMigration} (h : Holds entries scripts) : scripts.Nodup :=
  List.nodup_iff_pairwise_ne.2 <| h.increasing.imp fun {a b} hlt => by
    rintro rfl
    exact List.lt_irrefl _ hlt

/-- **The files hold one list of scripts**: it is in the order of their names, and these differ. -/
theorem Holds.unique {scripts scripts' : List ScriptedMigration} (h : Holds entries scripts)
    (h' : Holds entries scripts') : scripts = scripts' := by
  refine List.Perm.eq_of_pairwise (fun a b _ _ hab hba => absurd hba (List.lt_asymm hab)) h.increasing h'.increasing ?_
  exact (List.perm_ext_iff_of_nodup h.nodup h'.nodup).2 fun m => h.mem_iff.trans h'.mem_iff.symm

theorem read_eq_ok_iff {e : FolderEntry} {text : String} : e.read = .ok text ↔ e = .file text := by
  cases e <;> simp [FolderEntry.read]

theorem mapM_read_eq_ok_iff {e : Option FolderEntry} {text : Option String} :
    e.mapM FolderEntry.read = .ok text ↔ e = text.map .file := by
  cases e with
  | none => cases text <;> simp [pure, Except.pure]
  | some e =>
    cases e <;> cases text <;> simp [FolderEntry.read]

theorem pair_eq_ok_iff {downs : List (String × FolderEntry)} {u : String × FolderEntry} {m : ScriptedMigration} :
    pair downs u = .ok m ↔ m.name = u.1 ∧ u.2 = .file m.up ∧ downs.lookup u.1 = m.down.map .file := by
  unfold pair
  rw [bind_eq_ok]
  constructor
  · rintro ⟨up, hup, h⟩
    obtain ⟨down, hdown, h⟩ := bind_eq_ok.1 h
    obtain rfl := pure_eq_ok.1 h
    exact ⟨rfl, read_eq_ok_iff.1 hup, mapM_read_eq_ok_iff.1 hdown⟩
  · rintro ⟨hname, hup, hdown⟩
    refine ⟨m.up, read_eq_ok_iff.2 hup, bind_eq_ok.2 ⟨m.down, mapM_read_eq_ok_iff.2 hdown, ?_⟩⟩
    rw [← hname]
    rfl

/-- In a list with increasing names a name is looked up where it stands. -/
theorem lookup_eq_some_iff {files : List (String × FolderEntry)} (h : files.Pairwise fun a b => a.1 < b.1)
    {e : FolderEntry} : files.lookup n = some e ↔ (n, e) ∈ files := by
  rw [List.lookup_eq_some_iff]
  constructor
  · rintro ⟨front, back, rfl, -⟩
    exact List.mem_append_right _ List.mem_cons_self
  · intro hmem
    obtain ⟨front, back, rfl⟩ := List.append_of_mem hmem
    refine ⟨front, back, rfl, fun p hp => ?_⟩
    have hlt : p.1 < n := (List.pairwise_append.1 h).2.2 p hp (n, e) List.mem_cons_self
    exact bne_iff_ne.2 fun heq => String.lt_irrefl _ (heq ▸ hlt)

theorem lookup_down (hnodup : (entries.map Prod.fst).Nodup) (hne : n ≠ "") {e : FolderEntry} :
    (selected FileKind.down? entries).lookup n = some e ↔ (n ++ downEnding, e) ∈ entries := by
  rw [lookup_eq_some_iff (pairwise_selected namedBefore_down hnodup), mem_selected namedBefore_down, and_iff_right hne]

/-- Files can be read. -/
theorem exists_pairs (hfiles : Readable entries) (hnodup : (entries.map Prod.fst).Nodup) :
    ∃ scripts, (selected FileKind.up? entries).mapM (pair (selected FileKind.down? entries)) = .ok scripts := by
  cases hread : (selected FileKind.up? entries).mapM (pair (selected FileKind.down? entries)) with
  | ok scripts => exact ⟨scripts, rfl⟩
  | error cause =>
    obtain ⟨⟨n, e⟩, hmem, hfailed⟩ := exists_of_mapM_eq_error hread
    obtain ⟨hne, hup⟩ := (mem_selected namedBefore_up).1 hmem
    obtain ⟨up, rfl⟩ := hfiles n e hne (.inl hup)
    obtain ⟨down, hdown⟩ : ∃ down : Option String,
        (selected FileKind.down? entries).lookup n = down.map FolderEntry.file := by
      cases hfound : (selected FileKind.down? entries).lookup n with
      | none => exact ⟨none, rfl⟩
      | some e =>
        obtain ⟨text, rfl⟩ := hfiles n e hne (.inr ((lookup_down hnodup hne).1 hfound))
        exact ⟨some text, rfl⟩
    rw [pair_eq_ok_iff (m := ⟨n, up, down⟩).2 ⟨rfl, rfl, hdown⟩] at hfailed
    cases hfailed

/-- **What is read** is what the files hold. -/
theorem holds_of_pairs (hnodup : (entries.map Prod.fst).Nodup) {scripts : List ScriptedMigration}
    (h : (selected FileKind.up? entries).mapM (pair (selected FileKind.down? entries)) = .ok scripts) :
    Holds entries scripts := by
  have hpairs := (mapM_eq_ok_iff.1 h).imp fun u m => pair_eq_ok_iff.1
  have hnames : scripts.map ScriptedMigration.name = (selected FileKind.up? entries).map Prod.fst := by
    rw [← List.forall₂_eq_eq_eq, List.forall₂_map_left_iff, List.forall₂_map_right_iff]
    exact hpairs.flip.imp fun m u hpair => hpair.1
  have hfound : ∀ m ∈ scripts, m.name ≠ "" ∧ (m.name ++ upEnding, .file m.up) ∈ entries ∧
      (selected FileKind.down? entries).lookup m.name = m.down.map .file := by
    refine forall_right hpairs fun u hu m ⟨hname, hup, hdown⟩ => ?_
    obtain ⟨hne, hmem⟩ := (mem_selected namedBefore_up).1 hu
    rw [hname, ← hup]
    exact ⟨hne, hmem, hdown⟩
  refine ⟨?_, fun m hm => ?_, fun m hm text => ?_, fun n text hne hmem => ?_⟩
  · have hlt : (scripts.map ScriptedMigration.name).Pairwise (· < ·) := by
      rw [hnames]
      exact List.pairwise_map.2 (pairwise_selected namedBefore_up hnodup)
    exact (List.pairwise_map.1 hlt).imp lt_iff_bytes_lt.1
  · obtain ⟨hne, hup, -⟩ := hfound m hm
    exact ⟨hne, hup⟩
  · obtain ⟨hne, -, hdown⟩ := hfound m hm
    rw [← lookup_down hnodup hne, hdown]
    simp
  · have hup := (mem_selected namedBefore_up).2 ⟨hne, hmem⟩
    have hread : ∀ u ∈ selected FileKind.up? entries, ∃ m ∈ scripts, m.name = u.1 ∧ u.2 = .file m.up :=
      forall_right hpairs.flip fun m hm u hpair => ⟨m, hm, hpair.1, hpair.2.1⟩
    obtain ⟨m, hm, hname, htext⟩ := hread _ hup
    exact ⟨m, hm, hname, (FolderEntry.file.inj htext).symm⟩

variable {σ : Type}

/-- A name in the folder is refused. -/
def Refuses (σ : Type) (f : Folder) : Prop :=
  ∃ name, (f.migrations : Except MigrationError (Registry σ)) = .error (.invalidFileName name)

theorem refuses_of_not_wellNamed (path : String) (h : ¬ WellNamed entries) : Refuses σ ⟨path, some entries⟩ := by
  obtain ⟨name, hscripts⟩ := scripts_of_not_wellNamed path h
  refine ⟨name, ?_⟩
  rw [migrations, hscripts]
  rfl

theorem migrations_of_readable (σ : Type) (path : String) (h : WellNamed entries) (hfiles : Readable entries)
    (hnodup : (entries.map Prod.fst).Nodup) : ∃ found, Folder.scripts ⟨path, some entries⟩ = .ok found ∧
      Holds entries found ∧ ∃ r : Registry σ, r.migrations = found.map Migration.ofScripts ∧
        migrations ⟨path, some entries⟩ = .ok r := by
  obtain ⟨found, hread⟩ := exists_pairs hfiles hnodup
  have hholds := holds_of_pairs hnodup hread
  have hscripts : Folder.scripts ⟨path, some entries⟩ = .ok found := (scripts_of_wellNamed path h).trans hread
  have hincreasing : (found.map Migration.ofScripts : List (Migration σ)).Pairwise fun a b => a.name < b.name :=
    List.pairwise_map.2 (hholds.increasing.imp lt_iff_bytes_lt.2)
  refine ⟨found, hscripts, hholds, ⟨_, hincreasing⟩, rfl, ?_⟩
  rw [migrations, hscripts]
  exact Registry.ofList_increasing hincreasing

theorem migrations_of_wellNamed (σ : Type) (path : String) (h : WellNamed entries) (hfiles : FilesOnly entries)
    (hnodup : (entries.map Prod.fst).Nodup) : ∃ found, Folder.scripts ⟨path, some entries⟩ = .ok found ∧
      Holds entries found ∧ ∃ r : Registry σ, r.migrations = found.map Migration.ofScripts ∧
        migrations ⟨path, some entries⟩ = .ok r := migrations_of_readable σ path h hfiles.readable hnodup

theorem wellNamed_of_scripts {path : String} {found : List ScriptedMigration}
    (h : Folder.scripts ⟨path, some entries⟩ = .ok found) : WellNamed entries := by
  by_contra hnot
  obtain ⟨name, hrefused⟩ := scripts_of_not_wellNamed path hnot
  cases h.symm.trans hrefused

/-- Where scripts are found, all of them are read. -/
theorem readable_of_scripts {path : String} {found : List ScriptedMigration}
    (h : Folder.scripts ⟨path, some entries⟩ = .ok found) (hnodup : (entries.map Prod.fst).Nodup) :
    Readable entries := by
  have hnamed := wellNamed_of_scripts h
  rw [scripts_of_wellNamed path hnamed] at h
  have hpair {n : String} {u : FolderEntry} (hne : n ≠ "") (hup : (n ++ upEnding, u) ∈ entries) :=
    exists_of_mapM h (n, u) ((mem_selected namedBefore_up).2 ⟨hne, hup⟩)
  intro n e hne hmem
  rcases hmem with hup | hdown
  · obtain ⟨m, -, hm⟩ := hpair hne hup
    exact ⟨m.up, (pair_eq_ok_iff.1 hm).2.1⟩
  · -- what undoes a migration is read along with what applies it
    obtain ⟨⟨name, u⟩, hup, rfl⟩ := List.mem_map.1 (hnamed.paired n hne (List.mem_map_of_mem hdown))
    obtain ⟨m, -, hm⟩ := hpair hne hup
    have hlookup := (pair_eq_ok_iff.1 hm).2.2
    rw [(lookup_down hnodup hne).2 hdown] at hlookup
    obtain ⟨text, -, htext⟩ := Option.map_eq_some_iff.1 hlookup.symm
    exact ⟨text, htext.symm⟩

/-- **What is found in a folder of files** does not depend on the order in which these are listed: a name is refused in
both orders, or the same migrations are registered.  They are just if every script is named for a migration and none is
there only to undo, and then there is one migration for each file that applies one, in the order of the bytes of their
names, with the texts of the files. -/
theorem migrations_of_files (path : String) (hperm : entries.Perm entries') (hnodup : (entries.map Prod.fst).Nodup)
    (hfiles : FilesOnly entries) :
    ((Refuses σ ⟨path, some entries⟩ ∧ Refuses σ ⟨path, some entries'⟩) ∨
      ∃ r : Registry σ, migrations ⟨path, some entries⟩ = .ok r ∧ migrations ⟨path, some entries'⟩ = .ok r) ∧
    ((∃ r : Registry σ, migrations ⟨path, some entries⟩ = .ok r) ↔ WellNamed entries) ∧
    ∀ r : Registry σ, migrations ⟨path, some entries⟩ = .ok r →
      ∃ found, Folder.scripts ⟨path, some entries⟩ = .ok found ∧ Holds entries found ∧
        r.migrations = found.map Migration.ofScripts := by
  have hnodup' : (entries'.map Prod.fst).Nodup := (hperm.map Prod.fst).nodup_iff.1 hnodup
  have hfiles' : FilesOnly entries' := fun e he => hfiles e (hperm.mem_iff.2 he)
  by_cases h : WellNamed entries
  · obtain ⟨found, hscripts, hholds, r, hr, hmigrations⟩ := migrations_of_wellNamed σ path h hfiles hnodup
    obtain ⟨found', -, hholds', r', hr', hmigrations'⟩ :=
      migrations_of_wellNamed σ path (h.of_perm hperm) hfiles' hnodup'
    obtain rfl : found' = found := hholds'.unique (hholds.of_perm hperm)
    obtain rfl : r' = r := by
      obtain ⟨migrations, _⟩ := r
      obtain ⟨migrations', _⟩ := r'
      obtain rfl : migrations' = migrations := hr'.trans hr.symm
      rfl
    refine ⟨.inr ⟨r', hmigrations, hmigrations'⟩, iff_of_true ⟨r', hmigrations⟩ h, fun r heq => ?_⟩
    obtain rfl := Except.ok.inj (hmigrations.symm.trans heq)
    exact ⟨found', hscripts, hholds, hr⟩
  · have hrefuses : Refuses σ ⟨path, some entries⟩ := refuses_of_not_wellNamed path h
    have hnone (r : Registry σ) : migrations ⟨path, some entries⟩ ≠ .ok r := fun heq => by
      obtain ⟨name, hrefused⟩ := hrefuses
      cases hrefused.symm.trans heq
    refine ⟨.inl ⟨hrefuses, ?_⟩, iff_of_false (fun ⟨r, heq⟩ => hnone r heq) h, fun r heq => absurd heq (hnone r)⟩
    exact refuses_of_not_wellNamed path fun h' => h (h'.of_perm hperm.symm)

/-- Two migrations, listed out of order and with a file between them that is no script. -/
theorem migrations_of_files_unordered :
    let entries := [("b.up.sql", FolderEntry.file "B"), ("a.up.down.sql", .file "undo"), ("notes", .file "none"),
      ("a.up.up.sql", .file "A")]
    entries.Perm entries.reverse ∧ (entries.map Prod.fst).Nodup ∧ FilesOnly entries ∧ WellNamed entries ∧
      ∃ r : Registry Unit, migrations ⟨".", some entries⟩ = .ok r ∧ migrations ⟨".", some entries.reverse⟩ = .ok r := by
  intro entries
  have hperm : entries.Perm entries.reverse := (List.reverse_perm entries).symm
  have hnodup : (entries.map Prod.fst).Nodup := by decide
  have hfiles : FilesOnly entries := by simp [FilesOnly, entries]
  have hnamed : WellNamed entries := by decide +kernel
  obtain ⟨hsame, hiff, -⟩ := migrations_of_files (σ := Unit) "." hperm hnodup hfiles
  obtain ⟨r, hr⟩ := hiff.2 hnamed
  refine ⟨hperm, hnodup, hfiles, hnamed, ?_⟩
  refine hsame.resolve_left fun ⟨⟨name, hrefused⟩, _⟩ => ?_
  cases hrefused.symm.trans hr

end Folder
end SqlToolkit
