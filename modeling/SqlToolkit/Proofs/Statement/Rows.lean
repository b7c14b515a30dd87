import Mathlib.Data.List.Nodup
import SqlToolkit.Proofs.Condition.Key
import SqlToolkit.Statement.Write

/-!
# Rows of data

Row data are built by setting the operands of keys one after the other, or read from a record; both ways every key is
there once (`RowData.Built.nodup_keys`).  So a row holds one operand under a key wherever the entry stands: two rows with
the same entries in another order have the same keys and the same operands under them.

A key names a column if it is the column with blanks around it (`NamesColumn`); that is what an insert takes it for.
-/
namespace SqlToolkit
open Text Outcome

/-! ## Keys are there once -/

/-- Putting entries one after the other keeps the keys apart. -/
theorem Document.nodup_keys_foldl {done : List (String × Document)} (h : (done.map Prod.fst).Nodup)
    (entries : List (String × Document)) :
    ((entries.foldl (fun done entry => put entry.1 entry.2 done) done).map Prod.fst).Nodup := by
  induction entries generalizing done with
  | nil => exact h
  | cons entry entries ih =>
    refine ih ?_
    rw [keys_put]
    split
    · exact h
    · next hnew => simpa using List.Nodup.concat hnew h

namespace RowData

/-- Row data as they can be made: from nothing, by setting operands, or from the entries of a record. -/
inductive Built : RowData → Prop
  | empty : Built {}
  | set {r : RowData} (key : String) (operand : Operand) : Built r → Built (r.set key operand)
  | document {entries : List (String × Document)} {r : RowData} : ofDocument (.ofEntries entries) = .ok r → Built r

/-- The row of a record has the keys of the record. -/
theorem keys_ofDocument {entries : List (String × Document)} {r : RowData}
    (h : ofDocument (.record entries) = .ok r) : r.keys = entries.map Prod.fst := by
  unfold ofDocument at h
  obtain ⟨entries', hentries, h⟩ := bind_eq_ok.1 h
  obtain rfl : entries = entries' := Except.ok.inj hentries
  obtain ⟨operands, hoperands, h⟩ := bind_eq_ok.1 h
  obtain rfl := pure_eq_ok.1 h
  have hkeys : List.Forall₂ (fun entry operand => operand.1 = entry.1) entries operands := by
    refine (mapM_eq_ok_iff.1 hoperands).imp fun entry operand hentry => ?_
    split at hentry
    · cases hentry
      rfl
    · obtain ⟨_, -, hentry⟩ := bind_eq_ok.1 hentry
      obtain rfl := pure_eq_ok.1 hentry
      rfl
  have hmap := List.forall₂_map_left_iff.2 (List.forall₂_map_right_iff.2 hkeys.flip)
  rwa [List.forall₂_eq_eq_eq] at hmap

/-- **Every key of row data is there once.** -/
theorem Built.nodup_keys {r : RowData} (h : r.Built) : r.keys.Nodup := by
  induction h with
  | empty => exact List.nodup_nil
  | @set r key operand _ ih =>
    show ((put key operand r.entries).map Prod.fst).Nodup
    rw [RowData.keys_put]
    split
    · exact ih
    · next hnew => simpa using List.Nodup.concat hnew ih
  | document h =>
    have hempty : (([] : List (String × Document)).map Prod.fst).Nodup := List.nodup_nil
    rw [keys_ofDocument h]
    exact Document.nodup_keys_foldl hempty _

/-- Where keys are apart, what a row holds under a key does not depend on the place. -/
theorem get?_eq_some_iff {r : RowData} (hkeys : r.keys.Nodup) {key : String} {operand : Operand} :
    r.get? key = some operand ↔ (key, operand) ∈ r.entries := by
  constructor
  · intro h
    obtain ⟨before, after, hentries, -⟩ := List.lookup_eq_some_iff.1 h
    simp [hentries]
  · intro h
    obtain ⟨before, after, hentries⟩ := List.append_of_mem h
    refine List.lookup_eq_some_iff.2 ⟨before, after, hentries, fun entry hentry => ?_⟩
    unfold keys at hkeys
    rw [hentries, List.map_append, List.map_cons] at hkeys
    -- no entry before this one has its key, so it is the one that is found
    have hapart := List.nodup_append.1 hkeys
    have hne := hapart.2.2 entry.1 (List.mem_map_of_mem hentry) key List.mem_cons_self
    simpa using hne.symm

/-- Both rows have the same keys. -/
def Matches (r s : RowData) : Prop := ∀ key, key ∈ r.keys ↔ key ∈ s.keys

theorem sameKeys_iff {r s : RowData} (hr : r.keys.Nodup) (hs : s.keys.Nodup) : r.sameKeys s = true ↔ r.Matches s := by
  simp only [sameKeys, Bool.and_eq_true, List.all_eq_true, List.contains_iff_mem, beq_iff_eq]
  constructor
  · rintro ⟨⟨hrs, hsr⟩, -⟩ key
    exact ⟨hrs key, hsr key⟩
  · intro h
    -- keys that are apart are as many on both sides
    refine ⟨⟨fun key => (h key).1, fun key => (h key).2⟩, ?_⟩
    have hlength := ((List.perm_ext_iff_of_nodup hr hs).2 h).length_eq
    simpa [keys] using hlength

section Rearranged
variable {r s : RowData}

/-- The same entries in another order give the same keys, as often. -/
theorem keys_perm (h : r.entries.Perm s.entries) : r.keys.Perm s.keys := h.map Prod.fst

theorem get?_perm (hr : r.keys.Nodup) (h : r.entries.Perm s.entries) (key : String) : r.get? key = s.get? key := by
  have hs : s.keys.Nodup := (keys_perm h).nodup_iff.1 hr
  refine Option.ext fun operand => ?_
  rw [get?_eq_some_iff hr, get?_eq_some_iff hs, h.mem_iff]

end Rearranged

/-- Keys that a row has give one operand each. -/
theorem forall₂_filterMap_get? {r : RowData} (hr : r.keys.Nodup) {names : List String}
    (h : ∀ key ∈ names, key ∈ r.keys) :
    List.Forall₂ (fun key operand => (key, operand) ∈ r.entries) names (names.filterMap r.get?) := by
  induction names with
  | nil => exact .nil
  | cons key names ih =>
    obtain ⟨hkey, hnames⟩ := List.forall_mem_cons.1 h
    obtain ⟨⟨_, operand⟩, hentry, rfl⟩ := List.mem_map.1 hkey
    rw [List.filterMap_cons_some ((get?_eq_some_iff hr).2 hentry)]
    exact .cons hentry (ih hnames)

end RowData

/-! ## Keys that name columns -/

/-- The key is the column with blanks around it. -/
def NamesColumn (key column : String) : Prop := KeyShape key.toList column.toList none

/-- The column of a key is known from the key. -/
theorem KeyShape.column_eq {key column other : String} {text text' : Option (List Char)}
    (h : KeyShape key.toList column.toList text) (hother : KeyShape key.toList other.toList text') :
    column = other := by
  have hsplit := splitKey_eq_ok_iff.2 ⟨text, h, rfl⟩
  rw [splitKey_eq_ok_iff.2 ⟨text', hother, rfl⟩] at hsplit
  exact (congrArg Prod.fst (Except.ok.inj hsplit)).symm

theorem KeyShape.validateColumn_eq {key column : String} {text : Option (List Char)}
    (h : KeyShape key.toList column.toList text) : validateColumn column = .ok column :=
  validateColumn_eq_ok.2 ⟨rfl, isColumn_iff.2 h.isColumnName⟩

/-- **An insert takes a key for a column** exactly when the key names it. -/
theorem Statement.insertColumn_eq_ok_iff {key column : String} :
    insertColumn key = .ok column ↔ NamesColumn key column := by
  constructor
  · intro h
    obtain ⟨⟨name, operator⟩, hsplit, h⟩ := bind_eq_ok.1 h
    obtain ⟨text, hshape, rfl⟩ := splitKey_eq_ok_iff.1 hsplit
    cases text with
    | none =>
      obtain ⟨rfl, -⟩ := validateColumn_eq_ok.1 h
      exact hshape
    | some text => cases h
  · intro h
    exact bind_eq_ok.2 ⟨(column, none), splitKey_eq_ok_iff.2 ⟨none, h, rfl⟩, h.validateColumn_eq⟩

/-- A key that names no column is reported. -/
theorem Statement.insertColumn_eq_error {key : String} {cause : CompileError} (h : insertColumn key = .error cause) :
    cause = .invalidKey key := by
  unfold insertColumn at h
  cases hsplit : splitKey key with
  | error _ =>
    rw [hsplit] at h
    cases h
    exact splitKey_eq_error hsplit
  | ok parts =>
    obtain ⟨column, operator⟩ := parts
    obtain ⟨text, hshape, rfl⟩ := splitKey_eq_ok_iff.1 hsplit
    rw [hsplit] at h
    cases text with
    | none =>
      have hcolumn : validateColumn column = .error cause := h
      rw [hshape.validateColumn_eq] at hcolumn
      cases hcolumn
    | some text =>
      cases h
      rfl

end SqlToolkit
