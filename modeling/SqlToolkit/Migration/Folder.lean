import SqlToolkit.Calendar
import SqlToolkit.Migration.Registry

/-!
# Folders of scripts

Scripted migrations are kept in a folder as `name.up.sql` and `name.down.sql`; the second may be missing, the first
may not.  Files without the last ending are none of our business, and any other file with it is refused.  What is
found does not depend on the order in which the folder lists its files, except which of several refused files is
named.  New files are named for the moment of their creation, so they sort after all earlier ones.
-/
namespace SqlToolkit

/-- What a name in a folder stands for. -/
inductive FolderEntry where
  | file (text : String)
  | folder
deriving DecidableEq, Repr, Inhabited

/-- A folder and what it lists, in any order; there may be no such folder. -/
structure Folder where
  path : String
  entries : Option (List (String × FolderEntry)) := none
deriving DecidableEq, Repr, Inhabited

/-- The text of an entry, which must be a file. -/
def FolderEntry.read : FolderEntry → Except MigrationError String
  | file text => .ok text
  | folder => .error (.files "Is a directory (os error 21)")

namespace Folder
variable {σ : Type}

/-- The path of a name in the folder. -/
def pathOf (f : Folder) (name : String) : String := f.path ++ "/" ++ name

/-- The name is taken. -/
def has (f : Folder) (name : String) : Bool := (f.entries.getD []).any fun e => e.1 = name

/-! ### Names -/

/-- How the name of a file counts. -/
inductive FileKind where
  | up (name : String)
  | down (name : String)
  /-- A script without a proper name. -/
  | stray
  | ignored
deriving DecidableEq, Repr

def scriptEnding : String := ".sql"
def upEnding : String := ".up.sql"
def downEnding : String := ".down.sql"

/-- A name without an ending; nothing must not be left. -/
def stem? (ending name : String) : Option String :=
  let cs := name.toList
  if ending.toList.isSuffixOf cs && ending.length < cs.length then
    some (String.ofList (cs.take (cs.length - ending.length)))
  else none

/-- The kind of a file, by its name. -/
def kind (name : String) : FileKind :=
  match stem? upEnding name, stem? downEnding name with
  | some n, _ => .up n
  | none, some n => .down n
  | none, none => if scriptEnding.toList.isSuffixOf name.toList then .stray else .ignored

example : kind "0001_a.up.sql" = .up "0001_a" := by decide +kernel
example : kind "a.up.down.sql" = .down "a.up" := by decide +kernel
example : kind ".up.sql" = .stray ∧ kind "up.sql" = .stray ∧ kind "a.up.sql.bak" = .ignored := by decide +kernel

/-! ### Reading a folder -/

/-- Entries in the order of their names. -/
def sorted (entries : List (String × FolderEntry)) : List (String × FolderEntry) :=
  entries.mergeSort fun a b => decide (a.1 ≤ b.1)

/-- The entries of a kind, under the names of their migrations. -/
def selected (name? : FileKind → Option String) (entries : List (String × FolderEntry)) :
    List (String × FolderEntry) :=
  sorted (entries.filterMap fun e => (name? (kind e.1)).map fun name => (name, e.2))

def FileKind.up? : FileKind → Option String
  | up name => some name
  | _ => none

def FileKind.down? : FileKind → Option String
  | down name => some name
  | _ => none

/-- The scripts of the folder, in the order of their names. -/
def scripts (f : Folder) : Except MigrationError (List ScriptedMigration) := do
  let some entries := f.entries
    | throw (.folderNotFound f.path)
  if let some stray := entries.find? fun e => kind e.1 = .stray then
    throw (.invalidFileName (f.pathOf stray.1))
  let ups := selected FileKind.up? entries
  let downs := selected FileKind.down? entries
  if let some orphan := downs.find? fun d => !ups.any fun u => u.1 = d.1 then
    throw (.invalidFileName (f.pathOf (orphan.1 ++ downEnding)))
  ups.mapM fun u => do
    let up ← u.2.read
    let down ← (downs.lookup u.1).mapM FolderEntry.read
    return { name := u.1, up, down }

/-- The migrations of the folder. -/
def migrations (f : Folder) : Except MigrationError (Registry σ) := do
  let scripts ← f.scripts
  Registry.ofList (scripts.map Migration.ofScripts)

/-! ### New files -/

/-- A change of a folder that may fail part of the way. -/
abbrev Edit (α : Type) := ExceptT MigrationError (StateM Folder) α

/-- The most bytes that a name may have. -/
def longestName : Nat := 255

/-- Makes the folder if there is none. -/
def make : Edit Unit := modify fun f => { f with entries := some (f.entries.getD []) }

/-- Writes a file, in place of one of the same name. -/
def write (name text : String) : Edit Unit := do
  if longestName < name.utf8ByteSize then
    throw (.files "File name too long (os error 36)")
  modify fun f =>
    { f with entries := some ((f.entries.getD []).filter (fun e => e.1 ≠ name) ++ [(name, .file text)]) }

/-- Small letters, digits and underscores. -/
def isNameChar (c : Char) : Bool := c.isLower || c.isDigit || c = '_'

/-- Writes a pair of scripts without statements, named for a moment, and answers with the names of the files. -/
def createScripts (name : String) (now : Moment) : Edit (String × String) := do
  if name.isEmpty || !name.toList.all isNameChar then
    throw (.invalidFileName name)
  let stem := now.stamp ++ "_" ++ name
  let up := stem ++ upEnding
  let down := stem ++ downEnding
  let f ← get
  if let some taken := [up, down].find? f.has then
    throw (.fileExists (f.pathOf taken))
  make
  write up ("-- " ++ stem ++ ": apply\n")
  write down ("-- " ++ stem ++ ": revert\n")
  return (up, down)

end Folder
end SqlToolkit
