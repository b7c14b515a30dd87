import SqlToolkit.Number.Binary64

/-!
# Ordered documents

A document is the tree in which conditions, rows and select lists may be handed over: scalars, lists and records.
The order of a record's entries is part of its meaning, because conditions and columns are compiled in that order.
A repeated key keeps the place of its first occurrence and the content of its last.
-/
namespace SqlToolkit

/-- A tree of scalars, lists and ordered records. -/
inductive Document where
  | null
  | bool (value : Bool)
  /-- A whole number between the least signed and the largest unsigned 64-bit integer. -/
  | integer (value : Int)
  | float (value : Binary64)
  | text (value : String)
  | list (items : List Document)
  | record (entries : List (String × Document))
deriving Inhabited

namespace Document

/-- The text of a text document. -/
def asText : Document → Option String
  | text value => some value
  | _ => none

/-- The items of a list document. -/
def asList : Document → Option (List Document)
  | list items => some items
  | _ => none

/-- The entries of a record document, in order. -/
def asRecord : Document → Option (List (String × Document))
  | record entries => some entries
  | _ => none

/-- The value of a document that is a whole number without sign. -/
def asNatural : Document → Option Nat
  | integer value => if 0 ≤ value then some value.toNat else none
  | _ => none

/-- Sets the content under a key: in place when the key is present, at the end when it is new. -/
def put (key : String) (content : Document) : List (String × Document) → List (String × Document)
  | [] => [(key, content)]
  | entry :: rest => if entry.1 = key then (key, content) :: rest else entry :: put key content rest

/-- A record whose entries are put in the given order. -/
def ofEntries (entries : List (String × Document)) : Document :=
  record (entries.foldl (fun done entry => put entry.1 entry.2 done) [])

/-- The content under a key. -/
def field? (key : String) : Document → Option Document
  | record entries => entries.lookup key
  | _ => none

/-- Putting a key keeps the keys that are present, in place, and adds a new one at the end. -/
theorem keys_put (key : String) (content : Document) (entries : List (String × Document)) :
    (put key content entries).map Prod.fst =
      if key ∈ entries.map Prod.fst then entries.map Prod.fst else entries.map Prod.fst ++ [key] := by
  induction entries with
  | nil => simp [put]
  | cons entry rest ih =>
    by_cases h : entry.1 = key
    · simp [put, h]
    · have h' : ¬ key = entry.1 := fun e => h e.symm
      simp only [put, h, if_false, List.map_cons, ih, List.mem_cons, h', false_or]
      split <;> simp

end Document
end SqlToolkit
