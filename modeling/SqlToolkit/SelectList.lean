import SqlToolkit.Document
import SqlToolkit.Target

/-!
# Select lists

What a query selects is everything, a verbatim list, a list of column references, or references and raw SQL under
aliases.  A reference may be marked: `@column` selects distinct values, `column(alias)` gives the column an alias.
Aliased entries may be grouped under keys; the keys only group, and the entries are selected in order as if they
stood side by side.
-/
namespace SqlToolkit
open Text

/-- What an aliased entry selects. -/
inductive ColumnSource where
  /-- A column reference, marks allowed. -/
  | column (reference : String)
  | raw (sql : RawSql)
  /-- Further aliased entries. -/
  | nested (entries : List (String × ColumnSource))
deriving Inhabited

/-- What a query selects. -/
inductive SelectList where
  | all
  /-- A list that is written as it is. -/
  | verbatim (text : String)
  | references (columns : List String)
  | aliased (entries : List (String × ColumnSource))
deriving Inhabited

/-- One item of a select list. -/
inductive SelectItem where
  /-- Text that is written as it is. -/
  | token (text : String)
  | column (name : String) (asName : Option String) (distinct : Bool)
  | raw (sql : RawSql) (asName : String)
deriving DecidableEq, Repr, Inhabited

namespace SelectItem

/-- A reference without its mark for distinct values, and whether it has one. -/
def readMark (cs : List Char) : Bool × List Char :=
  match skipBlanks cs with
  | '@' :: rest => (true, skipBlanks rest)
  | rest => (false, rest)

/-- The item of a column reference; any other text is written as it is, without the blanks around it. -/
def parse (reference : String) : SelectItem :=
  let (distinct, body) := readMark reference.toList
  match readColumn body with
  | some (name, rest) =>
    match readAliasEnd rest with
    | some asName => column (String.ofList name) (asName.map String.ofList) distinct
    | none => token (trim reference)
  | none => token (trim reference)

/-- The item with its mark spelled out and its alias in parentheses. -/
def label : SelectItem → String
  | token text => text
  | column name asName distinct =>
    (if distinct then "DISTINCT " else "") ++ name ++
      match asName with
      | some a => "(" ++ a ++ ")"
      | none => ""
  | raw sql asName => sql.text ++ "(" ++ asName ++ ")"

/-- The item in a statement. -/
def render (t : Target) : SelectItem → String
  | token text => text
  | column name asName distinct =>
    (if distinct then "DISTINCT " else "") ++ name ++
      match asName with
      | some a => " AS " ++ a
      | none => ""
  | raw sql asName => t.renderRaw sql ++ " AS " ++ asName

/-- The item under an alias.  Everything cannot have one. -/
def withAlias (asName : String) : SelectItem → SelectItem
  | column name _ distinct => column name (some asName) distinct
  | token text => if text = "*" then token text else raw ⟨text⟩ asName
  | raw sql given => raw sql given

/-- The item selects everything. -/
def isWildcard : SelectItem → Bool
  | token text => text == "*"
  | _ => false

end SelectItem

namespace SelectList

/-- The item that selects everything. -/
def wildcard : List SelectItem := [.token "*"]

/-- The item of a reference under an alias; a reference that is its own alias stays as it is. -/
def aliasedItem (asName reference : String) : SelectItem :=
  if trim reference = asName then SelectItem.parse reference else (SelectItem.parse reference).withAlias asName

mutual

/-- The items of one aliased entry. -/
def flattenSource (asName : String) : ColumnSource → List SelectItem
  | .column reference => [aliasedItem asName reference]
  | .raw sql => [.raw sql asName]
  | .nested entries => flatten entries

/-- The items of aliased entries, in order, whatever keys they are grouped under. -/
def flatten : List (String × ColumnSource) → List SelectItem
  | [] => []
  | (asName, source) :: rest => flattenSource asName source ++ flatten rest

end

/-- Items, unless there are none or one of them selects everything. -/
def orWildcard (items : List SelectItem) : List SelectItem :=
  if items.isEmpty || items.any SelectItem.isWildcard then wildcard else items

/-- The items of a select list, in order. -/
def items : SelectList → List SelectItem
  | all => wildcard
  | verbatim text => [.token text]
  | references columns => orWildcard (columns.map SelectItem.parse)
  | aliased entries => orWildcard (flatten entries)

/-- The select list as labels. -/
def resolve (s : SelectList) : String := ", ".intercalate (s.items.map SelectItem.label)

/-- The select list in a statement. -/
def render (s : SelectList) (t : Target) : String := ", ".intercalate (s.items.map (SelectItem.render t))

/-! ### Building -/

/-- The select list of a text: everything for a star, else the text as it is. -/
def ofText (text : String) : SelectList := if trim text = "*" then all else verbatim text

/-- Adds an aliased entry; a select list of another kind is replaced. -/
def add (s : SelectList) (asName : String) (source : ColumnSource) : SelectList :=
  match s with
  | aliased entries => aliased (entries ++ [(asName, source)])
  | _ => aliased [(asName, source)]

/-- The entries that a select list contributes under a key; each reference is its own alias. -/
def entries : SelectList → List (String × ColumnSource)
  | aliased entries => entries
  | references columns => columns.map fun c => (c, .column c)
  | _ => []

/-- Adds a select list under a key. -/
def addNested (s : SelectList) (key : String) (nested : SelectList) : SelectList :=
  s.add key (.nested nested.entries)

/-- The references of a list, which must be texts. -/
def textsOr (cause : CompileError) (items : List Document) : Except CompileError (List String) :=
  items.mapM fun item =>
    match item.asText with
    | some s => .ok s
    | none => .error cause

mutual

/-- The source of an aliased entry. -/
def sourceOf (asName : String) : Document → Except CompileError ColumnSource
  | .text reference => .ok (.column reference)
  | .record entries => do
    let nested ← entriesOf entries
    return .nested nested
  | .list items => do
    let columns ← textsOr (.invalidInput ("column list for '" ++ asName ++ "' must contain only strings")) items
    return .nested (columns.map fun c => (c, .column c))
  | _ => .error (.invalidInput ("column source for '" ++ asName ++ "' must be a string, a list or an object"))

/-- The aliased entries of a record. -/
def entriesOf : List (String × Document) → Except CompileError (List (String × ColumnSource))
  | [] => .ok []
  | (asName, content) :: rest => do
    let source ← sourceOf asName content
    let others ← entriesOf rest
    return (asName, source) :: others

end

/-- The select list of a document: a text, a list of texts, or a record of aliased entries. -/
def ofDocument : Document → Except CompileError SelectList
  | .text s => .ok (ofText s)
  | .list items => do
    let columns ← textsOr (.invalidInput "column list entries must be strings") items
    return references columns
  | .record entries => do
    let entries ← entriesOf entries
    return aliased entries
  | _ => .error (.invalidInput "columns must be \"*\", a string, a list or an object")

end SelectList
end SqlToolkit
