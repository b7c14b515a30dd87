import SqlToolkit.Dialect
import SqlToolkit.Document.Reader
import SqlToolkit.Session.Error

/-!
# Session options

Options name the dialect, the database, the beginning of table names, and whether statements are logged.  They can
be read from a document: a record with these four fields, or a list of them in order, of which only the first is
required.  A field may not be given twice; unknown fields are skipped, whatever they hold.
-/
namespace SqlToolkit

/-- How to open a session. -/
structure Options where
  /-- The tag of the dialect. -/
  dialectTag : String
  database : Option String := none
  tablePrefix : String := ""
  logging : Bool := false
deriving DecidableEq, Repr, Inhabited

namespace Options
open Document

/-- The dialect that the options ask for. -/
def dialect (o : Options) : Except DatabaseError Dialect :=
  (Dialect.ofTag? o.dialectTag).mapError fun cause => .config cause.message

/-- The address of the database that a session opens by itself, which works for one dialect only. -/
def builtInAddress (o : Options) : Except DatabaseError String := do
  let dialect ← o.dialect
  if dialect ≠ .sqlite then
    throw (.config ("no bundled driver for " ++ dialect.tag ++ ", use Database::with_driver"))
  match o.database with
  | some address => return address
  | none => throw (.config "sqlite requires a database")

/-! ### Reading -/

/-- Options of which some fields are not yet known. -/
structure Draft where
  dialectTag : Option String := none
  database : Option (Option String) := none
  tablePrefix : Option String := none
  logging : Option Bool := none

/-- The fields of options. -/
inductive Field where
  | dialectTag
  | database
  | tablePrefix
  | logging
deriving DecidableEq, Repr

/-- The fields in the order of a list. -/
def Field.all : List Field := [.dialectTag, .database, .tablePrefix, .logging]

/-- The field of a key. -/
def Field.ofKey? : String → Option Field
  | "type" => some .dialectTag
  | "database" => some .database
  | "prefix" => some .tablePrefix
  | "logging" => some .logging
  | _ => none

/-- Sets a field that is not set yet; only the database may be null. -/
def Draft.set? (d : Draft) (field : Field) (content : Document) : Option Draft :=
  match field, content with
  | .dialectTag, .text s => if d.dialectTag.isSome then none else some { d with dialectTag := some s }
  | .database, .text s => if d.database.isSome then none else some { d with database := some (some s) }
  | .database, .null => if d.database.isSome then none else some { d with database := some none }
  | .tablePrefix, .text s => if d.tablePrefix.isSome then none else some { d with tablePrefix := some s }
  | .logging, .bool b => if d.logging.isSome then none else some { d with logging := some b }
  | _, _ => none

/-- The options of a draft, which needs a dialect. -/
def Draft.finish? (d : Draft) : Option Options :=
  d.dialectTag.map fun tag => ⟨tag, d.database.join, d.tablePrefix.getD "", d.logging.getD false⟩

/-- The key at the front of a text, up to its colon. -/
def readKey? (cs : List Char) : Option (String × List Char) :=
  match skipSeparators cs with
  | '"' :: rest =>
    match readTextBody? .refused (rest.length + 1) rest with
    | some (key, after) =>
      match skipSeparators after with
      | ':' :: content => some (String.ofList key, content)
      | _ => none
    | none => none
  | _ => none

/-- The fields of a record up to its closing brace, taken into a draft. -/
def readFields? (d : Draft) : Nat → List Char → Option (Draft × List Char)
  | 0, _ => none
  | fuel + 1, cs =>
    match readKey? cs with
    | none => none
    | some (key, content) =>
      let step : Option (Draft × List Char) :=
        match Field.ofKey? key with
        | some field =>
          match readValue? .refused (2 * content.length + 2) content with
          | some (value, rest) => (d.set? field value).map fun d => (d, rest)
          | none => none
        | none => (readValue? .replaced (2 * content.length + 2) content).map fun r => (d, r.2)
      match step with
      | none => none
      | some (d, rest) =>
        match skipSeparators rest with
        | ',' :: more => readFields? d fuel more
        | '\x7d' :: after => some (d, after)
        | _ => none

/-- The draft of a list of fields, of which trailing ones may be missing. -/
def ofItems? (items : List Document) : Option Draft :=
  if items.length ≤ Field.all.length then
    (Field.all.zip items).foldlM (fun (d : Draft) entry => d.set? entry.1 entry.2) {}
  else none

/-- The draft of a whole text. -/
def readDraft? (cs : List Char) : Option Draft :=
  let complete (r : Draft × List Char) : Option Draft := if (skipSeparators r.2).isEmpty then some r.1 else none
  match skipSeparators cs with
  | '\x7b' :: rest =>
    match skipSeparators rest with
    | '\x7d' :: after => complete ({}, after)
    | more => (readFields? {} (more.length + 1) more).bind complete
  | '[' :: rest =>
    match readValue? .refused (2 * rest.length + 4) ('[' :: rest) with
    | some (.list items, after) => (ofItems? items).bind fun d => complete (d, after)
    | _ => none
  | _ => none

/-- The options of a text, whose dialect must be known. -/
def read (text : String) : Except DatabaseError Options :=
  match (readDraft? text.toList).bind Draft.finish? with
  | none => .error (.config "malformed options")
  | some options => do
    let _ ← options.dialect
    return options

example : (read "[\"MySQL\", null, \"p_\"]").toOption = some ⟨"MySQL", none, "p_", false⟩ := by decide +kernel

end Options
end SqlToolkit
