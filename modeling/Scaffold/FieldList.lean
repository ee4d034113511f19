import Scaffold.Fault
import Scaffold.Request
import Scaffold.Text.Search

namespace Scaffold

/-!
# Lists of fields on one line

Fields are written `name:type` or `name:type:comment`, with commas between them.  A comment may hold
colons, and it may hold commas as well: what follows a comma still belongs to the comment, unless it
begins another field.
-/

namespace FieldList

/-- A letter or `_` of ASCII, with which the name of a field begins. -/
def beginsName (c : Char) : Bool :=
  c.isAlpha || c == '_'

/-- A letter, a digit or `_` of ASCII. -/
def continuesName (c : Char) : Bool :=
  c.isAlphanum || c == '_'

/-- Whether a segment begins a field: a plain name and a colon come first. -/
def startsEntry (segment : List Char) : Bool :=
  match Text.cutBefore? [':'] (Text.trimStart segment) with
  | none => false
  | some (before, _) =>
    match Text.trimEnd before with
    | [] => false
    | c :: rest => beginsName c && (c :: rest).all continuesName

/-- Whether an entry has come to its comment. -/
def hasComment (entry : List Char) : Bool :=
  2 ≤ entry.count ':'

/-- Puts segments together to entries; `entry` is the one that may still grow. -/
def gather (entry : List Char) : List (List Char) → List (List Char)
  | [] => [entry]
  | segment :: rest =>
    if !startsEntry segment && hasComment entry then gather (entry ++ ',' :: segment) rest
    else entry :: gather segment rest

/-- The entries of a text, one for each field. -/
def entries (text : List Char) : List (List Char) :=
  match Text.pieces (· == ',') text with
  | [] => []
  | first :: rest => gather first rest

/-- The parts of an entry: up to its first colon, up to its second, and the rest. -/
def parts (entry : List Char) : List Char × List Char × List Char :=
  let (name, behind) := (entry.takeWhile (· != ':'), (entry.dropWhile (· != ':')).drop 1)
  (name, behind.takeWhile (· != ':'), (behind.dropWhile (· != ':')).drop 1)

/-- The field that an entry stands for; it needs a name and a type. -/
def readEntry (entry : List Char) : Except Fault Field :=
  let (name, logicalType, comment) := parts entry
  let name := Text.trim name
  let logicalType := Text.trim logicalType
  if name.isEmpty || logicalType.isEmpty then
    .error (.configuration ("invalid field '" ++ String.ofList entry ++ "', expected name:type[:comment]"))
  else .ok {
    name := String.ofList name
    logicalType := String.ofList logicalType
    comment := String.ofList (Text.trim comment) }

/-- `readEntry` on each entry; the first fault counts. -/
def readEntries : List (List Char) → Except Fault (List Field)
  | [] => .ok []
  | entry :: rest => do
    let field ← readEntry entry
    let others ← readEntries rest
    return field :: others

/-- The fields that a text lists.  Entries without any text are passed over. -/
def parse (text : String) : Except Fault (List Field) :=
  readEntries (((entries text.toList).map Text.trim).filter (fun entry => !entry.isEmpty))

/-- The entry of a field. -/
def entryText (field : Field) : List Char :=
  field.name.toList ++ ':' :: field.logicalType.toList
    ++ (if field.comment.isEmpty then [] else ':' :: field.comment.toList)

/-- The text that lists the fields. -/
def render (fields : List Field) : String :=
  String.ofList (Text.joinWith [','] (fields.map entryText))

end FieldList
end Scaffold
