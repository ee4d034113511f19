import Scaffold.Instant
import Scaffold.Json.Reader
import Scaffold.Json.Writer
import Scaffold.Text.Quoted

namespace Scaffold
namespace Json

/-!
# Decoding records

A record is decoded from an object, whose keys may come in any order and under any of the accepted
spellings, or from an array that gives the columns in their order.  Members are looked at in the
order in which they are written, so the first fault of the text is the one that is reported.
-/

/-- Why a text does not decode. -/
inductive DecodeFault where
  | flaw (flaw : Flaw)
  | missingField (name : String)
  | duplicateField (name : String)
  | invalidType (found expected : String)
  | invalidValue (found expected : String)
  | invalidLength (length : Nat) (expected : String)
  | invalidTimestamp
  deriving DecidableEq, Repr

namespace DecodeFault

/-- The wording of a fault of content. -/
def message : DecodeFault → String
  | flaw .malformed => "malformed document"
  | flaw .truncated => "truncated document"
  | missingField name => "missing field \x60" ++ name ++ "\x60"
  | duplicateField name => "duplicate field \x60" ++ name ++ "\x60"
  | invalidType found expected => "invalid type: " ++ found ++ ", expected " ++ expected
  | invalidValue found expected => "invalid value: " ++ found ++ ", expected " ++ expected
  | invalidLength length expected => "invalid length " ++ toString length ++ ", expected " ++ expected
  | invalidTimestamp => "invalid timestamp"

end DecodeFault

/-- Reads a value of type `α` out of what was read of a document. -/
abbrev Decoder (α : Type) := Reading → Except DecodeFault α

/-- What a value is called in a message about its type. -/
def Reading.kind : Reading → String
  | null => "null"
  | bool b => "boolean \x60" ++ (if b then "true" else "false") ++ "\x60"
  | integer n => "integer \x60" ++ String.ofList (integerText n) ++ "\x60"
  | float x => "floating point \x60" ++ String.ofList (Decimal.pointed x) ++ "\x60"
  | string s => "string " ++ Text.quoted s
  | array _ _ => "sequence"
  | object _ _ => "map"
  | unreadable => "unreadable literal"
  | broken _ => "flaw"

namespace Decode

/-- The fault of a value that is of another type than the expected one; a literal that stands for no
value is found to be malformed before its type is compared. -/
def mismatch {α : Type} (expected : String) : Reading → Except DecodeFault α
  | .unreadable => .error (.flaw .malformed)
  | .broken flaw => .error (.flaw flaw)
  | reading => .error (.invalidType reading.kind expected)

/-- A string. -/
def string : Decoder String
  | .string s => .ok s
  | reading => mismatch "a string" reading

/-- A truth value. -/
def bool : Decoder Bool
  | .bool b => .ok b
  | reading => mismatch "a boolean" reading

/-- A natural number below `2^32`. -/
def word : Decoder Nat
  | .integer n =>
    if 0 ≤ n && n < Nat.pow 2 32 then .ok n.toNat else .error (.invalidValue (Reading.kind (.integer n)) "u32")
  | reading => mismatch "u32" reading

/-- A point in time. -/
def instant : Decoder Instant
  | .string s =>
    match Instant.parse? s with
    | some t => .ok t
    | none => .error .invalidTimestamp
  | reading => mismatch "an RFC 3339 formatted date and time string" reading

/-- A value that may be null. -/
def optional {α : Type} (decode : Decoder α) : Decoder (Option α)
  | .null => .ok none
  | reading => (decode reading).map some

/-- The items of an array, the first fault winning. -/
def items {α : Type} (decode : Decoder α) : List Reading → Except DecodeFault (List α)
  | [] => .ok []
  | item :: rest => do
    let value ← decode item
    let values ← items decode rest
    return value :: values

/-- An array of values. -/
def list {α : Type} (decode : Decoder α) : Decoder (List α)
  | .array readings flaw => do
    let values ← items decode readings
    match flaw with
    | some flaw => .error (.flaw flaw)
    | none => .ok values
  | reading => mismatch "a sequence" reading

end Decode

/-! ## Records -/

/-- One column of a record: its name, the other spellings of its key, whether it has to be there,
and which values it takes. -/
structure Column where
  name : String
  aliases : List String
  mandatory : Bool
  check : Decoder Unit

namespace Column

/-- A column that has to be there. -/
def required {α : Type} (name : String) (aliases : List String) (decode : Decoder α) : Column :=
  ⟨name, aliases, true, fun reading => (decode reading).map (fun _ => ())⟩

/-- A column that may be left out. -/
def defaulted {α : Type} (name : String) (aliases : List String) (decode : Decoder α) : Column :=
  ⟨name, aliases, false, fun reading => (decode reading).map (fun _ => ())⟩

/-- Whether `key` is a spelling of the column's name. -/
def accepts (column : Column) (key : String) : Bool :=
  key == column.name || column.aliases.contains key

end Column

/-- The columns of a record that were found, each under its name. -/
abbrev Row := List (String × Reading)

/-- The layout of a record. -/
structure Layout where
  title : String
  columns : List Column

namespace Layout

/-- The column that a key names. -/
def column? (layout : Layout) (key : String) : Option Column :=
  layout.columns.find? (fun column => column.accepts key)

/-- Takes the members of an object one by one.  A key that names a column already found is a fault
before its value is looked at; the value under a key that names none may be anything. -/
def takeMembers (layout : Layout) (row : Row) : List (String × Reading) → Except DecodeFault Row
  | [] => .ok row
  | (key, value) :: rest =>
    match layout.column? key with
    | none =>
      match value.flaw? with
      | some flaw => .error (.flaw flaw)
      | none => takeMembers layout row rest
    | some column =>
      if (row.lookup column.name).isSome then .error (.duplicateField column.name)
      else do
        column.check value
        takeMembers layout (row ++ [(column.name, value)]) rest

/-- The first column that had to be there and is not. -/
def missing? (layout : Layout) (row : Row) : Option String :=
  (layout.columns.find? (fun column => column.mandatory && (row.lookup column.name).isNone)).map Column.name

/-- What an array of the record's columns is called. -/
def shape (layout : Layout) : String :=
  "struct " ++ layout.title ++ " with " ++ toString layout.columns.length ++ " elements"

/-- Takes the items of an array, one for each column; `count` columns lie behind. -/
def takeItems (layout : Layout) (flaw : Option Flaw) (count : Nat) :
    List Column → List Reading → Except DecodeFault Row
  | [], [] =>
    match flaw with
    | some flaw => .error (.flaw flaw)
    | none => .ok []
  | [], _ :: _ => .error (.flaw .malformed)
  | column :: columns, [] =>
    match flaw with
    | some flaw => .error (.flaw flaw)
    | none =>
      if column.mandatory then .error (.invalidLength count layout.shape)
      else takeItems layout none (count + 1) columns []
  | column :: columns, item :: items => do
    column.check item
    let row ← takeItems layout flaw (count + 1) columns items
    return (column.name, item) :: row

/-- The columns of a record, all of them checked. -/
def row (layout : Layout) : Decoder Row
  | .object members flaw => do
    let row ← takeMembers layout [] members
    match flaw with
    | some flaw => .error (.flaw flaw)
    | none =>
      match layout.missing? row with
      | some name => .error (.missingField name)
      | none => .ok row
  | .array items flaw => takeItems layout flaw 0 layout.columns items
  | reading => Decode.mismatch ("struct " ++ layout.title) reading

end Layout

/-- The value of a column, or `default` when the record does without it. -/
def Row.get {α : Type} (row : Row) (name : String) (decode : Decoder α) (default : α) : Except DecodeFault α :=
  match row.lookup name with
  | some reading => decode reading
  | none => .ok default

/-- Decodes a whole text, which must hold nothing behind the value. -/
def decodeText {α : Type} (decode : Decoder α) (text : String) : Except DecodeFault α := do
  let document := read text
  let value ← decode document.reading
  if document.trailing then .error (.flaw .malformed) else .ok value

end Json
end Scaffold
