import Scaffold.Text.Blank
import Scaffold.Text.CaseMap
import Scaffold.Text.Search

namespace Scaffold

/-!
# Types of model fields

A field is declared with a logical type such as `decimal`.  It becomes a Go type in the generated
structs and, through that Go type, a TypeScript type in the generated client.  A logical type that
already is a qualified or pointer type of Go stands for itself.
-/

/-- A Go type, and whether a file that mentions it has to import the package `time`. -/
structure GoType where
  target : String
  temporal : Bool
  deriving DecidableEq, Repr

namespace FieldType

/-- The integer types, which have the same name in Go. -/
def integerTypes : List String := [
  "int", "int8", "int16", "int32", "int64", "uint", "uint8", "uint16", "uint32", "uint64"]

/-- The Go type of a logical type given in lower case; unknown types are stored as text. -/
def keyword (name : String) : String :=
  if ["time", "date", "datetime", "timestamp"].contains name then "*time.Time"
  else if ["decimal", "float64"].contains name then "float64"
  else if name == "float32" then "float32"
  else if ["bool", "boolean"].contains name then "bool"
  else if integerTypes.contains name then name
  else "string"

/-- Whether a Go type mentions the type `time.Time`. -/
def mentionsTime (target : String) : Bool :=
  Text.contains target "time.Time"

/-- The Go type that a logical type becomes. -/
def goType (logical : String) : GoType :=
  let name := Text.trimmed logical
  if name.toList.contains '*' || name.toList.contains '.' then
    { target := name, temporal := mentionsTime name }
  else
    let target := keyword (Text.lower name)
    { target, temporal := mentionsTime target }

/-- A Go type without the stars that make it a pointer. -/
def pointee (target : String) : String :=
  String.ofList (target.toList.dropWhile (· == '*'))

/-- The TypeScript type of a Go type. -/
def typeScriptOf (target : String) : String :=
  let base := pointee target
  if base == "string" || base == "time.Time" then "string"
  else if base == "float32" || base == "float64" then "number"
  else if base == "bool" then "boolean"
  else if integerTypes.contains base then "number"
  else "any"

/-- The TypeScript type of a logical type. -/
def typeScript (logical : String) : String :=
  typeScriptOf (goType logical).target

/-- Names of fields that hold a status flag. -/
def statusNames : List String :=
  ["status", "state", "enabled", "active"]

/-- Whether a Go type can hold a flag. -/
def holdsFlag (target : String) : Bool :=
  let base := pointee target
  base == "bool" || integerTypes.contains base

/-- Whether a field is a status flag: it is named like one and holds an integer or a truth value. -/
def isStatus (name logical : String) : Bool :=
  statusNames.contains (Text.lower name) && holdsFlag (goType logical).target

end FieldType
end Scaffold
