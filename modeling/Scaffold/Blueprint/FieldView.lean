import Scaffold.FieldType
import Scaffold.Naming.Comment
import Scaffold.Naming.Identifier
import Scaffold.Request

namespace Scaffold

/-!
# Fields as generated code shows them
-/

/-- One field with everything that files and snippets need to know of it. -/
structure FieldView where
  /-- The exported identifier in Go. -/
  name : String
  sourceName : String
  logicalType : String
  goType : String
  tsType : String
  tsName : String
  temporal : Bool
  jsonKey : String
  storageTag : String
  validationRule : String
  required : Bool
  comment : String
  cleanComment : String
  label : String
  isStatus : Bool
  deriving DecidableEq, Repr, Inhabited

namespace FieldView

/-- The view of a declared field. -/
def ofField (field : Field) : FieldView :=
  let mapped := FieldType.goType field.logicalType
  let name := Naming.sanitize field.name
  let cleanComment := Naming.cleanComment field.comment
  { name
    sourceName := field.name
    logicalType := field.logicalType
    goType := mapped.target
    tsType := FieldType.typeScript field.logicalType
    tsName := Naming.lowerCamelCase name
    temporal := mapped.temporal
    jsonKey := field.serializationKey
    storageTag := Text.trimmed field.storageTag
    validationRule := Text.trimmed field.validationRule
    required := Text.contains field.validationRule "required"
    comment := field.comment
    cleanComment
    label := Naming.displayLabel cleanComment name
    isStatus := FieldType.isStatus field.name field.logicalType }

open Json in
/-- The field as templates see it. -/
def encode (view : FieldView) : Value :=
  .object [
    ("name", .string view.name), ("source_name", .string view.sourceName),
    ("logical_type", .string view.logicalType), ("go_type", .string view.goType), ("ts_type", .string view.tsType),
    ("ts_name", .string view.tsName), ("temporal", .bool view.temporal), ("json_key", .string view.jsonKey),
    ("storage_tag", .string view.storageTag), ("validation_rule", .string view.validationRule),
    ("required", .bool view.required), ("comment", .string view.comment),
    ("clean_comment", .string view.cleanComment), ("label", .string view.label),
    ("is_status", .bool view.isStatus)]

end FieldView
end Scaffold
