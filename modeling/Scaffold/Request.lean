import Scaffold.Component
import Scaffold.Json.Decode
import Scaffold.Naming.Case
import Scaffold.Naming.Plural

namespace Scaffold

/-!
# Requests

A request names a component, a model and the model's fields.  Requests are exchanged as JSON; keys
are written in camel case and read in several spellings.
-/

/-- One attribute of a model, as the user declares it. -/
structure Field where
  name : String
  logicalType : String
  storageTag : String := ""
  serializationTag : String := ""
  validationRule : String := ""
  comment : String := ""
  deriving DecidableEq, Repr, Inhabited

namespace Field

/-- The key of the field in JSON: the declared one, or the field's name in snake case. -/
def serializationKey (field : Field) : String :=
  let tag := Text.trimmed field.serializationTag
  if tag.isEmpty then Naming.snakeCase field.name else tag

end Field

/-- How files are written. -/
structure Options where
  overwriteExisting : Bool := false
  formatCode : Bool := true
  optimizeImports : Bool := true
  deriving DecidableEq, Repr, Inhabited

/-- What to generate. -/
structure Request where
  component : Component
  modelName : String
  displayName : Option String := none
  fields : List Field := []
  tableName : Option String := none
  packagePath : String := ""
  options : Options := {}
  deriving DecidableEq, Repr

namespace Request

/-- The same request for another component. -/
def forComponent (request : Request) (component : Component) : Request :=
  { request with component }

/-- A text that was given and is not blank, without outer white space. -/
def given? (text : Option String) : Option String :=
  (text.map Text.trimmed).filter (fun s => !s.isEmpty)

/-- The given table name, or the plural of the model name in snake case. -/
def resolvedTableName (request : Request) : String :=
  (given? request.tableName).getD (Naming.plural (Naming.snakeCase request.modelName))

/-- The name shown to users: the given one, or the model name. -/
def resolvedDisplayName (request : Request) : String :=
  (given? request.displayName).getD request.modelName

end Request

/-! ## JSON -/

open Json

namespace Field

/-- The columns of a field. -/
def layout : Layout where
  title := "FieldDefinition"
  columns := [
    .required "name" [] Decode.string,
    .required "logicalType" ["type", "logical_type"] Decode.string,
    .defaulted "storageTag" ["gorm_tag", "storage_tag"] Decode.string,
    .defaulted "serializationTag" ["json_tag", "serialization_tag"] Decode.string,
    .defaulted "validationRule" ["validate", "validation_rule"] Decode.string,
    .defaulted "comment" [] Decode.string]

def decode : Decoder Field := fun reading => do
  let row ← layout.row reading
  return {
    name := ← row.get "name" Decode.string ""
    logicalType := ← row.get "logicalType" Decode.string ""
    storageTag := ← row.get "storageTag" Decode.string ""
    serializationTag := ← row.get "serializationTag" Decode.string ""
    validationRule := ← row.get "validationRule" Decode.string ""
    comment := ← row.get "comment" Decode.string "" }

def encode (field : Field) : Value :=
  .object [
    ("name", .string field.name), ("logicalType", .string field.logicalType),
    ("storageTag", .string field.storageTag), ("serializationTag", .string field.serializationTag),
    ("validationRule", .string field.validationRule), ("comment", .string field.comment)]

end Field

namespace Options

/-- The columns of the options. -/
def layout : Layout where
  title := "GenerateOptions"
  columns := [
    .defaulted "overwriteExisting" ["overwrite_existing"] Decode.bool,
    .defaulted "formatCode" ["format_code"] Decode.bool,
    .defaulted "optimizeImports" ["optimize_imports"] Decode.bool]

def decode : Decoder Options := fun reading => do
  let row ← layout.row reading
  return {
    overwriteExisting := ← row.get "overwriteExisting" Decode.bool false
    formatCode := ← row.get "formatCode" Decode.bool true
    optimizeImports := ← row.get "optimizeImports" Decode.bool true }

def encode (options : Options) : Value :=
  .object [
    ("overwriteExisting", .bool options.overwriteExisting), ("formatCode", .bool options.formatCode),
    ("optimizeImports", .bool options.optimizeImports)]

end Options

namespace Component

/-- A component is decoded from any string. -/
def decode : Decoder Component := fun reading =>
  (Decode.string reading).map ofName

end Component

namespace Request

/-- The columns of a request. -/
def layout : Layout where
  title := "GenerateRequest"
  columns := [
    .required "componentType" ["component_type"] Component.decode,
    .required "modelName" ["model_name"] Decode.string,
    .defaulted "displayName" ["model_name_cn", "display_name"] (Decode.optional Decode.string),
    .defaulted "fields" [] (Decode.list Field.decode),
    .defaulted "tableName" ["table_name"] (Decode.optional Decode.string),
    .defaulted "packagePath" ["package_path"] Decode.string,
    .defaulted "options" [] Options.decode]

def decode : Decoder Request := fun reading => do
  let row ← layout.row reading
  return {
    component := ← row.get "componentType" Component.decode (.unknown "")
    modelName := ← row.get "modelName" Decode.string ""
    displayName := ← row.get "displayName" (Decode.optional Decode.string) none
    fields := ← row.get "fields" (Decode.list Field.decode) []
    tableName := ← row.get "tableName" (Decode.optional Decode.string) none
    packagePath := ← row.get "packagePath" Decode.string ""
    options := ← row.get "options" Options.decode {} }

def encode (request : Request) : Value :=
  .object [
    ("componentType", .string request.component.name), ("modelName", .string request.modelName),
    ("displayName", .optional request.displayName), ("fields", .array (request.fields.map Field.encode)),
    ("tableName", .optional request.tableName), ("packagePath", .string request.packagePath),
    ("options", request.options.encode)]

/-- The request that a JSON text holds. -/
def parse (text : String) : Except DecodeFault Request :=
  decodeText decode text

end Request
end Scaffold
