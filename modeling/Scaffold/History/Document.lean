import Scaffold.Json.Decode

namespace Scaffold

/-!
# The history of generations

The history holds one record for each module, which says what was generated last and into which
files.  It is kept as a JSON document.
-/

/-- What the last generation of one module produced. -/
structure Record where
  moduleName : String
  generatedAt : Instant
  components : List String
  modelName : String
  tableName : String := ""
  packagePath : String := ""
  generatedBy : String := ""
  generatedFiles : List String := []
  deriving DecidableEq, Repr, Inhabited

/-- The whole history, with the version of its format. -/
structure History where
  version : String := "1.0.0"
  records : List Record := []
  deriving DecidableEq, Repr, Inhabited

namespace Record

open Json

/-- What the program calls itself in the records that it writes. -/
def producer : String := "crudforge"

/-- Whether the record is the one of a module in a package. -/
def isFor (record : Record) (moduleName packagePath : String) : Bool :=
  record.moduleName == moduleName && record.packagePath == packagePath

/-- The columns of a record. -/
def layout : Layout where
  title := "GenerateHistory"
  columns := [
    .required "moduleName" [] Decode.string,
    .required "generatedAt" [] Decode.instant,
    .required "components" [] (Decode.list Decode.string),
    .required "modelName" [] Decode.string,
    .defaulted "tableName" [] Decode.string,
    .defaulted "packagePath" [] Decode.string,
    .defaulted "generatedBy" [] Decode.string,
    .defaulted "generatedFiles" [] (Decode.list Decode.string)]

def decode : Decoder Record := fun reading => do
  let row ← layout.row reading
  return {
    moduleName := ← row.get "moduleName" Decode.string ""
    generatedAt := ← row.get "generatedAt" Decode.instant default
    components := ← row.get "components" (Decode.list Decode.string) []
    modelName := ← row.get "modelName" Decode.string ""
    tableName := ← row.get "tableName" Decode.string ""
    packagePath := ← row.get "packagePath" Decode.string ""
    generatedBy := ← row.get "generatedBy" Decode.string ""
    generatedFiles := ← row.get "generatedFiles" (Decode.list Decode.string) [] }

def encode (record : Record) : Value :=
  .object [
    ("moduleName", .string record.moduleName), ("generatedAt", .string record.generatedAt.zuluText),
    ("components", .strings record.components), ("modelName", .string record.modelName),
    ("tableName", .string record.tableName), ("packagePath", .string record.packagePath),
    ("generatedBy", .string record.generatedBy), ("generatedFiles", .strings record.generatedFiles)]

end Record

namespace History

open Json

/-- The columns of a history. -/
def layout : Layout where
  title := "HistoryFile"
  columns := [
    .required "version" [] Decode.string,
    .defaulted "history" [] (Decode.list Record.decode)]

def decode : Decoder History := fun reading => do
  let row ← layout.row reading
  return {
    version := ← row.get "version" Decode.string ""
    records := ← row.get "history" (Decode.list Record.decode) [] }

def encode (history : History) : Value :=
  .object [("version", .string history.version), ("history", .array (history.records.map Record.encode))]

/-- The history that a text holds. -/
def parse (text : String) : Except DecodeFault History :=
  decodeText decode text

/-- The text that a history is kept as. -/
def text (history : History) : String :=
  history.encode.prettyText

/-! ## Records by key -/

/-- Puts a record in the place of the one with the same module and package, or behind all others. -/
def putRecord (record : Record) : List Record → List Record
  | [] => [record]
  | old :: rest =>
    if old.isFor record.moduleName record.packagePath then record :: rest else old :: putRecord record rest

/-- The history with a record added. -/
def add (history : History) (record : Record) : History :=
  { history with records := putRecord record history.records }

/-- The first record of a module. -/
def find? (history : History) (moduleName : String) : Option Record :=
  history.records.find? (fun record => record.moduleName == moduleName)

/-- The history without the first record of a module. -/
def drop (history : History) (moduleName : String) : History :=
  { history with records := history.records.eraseP (fun record => record.moduleName == moduleName) }

end History
end Scaffold
