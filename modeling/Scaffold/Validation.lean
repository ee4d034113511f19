import Scaffold.Fault
import Scaffold.Naming.Identifier
import Scaffold.Request

namespace Scaffold
namespace Validation

/-!
# Validation of requests

Every check runs, whatever the others found, and the problems are listed in the order of the checks:
component, model name, fields, table name.

A field is judged against the fields before it.  What it is compared with is kept in a `Ledger`: the
names seen so far, and for each exported identifier the first field that has it.
-/

def maxModelNameLength : Nat := 50
def maxFields : Nat := 50
def maxTableNameLength : Nat := 64

/-- The problem with `message`, when `condition` holds. -/
def problem (condition : Bool) (field message : String) : FieldErrors :=
  if condition then [⟨field, message⟩] else []

/-- Problems with the component. -/
def checkComponent (component : Component) : FieldErrors :=
  problem (!component.isKnown) "componentType" ("unknown component type '" ++ component.name ++ "'")

/-- Problems that a name has as an identifier. -/
def checkSpelling (field name : String) : FieldErrors :=
  problem (!Naming.isIdentifier name) field ("'" ++ name ++ "' is not a valid identifier")
    ++ problem (Naming.isReserved name) field ("'" ++ name ++ "' is a reserved word")

/-- Problems with the model name; an empty one has no other. -/
def checkModelName (name : String) : FieldErrors :=
  if name.isEmpty then [⟨"modelName", "must not be empty"⟩]
  else
    problem (maxModelNameLength < name.length) "modelName" "must be at most 50 characters"
      ++ checkSpelling "modelName" name
      ++ problem (!name.toList.head?.any Naming.isCapital) "modelName" "must start with an uppercase letter"

/-- What later fields are compared with. -/
structure Ledger where
  names : List String := []
  /-- Each exported identifier with the index of the first field that has it. -/
  identifiers : List (String × Nat) := []

/-- Problems with the name of the field at `index`, and the ledger after it. -/
def checkFieldName (ledger : Ledger) (index : Nat) (name : String) : FieldErrors × Ledger :=
  let key := "fields[" ++ toString index ++ "].name"
  if name.isEmpty then ([⟨key, "must not be empty"⟩], ledger)
  else
    let spelling := checkSpelling key name
    if ledger.names.contains name then
      (spelling ++ [⟨key, "duplicate field name '" ++ name ++ "'"⟩], ledger)
    else
      let names := ledger.names ++ [name]
      let identifier := Naming.sanitize name
      match ledger.identifiers.lookup identifier with
      | some first =>
        (spelling ++ [⟨key, "'" ++ name ++ "' renders as '" ++ identifier ++ "', same as fields["
          ++ toString first ++ "]"⟩], { ledger with names })
      | none => (spelling, { names, identifiers := ledger.identifiers ++ [(identifier, index)] })

/-- Problems with the logical type of the field at `index`. -/
def checkFieldType (index : Nat) (logicalType : String) : FieldErrors :=
  problem (Text.blank logicalType) ("fields[" ++ toString index ++ "].logicalType") "must not be empty"

/-- Problems with the fields from `index` on. -/
def checkFieldsFrom (ledger : Ledger) (index : Nat) : List Field → FieldErrors
  | [] => []
  | field :: rest =>
    let (errors, ledger) := checkFieldName ledger index field.name
    errors ++ checkFieldType index field.logicalType ++ checkFieldsFrom ledger (index + 1) rest

/-- Problems with the fields. -/
def checkFields (fields : List Field) : FieldErrors :=
  if fields.isEmpty then [⟨"fields", "at least one field is required"⟩]
  else
    problem (maxFields < fields.length) "fields" "at most 50 fields are allowed"
      ++ checkFieldsFrom {} 0 fields

/-- A character that a table name may hold. -/
def isTableChar (c : Char) : Bool :=
  Naming.isSmall c || c.isDigit || c == '_'

/-- Problems with a table name. -/
def checkTableName (name : String) : FieldErrors :=
  problem (maxTableNameLength < name.utf8ByteSize) "tableName" "must be at most 64 characters"
    ++ problem (!name.toList.all isTableChar) "tableName"
      "may only contain lowercase letters, digits and underscores"

/-- All problems of a request. -/
def check (request : Request) : FieldErrors :=
  checkComponent request.component ++ checkModelName request.modelName ++ checkFields request.fields
    ++ (match request.tableName with
      | some name => if name.isEmpty then [] else checkTableName name
      | none => [])

end Validation
end Scaffold
