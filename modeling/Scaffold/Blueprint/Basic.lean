import Scaffold.Blueprint.FieldView
import Scaffold.Blueprint.Names

namespace Scaffold

/-!
# Blueprints

A blueprint is all that the template of one component may refer to.
-/

/-- What a template is rendered with. -/
structure Blueprint where
  component : String
  packageName : String
  moduleName : String
  names : Names
  fields : List FieldView
  generatedAt : Instant
  deriving DecidableEq, Repr, Inhabited

namespace Blueprint

/-- The Go package that a component's code belongs to; components without one have the empty
name. -/
def packageNameOf : Component → String
  | .one (.layer .model) => "models"
  | .one (.layer .repository) => "repository"
  | .one (.layer .service) => "service"
  | .one (.layer .handler) => "handler"
  | .one (.snippet .routes) => "routes"
  | .one (.snippet .migration) => "initializer"
  | .one (.snippet .permission) => "definitions"
  | _ => ""

/-- The blueprint of a component for a request, in a Go module, at a time. -/
def build (moduleName : String) (now : Instant) (request : Request) (component : Component) : Blueprint where
  component := component.name
  packageName := packageNameOf component
  moduleName
  names := Names.ofRequest request
  fields := request.fields.map FieldView.ofField
  generatedAt := now

/-- Whether some field maps to a temporal type. -/
def hasTimeField (blueprint : Blueprint) : Bool :=
  blueprint.fields.any FieldView.temporal

/-- Whether some field is a status flag. -/
def hasStatusField (blueprint : Blueprint) : Bool :=
  blueprint.fields.any FieldView.isStatus

/-- Whether some field has a validation rule. -/
def hasValidation (blueprint : Blueprint) : Bool :=
  blueprint.fields.any (fun field => !field.validationRule.isEmpty)

open Json in
/-- The blueprint as templates see it. -/
def encode (blueprint : Blueprint) : Value :=
  .object [
    ("component", .string blueprint.component), ("package_name", .string blueprint.packageName),
    ("module_name", .string blueprint.moduleName), ("names", blueprint.names.encode),
    ("fields", .array (blueprint.fields.map FieldView.encode)),
    ("has_time_field", .bool blueprint.hasTimeField), ("has_status_field", .bool blueprint.hasStatusField),
    ("has_validation", .bool blueprint.hasValidation),
    ("generated_at", .string blueprint.generatedAt.zuluText)]

end Blueprint
end Scaffold
