import Scaffold.Snippets.Placement

namespace Scaffold
namespace Snippets

/-!
# Snippets for the server

Route registration, dependency injection, migration list and permission tree of a model.
-/

/-! ## Routes -/

/-- A route that every handler serves. -/
structure Route where
  method : String
  verb : String
  path : String
  action : String

/-- The routes of a handler, each with the permission action that it requires. -/
def crudRoutes : List Route := [
  ⟨"GetList", "GET", "", "list"⟩,
  ⟨"GetByID", "GET", "/:id", "list"⟩,
  ⟨"Create", "POST", "", "create"⟩,
  ⟨"Update", "PUT", "/:id", "update"⟩,
  ⟨"Delete", "DELETE", "/:id", "delete"⟩]

/-- The registration of one route. -/
def routeLine (names : Names) (route : Route) : String :=
  "\t\t" ++ names.lowerCamel ++ "Group." ++ route.verb ++ "(\"" ++ route.path
    ++ "\", middleware.RequirePermission(\"system." ++ names.permissionRoot ++ ":" ++ route.action
    ++ "\"), handlers." ++ names.handler ++ "." ++ route.method ++ ")"

/-- The registration of a model's routes. -/
def routes (names : Names) : List Snippet :=
  let content := paragraph (
    ["\t// " ++ names.display ++ " routes",
      "\t" ++ names.lowerCamel ++ "Group := router.Group(\"" ++ names.routePath ++ "\")",
      "\t\x7b"]
    ++ crudRoutes.map (routeLine names)
    ++ ["\t\x7d"])
  let placement : Placement := {
    category := "routes"
    targetFile := names.area.directory ++ "/routes/routes.go"
    marker? := some "routes"
    insertionPoint := "before the // <<<FORGE:INSERT routes>>> marker in the route registration function"
    description := "Register the " ++ names.display ++ " CRUD routes"
    priority := 1 }
  [placement.toSnippet names content]

/-! ## Dependency injection -/

/-- The constructors of a model's layers and the field of its handler. -/
def wire (names : Names) : List Snippet :=
  let providers := paragraph [
    "\t// " ++ names.display,
    "\trepository.New" ++ names.model ++ "Repository,",
    "\tservice.New" ++ names.model ++ "Service,",
    "\thandler.New" ++ names.model ++ "Handler,"]
  let handlerField := "\t" ++ names.handler ++ " *" ++ names.handler
  let provider : Placement := {
    category := "wire_provider"
    targetFile := names.area.directory ++ "/wire.go"
    marker? := some "providers"
    insertionPoint := "inside the wire.NewSet provider list, before the providers marker"
    description := "Register the " ++ names.display ++ " repository, service and handler constructors"
    priority := 1 }
  let aggregate : Placement := {
    category := "wire_handler"
    targetFile := names.area.directory ++ "/handler/handlers.go"
    marker? := some "handlers"
    insertionPoint := "inside the Handlers struct, before the handlers marker"
    description := "Expose " ++ names.handler ++ " on the handler aggregate"
    priority := 2 }
  [provider.toSnippet names providers, aggregate.toSnippet names handlerField]

/-! ## Migration -/

/-- The entry of a model in the migration list. -/
def migration (names : Names) : List Snippet :=
  let placement : Placement := {
    category := "migration"
    targetFile := names.area.directory ++ "/initializer/migrations.go"
    marker? := some "models"
    insertionPoint := "in the AutoMigrate model list, before the models marker"
    description := "Migrate the " ++ names.table ++ " table"
    priority := 1 }
  [placement.toSnippet names ("\t\t&models." ++ names.model ++ "\x7b\x7d, // " ++ names.table)]

/-! ## Permissions -/

/-- The permission actions, each with the word that names it to users. -/
def permissionActions : List (String × String) := [
  ("list", "View"), ("create", "Create"), ("update", "Edit"), ("delete", "Delete")]

/-- The permission that stands for a whole model. -/
def permissionModule (names : Names) : String :=
  "system." ++ names.permissionRoot

/-- The definition of one action. -/
def permissionLine (names : Names) (action : String × String) : String :=
  "\t\x7bCode: \"" ++ permissionModule names ++ ":" ++ action.1 ++ "\", Name: \"" ++ action.2 ++ " "
    ++ names.display ++ "\", Parent: \"" ++ permissionModule names ++ "\", Type: \"action\", APIs: \""
    ++ names.apiBase ++ "\"\x7d,"

/-- The permissions of a model: one node for the model and one for each action. -/
def permission (names : Names) : List Snippet :=
  let content := paragraph (
    ("\t\x7bCode: \"" ++ permissionModule names ++ "\", Name: \"" ++ names.display
      ++ "\", Parent: \"system\", Type: \"module\"\x7d,")
    :: permissionActions.map (permissionLine names))
  let placement : Placement := {
    category := "permission"
    targetFile := names.area.directory ++ "/definitions/permissions.go"
    marker? := some "permissions"
    insertionPoint := "in the permission definition list, before the permissions marker"
    description := "Define " ++ names.display ++ " permissions"
    priority := 1 }
  [placement.toSnippet names content]

end Snippets
end Scaffold
