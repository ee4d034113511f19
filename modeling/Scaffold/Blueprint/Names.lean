import Scaffold.Blueprint.Area
import Scaffold.Request

namespace Scaffold

/-!
# Names of a model

Every name that is derived from a model is derived once, so that the files and snippets generated
for the model agree on it.
-/

/-- The names derived from a request. -/
structure Names where
  model : String
  display : String
  lowerCamel : String
  snake : String
  kebab : String
  pluralKebab : String
  table : String
  area : Area
  repository : String
  repositoryImpl : String
  service : String
  serviceImpl : String
  handler : String
  handlerField : String
  createRequest : String
  updateRequest : String
  listRequest : String
  response : String
  routePath : String
  apiBase : String
  permissionRoot : String
  deriving DecidableEq, Repr, Inhabited

namespace Names

/-- The text with `-` for every `_`. -/
def hyphenated (s : String) : String :=
  String.ofList (s.toList.map (fun c => if c == '_' then '-' else c))

/-- The names of the model that a request describes. -/
def ofRequest (request : Request) : Names :=
  let model := request.modelName
  let lowerCamel := Naming.lowerCamelCase model
  let snake := Naming.snakeCase model
  let kebab := Naming.kebabCase model
  { model
    display := request.resolvedDisplayName
    lowerCamel
    snake
    kebab
    pluralKebab := hyphenated (Naming.plural snake)
    table := request.resolvedTableName
    area := Area.ofPackagePath request.packagePath
    repository := model ++ "Repository"
    repositoryImpl := lowerCamel ++ "RepositoryImpl"
    service := model ++ "Service"
    serviceImpl := model ++ "ServiceImpl"
    handler := model ++ "Handler"
    handlerField := lowerCamel ++ "Handler"
    createRequest := model ++ "CreateRequest"
    updateRequest := model ++ "UpdateRequest"
    listRequest := model ++ "ListRequest"
    response := model ++ "Response"
    routePath := "/" ++ kebab
    apiBase := "/admin-api/" ++ kebab
    permissionRoot := snake }

open Json in
/-- The names as templates see them. -/
def encode (names : Names) : Value :=
  .object [
    ("model", .string names.model), ("display", .string names.display), ("lower_camel", .string names.lowerCamel),
    ("snake", .string names.snake), ("kebab", .string names.kebab), ("plural_kebab", .string names.pluralKebab),
    ("table", .string names.table), ("namespace", .string names.area.name),
    ("namespace_dir", .string names.area.directory), ("repository", .string names.repository),
    ("repository_impl", .string names.repositoryImpl), ("service", .string names.service),
    ("service_impl", .string names.serviceImpl), ("handler", .string names.handler),
    ("handler_field", .string names.handlerField), ("create_request", .string names.createRequest),
    ("update_request", .string names.updateRequest), ("list_request", .string names.listRequest),
    ("response", .string names.response), ("route_path", .string names.routePath),
    ("api_base", .string names.apiBase), ("permission_prefix", .string names.permissionRoot)]

end Names
end Scaffold
