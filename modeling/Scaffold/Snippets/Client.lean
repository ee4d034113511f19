import Scaffold.Snippets.Placement

namespace Scaffold
namespace Snippets

/-!
# The client of a model

A TypeScript module with the types of a model and one function for each call.
-/

/-- The comment of a field at the end of its line. -/
def trailingComment (field : FieldView) : String :=
  if field.cleanComment.isEmpty then "" else " // " ++ field.cleanComment

/-- The interface of a stored model. -/
def infoInterface (blueprint : Blueprint) : String :=
  block (
    ["export interface " ++ blueprint.names.model ++ "Info \x7b", "  id: number"]
    ++ blueprint.fields.map (fun field =>
      "  " ++ field.tsName ++ ": " ++ field.tsType ++ trailingComment field)
    ++ ["  created_at: string", "  updated_at: string", "\x7d", ""])

/-- The interface of a call's body; `mark` follows each property. -/
def bodyInterface (blueprint : Blueprint) (suffix mark : String) : String :=
  block (
    ["export interface " ++ blueprint.names.model ++ suffix ++ " \x7b"]
    ++ blueprint.fields.map (fun field => "  " ++ field.tsName ++ mark ++ ": " ++ field.tsType)
    ++ ["\x7d", ""])

/-- The interfaces of paged listing. -/
def pagingInterfaces (model : String) : String :=
  block [
    "export interface " ++ model ++ "ListParams \x7b", "  page?: number", "  page_size?: number",
    "  [key: string]: unknown", "\x7d", "",
    "export interface " ++ model ++ "ListData \x7b", "  list: " ++ model ++ "Info[]", "  total: number",
    "  page: number", "  page_size: number", "\x7d", ""]

/-- The functions of the module. -/
def clientFunctions (model api : String) : String :=
  paragraph [
    "export function get" ++ model ++ "List(params: " ++ model ++ "ListParams) \x7b",
    "  return request.get<" ++ model ++ "ListData>(\x7b url: '" ++ api ++ "', params \x7d)", "\x7d", "",
    "export function get" ++ model ++ "ById(id: number) \x7b",
    "  return request.get<" ++ model ++ "Info>(\x7b url: \x60" ++ api ++ "/$\x7bid\x7d\x60 \x7d)", "\x7d", "",
    "export function create" ++ model ++ "(data: " ++ model ++ "CreateRequest) \x7b",
    "  return request.post<" ++ model ++ "Info>(\x7b url: '" ++ api ++ "', data \x7d)", "\x7d", "",
    "export function update" ++ model ++ "(id: number, data: " ++ model ++ "UpdateRequest) \x7b",
    "  return request.put<" ++ model ++ "Info>(\x7b url: \x60" ++ api ++ "/$\x7bid\x7d\x60, data \x7d)", "\x7d", "",
    "export function delete" ++ model ++ "(id: number) \x7b",
    "  return request.del(\x7b url: \x60" ++ api ++ "/$\x7bid\x7d\x60 \x7d)", "\x7d"]

/-- The client module of a model. -/
def frontendApi (blueprint : Blueprint) : List Snippet :=
  let names := blueprint.names
  let content :=
    block ["import request from '@/utils/http'", "", "/** " ++ names.display ++ " */"]
    ++ infoInterface blueprint
    ++ pagingInterfaces names.model
    ++ bodyInterface blueprint "CreateRequest" ""
    ++ bodyInterface blueprint "UpdateRequest" "?"
    ++ clientFunctions names.model names.apiBase
  let placement : Placement := {
    category := "frontend_api"
    targetFile := "web/src/api/" ++ names.kebab ++ ".ts"
    marker? := none
    insertionPoint := "new file"
    description := "API client for " ++ names.display
    priority := 1 }
  [placement.toSnippet names content]

end Snippets
end Scaffold
