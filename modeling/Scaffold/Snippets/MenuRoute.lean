import Scaffold.Snippets.Placement

namespace Scaffold
namespace Snippets

/-!
# The menu route of a model

A route entry of the menu, and the alias by which it names the list page.
-/

/-- The permission mark of one button on the page. -/
def authMark (names : Names) (title action : String) : String :=
  "        \x7b title: '" ++ title ++ "', authMark: 'system." ++ names.permissionRoot ++ ":" ++ action ++ "' \x7d"

/-- The route entry. -/
def routeEntry (names : Names) : String :=
  paragraph [
    "  \x7b",
    "    path: '/" ++ names.kebab ++ "',",
    "    name: '" ++ names.model ++ "',",
    "    component: RoutesAlias." ++ names.model ++ ",",
    "    meta: \x7b",
    "      title: '" ++ names.display ++ "',",
    "      keepAlive: true,",
    "      authList: [",
    authMark names "Create" "create" ++ ",",
    authMark names "Edit" "update" ++ ",",
    authMark names "Delete" "delete",
    "      ]",
    "    \x7d",
    "  \x7d,"]

/-- The alias of the list page. -/
def routeAlias (names : Names) : String :=
  "  " ++ names.model ++ " = '/" ++ names.kebab ++ "/index', // " ++ names.display

/-- The menu route of a model and its alias. -/
def frontendRoute (names : Names) : List Snippet :=
  let entry : Placement := {
    category := "frontend_route_config"
    targetFile := "web/src/router/routes/asyncRoutes.ts"
    marker? := some "async-routes"
    insertionPoint := "at the end of the asyncRoutes array, for " ++ names.display
    description := "Add the menu route to asyncRoutes"
    priority := 1 }
  let pageAlias : Placement := {
    category := "frontend_route_alias"
    targetFile := "web/src/router/routesAlias.ts"
    marker? := some "routes-alias"
    insertionPoint := "inside the RoutesAlias enum, for " ++ names.display
    description := "Add the view alias to RoutesAlias"
    priority := 2 }
  [entry.toSnippet names (routeEntry names), pageAlias.toSnippet names (routeAlias names)]

end Snippets
end Scaffold
