import Scaffold.Blueprint.Basic

namespace Scaffold

/-!
# Files of a layer

A layer is written as one or two files, each rendered from a template of its own.
-/

/-- A file to be written: its path relative to the output root, and the name of its template. -/
structure Output where
  path : String
  template : String
  deriving DecidableEq, Repr, Inhabited

namespace Layer

/-- The path of a Go file. -/
def goFile (directory stem : String) : String :=
  directory ++ "/" ++ stem ++ ".go"

/-- The files of the layer in the order in which they are written.  Models are shared by all
areas. -/
def outputs (layer : Layer) (names : Names) : List Output :=
  let area := names.area.directory
  match layer with
  | model => [⟨goFile "internal/shared/models" names.snake, "model.go"⟩]
  | repository => [⟨goFile (area ++ "/repository") names.snake, "repository.go"⟩]
  | service => [⟨goFile (area ++ "/service") names.snake, "service.go"⟩]
  | handler => [
    ⟨goFile (area ++ "/handler") names.snake, "handler.go"⟩,
    ⟨goFile (area ++ "/types") (names.snake ++ "_types"), "handler_types.go"⟩]

end Layer
end Scaffold
