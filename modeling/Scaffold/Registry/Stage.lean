import Scaffold.Snippets.Client
import Scaffold.Snippets.Dialog
import Scaffold.Snippets.MenuRoute
import Scaffold.Snippets.Server
import Scaffold.Workshop

namespace Scaffold

/-!
# Stages

A stage does the work for one component: it writes files or it produces snippets.
-/

namespace SnippetKind

open Snippets in
/-- The snippets of one kind for a blueprint. -/
def produce (kind : SnippetKind) (blueprint : Blueprint) : List Snippet :=
  match kind with
  | routes => Snippets.routes blueprint.names
  | wire => Snippets.wire blueprint.names
  | migration => Snippets.migration blueprint.names
  | permission => Snippets.permission blueprint.names
  | frontendApi => Snippets.frontendApi blueprint
  | frontendPage => Snippets.frontendPage blueprint
  | frontendForm => Snippets.frontendForm blueprint
  | frontendRoute => Snippets.frontendRoute blueprint.names

end SnippetKind
/-- What a stage says that it can do. -/
structure Capabilities where
  writesFiles : Bool
  emitsSnippets : Bool
  deriving DecidableEq, Repr, Inhabited

/-- A way to write files for a request; it gives their paths. -/
abbrev FileWork := Workshop → Request → Job (List String)

/-- A way to produce snippets from a blueprint. -/
abbrev SnippetWork := Blueprint → Except Fault (List Snippet)

/-- The work of a stage. -/
inductive Work where
  | files (run : FileWork)
  | snippets (run : SnippetWork)

/-- The work for one component. -/
structure Stage where
  component : Component
  capabilities : Capabilities
  work : Work

namespace Stage

/-- The stage that writes the files of a layer. -/
def ofLayer (layer : Layer) : Stage where
  component := Component.ofLayer layer
  capabilities := { writesFiles := true, emitsSnippets := false }
  work := .files layer.generate

/-- The stage that produces the snippets of one kind. -/
def ofSnippet (kind : SnippetKind) : Stage where
  component := Component.ofSnippet kind
  capabilities := { writesFiles := false, emitsSnippets := true }
  work := .snippets (fun blueprint => .ok (kind.produce blueprint))

/-- The stage of a kind. -/
def ofKind : Kind → Stage
  | .layer layer => ofLayer layer
  | .snippet kind => ofSnippet kind

/-- The fault of a component that something cannot be done for. -/
def lacks (component : Component) (operation : String) : Fault :=
  .unsupported component.name operation

/-- The file work of a stage that has it and says so. -/
def fileWork (stage : Stage) : Except Fault FileWork :=
  match stage.work with
  | .files run =>
    if stage.capabilities.writesFiles then .ok run else .error (lacks stage.component "file generation")
  | .snippets _ => .error (lacks stage.component "file generation")

/-- The snippet work of a stage that has it and says so. -/
def snippetWork (stage : Stage) : Except Fault SnippetWork :=
  match stage.work with
  | .snippets run =>
    if stage.capabilities.emitsSnippets then .ok run else .error (lacks stage.component "snippet generation")
  | .files _ => .error (lacks stage.component "snippet generation")

end Stage
end Scaffold
