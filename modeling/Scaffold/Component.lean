import Scaffold.Text.Blank

namespace Scaffold

/-!
# Components

What can be generated for a model: four layers of files, eight kinds of snippets for files that
people maintain by hand, or all of these together.  Any other name is kept as it was given, so that
it can be reported.
-/

/-- The layers, which are written as files. -/
inductive Layer where
  | model | repository | service | handler
  deriving DecidableEq, Repr, Inhabited

/-- The kinds of snippets. -/
inductive SnippetKind where
  | routes | wire | migration | permission
  | frontendApi | frontendPage | frontendForm | frontendRoute
  deriving DecidableEq, Repr, Inhabited

/-- The kinds of things that are generated one at a time. -/
inductive Kind where
  | layer (layer : Layer)
  | snippet (kind : SnippetKind)
  deriving DecidableEq, Repr, Inhabited

namespace Layer

/-- Every layer, each after those it depends on. -/
def all : List Layer :=
  [model, repository, service, handler]

def name : Layer → String
  | model => "model"
  | repository => "repository"
  | service => "service"
  | handler => "handler"

end Layer

namespace SnippetKind

/-- Every kind of snippet, in the order in which they are produced. -/
def all : List SnippetKind :=
  [routes, wire, migration, permission, frontendApi, frontendPage, frontendForm, frontendRoute]

def name : SnippetKind → String
  | routes => "routes"
  | wire => "wire"
  | migration => "migration"
  | permission => "permission"
  | frontendApi => "frontend_api"
  | frontendPage => "frontend_page"
  | frontendForm => "frontend_form"
  | frontendRoute => "frontend_route"

end SnippetKind

namespace Kind

/-- Every kind: first the layers, then the snippets. -/
def all : List Kind :=
  Layer.all.map layer ++ SnippetKind.all.map snippet

/-- The name of the kind in requests and messages. -/
def name : Kind → String
  | layer l => l.name
  | snippet k => k.name

end Kind

/-- The component that a request names. -/
inductive Component where
  | one (kind : Kind)
  | all
  | unknown (raw : String)
  deriving DecidableEq, Repr

namespace Component

/-- The name under which a component is known; an unknown component keeps the name it was given. -/
def name : Component → String
  | one kind => kind.name
  | all => "all"
  | unknown raw => raw

/-- Whether the name of the component means something. -/
def isKnown : Component → Bool
  | unknown _ => false
  | _ => true

/-- Whether the component produces snippets. -/
def isSnippet : Component → Bool
  | one (.snippet _) => true
  | _ => false

/-- Whether the component produces files and nothing else. -/
def isLayer : Component → Bool
  | one (.layer _) => true
  | _ => false

/-- The component that is one layer. -/
def ofLayer (layer : Layer) : Component :=
  one (.layer layer)

/-- The component that is one kind of snippet. -/
def ofSnippet (kind : SnippetKind) : Component :=
  one (.snippet kind)

/-- The accepted spellings, all in small letters with `_`. -/
def spellings : List (String × Component) := [
  ("model", ofLayer .model), ("repository", ofLayer .repository), ("service", ofLayer .service),
  ("handler", ofLayer .handler),
  ("routes", ofSnippet .routes), ("route", ofSnippet .routes), ("wire", ofSnippet .wire),
  ("migration", ofSnippet .migration), ("permission", ofSnippet .permission),
  ("frontend_api", ofSnippet .frontendApi), ("frontendapi", ofSnippet .frontendApi),
  ("frontend_page", ofSnippet .frontendPage), ("frontendpage", ofSnippet .frontendPage),
  ("frontend_form", ofSnippet .frontendForm), ("frontendform", ofSnippet .frontendForm),
  ("frontend_route", ofSnippet .frontendRoute), ("frontendroute", ofSnippet .frontendRoute),
  ("all", all)]

/-- The spelling under which a name is looked up: outer blanks, case and the choice of `-` or `_`
are free. -/
def canonical (raw : String) : String :=
  String.ofList ((Text.trim raw.toList).map (fun c => if c == '-' then '_' else c.toLower))

/-- The component that a name stands for. -/
def ofName (raw : String) : Component :=
  (spellings.lookup (canonical raw)).getD (unknown raw)

end Component
end Scaffold
