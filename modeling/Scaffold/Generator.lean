import Scaffold.History.Ledger
import Scaffold.Registry.Basic
import Scaffold.Response
import Scaffold.Validation

namespace Scaffold

/-!
# Generating

A request that passes validation is handed to the stage of its component, and what was written is
recorded in the history.  A request for everything goes to all stages, layers first; a stage that
fails is reported and the others still run.  Every failure ends up in the response.
-/

/-- All that a generation needs besides the request. -/
structure Generator where
  registry : Registry
  workshop : Workshop
  ledger : Ledger

/-- What the stages of a request for everything have produced. -/
structure Harvest where
  files : List String := []
  snippets : List Snippet := []
  errors : List String := []
  /-- The layers that were written. -/
  written : List Component := []
  deriving DecidableEq, Repr, Inhabited

namespace Generator

/-- Runs the stage of a component that writes files. -/
def writeFiles (generator : Generator) (request : Request) (component : Component) : Job (List String) := do
  let stage ← Job.ofExcept (generator.registry.get component)
  let work ← Job.ofExcept stage.fileWork
  work generator.workshop request

/-- Runs the stage of a component that produces snippets. -/
def produceSnippets (generator : Generator) (request : Request) (component : Component) :
    Except Fault (List Snippet) := do
  let stage ← generator.registry.get component
  let work ← stage.snippetWork
  work (generator.workshop.blueprint request component)

/-- Records a generation and says whether that worked. -/
def record (generator : Generator) (request : Request) (components : List Component) (files : List String) :
    StateM World Bool := do
  let outcome ← Job.outcome (generator.ledger.add generator.workshop.now request components files)
  return outcome.toBool

/-- The messages of a fault of one stage of many. -/
def stageErrors (component : Component) (fault : Fault) : List String :=
  fault.messages.map (fun message => component.name ++ ": " ++ message)

/-- Runs the stages of layers one after the other. -/
def harvestLayers (generator : Generator) (request : Request) (harvest : Harvest) :
    List Layer → StateM World Harvest
  | [] => return harvest
  | layer :: rest => do
    let component := Component.ofLayer layer
    match ← Job.outcome (generator.writeFiles (request.forComponent component) component) with
    | .ok files =>
      harvestLayers generator request
        { harvest with files := harvest.files ++ files, written := harvest.written ++ [component] } rest
    | .error fault =>
      harvestLayers generator request { harvest with errors := harvest.errors ++ stageErrors component fault } rest

/-- Adds what the stage of one kind of snippets produces. -/
def harvestSnippet (generator : Generator) (request : Request) (harvest : Harvest) (kind : SnippetKind) : Harvest :=
  let component := Component.ofSnippet kind
  match generator.produceSnippets (request.forComponent component) component with
  | .ok snippets => { harvest with snippets := harvest.snippets ++ snippets }
  | .error fault => { harvest with errors := harvest.errors ++ stageErrors component fault }

/-- The message about what all stages together have produced. -/
def harvestMessage (harvest : Harvest) : String :=
  "generated " ++ toString harvest.files.length ++ " file(s) and " ++
    toString harvest.snippets.length ++ " snippet(s)"
    ++ (if harvest.errors.isEmpty then "" else " with " ++ toString harvest.errors.length ++ " error(s)")

/-- Runs all stages. -/
def generateAll (generator : Generator) (request : Request) : StateM World Response := do
  let layers ← generator.harvestLayers request {} Layer.all
  let harvest := SnippetKind.all.foldl (generator.harvestSnippet request) layers
  let historyUpdated ←
    if harvest.files.isEmpty then pure false else generator.record request harvest.written harvest.files
  return {
    success := harvest.errors.isEmpty
    files := harvest.files
    snippets := harvest.snippets
    message := harvestMessage harvest
    historyUpdated := historyUpdated
    errors := harvest.errors }

/-- The response to a stage that failed. -/
def stageFailure (component : Component) (fault : Fault) : Response :=
  Response.failure (component.name ++ " generation failed") fault.messages

/-- Runs the stage of one component that produces snippets. -/
def generateSnippets (generator : Generator) (request : Request) : Response :=
  match generator.produceSnippets request request.component with
  | .ok snippets =>
    { success := true
      snippets := snippets
      message := "generated " ++ toString snippets.length ++ " snippet(s) for " ++ request.component.name }
  | .error fault => stageFailure request.component fault

/-- Runs the stage of one component that writes files. -/
def generateFiles (generator : Generator) (request : Request) : StateM World Response := do
  match ← Job.outcome (generator.writeFiles request request.component) with
  | .ok files =>
    let historyUpdated ← generator.record request [request.component] files
    return {
      success := true
      files := files
      message := "generated " ++ toString files.length ++ " file(s) for " ++ request.component.name
      historyUpdated := historyUpdated }
  | .error fault => return stageFailure request.component fault

/-- Answers a request. -/
def generate (generator : Generator) (request : Request) : StateM World Response :=
  let errors := Validation.check request
  if errors.isEmpty then
    match request.component with
    | .all => generator.generateAll request
    | .one (.snippet _) => return generator.generateSnippets request
    | _ => generator.generateFiles request
  else return Response.failure "validation failed" (Fault.validation errors).messages

end Generator
end Scaffold
