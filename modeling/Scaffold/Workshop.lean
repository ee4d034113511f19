import Scaffold.Layer.Outputs
import Scaffold.Template.Engine
import Scaffold.Writer

namespace Scaffold

/-!
# Writing a layer

The files of a layer are written together: nothing is written before every file is known to be free
and every template has been rendered, and when a write fails, the files that came into being before
it are removed.
-/

/-- What a layer is written with. -/
structure Workshop where
  writer : Writer
  toolbox : Toolbox
  /-- The path under which the generated Go code imports itself. -/
  moduleName : String
  /-- The directory of the project's templates. -/
  templates : String
  /-- The directory of the bundled templates. -/
  bundled : String
  now : Instant
  /-- What renders the templates. -/
  engine : Template.Engine := .standard

/-- An output and the directory from which its template is taken. -/
structure Target where
  output : Output
  directory : String
  deriving DecidableEq, Repr, Inhabited

namespace Workshop

/-- The blueprint of a component for a request. -/
def blueprint (workshop : Workshop) (request : Request) (component : Component) : Blueprint :=
  Blueprint.build workshop.moduleName workshop.now request component

/-- Fails at the first target that must not be replaced. -/
def checkConflicts (workshop : Workshop) (options : Options) : List Target → Job Unit
  | [] => return ()
  | target :: rest => do
    workshop.writer.checkConflict target.output.path options
    checkConflicts workshop options rest

/-- The text of each target, with its path; `held` are the sources that were loaded for the targets
before. -/
def renderAll (engine : Template.Engine) (data : Json.Value) (held : Template.Sources) :
    List Target → Job (List (String × String))
  | [] => return []
  | target :: rest => do
    let name := target.output.template
    let held ← engine.load held target.directory name
    let text ← engine.print held name data
    let others ← renderAll engine data held rest
    return (target.output.path, text) :: others

/-- Removes files that a failed job has created. -/
def removeCreated (workshop : Workshop) (created : List String) : Job Unit :=
  modify (fun world =>
    { world with
      tree := created.foldl (fun tree path => (tree.removeFile (workshop.writer.resolve path)).tree) world.tree })

/-- Writes files in their order; `created` are those that earlier writes have brought into being. -/
def writeFrom (workshop : Workshop) (options : Options) (created : List String) :
    List (String × String) → Job (List String)
  | [] => return []
  | (path, text) :: rest => do
    let existed := (← Job.tree).pathExists (workshop.writer.resolve path)
    let written ←
      tryCatch (workshop.writer.write workshop.toolbox path text options)
        (fun fault => do
          workshop.removeCreated created
          throw fault)
    let others ← writeFrom workshop options (if existed then created else created ++ [path]) rest
    return written :: others

/-- Renders targets and writes them, and gives the paths that were written. -/
def renderAndWrite (workshop : Workshop) (options : Options) (data : Json.Value) (targets : List Target) :
    Job (List String) := do
  workshop.checkConflicts options targets
  let texts ← renderAll workshop.engine data [] targets
  workshop.writeFrom options [] texts

end Workshop

namespace Layer

/-- The directory of the templates of a layer.  Only the model has the bundled ones to fall back
to. -/
def templateHome (layer : Layer) (workshop : Workshop) : Job String :=
  match layer with
  | model => Template.homeOf workshop.templates workshop.bundled "model.go"
  | _ => return workshop.templates

/-- Writes the files of a layer for a request. -/
def generate (layer : Layer) (workshop : Workshop) (request : Request) : Job (List String) := do
  let blueprint := workshop.blueprint request (Component.ofLayer layer)
  let directory ← layer.templateHome workshop
  let targets := (layer.outputs blueprint.names).map (fun output => { output, directory : Target })
  workshop.renderAndWrite request.options blueprint.encode targets

end Layer
end Scaffold
