import Scaffold.Config.Basic
import Scaffold.Job
import Scaffold.Text.Blank
import Scaffold.Yaml.Reader

namespace Scaffold
namespace Config

/-!
# Configuration files

A configuration file is a YAML table.  Settings that it does not give keep their defaults, and keys
that it gives besides are passed over.
-/

/-- The node under a key, if there is one; a key that is given twice makes the file unreadable. -/
def find? (entries : List (String × Yaml.Node)) (key : String) : Option (Option Yaml.Node) :=
  match entries.filter (fun entry => entry.1 == key) with
  | [] => some none
  | [(_, node)] => some (some node)
  | _ => none

/-- The setting under a key, read by `read`, or its default. -/
def setting {α : Type} (read : Yaml.Node → Option α) (entries : List (String × Yaml.Node)) (key : String)
    (fallback : α) : Option α := do
  match ← find? entries key with
  | some node => read node
  | none => return fallback

/-- The configuration that a document holds. -/
def ofNode? (node : Yaml.Node) : Option Config := do
  let entries ← (← node.entries?).mapM (fun (key, value) => (key.text?).map (fun key => (key, value)))
  let base : Config := {}
  return {
    outputRoot := ← setting Yaml.Node.text? entries "output_root" base.outputRoot
    templatesDir := ← setting Yaml.Node.text? entries "templates_dir" base.templatesDir
    historyFile := ← setting Yaml.Node.text? entries "history_file" base.historyFile
    moduleName := ← setting Yaml.Node.text? entries "module_name" base.moduleName
    formatter := ← setting Yaml.Node.texts? entries "formatter" base.formatter
    importOptimizer := ← setting Yaml.Node.texts? entries "import_optimizer" base.importOptimizer }

/-- The configuration itself, if it can be worked with. -/
def check (config : Config) : Except Fault Config :=
  if Text.blank config.moduleName then .error (.configuration "module_name must not be empty")
  else if config.historyFile.isEmpty then .error (.configuration "history_file must not be empty")
  else .ok config

/-- The configuration that a text holds. -/
def parse (text : String) : Except Fault Config :=
  match (Yaml.parse? text).bind ofNode? with
  | some config => config.check
  | none => .error .yaml

/-! ## Finding the configuration of a project -/

/-- Reads the configuration from a file. -/
def load (path : String) : Job Config := do
  match (← Job.tree).read path with
  | .error e => throw (.fileOperation "read config" path e)
  | .ok text => Job.ofExcept (parse text)

/-- Where a project keeps its configuration. -/
def usualFile (root : String) : String :=
  FilePath.join root ".crudforge/config.yaml"

/-- The configuration with its output root seen from the root of the project. -/
def rebase (config : Config) (root : String) : Config :=
  { config with outputRoot := FilePath.join root config.outputRoot }

/-- The configuration of the project at `root`: its own file, where there is one, or the
defaults. -/
def loadOrDefault (root : String) : Job Config := do
  let path := usualFile root
  let config ← if (← Job.tree).pathExists path then load path else pure {}
  return config.rebase root

/-- The configuration of the project at `root`, from the given file or else the usual one.  A
directory of templates that is given replaces the configured one. -/
def find (root : String) (file templates : Option String) : Job Config := do
  let config ←
    match file with
    | some path => (fun config => config.rebase root) <$> load path
    | none => loadOrDefault root
  return match templates with
    | some directory => { config with templatesDir := directory }
    | none => config

end Config
end Scaffold
