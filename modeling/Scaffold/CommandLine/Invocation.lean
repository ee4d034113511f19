import Scaffold.CommandLine.Arguments
import Scaffold.FieldList
import Scaffold.Job

namespace Scaffold
namespace CommandLine

/-!
# Invocations

What a command line asks for.
-/

/-- The options that every command has. -/
structure Project where
  root : String := "."
  config : Option String := none
  templates : Option String := none
  deriving DecidableEq, Repr, Inhabited

/-- What is to be generated, as far as the command line says it. -/
structure Order where
  component : Option String := none
  model : Option String := none
  fields : Option String := none
  /-- The file that holds a request. -/
  request : Option String := none
  table : Option String := none
  package : Option String := none
  displayName : Option String := none
  overwrite : Bool := false
  noFormat : Bool := false
  noOptimizeImports : Bool := false
  applySnippets : Bool := false
  json : Bool := false
  deriving DecidableEq, Repr, Inhabited

/-- What a command line asks to be done. -/
inductive Command where
  | generate (order : Order)
  | listHistory (json : Bool)
  | showHistory (moduleName : String)
  | deleteHistory (moduleName : String)
  | clearHistory
  deriving DecidableEq, Repr, Inhabited

/-- A command and the project that it is about. -/
structure Invocation where
  project : Project
  command : Command
  deriving DecidableEq, Repr, Inhabited

/-! ## Levels -/

/-- The options of every level. -/
def commonOptions : List (String × Taking) := [
  ("root", .path), ("config", .path), ("templates", .path), ("verbose", .nothing), ("log-json", .nothing)]

/-- A level with the common options and further ones. -/
def levelWith (options : List (String × Taking)) : Level where
  options := commonOptions ++ options
  letters := [('v', "verbose")]

/-- The level of the program itself. -/
def topLevel : Level :=
  { levelWith [] with commands := ["generate", "history", "help"], versioned := true }

/-- The level of `generate`. -/
def generateLevel : Level :=
  { levelWith [
      ("fields", .text), ("request", .path), ("table", .text), ("package", .text), ("display-name", .text),
      ("overwrite", .nothing), ("no-format", .nothing), ("no-optimize-imports", .nothing),
      ("apply-snippets", .nothing), ("json", .nothing)] with
    capacity := 2 }

/-- The level of `history`. -/
def historyLevel : Level :=
  { levelWith [] with commands := ["list", "show", "delete", "clear", "help"] }

/-! ## Reading -/

/-- The project that the options of all levels describe; a deeper level counts more. -/
def Project.ofLevels (levels : List Given) : Project :=
  let value? (name : String) : Option String := (levels.reverse.map (fun given => given.value? name)).findSome? id
  { root := (value? "root").getD "."
    config := value? "config"
    templates := value? "templates" }

/-- The order that the level of `generate` describes.  Fields are given on the command line or in a
request, not in both. -/
def Order.ofGiven (given : Given) : Except Stop Order :=
  if given.has "request" && given.has "fields" then .error .misuse
  else .ok {
    component := given.words[0]?
    model := given.words[1]?
    fields := given.value? "fields"
    request := given.value? "request"
    table := given.value? "table"
    package := given.value? "package"
    displayName := given.value? "display-name"
    overwrite := given.has "overwrite"
    noFormat := given.has "no-format"
    noOptimizeImports := given.has "no-optimize-imports"
    applySnippets := given.has "apply-snippets"
    json := given.has "json" }

/-- Whether help can be given on a command below `history`. -/
def isHistoryTopic : List String → Bool
  | [] => true
  | [name] => historyLevel.commands.contains name
  | _ => false

/-- Whether help can be given on a command. -/
def isTopic : List String → Bool
  | "history" :: rest => isHistoryTopic rest
  | [] => true
  | [name] => topLevel.commands.contains name
  | _ => false

/-- The end that a request for help leads to. -/
def helpStop (known : Bool) : Stop :=
  if known then .help else .misuse

/-- Reads a command about one module. -/
def readModule (command : String → Command) (arguments : List String) : Except Stop (Given × Command) := do
  let (given, _) ← { levelWith [] with capacity := 1 : Level }.read arguments
  match given.words with
  | [name] => return (given, command name)
  | _ => throw .misuse

/-- Reads what follows `history`. -/
def readHistory (arguments : List String) : Except Stop (List Given × Command) := do
  let (given, onward) ← historyLevel.read arguments
  match onward with
  | none => throw .misuse
  | some (name, rest) =>
    let (last, command) ←
      match name with
      | "list" => do
        let (last, _) ← (levelWith [("json", .nothing)]).read rest
        pure (last, Command.listHistory (last.has "json"))
      | "show" => readModule .showHistory rest
      | "delete" => readModule .deleteHistory rest
      | "clear" => do
        let (last, _) ← (levelWith []).read rest
        pure (last, Command.clearHistory)
      | _ => throw (helpStop (isHistoryTopic rest))
    return ([given, last], command)

/-- Reads a whole command line. -/
def Invocation.parse (arguments : List String) : Except Stop Invocation := do
  let (top, onward) ← topLevel.read arguments
  match onward with
  | none => throw .misuse
  | some ("generate", rest) =>
    let (given, _) ← generateLevel.read rest
    let order ← Order.ofGiven given
    return { project := .ofLevels [top, given], command := .generate order }
  | some ("history", rest) =>
    let (levels, command) ← readHistory rest
    return { project := .ofLevels (top :: levels), command }
  | some (_, rest) => throw (helpStop (isTopic rest))

/-! ## Requests -/

/-- The request that an order starts from: the one in its file, or an empty one for its component
and model. -/
def Order.baseRequest (order : Order) : Job Request := do
  match order.request, order.component, order.model with
  | some path, component, model =>
    match (← Job.tree).read path with
    | .error e => throw (.fileOperation "read request" path e)
    | .ok text =>
      let request ← Job.ofExcept ((Request.parse text).mapError .json)
      return { request with
        component := (component.map Component.ofName).getD request.component
        modelName := model.getD request.modelName }
  | none, some component, some model => return { component := .ofName component, modelName := model }
  | none, _, _ =>
    throw (.configuration "a component and a model name are required unless --request is given")

/-- The request of an order. -/
def Order.toRequest (order : Order) : Job Request := do
  let request ← order.baseRequest
  let fields ← Job.ofExcept ((order.fields.map FieldList.parse).getD (.ok request.fields))
  return { request with
    fields
    tableName := order.table.or request.tableName
    packagePath := order.package.getD request.packagePath
    displayName := order.displayName.or request.displayName
    options := {
      overwriteExisting := order.overwrite || request.options.overwriteExisting
      formatCode := !order.noFormat && request.options.formatCode
      optimizeImports := !order.noOptimizeImports && request.options.optimizeImports } }

end CommandLine
end Scaffold
