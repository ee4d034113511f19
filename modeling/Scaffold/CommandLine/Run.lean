import Scaffold.Apply
import Scaffold.CommandLine.Invocation
import Scaffold.Config.Document
import Scaffold.Generator

namespace Scaffold
namespace CommandLine

/-!
# Running a command

A command answers with lines on the standard output, notes on the standard error, and an exit
status.
-/

/-- What a run shows. -/
structure Reply where
  status : Nat
  output : List String := []
  notes : List String := []
  /-- The fault that ended the run. -/
  fault : Option Fault := none
  deriving Repr

/-- What a run needs from its surroundings. -/
structure Surroundings where
  toolbox : Toolbox
  /-- The directory of the bundled templates. -/
  bundled : String
  now : Instant

/-- What a command has to say, and whether it succeeded. -/
structure Report where
  success : Bool := true
  output : List String := []
  notes : List String := []
  deriving DecidableEq, Repr, Inhabited

/-! ## Generating -/

/-- The lines that show a snippet. -/
def snippetLines (snippet : Snippet) : List String :=
  ["", snippet.id ++ " → " ++ snippet.targetFile, "  " ++ snippet.insertionPoint]
    ++ (Text.lines snippet.content.toList).map (fun line => "  " ++ String.ofList line)

/-- The lines that show a response. -/
def responseLines (response : Response) : List String :=
  [(if response.success then "✓ " else "✗ ") ++ response.message]
    ++ response.files.map (fun file => "  + " ++ file)
    ++ response.snippets.flatMap snippetLines
    ++ response.errors.map (fun e => "  ✗ " ++ e)
    ++ (if response.historyUpdated then ["History updated"] else [])

/-- The line that says what became of a snippet. -/
def appliedLine (snippet : Snippet) : Except Fault Applied → String
  | .ok .merged => "✓ merged " ++ snippet.id ++ " into " ++ snippet.targetFile
  | .ok .created => "✓ created " ++ snippet.targetFile
  | .ok .alreadyPresent => "- " ++ snippet.id ++ " already present"
  | .ok (.skipped reason) => "! skipped " ++ snippet.id ++ ": " ++ reason
  | .error fault => "✗ " ++ snippet.id ++ ": " ++ fault.text

/-- Applies snippets one after the other, and says what became of each. -/
def applyEach (root : String) : List Snippet → StateM World (List String)
  | [] => return []
  | snippet :: rest => do
    let outcome ← Job.outcome (snippet.apply root)
    let lines ← applyEach root rest
    return appliedLine snippet outcome :: lines

/-- Applies snippets in the order of their priorities. -/
def applyAll (root : String) (snippets : List Snippet) : StateM World (List String) :=
  applyEach root (snippets.mergeSort (fun a b => a.priority ≤ b.priority))

/-- The ledger of a project. -/
def ledgerOf (config : Config) : Ledger where
  store := .file config.historyPath
  root := config.outputRoot

/-- The generator of a project. -/
def generatorOf (surroundings : Surroundings) (config : Config) : Generator where
  registry := Registry.standard
  workshop := {
    writer := Writer.ofConfig config
    toolbox := surroundings.toolbox
    moduleName := config.moduleName
    templates := config.templatesPath
    bundled := surroundings.bundled
    now := surroundings.now }
  ledger := ledgerOf config

/-- Runs `generate`.  A project without a directory of templates uses the bundled ones. -/
def runGenerate (surroundings : Surroundings) (config : Config) (order : Order) : Job Report := do
  let request ← order.toRequest
  let tree ← Job.tree
  let config :=
    if tree.pathExists config.templatesPath then config else { config with templatesDir := surroundings.bundled }
  let response ← (generatorOf surroundings config).generate request
  let shown := if order.json then [response.encode.prettyText] else responseLines response
  let applied ← if order.applySnippets then applyAll config.outputRoot response.snippets else pure []
  return {
    success := response.success
    output := if order.json then shown else shown ++ applied
    notes := if order.json then applied else [] }

/-! ## History -/

/-- The lines that show a record. -/
def recordLines (record : Record) : List String :=
  let package := if record.packagePath.isEmpty then "-" else record.packagePath
  [record.moduleName ++ " " ++ package ++ " " ++ ",".intercalate record.components ++ " "
      ++ record.generatedAt.offsetText,
    "  " ++ toString record.generatedFiles.length ++ " file(s), table " ++ record.tableName]

/-- Runs `history list`. -/
def runList (config : Config) (json : Bool) : Job Report := do
  let records ← (ledgerOf config).all
  if json then return { output := [(Json.Value.array (records.map Record.encode)).prettyText] }
  else if records.isEmpty then return { output := ["No generation history"] }
  else return { output := records.flatMap recordLines }

/-- Runs `history show`. -/
def runShow (config : Config) (moduleName : String) : Job Report := do
  let record ← (ledgerOf config).find moduleName
  return { output := [record.encode.prettyText] }

/-- The report on a removal; it succeeded if no file withstood. -/
def removalReport (headline : String) (removal : Removal) : Report where
  success := removal.failed.isEmpty
  output :=
    ["✓ " ++ headline]
      ++ removal.removed.map (fun file => "  - " ++ file)
      ++ removal.missing.map (fun file => "  - " ++ file ++ " (already gone)")
      ++ removal.failed.map (fun file => "  ✗ " ++ file ++ " could not be removed")

/-- Runs a command on a project. -/
def runCommand (surroundings : Surroundings) (config : Config) : Command → Job Report
  | .generate order => runGenerate surroundings config order
  | .listHistory json => runList config json
  | .showHistory moduleName => runShow config moduleName
  | .deleteHistory moduleName => do
    let removal ← (ledgerOf config).delete moduleName
    return removalReport ("Deleted history for " ++ moduleName) removal
  | .clearHistory => do
    let removal ← (ledgerOf config).clear
    return removalReport "History cleared" removal

/-! ## Whole runs -/

/-- What the program says when it is asked for its version. -/
def versionLine : String :=
  "forge 0.1.0"

/-- Runs an invocation. -/
def runInvocation (surroundings : Surroundings) (invocation : Invocation) : Job Report := do
  let project := invocation.project
  let config ← Config.find project.root project.config project.templates
  runCommand surroundings config invocation.command

/-- Runs a command line. -/
def run (surroundings : Surroundings) (arguments : List String) : StateM World Reply := do
  match Invocation.parse arguments with
  | .error .help => return { status := 0 }
  | .error .version => return { status := 0, output := [versionLine] }
  | .error .misuse => return { status := 2 }
  | .ok invocation =>
    match ← Job.outcome (runInvocation surroundings invocation) with
    | .error fault => return { status := 1, fault := some fault }
    | .ok report =>
      return { status := if report.success then 0 else 1, output := report.output, notes := report.notes }

/-- The text of lines, each ended by a line feed. -/
def Reply.outputText (reply : Reply) : String :=
  Text.block reply.output

end CommandLine
end Scaffold
