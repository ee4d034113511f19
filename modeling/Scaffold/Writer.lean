import Scaffold.Config.Basic
import Scaffold.Job
import Scaffold.Request

namespace Scaffold

/-!
# Writing generated files

A generated file replaces another only where the request allows it.  A Go file is then handed to the
tools of the configuration, whose failures do not count.
-/

/-- What the tools of the system do: a command, the last word of which is the path of a file,
changes the tree. -/
abbrev Toolbox := List String → FileTree → FileTree

/-- The toolbox in which no command is found. -/
def Toolbox.empty : Toolbox := fun _ tree => tree

/-- Where files are written, and the commands that are run on them. -/
structure Writer where
  root : String
  formatter : List String := []
  importOptimizer : List String := []

namespace Writer

/-- The writer that a configuration asks for. -/
def ofConfig (config : Config) : Writer where
  root := config.outputRoot
  formatter := config.formatter
  importOptimizer := config.importOptimizer

/-- The path of a file given relative to the root. -/
def resolve (writer : Writer) (relative : String) : String :=
  FilePath.join writer.root relative

/-- Fails when something is at a path and must not be replaced. -/
def checkConflict (writer : Writer) (relative : String) (options : Options) : Job Unit := do
  let tree ← Job.tree
  if !options.overwriteExisting && tree.pathExists (writer.resolve relative) then
    throw (.conflict relative)

/-- Whether a path is the one of a Go file. -/
def isGoFile (path : String) : Bool :=
  FilePath.extension? path == some "go".toList

/-- Runs a command on a file, if there is a command. -/
def runTool (toolbox : Toolbox) (command : List String) (path : String) : Job Unit :=
  if command.isEmpty then return ()
  else modify (fun world => { world with tree := toolbox (command ++ [path]) world.tree })

/-- Runs the tools that the options ask for on a Go file. -/
def postProcess (writer : Writer) (toolbox : Toolbox) (path : String) (options : Options) : Job Unit := do
  if isGoFile path then
    if options.formatCode then
      runTool toolbox writer.formatter path
    if options.optimizeImports then
      runTool toolbox writer.importOptimizer path

/-- Writes a file and gives its relative path. -/
def write (writer : Writer) (toolbox : Toolbox) (relative content : String) (options : Options) : Job String := do
  writer.checkConflict relative options
  let path := writer.resolve relative
  let directory := (FilePath.parent? path).getD writer.root
  Job.change (·.makeDirectories directory) (.fileOperation "create directory" directory)
  let store (tree : FileTree) : FileTree.Changed :=
    if options.overwriteExisting then tree.replaceFile path content else tree.createFile path content
  Job.change store (fun e => if e == .alreadyExists then .conflict relative else .fileOperation "write" path e)
  writer.postProcess toolbox path options
  return relative

end Writer
end Scaffold
