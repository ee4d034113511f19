import Scaffold.CommandLine.Run
import Std.Time.DateTime

namespace Scaffold
namespace CommandLine

/-!
# The program

The program takes a picture of the files that a command may touch, runs the command on it, and
carries out the changes.  Formatters and import optimizers are not run.
-/

/-- Where the bundled templates are taken to lie. -/
def bundledDirectory : String :=
  "/usr/share/forge/templates"

/-- The place of an absolute path. -/
def absolutePlace (path : String) : Place :=
  (FilePath.segments path).filter (fun segment => !segment.isEmpty && segment != ".")

/-- The tree in which the bundled templates are in their place, seen from a working directory. -/
def startingTree (workingDirectory : String) : FileTree :=
  let put (tree : FileTree) (place : Place) (entry : Entry) : FileTree := (tree.putParents place).put place entry
  let tree := Template.Bundled.files.foldl
    (fun tree (name, text) => put tree (absolutePlace (FilePath.join bundledDirectory name)) (.file text)) {}
  { tree with workingDirectory := absolutePlace workingDirectory }

/-- Adds what lies at a path and below it, down to a depth.  A file that holds no text is taken to
be empty. -/
def addPicture : Nat → FileTree → String → IO FileTree
  | 0, tree, _ => return tree
  | depth + 1, tree, path => do
    let place := absolutePlace path
    try
      let here ← IO.FS.realPath path
      match (← here.metadata).type with
      | .dir =>
        let mut tree := (tree.putParents place).put place .directory
        for child in ← here.readDir do
          tree ← addPicture depth tree (FilePath.join path child.fileName)
        return tree
      | _ =>
        let content ← try IO.FS.readFile path catch _ => pure ""
        return (tree.putParents place).put place (.file content)
    catch _ => return tree

/-- How deep directories are looked into. -/
def pictureDepth : Nat := 64

/-- Adds what lies at some paths, which are seen from a working directory. -/
def addPictures (workingDirectory : String) (tree : FileTree) (paths : List String) : IO FileTree :=
  paths.foldlM (fun tree path => addPicture pictureDepth tree (FilePath.join workingDirectory path)) tree

/-- The paths that an invocation names. -/
def namedPaths (invocation : Invocation) : List String :=
  let project := invocation.project
  let request :=
    match invocation.command with
    | .generate order => order.request
    | _ => none
  [project.root] ++ project.config.toList ++ project.templates.toList ++ request.toList

/-- The paths that a configuration names. -/
def configuredPaths (config : Config) : List String :=
  [config.outputRoot, config.templatesPath, config.historyPath]

/-- The tree of all files that an invocation may touch. -/
def picture (workingDirectory : String) (invocation : Invocation) : IO FileTree := do
  let tree ← addPictures workingDirectory (startingTree workingDirectory) (namedPaths invocation)
  let project := invocation.project
  match (Config.find project.root project.config project.templates).perform { tree } with
  | (.ok config, _) => addPictures workingDirectory tree (configuredPaths config)
  | (.error _, _) => return tree

/-- The path of a place. -/
def pathOf (place : Place) : String :=
  "/" ++ "/".intercalate place

/-- Carries out what was put into a tree: directories first, from the outside to the inside. -/
def carryOutAdditions (before after : FileTree) : IO Unit := do
  let added := (after.entries.filter (fun (place, entry) => before.get? place != some entry)).mergeSort
    (fun a b => a.1.length ≤ b.1.length)
  for (place, entry) in added do
    if entry == .directory then IO.FS.createDirAll (pathOf place)
  for (place, entry) in added do
    if let .file content := entry then IO.FS.writeFile (pathOf place) content

/-- Carries out the removal of files. -/
def carryOutRemovals (before after : FileTree) : IO Unit :=
  for (place, _) in before.entries do
    if (after.get? place).isNone then IO.FS.removeFile (pathOf place)

/-- The present time. -/
def presentTime : IO Instant := do
  return Instant.ofEpoch (← Std.Time.Timestamp.now).toNanosecondsSinceUnixEpoch.val.toNat

/-- Runs the program on the files of the system. -/
def runProgram (arguments : List String) : IO UInt32 := do
  let workingDirectory := (← IO.currentDir).toString
  let tree ←
    match Invocation.parse arguments with
    | .ok invocation => picture workingDirectory invocation
    | .error _ => pure (startingTree workingDirectory)
  let surroundings := { toolbox := Toolbox.empty, bundled := bundledDirectory, now := ← presentTime : Surroundings }
  let (reply, world) := (run surroundings arguments).run { tree }
  carryOutRemovals tree world.tree
  carryOutAdditions tree world.tree
  IO.print reply.outputText
  for note in reply.notes do
    IO.eprintln note
  if let some fault := reply.fault then
    IO.eprintln ("Error: " ++ fault.text)
  return UInt32.ofNat reply.status

end CommandLine
end Scaffold

/-- Runs the command that the arguments ask for. -/
def main (arguments : List String) : IO UInt32 :=
  Scaffold.CommandLine.runProgram arguments
