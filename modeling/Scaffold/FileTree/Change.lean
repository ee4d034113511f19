import Scaffold.FileTree.Resolve

namespace Scaffold
namespace FileTree

/-!
# Changing a tree

A change gives the tree after it, also when it fails.  Writing is all or nothing: the new content
takes the place of the old one in a single step.  A link at the end of a path is what is changed,
and not what it points to: it is in the way of a directory or a new file, makes room for a file that
replaces it, and can be removed.
-/

/-- The result of a change, with the tree after it. -/
structure Changed where
  outcome : Except OsError Unit
  tree : FileTree

/-- Makes one directory. -/
def makeDirectory (tree : FileTree) (path : String) : Changed :=
  match tree.locate path with
  | .error e => ⟨.error e, tree⟩
  | .ok (.directory _) => ⟨.error .alreadyExists, tree⟩
  | .ok (.name place _) =>
    if tree.isTaken place then ⟨.error .alreadyExists, tree⟩
    else ⟨.ok (), tree.put place .directory⟩

/-- Makes a directory whose parent has been taken care of; one that is there already will do. -/
def ensureDirectory (tree : FileTree) (path : String) : Changed :=
  let made := tree.makeDirectory path
  match made.outcome with
  | .ok () => made
  | .error e => ⟨if tree.isDirectory path then .ok () else .error e, tree⟩

/-- Makes a directory and all that are missing on the way to it, in at most `fuel` steps upwards. -/
def makeDirectoriesWithin (tree : FileTree) : Nat → String → Changed
  | 0, _ => ⟨.error .notFound, tree⟩
  | fuel + 1, path =>
    if path.isEmpty then ⟨.ok (), tree⟩
    else
      let made := tree.makeDirectory path
      match made.outcome with
      | .ok () => made
      | .error e =>
        if e != .notFound then ⟨if tree.isDirectory path then .ok () else .error e, tree⟩
        else
          match FilePath.parent? path with
          | none => ⟨.error .notFound, tree⟩
          | some parent =>
            let above := tree.makeDirectoriesWithin fuel parent
            match above.outcome with
            | .ok () => above.tree.ensureDirectory path
            | .error e => ⟨.error e, above.tree⟩

/-- Makes a directory and all that are missing on the way to it. -/
def makeDirectories (tree : FileTree) (path : String) : Changed :=
  tree.makeDirectoriesWithin (path.length + 1) path

/-- Puts a new file in the place that a path leads to, whether or not there is a file or a link
already. -/
def replaceFile (tree : FileTree) (path content : String) : Changed :=
  match tree.locate path with
  | .error e => ⟨.error e, tree⟩
  | .ok (.directory _) => ⟨.error .busy, tree⟩
  | .ok (.name place slash) =>
    match tree.get? place, slash with
    | _, true => ⟨.error .notADirectory, tree⟩
    | some .directory, false => ⟨.error .isADirectory, tree⟩
    | _, false => ⟨.ok (), (tree.eraseLink place).put place (.file content)⟩

/-- Puts a new file where a path leads, unless there is something already. -/
def createFile (tree : FileTree) (path content : String) : Changed :=
  match tree.locate path with
  | .error e => ⟨.error e, tree⟩
  | .ok (.directory _) => ⟨.error .alreadyExists, tree⟩
  | .ok (.name place slash) =>
    match tree.isTaken place, slash with
    | true, _ => ⟨.error .alreadyExists, tree⟩
    | false, true => ⟨.error .notADirectory, tree⟩
    | false, false => ⟨.ok (), tree.put place (.file content)⟩

/-- A write that fails changes nothing. -/
theorem tree_replaceFile_of_error {tree : FileTree} {path content : String} {e : OsError}
    (failed : (tree.replaceFile path content).outcome = .error e) :
    (tree.replaceFile path content).tree = tree := by
  simp only [replaceFile] at failed ⊢
  cases located : tree.locate path with
  | error e => rfl
  | ok target =>
    cases target with
    | directory place => rfl
    | name place slash =>
      simp only [located] at failed ⊢
      split <;> simp_all

/-- A creation that fails changes nothing. -/
theorem tree_createFile_of_error {tree : FileTree} {path content : String} {e : OsError}
    (failed : (tree.createFile path content).outcome = .error e) : (tree.createFile path content).tree = tree := by
  simp only [createFile] at failed ⊢
  cases located : tree.locate path with
  | error e => rfl
  | ok target =>
    cases target with
    | directory place => rfl
    | name place slash =>
      simp only [located] at failed ⊢
      split <;> simp_all

/-- Removes the file or the link that a path leads to. -/
def removeFile (tree : FileTree) (path : String) : Changed :=
  match tree.locate path with
  | .error e => ⟨.error e, tree⟩
  | .ok (.directory _) => ⟨.error .isADirectory, tree⟩
  | .ok (.name place slash) =>
    if (tree.linkAt? place).isSome then
      if slash then ⟨.error .notADirectory, tree⟩ else ⟨.ok (), tree.eraseLink place⟩
    else
      match tree.get? place, slash with
      | none, _ => ⟨.error .notFound, tree⟩
      | some .directory, _ => ⟨.error .isADirectory, tree⟩
      | some (.file _), true => ⟨.error .notADirectory, tree⟩
      | some (.file _), false => ⟨.ok (), tree.erase place⟩

end FileTree
end Scaffold
