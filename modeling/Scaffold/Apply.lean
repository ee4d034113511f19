import Scaffold.Job
import Scaffold.Splice

namespace Scaffold

/-!
# Applying snippets to files

A snippet with an anchor is spliced into its target, which has to exist; a snippet without one
becomes a new file.  In the other two cases it is skipped.
-/

/-- What was done with a snippet. -/
inductive Applied where
  | merged
  | created
  | alreadyPresent
  | skipped (reason : String)
  deriving DecidableEq, Repr

namespace Snippet

/-- Gives the file at a path a new content, making the directories on the way to it. -/
def replaceContent (path content : String) : Job Unit := do
  let directory := (FilePath.parent? path).getD "."
  Job.change (·.makeDirectories directory) (.fileOperation "create directory" directory)
  Job.change (·.replaceFile path content) (.fileOperation "write" path)

/-- Applies a snippet to its target below a directory. -/
def apply (root : String) (snippet : Snippet) (engine : Pattern.Engine := .standard) : Job Applied := do
  let path := FilePath.join root snippet.targetFile
  let tree ← Job.tree
  match tree.pathExists path, snippet.isAnchored with
  | true, true =>
    match tree.read path with
    | .error e => throw (.fileOperation "read" path e)
    | .ok content =>
      match ← Job.ofExcept (snippet.splice content engine) with
      | .alreadyPresent => return .alreadyPresent
      | .merged text =>
        replaceContent path text
        return .merged
  | false, false =>
    replaceContent path (String.ofList (snippet.fragment ++ ['\n']))
    return .created
  | true, false => return .skipped (snippet.targetFile ++ " exists and the snippet has no anchor")
  | false, true =>
    return .skipped (snippet.targetFile ++ " does not exist; add the " ++ snippet.insertionPoint ++ " anchor first")

end Snippet
end Scaffold
