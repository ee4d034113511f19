import Scaffold.Job
import Scaffold.Template.Bundled
import Scaffold.Template.Render

namespace Scaffold
namespace Template

/-!
# Templates in directories

A template is a file that is named after the template.  The bundled templates lie in a directory of
their own, in which a template is looked for when the project has none of that name.
-/

/-- The path of the template `name` in a directory. -/
def fileIn (directory name : String) : String :=
  FilePath.join directory (name ++ ".tera")

/-- The first of two directories that holds the template `name`. -/
def homeOf (directory fallback name : String) : Job String := do
  let tree ← Job.tree
  if tree.pathExists (fileIn directory name) then return directory
  else if tree.pathExists (fileIn fallback name) then return fallback
  else
    throw (.render name
      ("template not found at '" ++ fileIn directory name ++ "' or builtin '" ++ fileIn fallback name ++ "'"))

/-- Reads the source of the template `name` in a directory. -/
def source (directory name : String) : Job String := do
  let path := fileIn directory name
  match (← Job.tree).read path with
  | .error e => throw (.render name ("cannot read template '" ++ path ++ "': " ++ e.message))
  | .ok text => return text

/-- Reads the template `name` from a directory. -/
def load (directory name : String) : Job Template := do
  let text ← source directory name
  Job.ofExcept (parseAs name text)

end Template
end Scaffold
