import Scaffold.Text.Search

namespace Scaffold
namespace FilePath

/-!
# Paths as texts

A path is the text that people write.  It is taken apart without looking at any file: repeated
slashes and the segment `.` inside a path do not count, and `..` is a name like any other.  Joining
keeps both texts as they are.
-/

/-- Whether the path starts from the root of all files. -/
def isAbsolute (path : String) : Bool :=
  path.toList.head? == some '/'

/-- The second path as seen from the first; an absolute path stands for itself. -/
def join (base path : String) : String :=
  if isAbsolute path then path
  else if base.isEmpty || base.toList.getLast? == some '/' then base ++ path
  else base ++ "/" ++ path

/-- The segments between the slashes. -/
def segments (path : String) : List String :=
  (Text.pieces (· == '/') path.toList).map String.ofList

/-- Drops slashes and segments `.` from the end of a path, which is given from its last character
on; what a path begins with stays. -/
def trimBack : List Char → List Char
  | '/' :: c :: rest => trimBack (c :: rest)
  | '.' :: '/' :: rest => trimBack ('/' :: rest)
  | path => path

/-- The path without its last segment; a path without segments has none. -/
def parent? (path : String) : Option String :=
  match trimBack path.toList.reverse with
  | [] => none
  | ['/'] => none
  | trimmed => some (String.ofList (trimBack (trimmed.dropWhile (· != '/'))).reverse)

/-- The last segment, if it is the name of something. -/
def fileName? (path : String) : Option (List Char) :=
  let name := ((trimBack path.toList.reverse).takeWhile (· != '/')).reverse
  if name.isEmpty || name == ['.'] || name == ['.', '.'] then none else some name

/-- What follows the last point of the file name, unless the name begins with that point. -/
def extension? (path : String) : Option (List Char) := do
  let name ← fileName? path
  let ending := (name.reverse.takeWhile (· != '.')).reverse
  if ending.length + 1 < name.length then some ending else none

end FilePath
end Scaffold
