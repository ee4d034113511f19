import Scaffold.Text.Search

namespace Scaffold

/-!
# Areas

Generated files lie in one of three areas of the project, which is read off the package path of a
request.
-/

/-- The part of the project that generated code belongs to. -/
inductive Area where
  | admin | master | shared
  deriving DecidableEq, Repr, Inhabited

namespace Area

def name : Area → String
  | admin => "admin"
  | master => "master"
  | shared => "shared"

/-- The directory of the area, relative to the output root. -/
def directory (area : Area) : String :=
  "internal/" ++ area.name

/-- The area that a package path mentions; `admin` is looked for first. -/
def ofPackagePath (path : String) : Area :=
  if Text.contains path "admin" then admin
  else if Text.contains path "master" then master
  else shared

end Area
end Scaffold
