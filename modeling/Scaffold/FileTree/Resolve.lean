import Scaffold.Fault
import Scaffold.FilePath
import Scaffold.FileTree.Basic

namespace Scaffold
namespace FileTree

/-!
# From paths to places

A path is followed segment by segment.  Every segment but the last has to lead to a directory; the
last may name something that does not exist yet.

Links are followed first.  Which of the segments are links does not depend on the files and
directories, so the segments of a path can be replaced by those that its links stand for, and what
results is followed through the directories.  A link at the end of a path is followed when something
is looked for under it, and not when something is put there.
-/

/-- Where a path leads: to a directory that was reached by `.`, `..` or the root, or to a name in a
directory; `slash` says that the path ends in a slash, and so has to mean a directory. -/
inductive Target where
  | directory (place : Place)
  | name (place : Place) (slash : Bool)
  deriving DecidableEq, Repr

/-- The longest name that a file can have, in bytes. -/
def maxNameBytes : Nat := 255

/-- The directory that one segment leads to. -/
def enter (tree : FileTree) (place : Place) (segment : String) : Except OsError Place :=
  if segment == "" || segment == "." then .ok place
  else if segment == ".." then .ok place.dropLast
  else if maxNameBytes < segment.utf8ByteSize then .error .nameTooLong
  else
    match tree.get? (place ++ [segment]) with
    | some .directory => .ok (place ++ [segment])
    | some (.file _) => .error .notADirectory
    | none => .error .notFound

/-- The directory that a list of segments leads to. -/
def walk (tree : FileTree) (place : Place) : List String → Except OsError Place
  | [] => .ok place
  | segment :: rest => do
    let next ← tree.enter place segment
    walk tree next rest

/-- Splits off the last segment that is not empty. -/
def splitLast (segments : List String) : List String × Option String :=
  match (segments.reverse.dropWhile String.isEmpty) with
  | [] => ([], none)
  | last :: before => (before.reverse, some last)

/-- Where segments lead from a place when none of them is a link. -/
def aim (tree : FileTree) (start : Place) (segments : List String) : Except OsError Target :=
  match splitLast segments with
  | (before, none) => (tree.walk start before).map .directory
  | (before, some last) =>
    if last == "." || last == ".." then (tree.walk start (before ++ [last])).map .directory
    else do
      let place ← tree.walk start before
      if maxNameBytes < last.utf8ByteSize then .error .nameTooLong
      else return .name (place ++ [last]) (segments.getLast? == some "")

/-! ## Links -/

/-- The most links that are followed on one path. -/
def maxLinks : Nat := 40

/-- Segments none of which is a link, or those before the link with which there are too many. -/
abbrev Trail := Except (List String) (List String)

/-- The trail with one more segment before it. -/
def Trail.behind (segment : String) : Trail → Trail
  | .ok rest => .ok (segment :: rest)
  | .error rest => .error (segment :: rest)

/-- The place that one more segment leads to. -/
def turn (place : Place) (segment : String) : Place :=
  if segment == "" || segment == "." then place
  else if segment == ".." then place.dropLast
  else place ++ [segment]

/-- Where a segment points to, if it is a link. -/
def linkFrom? (tree : FileTree) (place : Place) (segment : String) : Option String :=
  if segment == "" || segment == "." || segment == ".." then none else tree.linkAt? (place ++ [segment])

/-- The segments that a link stands for: they lead from the directory of the link to where it
points. -/
def pointed (place : Place) (target : String) : List String :=
  (if FilePath.isAbsolute target then List.replicate place.length ".." else []) ++ FilePath.segments target

/-- The trail of segments from a place up to their first link, and from there `onward`. -/
def trailWith (tree : FileTree) (onward : Place → List String → Trail) : Place → List String → Trail
  | _, [] => .ok []
  | place, segment :: rest =>
    match tree.linkFrom? place segment with
    | some target => onward place (pointed place target ++ rest)
    | none => (trailWith tree onward (turn place segment) rest).behind segment

/-- The trail of segments from a place, on which a number of links may be followed. -/
def trail (tree : FileTree) : Nat → Place → List String → Trail
  | 0 => tree.trailWith fun _ _ => .error []
  | links + 1 => tree.trailWith (tree.trail links)

/-- Where a path starts. -/
def startOf (tree : FileTree) (path : String) : Place :=
  if FilePath.isAbsolute path then [] else tree.workingDirectory

/-- The trail of a path to the directory of what it names, and the segments behind that. -/
def approach (tree : FileTree) (path : String) : Trail :=
  let segments := FilePath.segments path
  let front := (splitLast segments).1
  (tree.trail maxLinks (tree.startOf path) front).map fun followed => followed ++ segments.drop front.length

/-- Where a path leads whose trail is known. -/
def follow (tree : FileTree) (path : String) (trail : Trail) : Except OsError Target :=
  if path.toList.contains '\x00' then .error .nulInPath
  else if path.isEmpty then .error .notFound
  else
    match trail with
    | .ok segments => tree.aim (tree.startOf path) segments
    | .error front => do
      let _ ← tree.walk (tree.startOf path) front
      .error .tooManyLinks

/-- Where a path leads; a link at its end is where it leads to. -/
def locate (tree : FileTree) (path : String) : Except OsError Target :=
  tree.follow path (tree.approach path)

/-- Where a path leads when a link at its end is followed as well. -/
def arrive (tree : FileTree) (path : String) : Except OsError Target :=
  tree.follow path (tree.trail maxLinks (tree.startOf path) (FilePath.segments path))

/-! ## Looking -/

/-- What lies where a path leads. -/
def status (tree : FileTree) (path : String) : Except OsError Entry := do
  match ← tree.arrive path with
  | .directory _ => return .directory
  | .name place slash =>
    match tree.get? place, slash with
    | none, _ => .error .notFound
    | some (.file _), true => .error .notADirectory
    | some entry, _ => return entry

/-- Whether there is something where a path leads. -/
def pathExists (tree : FileTree) (path : String) : Bool :=
  (tree.status path).toBool

/-- Whether a path leads to a directory. -/
def isDirectory (tree : FileTree) (path : String) : Bool :=
  match tree.status path with
  | .ok .directory => true
  | _ => false

/-- The content of the file that a path leads to. -/
def read (tree : FileTree) (path : String) : Except OsError String := do
  match ← tree.status path with
  | .file content => return content
  | .directory => .error .isADirectory

end FileTree
end Scaffold
