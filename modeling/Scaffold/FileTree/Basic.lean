namespace Scaffold

/-!
# Trees of files

A tree is a finite map from places to what lies there.  A place is the list of names that lead to it
from the root, and the root is always a directory.  Every file has one place only and holds a text;
trees with files that are not in UTF-8 are left out.  Symbolic links are kept apart from the files
and directories: a link stands at a place of its own, and only says where a path goes on that meets
it.
-/

/-- The names that lead to a file or directory from the root. -/
abbrev Place := List String

/-- What lies at a place. -/
inductive Entry where
  | file (content : String)
  | directory
  deriving DecidableEq, Repr, Inhabited

/-- Files and directories, the directory from which relative paths start, and the links, each with
the path that it points to. -/
structure FileTree where
  entries : List (Place × Entry) := []
  workingDirectory : Place := []
  links : List (Place × String) := []
  deriving Repr, Inhabited

namespace FileTree

/-- What lies at a place. -/
def get? (tree : FileTree) (place : Place) : Option Entry :=
  if place.isEmpty then some .directory else tree.entries.lookup place

/-- The tree with the given entry at a place, whatever was there before. -/
def put (tree : FileTree) (place : Place) (entry : Entry) : FileTree :=
  { tree with entries := (place, entry) :: tree.entries.filter (fun e => e.1 != place) }

/-- The tree with nothing at a place. -/
def erase (tree : FileTree) (place : Place) : FileTree :=
  { tree with entries := tree.entries.filter (fun e => e.1 != place) }

/-- The path that the link at a place points to. -/
def linkAt? (tree : FileTree) (place : Place) : Option String :=
  tree.links.lookup place

/-- The tree with a link at a place. -/
def putLink (tree : FileTree) (place : Place) (target : String) : FileTree :=
  { tree with links := (place, target) :: tree.links.filter (fun link => link.1 != place) }

/-- The tree with no link at a place. -/
def eraseLink (tree : FileTree) (place : Place) : FileTree :=
  { tree with links := tree.links.filter (fun link => link.1 != place) }

/-- Whether there is something at a place, be it a link. -/
def isTaken (tree : FileTree) (place : Place) : Bool :=
  (tree.get? place).isSome || (tree.linkAt? place).isSome

/-- Whether a place holds a directory. -/
def isDirectoryAt (tree : FileTree) (place : Place) : Bool :=
  tree.get? place == some .directory

/-- The content of the regular file at a place. -/
def contentAt? (tree : FileTree) (place : Place) : Option String :=
  match tree.get? place with
  | some (.file content) => some content
  | _ => none

/-! ## What changes and what stays -/

@[simp] theorem get?_root (tree : FileTree) : tree.get? [] = some .directory :=
  rfl

private theorem lookup_filter_ne {place other : Place} (different : other ≠ place)
    (entries : List (Place × Entry)) :
    (entries.filter (fun e => e.1 != place)).lookup other = entries.lookup other := by
  induction entries with
  | nil => rfl
  | cons entry rest ih =>
    obtain ⟨key, value⟩ := entry
    by_cases same : key = place
    · subst same
      simp [List.lookup_cons, ih, beq_eq_false_iff_ne.2 different]
    · simp [List.lookup_cons, ih, same]

private theorem lookup_filter_self (place : Place) (entries : List (Place × Entry)) :
    (entries.filter (fun e => e.1 != place)).lookup place = none := by
  induction entries with
  | nil => rfl
  | cons entry rest ih =>
    obtain ⟨key, value⟩ := entry
    by_cases same : key = place
    · simp [same, ih]
    · simp [List.lookup_cons, ih, same, beq_eq_false_iff_ne.2 (Ne.symm same)]

theorem get?_put_self (tree : FileTree) {place : Place} (below : place ≠ []) (entry : Entry) :
    (tree.put place entry).get? place = some entry := by
  simp [get?, put, below]

/-- Putting an entry at a place leaves all other places as they were. -/
theorem get?_put_of_ne (tree : FileTree) {place other : Place} (different : other ≠ place) (entry : Entry) :
    (tree.put place entry).get? other = tree.get? other := by
  simp [get?, put, List.lookup_cons, beq_eq_false_iff_ne.2 different, lookup_filter_ne different]

theorem get?_erase_self (tree : FileTree) {place : Place} (below : place ≠ []) :
    (tree.erase place).get? place = none := by
  simp [get?, erase, below, lookup_filter_self]

/-- Erasing a place leaves all other places as they were. -/
theorem get?_erase_of_ne (tree : FileTree) {place other : Place} (different : other ≠ place) :
    (tree.erase place).get? other = tree.get? other := by
  simp [get?, erase, lookup_filter_ne different]

/-- Whether everything in the tree lies in a directory of the tree, nothing lies at the root, and
there are no links. -/
structure IsClosed (tree : FileTree) : Prop where
  nested : ∀ place entry, (place, entry) ∈ tree.entries → place ≠ [] ∧ tree.isDirectoryAt place.dropLast
  unlinked : tree.links = []

/-- The tree with the directories that lead to a place. -/
def putParents (tree : FileTree) (place : Place) : FileTree :=
  (List.range place.length).foldl (fun tree n =>
    if (tree.get? (place.take n)).isSome then tree else tree.put (place.take n) .directory) tree

end FileTree
end Scaffold
