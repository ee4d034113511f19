import Scaffold.Proofs.FileTree.Growth

namespace Scaffold
namespace FileTree

/-!
# Closed trees

In a closed tree every entry lies in a directory, and there are no links.  There a file is found
under each path that means its place, as long as the path turns back only where it can be followed:
a path such as `a/../b` leads nowhere while `a` is missing, although it means the place of `b`.
-/

/-- The path goes up by `..` only where the tree lets it be followed. -/
def TurnsSafely (tree : FileTree) (path : String) : Prop :=
  ∃ before after, FilePath.segments path = before ++ after ∧ ".." ∉ after ∧
    ∃ reached, tree.walk (tree.startOf path) before = .ok reached

/-- A path that does not go up turns back nowhere. -/
theorem turnsSafely_of_down {path : String} (down : ".." ∉ FilePath.segments path) (tree : FileTree) :
    tree.TurnsSafely path :=
  ⟨[], FilePath.segments path, rfl, down, _, rfl⟩

instance (tree : FileTree) : Decidable tree.IsClosed :=
  decidable_of_iff ((∀ held ∈ tree.entries, held.1 ≠ [] ∧ tree.isDirectoryAt held.1.dropLast) ∧ tree.links = [])
    ⟨fun ⟨nested, unlinked⟩ => ⟨Prod.forall.1 nested, unlinked⟩,
      fun closed => ⟨Prod.forall.2 closed.nested, closed.unlinked⟩⟩

theorem IsClosed.parent {tree : FileTree} (closed : tree.IsClosed) {place : Place} {name : String} {entry : Entry}
    (there : tree.get? (place ++ [name]) = some entry) : tree.get? place = some .directory := by
  have member : (place ++ [name], entry) ∈ tree.entries := by
    rw [get?, if_neg (by simp)] at there
    rcases List.lookup_eq_some_iff.1 there with ⟨before, after, entries, -⟩
    rw [entries]
    simp
  have parent := (closed.nested _ _ member).2
  rw [List.dropLast_concat, isDirectoryAt] at parent
  exact beq_iff_eq.1 parent

/-- Every directory on the way to an entry of a closed tree is there. -/
theorem IsClosed.above {tree : FileTree} (closed : tree.IsClosed) (place : Place) {names : List String}
    (below : names ≠ []) {entry : Entry} (there : tree.get? (place ++ names) = some entry) :
    tree.get? place = some .directory := by
  induction names generalizing place with
  | nil => exact absurd rfl below
  | cons name rest ih =>
    cases rest with
    | nil => exact closed.parent there
    | cons next others =>
      have inner := ih (place ++ [name]) (by simp) (by simpa using there)
      exact closed.parent inner

/-- Without `..`, a walk only goes down. -/
theorem exists_append_of_walk {tree : FileTree} {place target : Place} {segments : List String}
    (down : ".." ∉ segments) (reached : tree.walk place segments = .ok target) :
    ∃ names, target = place ++ names := by
  rw [foldl_turn_of_walk reached]
  clear reached
  induction segments generalizing place with
  | nil => exact ⟨[], by simp⟩
  | cons segment rest ih =>
    rw [List.mem_cons, not_or] at down
    rcases @ih (turn place segment) down.2 with ⟨names, rested⟩
    rw [List.foldl_cons, rested, turn]
    split
    · exact ⟨names, rfl⟩
    · rw [if_neg (by simpa using Ne.symm down.1)]
      exact ⟨segment :: names, by simp⟩

/-- What can be walked after the tree has grown could be walked before, if something lay below its
end then. -/
theorem IsClosed.walk {before after : FileTree} (closed : before.IsClosed) {place target : Place}
    {segments : List String} (down : ".." ∉ segments) (reached : after.walk place segments = .ok target)
    {names : List String} (below : names ≠ []) {entry : Entry}
    (there : before.get? (target ++ names) = some entry) :
    before.walk place segments = .ok target := by
  induction segments generalizing place with
  | nil => exact reached
  | cons segment rest ih =>
    rw [List.mem_cons, not_or] at down
    rw [FileTree.walk] at reached ⊢
    cases entered : after.enter place segment with
    | error e => rw [entered] at reached; cases reached
    | ok next =>
      rw [entered] at reached
      have stepped : before.enter place segment = .ok next := by
        rcases exists_append_of_walk down.2 reached with ⟨more, whole⟩
        rw [whole, List.append_assoc] at there
        have directory := closed.above next (by simp [below]) there
        have meant := turn_of_enter entered
        rw [turn] at meant
        rw [enter] at entered ⊢
        split at entered
        · next here => rw [if_pos here]; exact entered
        next notHere =>
        have notUp : ¬(segment == "..") = true := by simpa using Ne.symm down.1
        rw [if_neg notHere, if_neg notUp] at meant ⊢
        rw [if_neg notUp] at entered
        split at entered
        · cases entered
        next short =>
        rw [meant] at directory
        rw [if_neg short, directory, meant]
      rw [stepped]
      exact ih down.2 reached

theorem walk_append (tree : FileTree) (place : Place) (first second : List String) :
    tree.walk place (first ++ second) = (tree.walk place first).bind (fun reached => tree.walk reached second) := by
  induction first generalizing place with
  | nil => rfl
  | cons segment rest ih =>
    rw [List.cons_append, walk, walk]
    cases tree.enter place segment with
    | error e => rfl
    | ok next => exact ih next

/-- A relative path that does not go up turns no more than the root to which it is joined. -/
theorem TurnsSafely.join {tree : FileTree} {root path : String} (safe : tree.TurnsSafely root)
    (relative : FilePath.isAbsolute path = false) (down : ".." ∉ FilePath.segments path) :
    tree.TurnsSafely (FilePath.join root path) := by
  rcases FilePath.segments_join root relative with ⟨front, blanks, whole, -, joined, start⟩
  rcases safe with ⟨before, after, cut, downAfter, reached, followed⟩
  have sameStart : tree.startOf (FilePath.join root path) = tree.startOf root := by rw [startOf, startOf, start]
  rw [← sameStart] at followed
  rcases List.append_eq_append_iff.1 (whole.symm.trans cut) with ⟨rest, more, behind⟩ | ⟨rest, more, behind⟩
  · subst more
    rw [walk_append] at followed
    cases part : tree.walk
        (tree.startOf (FilePath.join root path)) front with
    | error e => rw [part] at followed; cases followed
    | ok middle => exact ⟨front, FilePath.segments path, joined, down, middle, part⟩
  · subst more
    rw [behind, List.mem_append, not_or] at downAfter
    refine ⟨before, rest ++ FilePath.segments path, ?_, ?_, reached, followed⟩
    · rw [joined, List.append_assoc]
    · rw [List.mem_append]
      exact not_or.2 ⟨downAfter.1, down⟩

/-- A part of a path that turns safely could be walked before, if something lay below its end
then. -/
theorem IsClosed.walk_part {before after : FileTree} (closed : before.IsClosed)
    (kept : before.KeepsDirectories after)
    {path : String} (safe : before.TurnsSafely path) {front back : List String}
    (whole : FilePath.segments path = front ++ back) {target : Place}
    (reached : after.walk (before.startOf path) front = .ok target)
    {names : List String} (below : names ≠ []) {entry : Entry}
    (there : before.get? (target ++ names) = some entry) :
    before.walk (before.startOf path) front = .ok target := by
  rcases safe with ⟨first, rest, cut, down, middle, followed⟩
  rcases List.append_eq_append_iff.1 (whole.symm.trans cut) with ⟨more, longer, behind⟩ | ⟨more, longer, behind⟩
  · -- The part ends where the path could be followed before.
    subst longer
    rw [walk_append] at followed
    cases part : before.walk (before.startOf path) front with
    | error e => rw [part] at followed; cases followed
    | ok other => exact (kept.walk part).symm.trans reached
  · subst longer
    rw [behind, List.mem_append, not_or] at down
    rw [walk_append, kept.walk followed] at reached
    rw [walk_append, followed]
    exact closed.walk down.1 reached below there

/-- In a closed tree, a file that a path leads to later could be found under the path before. -/
theorem IsClosed.pathExists {before after : FileTree} (closed : before.IsClosed)
    (kept : before.KeepsDirectories after)
    {path : String} (safe : before.TurnsSafely path) (leads : after.LeadsToFile path)
    (there : (before.contentAt? (before.placeOf path)).isSome) : before.pathExists path = true := by
  rcases locate_eq_name_iff.1 leads.located with
    ⟨noNul, solid, segments, start, last, reached, approached, cut, ordinary, walked, short, place, slash⟩
  rw [approach_of_unlinked (kept.links.trans closed.unlinked)] at approached
  cases approached
  rcases Option.isSome_iff_exists.1 there with ⟨content, holds⟩
  have entry := get?_eq_file_iff.2 holds
  rw [← kept.placeOf, place] at entry
  rcases splitLast_eq_some cut with ⟨-, blanks, whole, -⟩
  rw [startOf_congr kept.workingDirectory] at walked
  have located := locate_eq_name_iff.2
    ⟨noNul, solid, _, start, last, reached, approach_of_unlinked closed.unlinked path, cut, ordinary,
      closed.walk_part kept safe whole walked (by simp) entry, short, rfl, slash⟩
  simp [FileTree.pathExists, status, arrive_of_unlinked closed.unlinked, located, entry, bind,
    Except.bind, pure, Except.pure, Except.toBool]

end FileTree
end Scaffold
