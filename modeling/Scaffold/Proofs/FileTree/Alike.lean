import Scaffold.Proofs.FileTree.Storing

namespace Scaffold

/-!
# Trees that look alike

Two trees may have the same entries, or only share the way of a path and what is at its end.  A path
that goes down then leads to the same in both.  In a later tree this holds already when its end is
as it was: what could be reached stays in reach, and what could not be reached was not there.
-/

namespace FileTree

open FilePath (IsName IsTidy)

/-- The path goes down from a directory, below which everything lies in a directory, to a name at
its end. -/
structure EndsAt (tree : FileTree) (path : String) (base : Place) (names : List String) (last : String) : Prop where
  closed : tree.IsClosedBelow base
  tidy : IsTidy path
  descends : tree.Descends path base (names ++ [last])

/-- The two trees share the way and have the same at its end. -/
structure Alike (before after : FileTree) (base : Place) (names : List String) (last : String) : Prop
    extends SharesWay before after base names where
  ending : after.get? (base ++ names ++ [last]) = before.get? (base ++ names ++ [last])

/-- The two trees have the same entries and the same links. -/
structure SameEntries (before after : FileTree) : Prop where
  workingDirectory : after.workingDirectory = before.workingDirectory
  links : after.links = before.links
  entries : ∀ place, after.get? place = before.get? place

variable {tree before middle after : FileTree} {path : String} {base : Place} {names : List String} {last : String}

theorem EndsAt.named (ends : tree.EndsAt path base names last) : ∀ name ∈ names, IsName name :=
  fun name member => ends.descends.named name (List.mem_append_left _ member)

theorem EndsAt.keep (ends : before.EndsAt path base names last) (kept : before.KeepsDirectories after)
    (closed : after.IsClosedBelow base) : after.EndsAt path base names last :=
  ⟨closed, ends.tidy, ends.descends.keep kept⟩

theorem EndsAt.exists_parent (ends : tree.EndsAt path base names last) :
    ∃ parent, FilePath.parent? path = some parent ∧ tree.Descends parent base names ∧ IsTidy parent := by
  rcases exists_parent_of_descends ends.tidy ends.descends with ⟨parent, cut, inner, -, tidy, -⟩
  exact ⟨parent, cut, inner, tidy⟩

theorem end_ne_nil (base : Place) (names : List String) (last : String) : base ++ names ++ [last] ≠ [] := by
  simp

/-- What is on the way is not at its end. -/
theorem ne_end_of_front {front : List String} (part : front <+: names) :
    base ++ front ≠ base ++ names ++ [last] := by
  intro same
  have longer := part.length_le
  have measure := congrArg List.length same
  simp only [List.length_append, List.length_singleton] at measure
  omega

theorem Alike.refl (tree : FileTree) (base : Place) (names : List String) (last : String) :
    tree.Alike tree base names last :=
  ⟨.refl tree base names, rfl⟩

theorem Alike.trans (first : before.Alike middle base names last) (second : middle.Alike after base names last) :
    before.Alike after base names last :=
  ⟨first.toSharesWay.trans second.toSharesWay, second.ending.trans first.ending⟩

theorem SameEntries.refl (tree : FileTree) : tree.SameEntries tree :=
  ⟨rfl, rfl, fun _ => rfl⟩

theorem SameEntries.symm (same : before.SameEntries after) : after.SameEntries before :=
  ⟨same.workingDirectory.symm, same.links.symm, fun place => (same.entries place).symm⟩

theorem SameEntries.trans (first : before.SameEntries middle) (second : middle.SameEntries after) :
    before.SameEntries after :=
  ⟨second.workingDirectory.trans first.workingDirectory, second.links.trans first.links,
    fun place => (second.entries place).trans (first.entries place)⟩

theorem SameEntries.keepsDirectories (same : before.SameEntries after) : before.KeepsDirectories after :=
  ⟨same.workingDirectory, same.links, fun place there => (same.entries place).trans there⟩

theorem SameEntries.alike (same : before.SameEntries after) (base : Place) (names : List String) (last : String) :
    before.Alike after base names last :=
  ⟨⟨same.keepsDirectories, fun _ _ _ => .inl (same.entries _)⟩, same.entries _⟩

theorem SameEntries.sameFiles (same : before.SameEntries after) : before.SameFiles after :=
  fun place => contentAt?_congr (same.entries place)

theorem SameEntries.enter (same : before.SameEntries after) (place : Place) (segment : String) :
    after.enter place segment = before.enter place segment := by
  rw [FileTree.enter, FileTree.enter, same.entries]

theorem SameEntries.walk (same : before.SameEntries after) (place : Place) (segments : List String) :
    after.walk place segments = before.walk place segments := by
  induction segments generalizing place with
  | nil => rfl
  | cons segment rest ih =>
    rw [FileTree.walk, FileTree.walk, same.enter]
    cases before.enter place segment with
    | error e => rfl
    | ok next => exact ih next

theorem SameEntries.follow (same : before.SameEntries after) (path : String) (trail : Trail) :
    after.follow path trail = before.follow path trail := by
  unfold FileTree.follow FileTree.aim
  simp only [same.walk, startOf_congr same.workingDirectory]

theorem SameEntries.status (same : before.SameEntries after) (path : String) :
    after.status path = before.status path := by
  unfold FileTree.status FileTree.arrive
  simp only [trail_congr same.links, startOf_congr same.workingDirectory, same.follow, same.entries]

theorem SameEntries.read (same : before.SameEntries after) (path : String) :
    after.read path = before.read path := by
  rw [FileTree.read, FileTree.read, same.status]

theorem get?_makeWay_end (tree : FileTree) (path : String) (base : Place) (names : List String) (last : String) :
    (tree.makeWay path base names).tree.get? (base ++ names ++ [last]) = tree.get? (base ++ names ++ [last]) := by
  rw [makeWay]
  split
  · rfl
  · rcases get?_lay tree base names (base ++ names ++ [last]) with same | ⟨⟨front, -, part, meant⟩, -, -⟩
    · exact same
    · exact absurd meant.symm (ne_end_of_front part)

/-! ## Looking at the end -/

/-- A path leads to the same in both trees, if it leads anywhere. -/
def SeesAlike (before after : FileTree) (path : String) : Prop :=
  ∀ entry, after.status path = .ok entry ↔ before.status path = .ok entry

theorem SeesAlike.symm (alike : before.SeesAlike after path) : after.SeesAlike before path :=
  fun entry => (alike entry).symm

theorem SeesAlike.trans (first : before.SeesAlike middle path) (last : middle.SeesAlike after path) :
    before.SeesAlike after path :=
  fun entry => (last entry).trans (first entry)

theorem exists_status_of_pathExists (there : tree.pathExists path = true) :
    ∃ entry, tree.status path = .ok entry := by
  rw [pathExists] at there
  cases found : tree.status path with
  | ok entry => exact ⟨entry, rfl⟩
  | error e =>
    rw [found] at there
    cases there

theorem pathExists_of_status {entry : Entry} (found : tree.status path = .ok entry) :
    tree.pathExists path = true := by
  rw [pathExists, found]
  rfl

theorem SeesAlike.pathExists (alike : before.SeesAlike after path) :
    after.pathExists path = before.pathExists path := by
  rw [Bool.eq_iff_iff]
  constructor
  · intro there
    rcases exists_status_of_pathExists there with ⟨entry, found⟩
    exact pathExists_of_status ((alike entry).1 found)
  · intro there
    rcases exists_status_of_pathExists there with ⟨entry, found⟩
    exact pathExists_of_status ((alike entry).2 found)

theorem SeesAlike.read (alike : before.SeesAlike after path) (there : before.pathExists path = true) :
    after.read path = before.read path := by
  rcases exists_status_of_pathExists there with ⟨entry, found⟩
  rw [FileTree.read, FileTree.read, found, (alike entry).2 found]

theorem EndsAt.status_eq_ok_iff (ends : tree.EndsAt path base names last) {entry : Entry} :
    tree.status path = .ok entry ↔
      '\x00' ∉ path.toList ∧ AreShort (names ++ [last]) ∧ tree.get? (base ++ names ++ [last]) = some entry :=
  FileTree.status_eq_ok_iff ends.tidy ends.descends ends.closed

theorem EndsAt.seesAlike (first : before.EndsAt path base names last) (second : after.EndsAt path base names last)
    (ending : after.get? (base ++ names ++ [last]) = before.get? (base ++ names ++ [last])) :
    before.SeesAlike after path := by
  intro entry
  rw [first.status_eq_ok_iff, second.status_eq_ok_iff, ending]

/-- In a later tree that has the same at its end, a path leads to the same, even where that tree is
not closed. -/
theorem EndsAt.seesAlike_later (ends : before.EndsAt path base names last) (kept : before.KeepsDirectories after)
    (ending : after.get? (base ++ names ++ [last]) = before.get? (base ++ names ++ [last])) :
    before.SeesAlike after path := by
  have descends := ends.descends.keep kept
  intro entry
  constructor
  · intro found
    rcases found_of_status ends.tidy descends found with ⟨noNul, short, -, there⟩
    exact ends.status_eq_ok_iff.2 ⟨noNul, short, ending ▸ there⟩
  · intro found
    rcases found_of_status ends.tidy ends.descends found with ⟨noNul, short, reached, there⟩
    have fits := (List.forall_mem_append.1 short).2 last List.mem_cons_self
    rw [status_of_walk ends.tidy descends noNul fits (kept.walk reached), ending, there]

/-- When the way to its end can be walked in both trees, a path leads to the same, or nowhere for
the same reason. -/
theorem SeesAlike.status (alike : before.SeesAlike after path) (tidy : IsTidy path)
    (descends : before.Descends path base (names ++ [last])) (kept : before.KeepsDirectories after)
    (fits : ¬ maxNameBytes < last.utf8ByteSize) (reached : before.walk base names = .ok (base ++ names)) :
    after.status path = before.status path := by
  by_cases nul : '\x00' ∈ path.toList
  · rw [status_of_nul nul, status_of_nul nul]
  cases found : before.status path with
  | ok entry => exact (alike entry).2 found
  | error e =>
    cases later : after.status path with
    | ok entry =>
      rw [(alike entry).1 later] at found
      cases found
    | error e =>
      rw [status_of_walk tidy descends nul fits reached] at found
      rw [status_of_walk tidy (descends.keep kept) nul fits (kept.walk reached)] at later
      split at found <;> cases found
      split at later <;> cases later
      rfl

end FileTree

end Scaffold
