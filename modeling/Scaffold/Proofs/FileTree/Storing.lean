import Scaffold.Proofs.FileTree.Ways

namespace Scaffold
namespace FileTree

/-!
# Storing a file at the end of a way

To store a file, the directories of its path are made and the file is put at the end.  Both steps
follow from what is on the way and at its end: in two trees that share the way and agree on the end,
the same is stored or the same error met.
-/

open FilePath (IsName IsTidy)

variable {tree before after : FileTree} {path : String} {base : Place} {names : List String} {last : String}

/-! ## The directory of a file -/

theorem makeDirectories_of_nul (solid : path.isEmpty = false) (nul : '\x00' ∈ path.toList) :
    tree.makeDirectories path = ⟨.error .nulInPath, tree⟩ := by
  have located : tree.locate path = .error .nulInPath := follow_of_nul tree nul _
  have made : tree.makeDirectory path = ⟨.error .nulInPath, tree⟩ := by
    rw [makeDirectory, located]
  have notDirectory : tree.isDirectory path = false := by
    rw [isDirectory, status_of_nul nul]
  rw [makeDirectories, makeDirectoriesWithin_of_found solid (by rw [made]; rintro ⟨⟩), ensureDirectory, made,
    notDirectory]
  rfl

/-- Makes the directories of a path that goes down, unless the path is none of a file system. -/
def makeWay (tree : FileTree) (path : String) (base : Place) (names : List String) : Changed :=
  if '\x00' ∈ path.toList then ⟨.error .nulInPath, tree⟩ else tree.lay base names

theorem makeDirectories_eq_makeWay (closed : tree.IsClosedBelow base) (tidy : IsTidy path)
    (descends : tree.Descends path base names) : tree.makeDirectories path = tree.makeWay path base names := by
  rw [makeWay]
  split
  · next nul =>
    apply makeDirectories_of_nul _ nul
    rw [String.isEmpty_eq_false_iff]
    rintro rfl
    cases nul
  · next noNul => exact makeDirectories_eq_lay closed noNul tidy descends

theorem makeWay_addsDirectories (tree : FileTree) (path : String) (base : Place) (names : List String) :
    tree.AddsDirectories (tree.makeWay path base names).tree := by
  rw [makeWay]
  split
  · exact .refl tree
  · exact lay_addsDirectories tree base names

theorem makeWay_overlays (tree : FileTree) (path : String) (base : Place) (names : List String) (place : Place) :
    tree.Overlays (tree.makeWay path base names).tree (OnWay base names) place := by
  rw [makeWay]
  split
  · exact .refl tree _ place
  · exact lay_overlays tree base names place

theorem makeWay_makeWay (tree : FileTree) (path : String) (base : Place) (names : List String) :
    (tree.makeWay path base names).tree.makeWay path base names = tree.makeWay path base names := by
  rw [makeWay]
  split
  · next nul => rw [makeWay, if_pos nul]
  · next noNul => rw [makeWay, if_neg noNul, lay_lay]

theorem SharesWay.makeWay (shares : before.SharesWay after base names) (path : String) :
    (after.makeWay path base names).outcome = (before.makeWay path base names).outcome ∧
      (before.makeWay path base names).tree.SharesWay (after.makeWay path base names).tree base names := by
  rw [FileTree.makeWay, FileTree.makeWay]
  split
  · exact ⟨rfl, shares⟩
  · exact shares.lay

theorem SharesWay.get?_makeWay (shares : before.SharesWay after base names)
    (settled : ∀ place, (before.makeWay path base names).tree.get? place = before.get? place) (place : Place) :
    (after.makeWay path base names).tree.get? place = after.get? place := by
  rw [FileTree.makeWay] at settled ⊢
  split
  · rfl
  · next noNul =>
    rw [if_neg noNul] at settled
    exact shares.get?_lay settled place

theorem IsClosedBelow.makeWay (closed : tree.IsClosedBelow base) (path : String) (names : List String) :
    (tree.makeWay path base names).tree.IsClosedBelow base := by
  rw [FileTree.makeWay]
  split
  · exact closed
  · have laid := closed.lay [] (.inl rfl) names
    rw [List.append_nil] at laid
    exact laid

theorem walk_of_makeWay (named : ∀ name ∈ names, IsName name)
    (made : (tree.makeWay path base names).outcome = .ok ()) :
    (tree.makeWay path base names).tree.walk base names = .ok (base ++ names) := by
  rw [makeWay] at made ⊢
  split at made
  · cases made
  · next noNul =>
    rw [if_neg noNul]
    exact walk_of_lay named made

/-! ## The file -/

/-- Puts a file where a path leads, in the place of one that is there or only where nothing is. -/
def store (overwrite : Bool) (tree : FileTree) (path content : String) : Changed :=
  if overwrite then tree.replaceFile path content else tree.createFile path content

/-- Why no file can be put where the entry is. -/
def refusal : Bool → Option Entry → Option OsError
  | true, some .directory => some .isADirectory
  | false, some _ => some .alreadyExists
  | _, _ => none

/-- Puts a file at the end of a way. -/
def storeAt (overwrite : Bool) (tree : FileTree) (path content last : String) (place : Place) : Changed :=
  if '\x00' ∈ path.toList then ⟨.error .nulInPath, tree⟩
  else if maxNameBytes < last.utf8ByteSize then ⟨.error .nameTooLong, tree⟩
  else
    match refusal overwrite (tree.get? place) with
    | some e => ⟨.error e, tree⟩
    | none => ⟨.ok (), tree.put place (.file content)⟩

theorem store_eq_storeAt (overwrite : Bool) (content : String) (tidy : IsTidy path)
    (descends : tree.Descends path base (names ++ [last])) (reached : tree.walk base names = .ok (base ++ names)) :
    tree.store overwrite path content = tree.storeAt overwrite path content last (base ++ names ++ [last]) := by
  rw [storeAt]
  by_cases nul : '\x00' ∈ path.toList
  · have located : tree.locate path = .error .nulInPath := follow_of_nul tree nul _
    rw [if_pos nul]
    cases overwrite <;> simp [store, replaceFile, createFile, located]
  · have located := locate_of_descends nul tidy descends
    rw [reached] at located
    dsimp only [Except.bind] at located
    rw [if_neg nul]
    generalize base ++ names ++ [last] = place at located ⊢
    split
    · next long =>
      rw [if_pos long] at located
      cases overwrite <;> simp [store, replaceFile, createFile, located]
    · next short =>
      rw [if_neg short] at located
      have taken := isTaken_of_unlinked descends.unlinked place
      have kept := eraseLink_of_unlinked descends.unlinked place
      cases there : tree.get? place with
      | none => cases overwrite <;> simp [store, replaceFile, createFile, located, taken, kept, there, refusal]
      | some entry =>
        cases entry <;> cases overwrite <;>
          simp [store, replaceFile, createFile, located, taken, kept, there, refusal]

theorem storeAt_cases (overwrite : Bool) (tree : FileTree) (path content last : String) (place : Place) :
    (∃ e, tree.storeAt overwrite path content last place = ⟨.error e, tree⟩) ∨
      tree.get? place ≠ some .directory ∧
        tree.storeAt overwrite path content last place = ⟨.ok (), tree.put place (.file content)⟩ := by
  rw [storeAt]
  split
  · exact .inl ⟨_, rfl⟩
  split
  · exact .inl ⟨_, rfl⟩
  split
  · exact .inl ⟨_, rfl⟩
  · next free =>
    refine .inr ⟨?_, rfl⟩
    intro directory
    rw [directory] at free
    cases overwrite <;> cases free

/-- A file that has been put leaves the directories above it. -/
theorem overlays_put (tree : FileTree) (way : Place → Prop) {place : Place} (entry : Entry)
    (notDirectory : tree.get? place ≠ some .directory) : tree.Overlays (tree.put place entry) way place := by
  refine ⟨⟨rfl, rfl, fun other there => ?_⟩, fun other different => .inl (get?_put_of_ne _ different _)⟩
  have different : other ≠ place := by
    rintro rfl
    exact notDirectory there
  rw [get?_put_of_ne _ different]
  exact there

theorem storeAt_overlays (overwrite : Bool) (tree : FileTree) (path content last : String) (way : Place → Prop)
    (place : Place) : tree.Overlays (tree.storeAt overwrite path content last place).tree way place := by
  rcases storeAt_cases overwrite tree path content last place with ⟨e, failed⟩ | ⟨notDirectory, stored⟩
  · rw [failed]
    exact .refl tree way place
  · rw [stored]
    exact overlays_put tree way _ notDirectory

theorem IsClosedBelow.storeAt (closed : tree.IsClosedBelow base) (overwrite : Bool) (path content : String)
    (parent : names = [] ∨ tree.get? (base ++ names) = some .directory) :
    (tree.storeAt overwrite path content last (base ++ names ++ [last])).tree.IsClosedBelow base := by
  rcases storeAt_cases overwrite tree path content last (base ++ names ++ [last]) with
    ⟨e, failed⟩ | ⟨notDirectory, stored⟩
  · rw [failed]
    exact closed
  · rw [stored]
    exact closed.put _ parent notDirectory _

/-- In two trees that share a way, and refuse a file at its end for the same reason, the same is
stored. -/
theorem SharesWay.storeAt (shares : before.SharesWay after base names) {overwrite : Bool} {place : Place}
    (apart : ∀ front, front <+: names → base ++ front ≠ place)
    (alike : refusal overwrite (after.get? place) = refusal overwrite (before.get? place))
    (path content last : String) :
    (after.storeAt overwrite path content last place).outcome =
        (before.storeAt overwrite path content last place).outcome ∧
      (before.storeAt overwrite path content last place).tree.SharesWay
        (after.storeAt overwrite path content last place).tree base names := by
  have both : (before.put place (.file content)).SharesWay (after.put place (.file content)) base names := by
    refine ⟨⟨shares.workingDirectory, shares.links, fun other there => ?_⟩, fun front some part => ?_⟩
    · by_cases same : other = place
      · subst same
        by_cases root : other = []
        · rw [root, get?_root]
        · rw [get?_put_self _ root] at there
          cases there
      · rw [get?_put_of_ne _ same] at there ⊢
        exact shares.directories other there
    · rw [get?_put_of_ne _ (apart front part), get?_put_of_ne _ (apart front part)]
      exact shares.above front some part
  rw [FileTree.storeAt, FileTree.storeAt, alike]
  split
  · exact ⟨rfl, shares⟩
  split
  · exact ⟨rfl, shares⟩
  split
  · exact ⟨rfl, shares⟩
  · exact ⟨rfl, both⟩

end FileTree
end Scaffold
