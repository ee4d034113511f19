import Scaffold.History.Ledger
import Scaffold.Proofs.FileTree.Effect

namespace Scaffold

/-!
# Files added below a root

A generation that may not overwrite anything only adds files, each at a place where there was none.
This is what can be taken back: removing the added files one by one leaves the files that there were
before.  Additions follow one another without getting into each other's way.
-/

namespace FileTree

/-- The places of files that are given relative to a root. -/
def placesBelow (tree : FileTree) (root : String) (files : List String) : List Place :=
  files.map (fun path => tree.placeOf (FilePath.join root path))

theorem placesBelow_append (tree : FileTree) (root : String) (first second : List String) :
    tree.placesBelow root (first ++ second) = tree.placesBelow root first ++ tree.placesBelow root second :=
  List.map_append

theorem KeepsDirectories.placesBelow {before after : FileTree}
    (kept : before.KeepsDirectories after) (root : String)
    (files : List String) : after.placesBelow root files = before.placesBelow root files :=
  List.map_congr_left fun _ _ => kept.placeOf _

/-- The change has added the files, each at a place of its own where there was none, and has touched
no other. -/
structure Adds (before after : FileTree) (root : String) (added : List String) :
    Prop extends Grows before after where
  held : ∀ path ∈ added, after.LeadsToFile (FilePath.join root path)
  absent : ∀ place ∈ before.placesBelow root added, before.contentAt? place = none
  others : ∀ place, place ∉ before.placesBelow root added → after.contentAt? place = before.contentAt? place
  distinct : (before.placesBelow root added).Nodup

/-- A change that leaves all files alone has added none. -/
theorem Adds.nothing {before after : FileTree} (grows : before.Grows after) (same : before.SameFiles after)
    (root : String) : before.Adds after root [] where
  toGrows := grows
  held _ member := by cases member
  absent _ member := by cases member
  others place _ := same place
  distinct := List.nodup_nil

theorem Adds.refl (tree : FileTree) (root : String) : tree.Adds tree root [] :=
  .nothing (.refl tree) (.refl tree) root

/-- What was added holds a file. -/
theorem Adds.present {before after : FileTree} {root : String} {files : List String}
    (adds : before.Adds after root files) {place : Place} (member : place ∈ before.placesBelow root files) :
    (after.contentAt? place).isSome := by
  rcases List.mem_map.1 member with ⟨path, listed, rfl⟩
  have held := (adds.held path listed).there
  rw [adds.placeOf] at held
  exact held

theorem Adds.append {before middle after : FileTree} {root : String} {first second : List String}
    (adds : before.Adds middle root first) (more : middle.Adds after root second) :
    before.Adds after root (first ++ second) := by
  have meant := adds.toKeepsDirectories.placesBelow root second
  have moreAbsent := more.absent
  have moreOthers := more.others
  have moreDistinct := more.distinct
  rw [meant] at moreAbsent moreOthers moreDistinct
  -- A place that the second addition fills was still free after the first one.
  have apart : ∀ place ∈ before.placesBelow root second, place ∉ before.placesBelow root first := by
    intro place later earlier
    have there := adds.present earlier
    rw [moreAbsent place later] at there
    cases there
  constructor
  case toGrows => exact adds.toGrows.trans more.toGrows
  case held =>
    intro path member
    rcases List.mem_append.1 member with earlier | later
    · have held := adds.held path earlier
      exact held.keep more.toKeepsDirectories (more.files _ held.there)
    · exact more.held path later
  case absent =>
    intro place member
    rw [placesBelow_append] at member
    rcases List.mem_append.1 member with earlier | later
    · exact adds.absent place earlier
    · rw [← adds.others place (apart place later)]
      exact moreAbsent place later
  case others =>
    intro place outside
    rw [placesBelow_append, List.mem_append, not_or] at outside
    rw [← adds.others place outside.1]
    exact moreOthers place outside.2
  case distinct =>
    rw [placesBelow_append, List.nodup_append]
    refine ⟨adds.distinct, moreDistinct, ?_⟩
    rintro place earlier _ later rfl
    exact apart place later earlier

/-- Losing what was added leaves the files that there were. -/
theorem Adds.sameFiles {before after final : FileTree} {root : String} {files : List String}
    (adds : before.Adds after root files) (loses : after.Loses final (after.placesBelow root files)) :
    before.SameFiles final := by
  intro place
  rw [loses.contents, adds.placesBelow]
  split
  · next added => exact (adds.absent place added).symm
  · next outside => exact adds.others place outside

end FileTree

/-! ## Removing listed files -/

namespace Ledger

open FileTree

theorem removeFile_of_leadsToFile {root relative : String} {tree : FileTree}
    (leads : tree.LeadsToFile (FilePath.join root relative)) :
    removeFile root relative tree =
      ({ removed := [relative] }, tree.erase (tree.placeOf (FilePath.join root relative))) := by
  rw [removeFile, FileTree.removeFile_of_leadsToFile leads]

/-- Files that are all there, each at a place of its own, are all removed. -/
theorem removeFiles_of_leadsToFile {root : String} {files : List String} {tree : FileTree}
    (leads : ∀ path ∈ files, tree.LeadsToFile (FilePath.join root path))
    (distinct : (tree.placesBelow root files).Nodup) :
    (removeFiles root files tree).1 = { removed := files } ∧
      tree.Loses (removeFiles root files tree).2 (tree.placesBelow root files) := by
  induction files generalizing tree with
  | nil => exact ⟨rfl, .nil tree⟩
  | cons path rest ih =>
    rcases List.nodup_cons.1 distinct with ⟨own, others⟩
    have first := leads path List.mem_cons_self
    have kept := keepsDirectories_erase first
    have later := leadsToFile_erase_first (FilePath.join root) leads own
    rcases ih later (kept.placesBelow root rest ▸ others) with ⟨removed, loses⟩
    rw [kept.placesBelow root rest] at loses
    rw [removeFiles, removeFile_of_leadsToFile first]
    dsimp only
    rw [removed]
    exact ⟨rfl, .cons first loses⟩

end Ledger
end Scaffold
