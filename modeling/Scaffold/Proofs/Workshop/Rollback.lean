import Mathlib.Data.List.Nodup
import Scaffold.Proofs.FileTree.Closed
import Scaffold.Proofs.Workshop.Rendering
import Scaffold.Proofs.Workshop.Writing

namespace Scaffold

open Job

/-!
# All files or none

The files of a layer are written as one: the job looks for conflicts, renders, and only then writes,
and a write that fails is followed by the removal of the files that came into being before it.
Whatever the job stumbles on, it ends either with every file written or with no new file at all.

The two outcomes are `Delivered` and `Undone`.  When nothing may be overwritten, an undone job
leaves exactly the files that there were.  When files may be overwritten, a replaced file keeps its
new content.

Whether a file is there is asked before the directories on its path are made.  The answer is wrong
below a root such as `gone/..` while `gone` is missing: the path leads nowhere yet, but to a file
once the directories are there.  Such a file is replaced, taken for a created one and removed.
`Finds` tells the files that this cannot happen to.
-/

namespace Writer

/-- Whatever lies at the place of a path is found under it: there is something under the path, or
nothing can come between the path and its place. -/
def Finds (writer : Writer) (tree : FileTree) (relative : String) : Prop :=
  tree.pathExists (writer.resolve relative) = true ∨ tree.IsClosed ∧ tree.TurnsSafely (writer.resolve relative)

end Writer

namespace Workshop

variable {workshop : Workshop} {options : Options}

/-- The places of the files that are to be written. -/
def places (workshop : Workshop) (tree : FileTree) (targets : List Target) : List Place :=
  targets.map (fun target => workshop.writer.placeIn tree target.output.path)

/-- Every target holds its text, and no other file has changed. -/
structure Delivered (workshop : Workshop) (data : Json.Value) (targets : List Target) (before after : FileTree) :
    Prop where
  written : ∀ target ∈ targets, ∃ text, target.Renders workshop.engine before data text ∧
    after.read (workshop.writer.resolve target.output.path) = .ok text ∧
    after.contentAt? (workshop.writer.placeIn before target.output.path) = some text
  others : ∀ place, place ∉ workshop.places before targets → after.contentAt? place = before.contentAt? place

/-- No target is there that was not there before, and no other file has changed.  A target that was
there holds what it held before, or its new text, or it was not found under its path and is gone. -/
structure Undone (workshop : Workshop) (data : Json.Value) (targets : List Target) (before after : FileTree) :
    Prop where
  absent : ∀ target ∈ targets, before.contentAt? (workshop.writer.placeIn before target.output.path) = none →
    after.contentAt? (workshop.writer.placeIn before target.output.path) = none
  present : ∀ target ∈ targets,
    after.contentAt? (workshop.writer.placeIn before target.output.path) =
        before.contentAt? (workshop.writer.placeIn before target.output.path) ∨
      (∃ text, target.Renders workshop.engine before data text ∧
        after.contentAt? (workshop.writer.placeIn before target.output.path) = some text) ∨
      ¬ workshop.writer.Finds before target.output.path ∧
        after.contentAt? (workshop.writer.placeIn before target.output.path) = none
  others : ∀ place, place ∉ workshop.places before targets → after.contentAt? place = before.contentAt? place

theorem Undone.refl (workshop : Workshop) (data : Json.Value) (targets : List Target) (tree : FileTree) :
    workshop.Undone data targets tree tree :=
  ⟨fun _ _ absent => absent, fun _ _ => .inl rfl, fun _ _ => rfl⟩

/-! ## Before the first write -/

/-- Looking for conflicts changes nothing. -/
theorem checkConflicts_world {targets : List Target} {world after : World} {outcome : Except Fault Unit}
    (performed : (workshop.checkConflicts options targets).perform world = (outcome, after)) : after = world := by
  induction targets with
  | nil => cases performed; rfl
  | cons target rest ih =>
    rcases perform_bind_cases performed with ⟨fault, checked, -⟩ | ⟨_, middle, checked, others⟩
    · rw [Writer.perform_checkConflict] at checked
      split at checked <;> cases checked
      rfl
    · rw [Writer.perform_checkConflict] at checked
      split at checked <;> cases checked
      exact ih others

/-- A job that did not get as far as writing has changed neither the tree nor the memory. -/
theorem renderAndWrite_cases {data : Json.Value} {targets : List Target} {world after : World}
    {outcome : Except Fault (List String)}
    (performed : (workshop.renderAndWrite options data targets).perform world = (outcome, after)) :
    (∃ fault, outcome = .error fault) ∧ (∃ draws, after = { world with draws }) ∨
      ∃ texts draws, texts.map Prod.fst = targets.map (fun target => target.output.path) ∧
        (∀ target ∈ targets, ∃ text, (target.output.path, text) ∈ texts ∧
          target.Renders workshop.engine world.tree data text) ∧
        (workshop.writeFrom options [] texts).perform { world with draws } = (outcome, after) := by
  rw [renderAndWrite] at performed
  rcases perform_bind_cases performed with ⟨fault, checking, rfl⟩ | ⟨_, checked, checking, rendering⟩
  · exact .inl ⟨⟨fault, rfl⟩, world.draws, checkConflicts_world checking⟩
  cases checkConflicts_world checking
  rcases perform_bind_cases rendering with ⟨fault, failed, rfl⟩ | ⟨texts, rendered, succeeded, writing⟩
  · rw [perform_renderAll] at failed
    exact .inl ⟨⟨fault, rfl⟩, _, (Prod.mk.inj failed).2.symm⟩
  · rw [perform_renderAll] at succeeded
    rcases Prod.mk.inj succeeded with ⟨drafted, rfl⟩
    rcases drafts_eq_ok (List.forall_mem_nil _) drafted with ⟨paths, each⟩
    exact .inr ⟨texts, _, paths, each, writing⟩

/-! ## From the loop to the targets -/

/-- Under one root, paths of different names lead to different places where there are no links. -/
theorem places_nodup (workshop : Workshop) {tree : FileTree} (unlinked : tree.links = []) {targets : List Target}
    (plain : ∀ target ∈ targets, FilePath.IsPlain target.output.path)
    (distinct : (targets.map (fun target => FilePath.names target.output.path)).Nodup) :
    (workshop.places tree targets).Nodup := by
  have below : workshop.places tree targets =
      (targets.map (fun target => FilePath.names target.output.path)).map
        (tree.placeOf workshop.writer.root ++ ·) := by
    rw [places, List.map_map]
    exact List.map_congr_left fun target member => FileTree.placeOf_join_plain unlinked _ (plain target member)
  rw [below]
  exact distinct.map fun _ _ same => List.append_cancel_left same

/-- The texts go to the places of the targets. -/
theorem map_placeIn_texts (workshop : Workshop) (tree : FileTree) {texts : List (String × String)}
    {targets : List Target} (paths : texts.map Prod.fst = targets.map (fun target => target.output.path)) :
    texts.map (fun file => workshop.writer.placeIn tree file.1) = workshop.places tree targets := by
  have mapped := congrArg (List.map (workshop.writer.placeIn tree)) paths
  rw [List.map_map, List.map_map] at mapped
  exact mapped

variable {before middle after : FileTree} {written : List (String × String)} {created : List String}

/-- Where the loop wrote nothing, nothing is different after the created files are gone. -/
theorem Progress.contentAt?_unwritten (progress : workshop.Progress options before middle written created)
    (loses : middle.Loses after (created.map (workshop.writer.placeIn before))) {place : Place}
    (outside : place ∉ written.map (fun file => workshop.writer.placeIn before file.1)) :
    after.contentAt? place = before.contentAt? place := by
  have kept : place ∉ created.map (workshop.writer.placeIn before) := by
    intro lost
    rcases List.mem_map.1 lost with ⟨path, listed, rfl⟩
    rcases List.mem_map.1 (progress.sublist.subset listed) with ⟨file, member, rfl⟩
    exact outside (List.mem_map.2 ⟨file, member, rfl⟩)
  rw [loses.contents, if_neg kept, progress.others place outside]

/-- Where there was no file, there is none after the created files are gone. -/
theorem Progress.contentAt?_absent (progress : workshop.Progress options before middle written created)
    (loses : middle.Loses after (created.map (workshop.writer.placeIn before))) {place : Place}
    (free : before.contentAt? place = none) : after.contentAt? place = none := by
  by_cases inside : place ∈ written.map (fun file => workshop.writer.placeIn before file.1)
  · rcases List.mem_map.1 inside with ⟨file, member, rfl⟩
    rw [loses.contents, if_pos (List.mem_map.2 ⟨file.1, progress.remembered file member free, rfl⟩)]
  · rw [progress.contentAt?_unwritten loses inside, free]

/-- What is taken for a created file was not found under its path before. -/
theorem Progress.not_finds_of_created (progress : workshop.Progress options before middle written created)
    {path text : String} (member : (path, text) ∈ written) (listed : path ∈ created)
    (there : (before.contentAt? (workshop.writer.placeIn before path)).isSome) :
    ¬ workshop.writer.Finds before path := by
  intro found
  have existed : before.pathExists (workshop.writer.resolve path) = true := by
    rcases found with found | ⟨closed, safe⟩
    · exact found
    · exact closed.pathExists progress.grows.toKeepsDirectories safe (progress.held _ member).1 there
  rw [progress.fresh path listed] at existed
  cases existed

/-- A file that was replaced keeps its new text, unless it is taken for a created one. -/
theorem Progress.contentAt?_replaced (progress : workshop.Progress options before middle written created)
    (loses : middle.Loses after (created.map (workshop.writer.placeIn before))) {path text : String}
    (member : (path, text) ∈ written) (there : (before.contentAt? (workshop.writer.placeIn before path)).isSome) :
    after.contentAt? (workshop.writer.placeIn before path) = some text ∨
      ¬ workshop.writer.Finds before path ∧ after.contentAt? (workshop.writer.placeIn before path) = none := by
  by_cases lost : workshop.writer.placeIn before path ∈ created.map (workshop.writer.placeIn before)
  · right
    rw [loses.contents, if_pos lost]
    refine ⟨?_, rfl⟩
    rcases List.mem_map.1 lost with ⟨other, listed, same⟩
    rcases List.mem_map.1 (progress.sublist.subset listed) with ⟨file, fileMember, rfl⟩
    have equal := List.inj_on_of_nodup_map progress.distinct fileMember member same
    rw [equal] at listed
    exact progress.not_finds_of_created member listed there
  · left
    rw [loses.contents, if_neg lost, (progress.held _ member).2]

/-- The whole loop has delivered its texts. -/
theorem Progress.delivered {data : Json.Value} {targets : List Target} {texts : List (String × String)}
    (progress : workshop.Progress options before after texts created)
    (paths : texts.map Prod.fst = targets.map (fun target => target.output.path))
    (each : ∀ target ∈ targets, ∃ text, (target.output.path, text) ∈ texts ∧
      target.Renders workshop.engine before data text) :
    workshop.Delivered data targets before after where
  written target member := by
    rcases each target member with ⟨text, listed, renders⟩
    rcases progress.held _ listed with ⟨leads, holds⟩
    refine ⟨text, renders, leads.read ?_, holds⟩
    rw [progress.grows.placeOf]
    exact holds
  others place outside := by
    rw [← workshop.map_placeIn_texts before paths] at outside
    exact progress.others place outside

/-- A loop that stopped is undone once the created files are gone. -/
theorem Progress.undone {data : Json.Value} {targets : List Target} {texts : List (String × String)}
    (progress : workshop.Progress options before middle written created)
    (loses : middle.Loses after (created.map (workshop.writer.placeIn before)))
    (part : written <+: texts) (distinct : (workshop.places before targets).Nodup)
    (paths : texts.map Prod.fst = targets.map (fun target => target.output.path))
    (each : ∀ target ∈ targets, ∃ text, (target.output.path, text) ∈ texts ∧
      target.Renders workshop.engine before data text) :
    workshop.Undone data targets before after := by
  have meant := workshop.map_placeIn_texts before paths
  refine ⟨fun target _ free => progress.contentAt?_absent loses free, ?_, ?_⟩
  · intro target member
    by_cases inside : workshop.writer.placeIn before target.output.path ∈
        written.map (fun file => workshop.writer.placeIn before file.1)
    · cases there : before.contentAt? (workshop.writer.placeIn before target.output.path) with
      | none => exact .inl (progress.contentAt?_absent loses there)
      | some old =>
        rcases each target member with ⟨text, listed, renders⟩
        rcases List.mem_map.1 inside with ⟨file, fileMember, same⟩
        rw [← meant] at distinct
        cases List.inj_on_of_nodup_map distinct (part.subset fileMember) listed same
        rcases progress.contentAt?_replaced loses fileMember (by rw [there]; rfl) with replaced | lost
        · exact .inr (.inl ⟨text, renders, replaced⟩)
        · exact .inr (.inr lost)
    · exact .inl (progress.contentAt?_unwritten loses inside)
  · intro place outside
    rw [← meant] at outside
    exact progress.contentAt?_unwritten loses fun inside => outside ((part.map _).subset inside)

/-- When nothing may be overwritten, every written file is a created one, so that all of them go. -/
theorem Progress.sameFiles (progress : workshop.Progress options before middle written created)
    (loses : middle.Loses after (created.map (workshop.writer.placeIn before)))
    (off : options.overwriteExisting = false) : before.SameFiles after := by
  intro place
  by_cases inside : place ∈ written.map (fun file => workshop.writer.placeIn before file.1)
  · rcases List.mem_map.1 inside with ⟨file, member, rfl⟩
    have free := progress.guarded off file member
    rw [free]
    exact progress.contentAt?_absent loses free
  · exact progress.contentAt?_unwritten loses inside

/-- Where there are no links, all files are written, or it is as if none had been.  The failure may
be a conflict, a template that cannot be read, parsed or rendered, or a write at any position. -/
theorem renderAndWrite_all_or_none {data : Json.Value} {targets : List Target} {world after : World}
    {outcome : Except Fault (List String)} (quiet : workshop.writer.Quiet options)
    (unlinked : world.tree.links = [])
    (plain : ∀ target ∈ targets, FilePath.IsPlain target.output.path)
    (distinct : (targets.map (fun target => FilePath.names target.output.path)).Nodup)
    (performed : (workshop.renderAndWrite options data targets).perform world = (outcome, after)) :
    outcome = .ok (targets.map (fun target => target.output.path)) ∧
        workshop.Delivered data targets world.tree after.tree ∨
      (∃ fault, outcome = .error fault) ∧
        if options.overwriteExisting then workshop.Undone data targets world.tree after.tree
        else world.tree.SameFiles after.tree := by
  have apart := workshop.places_nodup unlinked plain distinct
  rcases renderAndWrite_cases performed with ⟨failed, draws, rfl⟩ | ⟨texts, draws, paths, each, writing⟩
  · refine .inr ⟨failed, ?_⟩
    split
    · exact .refl workshop data targets world.tree
    · exact .refl world.tree
  have places := workshop.map_placeIn_texts world.tree paths
  have start : workshop.Progress options world.tree ({ world with draws } : World).tree [] [] := .start _ _ _
  rcases writeFrom_cases quiet (fun _ => unlinked) start (fun _ => places ▸ apart) writing with
    ⟨rfl, created, progress⟩ | ⟨⟨fault, rfl⟩, written, middle, created, part, progress, loses⟩
  · exact .inl ⟨by rw [paths], progress.delivered paths each⟩
  · refine .inr ⟨⟨fault, rfl⟩, ?_⟩
    split
    · exact progress.undone loses part apart paths each
    · next off => exact progress.sameFiles loses (by simpa using off)

/-- A workshop without tools. -/
def plainWorkshop : Workshop where
  writer := { root := "out" }
  toolbox := Toolbox.empty
  moduleName := "app"
  templates := "templates"
  bundled := "bundled"
  now := default

theorem plainWorkshop_quiet (options : Options) : plainWorkshop.writer.Quiet options :=
  ⟨fun _ => rfl, fun _ => rfl⟩

/-- A tree in which a file lies where the second of the two targets below needs a directory. -/
def blockedTree : FileTree where
  entries := [
    (["templates"], .directory), (["templates", "page.tera"], .file "text"),
    (["out"], .directory), (["out", "second"], .file "in the way")]

def blockedTargets : List Target :=
  [⟨⟨"first/file.go", "page"⟩, "templates"⟩, ⟨⟨"second/file.go", "page"⟩, "templates"⟩]

/-- The first file is written before the second one fails, and goes again. -/
theorem renderAndWrite_blocked :
    let performed := (plainWorkshop.renderAndWrite {} (.object []) blockedTargets).perform { tree := blockedTree }
    performed.1.toBool = false ∧ blockedTree.SameFiles performed.2.tree := by
  have failed : ((plainWorkshop.renderAndWrite {} (.object []) blockedTargets).perform
      { tree := blockedTree }).1.toBool = false := by
    decide +kernel
  cases performed : (plainWorkshop.renderAndWrite {} (.object []) blockedTargets).perform
    { tree := blockedTree } with
  | mk outcome after =>
    have result := renderAndWrite_all_or_none (plainWorkshop_quiet {}) rfl (by decide +kernel)
      (by decide +kernel) performed
    rw [performed] at failed
    rcases result with ⟨rfl, -⟩ | ⟨-, undone⟩
    · cases failed
    · exact ⟨failed, undone⟩

/-- A workshop whose root leads back out of a directory that is missing. -/
def turningWorkshop : Workshop :=
  { plainWorkshop with writer := { root := "gone/../out" } }

/-- The same tree with the first of the two targets in it. -/
def turningTree : FileTree where
  entries := blockedTree.entries ++ [(["out", "first"], .directory), (["out", "first", "file.go"], .file "old")]

/-- The first file is replaced before the second one fails, and then it is gone with its old and its
new content: it was not found under its path before `gone` was made. -/
theorem not_renderAndWrite_all_or_none_turning :
    let options : Options := { overwriteExisting := true }
    let performed := (turningWorkshop.renderAndWrite options (.object []) blockedTargets).perform
      { tree := turningTree }
    turningWorkshop.writer.Quiet options ∧ (∀ target ∈ blockedTargets, FilePath.IsPlain target.output.path) ∧
      (blockedTargets.map (fun target => FilePath.names target.output.path)).Nodup ∧ turningTree.IsClosed ∧
      performed.1.toBool = false ∧
      turningTree.contentAt? (turningWorkshop.writer.placeIn turningTree "first/file.go") = some "old" ∧
      performed.2.tree.contentAt? (turningWorkshop.writer.placeIn turningTree "first/file.go") = none := by
  refine ⟨⟨fun _ => rfl, fun _ => rfl⟩, ?_, ?_, ?_, ?_, ?_, ?_⟩ <;> decide +kernel

end Workshop
end Scaffold
