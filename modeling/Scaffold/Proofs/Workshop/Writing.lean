import Mathlib.Data.List.Nodup
import Scaffold.Workshop
import Scaffold.Proofs.Job.Deposit

namespace Scaffold

open Job

/-!
# Writing a list of files

A single write either leaves every file alone or stores one file under its path.  From this the loop
over the files of a layer gets its invariant, `Progress`: it compares the tree before the loop with
the tree in the middle of it.  The list of created files is what the loop itself remembers, and the
invariant says that it is enough to undo the loop.

Paths that lead to the same place would break the invariant when files may be overwritten.  When
they may not, the second of two such paths is refused, so nothing has to be assumed.
-/

namespace Writer

/-- The writer has no tool for what the options ask for, so that files stay as they were written. -/
structure Quiet (writer : Writer) (options : Options) : Prop where
  formatter : options.formatCode = true → writer.formatter = []
  importOptimizer : options.optimizeImports = true → writer.importOptimizer = []

/-- The place of a file given relative to the root. -/
abbrev placeIn (writer : Writer) (tree : FileTree) (relative : String) : Place :=
  tree.placeOf (writer.resolve relative)

variable {writer : Writer} {options : Options}

theorem perform_checkConflict (relative : String) (world : World) :
    (writer.checkConflict relative options).perform world =
      if !options.overwriteExisting && world.tree.pathExists (writer.resolve relative)
      then (.error (.conflict relative), world) else (.ok (), world) := by
  rw [checkConflict, perform_bind, perform_tree]
  dsimp only
  split <;> rfl

theorem perform_postProcess (quiet : writer.Quiet options) (toolbox : Toolbox) (path : String) (world : World) :
    (writer.postProcess toolbox path options).perform world = (.ok (), world) := by
  have idle : ∀ command : List String, command = [] → runTool toolbox command path = pure () := by
    rintro _ rfl
    rfl
  have optimized :
      (if options.optimizeImports = true then runTool toolbox writer.importOptimizer path else pure ()) =
        (pure () : Job Unit) := by
    split
    · next asked => exact idle _ (quiet.importOptimizer asked)
    · rfl
  rw [postProcess]
  split
  · dsimp only
    rw [optimized]
    split
    · next asked => rw [idle _ (quiet.formatter asked)]; rfl
    · rfl
  · rfl

/-- The deposit by which a file is written. -/
@[irreducible]
def deposit (writer : Writer) (options : Options) (relative content : String) : Deposit where
  overwrite := options.overwriteExisting
  path := writer.resolve relative
  content
  directory := (FilePath.parent? (writer.resolve relative)).getD writer.root
  unmade := .fileOperation "create directory" ((FilePath.parent? (writer.resolve relative)).getD writer.root)
  unwritten := fun e =>
    if e == .alreadyExists then .conflict relative else .fileOperation "write" (writer.resolve relative) e

@[simp] theorem overwrite_deposit (writer : Writer) (options : Options) (relative content : String) :
    (writer.deposit options relative content).overwrite = options.overwriteExisting := by
  rw [deposit]

@[simp] theorem path_deposit (writer : Writer) (options : Options) (relative content : String) :
    (writer.deposit options relative content).path = FilePath.join writer.root relative := by
  rw [deposit, resolve]

@[simp] theorem content_deposit (writer : Writer) (options : Options) (relative content : String) :
    (writer.deposit options relative content).content = content := by
  rw [deposit]

/-- Writing is a deposit between the look for a conflict and the tools. -/
theorem write_eq_deposit (writer : Writer) (toolbox : Toolbox) (options : Options) (relative content : String) :
    writer.write toolbox relative content options = (do
      writer.checkConflict relative options
      (writer.deposit options relative content).job
      writer.postProcess toolbox (writer.resolve relative) options
      return relative) := by
  unfold write Deposit.job deposit
  simp only [bind_assoc]
  rfl

/-- A write fails without touching a file, or it stores the file.  Where nothing may be overwritten,
a file is stored only under a path that led nowhere and at a place that held no file. -/
theorem write_cases (quiet : writer.Quiet options) {toolbox : Toolbox} {relative content : String}
    {world after : World}
    {outcome : Except Fault String} (unlinked : options.overwriteExisting = true → world.tree.links = [])
    (performed : (writer.write toolbox relative content options).perform world = (outcome, after)) :
    (∃ fault, outcome = .error fault) ∧ world.tree.AddsDirectories after.tree ∨
      outcome = .ok relative ∧ world.tree.Stores after.tree (writer.resolve relative) content ∧
        (options.overwriteExisting = false → world.tree.pathExists (writer.resolve relative) = false ∧
          world.tree.contentAt? (writer.placeIn world.tree relative) = none) := by
  rw [write_eq_deposit] at performed
  rcases perform_bind_cases performed with ⟨fault, checked, rfl⟩ | ⟨_, middle, checked, performed⟩
  · rw [perform_checkConflict] at checked
    split at checked <;> cases checked
    exact .inl ⟨⟨_, rfl⟩, .refl _⟩
  rw [perform_checkConflict] at checked
  split at checked
  · cases checked
  next free =>
  cases checked
  rw [← overwrite_deposit writer options relative content] at unlinked
  rcases perform_bind_cases performed with ⟨fault, deposited, rfl⟩ | ⟨_, middle, deposited, performed⟩
  · rcases Deposit.job_cases unlinked deposited with ⟨-, ⟨-, added⟩ | ⟨succeeded, -⟩⟩
    · exact .inl ⟨⟨fault, rfl⟩, added⟩
    · cases succeeded
  · rcases Deposit.job_cases unlinked deposited with ⟨-, ⟨⟨_, failed⟩, -⟩ | ⟨-, stores, absent⟩⟩
    · cases failed
    rw [perform_bind, perform_postProcess quiet] at performed
    cases performed
    rw [path_deposit, content_deposit] at stores
    rw [path_deposit, overwrite_deposit] at absent
    exact .inr ⟨rfl, stores, fun off => ⟨by simpa [off] using free, absent off⟩⟩

end Writer

namespace Workshop

variable {workshop : Workshop} {options : Options}

/-! ## The loop over the files -/

/-- How far the loop has come: `before` is the tree before the loop and `after` the tree in the
middle of it, `done` are the files that were written, with their texts, and `created` those of their
paths that led nowhere. -/
structure Progress (workshop : Workshop) (options : Options) (before after : FileTree)
    (done : List (String × String))
    (created : List String) : Prop where
  grows : before.Grows after
  held : ∀ file ∈ done, after.LeadsToFile (workshop.writer.resolve file.1) ∧
    after.contentAt? (workshop.writer.placeIn before file.1) = some file.2
  others : ∀ place, place ∉ done.map (fun file => workshop.writer.placeIn before file.1) →
    after.contentAt? place = before.contentAt? place
  distinct : (done.map (fun file => workshop.writer.placeIn before file.1)).Nodup
  sublist : created.Sublist (done.map Prod.fst)
  fresh : ∀ path ∈ created, before.pathExists (workshop.writer.resolve path) = false
  remembered : ∀ file ∈ done, before.contentAt? (workshop.writer.placeIn before file.1) = none → file.1 ∈ created
  guarded : options.overwriteExisting = false →
    ∀ file ∈ done, before.contentAt? (workshop.writer.placeIn before file.1) = none

theorem Progress.start (workshop : Workshop) (options : Options) (tree : FileTree) :
    workshop.Progress options tree tree [] [] where
  grows := .refl tree
  held _ member := by cases member
  others _ _ := rfl
  distinct := List.nodup_nil
  sublist := .slnil
  fresh _ member := by cases member
  remembered _ member := by cases member
  guarded _ _ member := by cases member

/-- Directories that a failed write has made do not count. -/
theorem Progress.addDirectories {before middle after : FileTree} {done : List (String × String)}
    {created : List String}
    (progress : workshop.Progress options before middle done created) (added : middle.AddsDirectories after) :
    workshop.Progress options before after done created where
  grows := progress.grows.trans added.grows
  held file member := by
    rcases progress.held file member with ⟨leads, holds⟩
    refine ⟨leads.keep added.toKeepsDirectories ?_, (added.sameFiles _).trans holds⟩
    rw [added.sameFiles]
    exact leads.there
  others place outside := (added.sameFiles place).trans (progress.others place outside)
  distinct := progress.distinct
  sublist := progress.sublist
  fresh := progress.fresh
  remembered := progress.remembered
  guarded := progress.guarded

/-- One more file has been written, at a place of its own. -/
theorem Progress.step {before middle after : FileTree} {done : List (String × String)} {created : List String}
    {path text : String} (progress : workshop.Progress options before middle done created)
    (stores : middle.Stores after (workshop.writer.resolve path) text)
    (own : workshop.writer.placeIn before path ∉ done.map (fun file => workshop.writer.placeIn before file.1))
    (absent : options.overwriteExisting = false → before.contentAt? (workshop.writer.placeIn before path) = none) :
    workshop.Progress options before after (done ++ [(path, text)])
      (if middle.pathExists (workshop.writer.resolve path) then created else created ++ [path]) := by
  have meant : middle.placeOf (workshop.writer.resolve path) = workshop.writer.placeIn before path :=
    progress.grows.placeOf _
  have apart : ∀ file ∈ done, workshop.writer.placeIn before file.1 ≠ workshop.writer.placeIn before path := by
    intro file member same
    exact own (List.mem_map.2 ⟨file, member, same⟩)
  constructor
  case grows => exact progress.grows.trans stores.grows
  case held =>
    intro file member
    rcases List.mem_append.1 member with earlier | last
    · rcases progress.held file earlier with ⟨leads, holds⟩
      have same := stores.others (workshop.writer.placeIn before file.1) (meant ▸ apart file earlier)
      refine ⟨leads.keep stores.grows.toKeepsDirectories ?_, same.trans holds⟩
      exact stores.grows.files _ leads.there
    · cases List.mem_singleton.1 last
      exact ⟨stores.leadsToFile, meant ▸ stores.content⟩
  case others =>
    intro place outside
    rw [List.map_append, List.mem_append, not_or] at outside
    rw [← progress.others place outside.1]
    exact stores.others place (fun same => outside.2 (by rw [same]; exact List.mem_singleton.2 meant))
  case distinct =>
    rw [List.map_append, List.map_singleton, ← List.concat_eq_append]
    exact progress.distinct.concat own
  case sublist =>
    rw [List.map_append]
    split
    · exact progress.sublist.trans (List.sublist_append_left _ _)
    · exact progress.sublist.append (.refl _)
  case fresh =>
    intro other member
    split at member
    · exact progress.fresh other member
    · next missing =>
      rcases List.mem_append.1 member with earlier | last
      · exact progress.fresh other earlier
      · rw [List.mem_singleton.1 last]
        exact Bool.eq_false_iff.2 (fun there => missing (progress.grows.pathExists there))
  case remembered =>
    intro file member free
    rcases List.mem_append.1 member with earlier | last
    · have known := progress.remembered file earlier free
      split
      · exact known
      · exact List.mem_append_left _ known
    · cases List.mem_singleton.1 last
      split
      · next there =>
        -- What lay there before the write was a file, and no file of the loop can have come to
        -- this place.
        have file := stores.contentAt?_of_pathExists there
        rw [meant, progress.others _ own, free] at file
        cases file
      · exact List.mem_append_right _ (List.mem_singleton.2 rfl)
  case guarded =>
    intro off file member
    rcases List.mem_append.1 member with earlier | last
    · exact progress.guarded off file earlier
    · cases List.mem_singleton.1 last
      exact absent off

/-- The created files are all there and can be removed again. -/
theorem Progress.loses_removeCreated {before : FileTree} {world : World} {done : List (String × String)}
    {created : List String} (progress : workshop.Progress options before world.tree done created) :
    ∃ tree, (workshop.removeCreated created).perform world = (.ok (), { world with tree }) ∧
      world.tree.Loses tree (created.map (workshop.writer.placeIn before)) := by
  have meant : created.map (workshop.writer.placeIn before) = created.map (workshop.writer.placeIn world.tree) :=
    List.map_congr_left fun path _ => (progress.grows.placeOf _).symm
  have leads : ∀ path ∈ created, world.tree.LeadsToFile (workshop.writer.resolve path) := by
    intro path member
    rcases List.mem_map.1 (progress.sublist.subset member) with ⟨file, listed, rfl⟩
    exact (progress.held file listed).1
  have distinct : (created.map (workshop.writer.placeIn before)).Nodup := by
    have places := progress.sublist.map (workshop.writer.placeIn before)
    rw [List.map_map] at places
    exact progress.distinct.sublist places
  rw [meant] at distinct ⊢
  exact ⟨_, rfl, FileTree.loses_foldl_removeFile workshop.writer.resolve leads distinct⟩

/-- A file does not go to the place of an earlier one: the paths lead apart, or the write would have
been refused. -/
theorem Progress.own {before middle : FileTree} {done : List (String × String)}
    {created : List String} {path : String}
    (progress : workshop.Progress options before middle done created)
    (apart : options.overwriteExisting = true →
      workshop.writer.placeIn before path ∉ done.map (fun file => workshop.writer.placeIn before file.1))
    (absent : options.overwriteExisting = false → middle.contentAt? (workshop.writer.placeIn before path) = none) :
    workshop.writer.placeIn before path ∉ done.map (fun file => workshop.writer.placeIn before file.1) := by
  cases overwrite : options.overwriteExisting with
  | true => exact apart overwrite
  | false =>
    intro taken
    rcases List.mem_map.1 taken with ⟨file, member, same⟩
    have free := absent overwrite
    rw [← same, (progress.held file member).2] at free
    cases free

/-- One turn of the loop adds a file to the written ones, or it fails and the created files are lost
again. -/
theorem Progress.attempt_cases (quiet : workshop.writer.Quiet options) {before : FileTree}
    {done : List (String × String)} {created : List String} {path text : String} {world after : World}
    {outcome : Except Fault String} (unlinked : options.overwriteExisting = true → before.links = [])
    (progress : workshop.Progress options before world.tree done created)
    (apart : options.overwriteExisting = true →
      workshop.writer.placeIn before path ∉ done.map (fun file => workshop.writer.placeIn before file.1))
    (performed : (tryCatch (workshop.writer.write workshop.toolbox path text options)
      (fun fault => do
        workshop.removeCreated created
        throw fault)).perform world = (outcome, after)) :
    (outcome = .ok path ∧ workshop.Progress options before after.tree (done ++ [(path, text)])
        (if world.tree.pathExists (workshop.writer.resolve path) then created else created ++ [path])) ∨
      (∃ fault, outcome = .error fault) ∧ ∃ middle, workshop.Progress options before middle done created ∧
        middle.Loses after.tree (created.map (workshop.writer.placeIn before)) := by
  have still : options.overwriteExisting = true → world.tree.links = [] := fun on =>
    progress.grows.links.trans (unlinked on)
  rcases perform_tryCatch_cases performed with ⟨value, stored, rfl⟩ | ⟨cause, reached, failed, handled⟩
  · rcases Writer.write_cases quiet still stored with ⟨⟨fault, failed⟩, -⟩ | ⟨succeeded, stores, guard⟩
    · cases failed
    have absent : options.overwriteExisting = false →
        world.tree.contentAt? (workshop.writer.placeIn before path) = none := by
      intro off
      have meant : workshop.writer.placeIn world.tree path = workshop.writer.placeIn before path :=
        progress.grows.placeOf _
      exact meant ▸ (guard off).2
    have own := progress.own apart absent
    exact .inl ⟨succeeded, progress.step stores own fun off => (progress.others _ own).symm.trans (absent off)⟩
  · -- The write has failed, and the handler removes the created files.
    rcases Writer.write_cases quiet still failed with ⟨-, added⟩ | ⟨succeeded, -⟩
    · have stopped := progress.addDirectories added
      rcases stopped.loses_removeCreated with ⟨tree, removed, loses⟩
      rw [perform_bind, removed] at handled
      cases handled
      exact .inr ⟨⟨_, rfl⟩, reached.tree, stopped, loses⟩
    · cases succeeded

/-- The loop writes all files, or it ends in the middle with the created files lost again. -/
theorem writeFrom_cases (quiet : workshop.writer.Quiet options) {before : FileTree}
    {done texts : List (String × String)} {created : List String} {world after : World}
    {outcome : Except Fault (List String)} (unlinked : options.overwriteExisting = true → before.links = [])
    (progress : workshop.Progress options before world.tree done created)
    (apart : options.overwriteExisting = true →
      ((done ++ texts).map (fun file => workshop.writer.placeIn before file.1)).Nodup)
    (performed : (workshop.writeFrom options created texts).perform world = (outcome, after)) :
    (outcome = .ok (texts.map Prod.fst) ∧
        ∃ created, workshop.Progress options before after.tree (done ++ texts) created) ∨
      (∃ fault, outcome = .error fault) ∧
        ∃ written middle created, written <+: done ++ texts ∧
          workshop.Progress options before middle written created ∧
          middle.Loses after.tree (created.map (workshop.writer.placeIn before)) := by
  induction texts generalizing world outcome after done created with
  | nil =>
    cases performed
    rw [List.append_nil]
    exact .inl ⟨rfl, created, progress⟩
  | cons file rest ih =>
    rcases file with ⟨path, text⟩
    rw [writeFrom, perform_bind, perform_tree] at performed
    dsimp only at performed
    have own : options.overwriteExisting = true →
        workshop.writer.placeIn before path ∉ done.map (fun file => workshop.writer.placeIn before file.1) := by
      intro overwrite taken
      have unique := apart overwrite
      rw [List.map_append, List.nodup_append] at unique
      exact unique.2.2 _ taken _ (by simp) rfl
    have whole : done ++ [(path, text)] ++ rest = done ++ (path, text) :: rest := by simp
    rcases perform_bind_cases performed with ⟨fault, failed, rfl⟩ | ⟨written, middle, writing, continuing⟩
    · rcases progress.attempt_cases quiet unlinked own failed with ⟨succeeded, -⟩ | ⟨-, stopped, reached, loses⟩
      · cases succeeded
      · exact .inr ⟨⟨fault, rfl⟩, done, stopped, created, List.prefix_append _ _, reached, loses⟩
    rcases progress.attempt_cases quiet unlinked own writing with ⟨succeeded, stepped⟩ | ⟨⟨fault, failed⟩, -⟩
    · cases succeeded
      rw [← whole] at apart ⊢
      rcases perform_bind_cases continuing with ⟨fault, failed, rfl⟩ | ⟨others, last, rested, ending⟩
      · rcases ih stepped apart failed with ⟨succeeded, -⟩ | ⟨-, undone⟩
        · cases succeeded
        · exact .inr ⟨⟨fault, rfl⟩, undone⟩
      · cases ending
        rcases ih stepped apart rested with ⟨succeeded, finished⟩ | ⟨⟨fault, failed⟩, -⟩
        · cases succeeded
          exact .inl ⟨rfl, finished⟩
        · cases failed
    · cases failed

end Workshop
end Scaffold
