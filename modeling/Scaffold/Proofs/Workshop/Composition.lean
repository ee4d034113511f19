import Scaffold.Proofs.Workshop.Rendering
import Scaffold.Proofs.Workshop.Repetition

namespace Scaffold

/-!
# From templates to files, once more

Before the files of a layer are put, the tree is asked for conflicts and for the templates.  If
these are steady, what comes of the whole follows from that and from the ways of the files, and so
the layer can be taken up again in a later tree, if its templates are read there as before.
-/

open FileTree Job
open FilePath (IsDescent AreSeparate)

namespace Workshop

variable {workshop : Workshop} {options : Options} {site : Site} {tree after : FileTree} {data : Json.Value}
  {targets : List Target}

/-- The text of each target, with its path, as the templates in the tree have it when no random
number has been taken. -/
def drafted (workshop : Workshop) (data : Json.Value) (tree : FileTree) (targets : List Target) :
    Except Fault (List (String × String)) :=
  (drafts workshop.engine data (templateOf tree) [] 0 targets).1

/-- The first target that is in conflict with what a tree has. -/
def conflict? (workshop : Workshop) (options : Options) (tree : FileTree) (targets : List Target) : Option Target :=
  targets.find? fun target => workshop.writer.isTaken options tree target.output.path

theorem perform_checkConflicts (workshop : Workshop) (options : Options) (targets : List Target) (world : World) :
    (workshop.checkConflicts options targets).perform world =
      (match workshop.conflict? options world.tree targets with
        | some target => .error (.conflict target.output.path)
        | none => .ok (), world) := by
  induction targets with
  | nil => rfl
  | cons target rest ih =>
    rw [checkConflicts, perform_bind, Writer.perform_checkConflict, conflict?, List.find?_cons]
    cases taken : workshop.writer.isTaken options world.tree target.output.path with
    | true =>
      rw [Writer.isTaken] at taken
      rw [if_pos taken]
    | false =>
      rw [Writer.isTaken] at taken
      rw [if_neg (by simp [taken])]
      exact ih

/-- What comes of rendering targets and writing them. -/
def composed (workshop : Workshop) (options : Options) (site : Site) (data : Json.Value) (targets : List Target)
    (tree : FileTree) : Except Fault (List String) × FileTree :=
  match workshop.conflict? options tree targets with
  | some target => (.error (.conflict target.output.path), tree)
  | none =>
    match workshop.drafted data tree targets with
    | .error fault => (.error fault, tree)
    | .ok files => workshop.written options site tree files

theorem composed_of_conflict {target : Target} (found : workshop.conflict? options tree targets = some target) :
    workshop.composed options site data targets tree = (.error (.conflict target.output.path), tree) := by
  rw [composed, found]

theorem composed_of_fault {fault : Fault} (free : workshop.conflict? options tree targets = none)
    (failed : workshop.drafted data tree targets = .error fault) :
    workshop.composed options site data targets tree = (.error fault, tree) := by
  rw [composed, free, failed]

/-- Where the first template cannot be read, nothing changes. -/
theorem composed_of_unread {first : Target} {rest : List Target} {e : OsError}
    (unread : templateOf tree first = .error e) :
    (workshop.composed options site data (first :: rest) tree).2 = tree := by
  rcases drafts_of_unread workshop.engine data [] 0 rest unread with ⟨fault, failed⟩
  cases found : workshop.conflict? options tree (first :: rest) with
  | some target => rw [composed_of_conflict found]
  | none => rw [composed_of_fault found failed]

theorem composed_of_drafts {files : List (String × String)} (free : workshop.conflict? options tree targets = none)
    (drafted : workshop.drafted data tree targets = .ok files) :
    workshop.composed options site data targets tree = workshop.written options site tree files := by
  rw [composed, free, drafted]

/-- Targets that are written give their paths. -/
theorem composed_eq_ok {paths : List String}
    (done : (workshop.composed options site data targets tree).1 = .ok paths) :
    paths = targets.map fun target => target.output.path := by
  unfold composed at done
  split at done
  · cases done
  · split at done
    · cases done
    · next drafted =>
      unfold written concluded at done
      split at done
      · cases done
        exact paths_of_drafts drafted
      · cases done

section

variable (has : tree.HasRoot workshop.writer.root site)
  (separate : AreSeparate (targets.map fun target => target.output.path))
include has separate

theorem composed_rooted :
    (workshop.composed options site data targets tree).2.HasRoot workshop.writer.root site := by
  rw [composed]
  split
  · exact has
  · split
    · exact has
    · next drafted => exact written_rooted has (paths_of_drafts drafted ▸ separate)

theorem composed_touches : tree.Touches (workshop.composed options site data targets tree).2 site
    (targets.map fun target => target.output.path) := by
  rw [composed]
  split
  · exact .refl tree site _
  · split
    · exact .refl tree site _
    · next drafted =>
      rw [← paths_of_drafts drafted] at separate ⊢
      exact written_touches has separate options

end

/-- Of steady templates there comes what follows from the tree, whatever random numbers are
taken. -/
theorem perform_renderAndWrite {world : World} {files : List String} (quiet : workshop.writer.Quiet options)
    (has : world.tree.HasRoot workshop.writer.root site)
    (separate : AreSeparate (targets.map fun target => target.output.path))
    (steady : workshop.engine.IsSteady world.tree files)
    (listed : ∀ target ∈ targets, Template.fileIn target.directory target.output.template ∈ files) :
    ∃ draws, (workshop.renderAndWrite options data targets).perform world =
      ((workshop.composed options site data targets world.tree).1,
        { world with tree := (workshop.composed options site data targets world.tree).2, draws }) := by
  have same : (drafts workshop.engine data (templateOf world.tree) [] world.draws targets).1 =
      workshop.drafted data world.tree targets :=
    drafts_of_isSteady steady listed (List.forall_mem_nil _) world.draws 0
  rw [renderAndWrite, perform_bind, perform_checkConflicts]
  cases found : workshop.conflict? options world.tree targets with
  | some target =>
    rw [composed_of_conflict found]
    exact ⟨world.draws, rfl⟩
  | none =>
    dsimp only
    rw [perform_bind, perform_renderAll]
    dsimp only
    rw [same]
    cases drafted : workshop.drafted data world.tree targets with
    | error fault =>
      rw [composed_of_fault found drafted]
      exact ⟨_, rfl⟩
    | ok files =>
      rw [composed_of_drafts found drafted]
      have rooted (draws : Nat) : ({ world with draws } : World).tree.HasRoot workshop.writer.root site := has
      exact ⟨_, perform_writeFrom quiet (rooted _) (paths_of_drafts drafted ▸ separate) []⟩

/-! ## Once more -/

/-- The outcome of what is done for the second time, by the outcome that it had at first. -/
def nextOutcome (options : Options) : Except Fault (List String) → Except Fault (List String)
  | .ok (path :: rest) => if options.overwriteExisting then .ok (path :: rest) else .error (.conflict path)
  | outcome => outcome

theorem nextOutcome_of_overwrite (overwrite : options.overwriteExisting = true)
    (outcome : Except Fault (List String)) :
    nextOutcome options outcome = outcome := by
  unfold nextOutcome
  split
  · exact if_pos overwrite
  · rfl

theorem conflict?_congr (same : ∀ target ∈ targets,
    workshop.writer.isTaken options after target.output.path =
      workshop.writer.isTaken options tree target.output.path) :
    workshop.conflict? options after targets = workshop.conflict? options tree targets := by
  induction targets with
  | nil => rfl
  | cons target rest ih =>
    rcases List.forall_mem_cons.1 same with ⟨first, others⟩
    rw [conflict?, conflict?, List.find?_cons, List.find?_cons, first]
    split
    · rfl
    · exact ih others

theorem conflict?_eq_none_iff : workshop.conflict? options tree targets = none ↔
    ∀ target ∈ targets, workshop.writer.isTaken options tree target.output.path = false := by
  rw [conflict?, List.find?_eq_none]
  simp only [Bool.not_eq_true]

theorem conflict?_of_overwrite (overwrite : options.overwriteExisting = true) :
    workshop.conflict? options tree targets = none := by
  apply conflict?_eq_none_iff.2
  intro target _
  rw [Writer.isTaken, overwrite]
  rfl

section

variable (has : tree.HasRoot workshop.writer.root site)
  (separate : AreSeparate (targets.map fun target => target.output.path))
  (afterHas : after.HasRoot workshop.writer.root site)
include has separate afterHas

/-- Targets that were not written are in conflict as before. -/
theorem conflict?_again_of_same (options : Options)
    (same : ∀ target ∈ targets, tree.AlikeAt after site target.output.path) :
    workshop.conflict? options after targets = workshop.conflict? options tree targets := by
  apply conflict?_congr
  intro target member
  apply Writer.isTaken_congr has afterHas (separate.descends _ (List.mem_map_of_mem member))
  exact (same target member).ending

variable {files : List (String × String)} (drafted : workshop.drafted data tree targets = .ok files)
  (alike : ∀ target ∈ targets, (workshop.written options site tree files).2.AlikeAt after site target.output.path)
include drafted alike

omit has separate afterHas in
theorem alike_of_drafts :
    ∀ file ∈ files, (workshop.written options site tree files).2.AlikeAt after site file.1 := by
  intro file member
  have listed := List.mem_map_of_mem (f := Prod.fst) member
  rw [paths_of_drafts drafted] at listed
  rcases List.mem_map.1 listed with ⟨target, inTargets, same⟩
  rw [← same]
  exact alike target inTargets

/-- Targets that something has stopped are stopped again. -/
theorem composed_again_of_fault (free : workshop.conflict? options tree targets = none)
    (same : workshop.drafted data after targets = workshop.drafted data tree targets) {fault : Fault}
    (stopped : (workshop.writer.deliver options site files tree).fault? = some fault) :
    (workshop.composed options site data targets after).1 = (workshop.written options site tree files).1 ∧
      after.SameEntries (workshop.composed options site data targets after).2 := by
  have paths := paths_of_drafts drafted
  have separateFiles : AreSeparate (files.map Prod.fst) := paths ▸ separate
  have alikeFiles := alike_of_drafts drafted alike
  have meets := meets_of_fault has separateFiles afterHas alikeFiles stopped
  have freeAgain : workshop.conflict? options after targets = none := by
    refine (conflict?_congr fun target member => ?_).trans free
    have listed := List.mem_map_of_mem (f := fun target : Target => target.output.path) member
    rw [← paths] at listed
    rcases List.mem_map.1 listed with ⟨file, inFiles, own⟩
    rw [← own]
    exact (meets file inFiles).taken
  rw [composed_of_drafts freeAgain (same.trans drafted)]
  exact written_again_of_fault has separateFiles afterHas alikeFiles stopped

/-- Targets that were written are written again, or refused at the first of them. -/
theorem composed_again_of_unstopped
    (same : workshop.drafted data after targets = workshop.drafted data tree targets)
    (unstopped : (workshop.writer.deliver options site files tree).fault? = none) :
    (workshop.composed options site data targets after).1 =
        nextOutcome options (workshop.written options site tree files).1 ∧
      after.SameEntries (workshop.composed options site data targets after).2 := by
  have paths := paths_of_drafts drafted
  have separateFiles : AreSeparate (files.map Prod.fst) := paths ▸ separate
  have alikeFiles := alike_of_drafts drafted alike
  cases overwrite : options.overwriteExisting with
  | true =>
    rw [composed_of_drafts (conflict?_of_overwrite overwrite) (same.trans drafted),
      nextOutcome_of_overwrite overwrite]
    exact written_again_of_unstopped has separateFiles afterHas alikeFiles unstopped overwrite
  | false =>
    have outcome : (workshop.written options site tree files).1 = .ok (files.map Prod.fst) := by
      rw [written, concluded_of_unstopped unstopped]
    rw [outcome, paths]
    cases targets with
    | nil =>
      cases drafted
      exact ⟨rfl, .refl after⟩
    | cons first rest =>
      -- The first file stands in the way of itself.
      have listed : first.output.path ∈ files.map Prod.fst := paths ▸ List.mem_cons_self
      rcases List.mem_map.1 listed with ⟨file, member, own⟩
      have taken := isTaken_of_unstopped has separateFiles afterHas alikeFiles unstopped overwrite member
      rw [own] at taken
      have found : workshop.conflict? options after (first :: rest) = some first := by
        rw [conflict?, List.find?_cons, taken]
      rw [composed_of_conflict found, List.map_cons, nextOutcome, if_neg (by simp [overwrite])]
      exact ⟨rfl, .refl after⟩

end

section

variable (has : tree.HasRoot workshop.writer.root site)
  (separate : AreSeparate (targets.map fun target => target.output.path))
  (afterHas : after.HasRoot workshop.writer.root site)
  (alike : ∀ target ∈ targets,
    (workshop.composed options site data targets tree).2.AlikeAt after site target.output.path)
  (templates : ∀ target ∈ targets, templateOf after target = templateOf tree target)
include has separate afterHas alike templates

/-- Taken up again in a later tree, the targets come to the outcome that follows their first one,
and change nothing. -/
theorem composed_again :
    (workshop.composed options site data targets after).1 =
        nextOutcome options (workshop.composed options site data targets tree).1 ∧
      after.SameEntries (workshop.composed options site data targets after).2 := by
  cases found : workshop.conflict? options tree targets with
  | some target =>
    rw [composed_of_conflict found] at alike ⊢
    have again := conflict?_again_of_same has separate afterHas options alike
    rw [composed_of_conflict (again.trans found)]
    exact ⟨rfl, .refl after⟩
  | none =>
    have same : workshop.drafted data after targets = workshop.drafted data tree targets :=
      congrArg Prod.fst (drafts_congr workshop.engine data [] 0 templates)
    cases drafted : workshop.drafted data tree targets with
    | error fault =>
      rw [composed_of_fault found drafted] at alike ⊢
      have again := conflict?_again_of_same has separate afterHas options alike
      rw [composed_of_fault (again.trans found) (same.trans drafted)]
      exact ⟨rfl, .refl after⟩
    | ok files =>
      rw [composed_of_drafts found drafted] at alike ⊢
      cases stopped : (workshop.writer.deliver options site files tree).fault? with
      | none => exact composed_again_of_unstopped has separate afterHas drafted alike same stopped
      | some fault =>
        have failed : (workshop.written options site tree files).1 = .error fault := by
          rw [written, concluded_of_fault stopped]
        have again := composed_again_of_fault has separate afterHas drafted alike found same stopped
        rw [failed] at again ⊢
        exact again

end

end Workshop
end Scaffold
