import Scaffold.Proofs.Layer.Paths
import Scaffold.Proofs.Workshop.Composition

namespace Scaffold

/-!
# One layer, and the same layer once more

The stage of a layer chooses the directory of its templates, and composes its files from them.  If
these are steady, what comes of it is a function of the tree.  When the templates are seen in a
later tree as they were, and the files of the layer are still as they were left, the layer can be
produced once more without any change.
-/

namespace Workshop

/-- The paths under which templates are looked for. -/
def templateFiles (workshop : Workshop) : List String :=
  Layer.templateNames.map (Template.fileIn workshop.templates) ++ [Template.fileIn workshop.bundled "model.go"]

theorem templateFile_mem (workshop : Workshop) (name : String) (listed : name ∈ Layer.templateNames) :
    Template.fileIn workshop.templates name ∈ workshop.templateFiles :=
  List.mem_append_left _ (List.mem_map_of_mem listed)

theorem bundledFile_mem (workshop : Workshop) :
    Template.fileIn workshop.bundled "model.go" ∈ workshop.templateFiles :=
  List.mem_append_right _ List.mem_cons_self

/-- The templates ask for no random numbers. -/
abbrev IsSteady (workshop : Workshop) (tree : FileTree) : Prop :=
  workshop.engine.IsSteady tree workshop.templateFiles

end Workshop

namespace Layer

open FileTree Job
open Workshop (composed nextOutcome templateOf)

variable {layer : Layer} {workshop : Workshop} {request : Request} {site : Site} {tree after : FileTree}

/-! ## What comes of a layer -/

/-- The targets of a layer, when its templates are taken from a directory. -/
def targets (layer : Layer) (names : Names) (directory : String) : List Target :=
  (layer.outputs names).map fun output => { output, directory }

theorem paths_targets (layer : Layer) (names : Names) (directory : String) :
    ((layer.targets names directory).map fun target => target.output.path) = layer.paths names := by
  rw [targets, List.map_map]
  rfl

/-- The directory of the templates of a layer, as a tree has it. -/
def home (layer : Layer) (workshop : Workshop) (tree : FileTree) : Except Fault String :=
  match layer with
  | model =>
    if tree.pathExists (Template.fileIn workshop.templates "model.go") then .ok workshop.templates
    else if tree.pathExists (Template.fileIn workshop.bundled "model.go") then .ok workshop.bundled
    else
      .error (.render "model.go" ("template not found at '" ++ Template.fileIn workshop.templates "model.go" ++
        "' or builtin '" ++ Template.fileIn workshop.bundled "model.go" ++ "'"))
  | _ => .ok workshop.templates

theorem home_of_ne_model (other : layer ≠ model) : layer.home workshop tree = .ok workshop.templates := by
  cases layer
  case model => exact absurd rfl other
  all_goals rfl

theorem perform_templateHome (layer : Layer) (workshop : Workshop) (world : World) :
    (layer.templateHome workshop).perform world = (layer.home workshop world.tree, world) := by
  cases layer
  case model =>
    rw [templateHome, home, Template.homeOf, perform_bind, perform_tree]
    dsimp only
    split
    · rfl
    · split <;> rfl
  all_goals rfl

/-- Wherever the templates of a layer are taken from, they are looked for there. -/
theorem templateFile_mem_of_home {names : Names} {directory : String}
    (found : layer.home workshop tree = .ok directory) :
    ∀ target ∈ layer.targets names directory,
      Template.fileIn target.directory target.output.template ∈ workshop.templateFiles := by
  intro target member
  rcases List.mem_map.1 member with ⟨output, listed, rfl⟩
  have own := Workshop.templateFile_mem workshop output.template (template_mem listed)
  by_cases isModel : layer = model
  · subst isModel
    rcases List.mem_singleton.1 listed with rfl
    rw [home] at found
    split at found
    · cases found
      exact own
    · split at found <;> cases found
      exact workshop.bundledFile_mem
  · rw [home_of_ne_model isModel] at found
    cases found
    exact own

/-- What comes of the stage of a layer. -/
def produced (layer : Layer) (workshop : Workshop) (request : Request) (site : Site) (tree : FileTree) :
    Except Fault (List String) × FileTree :=
  let blueprint := workshop.blueprint request (.ofLayer layer)
  match layer.home workshop tree with
  | .error fault => (.error fault, tree)
  | .ok directory =>
    workshop.composed request.options site blueprint.encode (layer.targets blueprint.names directory) tree

theorem produced_of_homeless {fault : Fault} (homeless : layer.home workshop tree = .error fault) :
    layer.produced workshop request site tree = (.error fault, tree) := by
  rw [produced, homeless]

theorem produced_of_home {directory : String} (found : layer.home workshop tree = .ok directory) :
    layer.produced workshop request site tree =
      workshop.composed request.options site (workshop.blueprint request (.ofLayer layer)).encode
        (layer.targets (Names.ofRequest request) directory) tree := by
  rw [produced, found]
  rfl

section

variable (has : tree.HasRoot workshop.writer.root site)
  (separate : FilePath.AreSeparate (layer.paths (Names.ofRequest request)))
include has separate

/-- Of steady templates there comes what follows from the tree, whatever random numbers are
taken. -/
theorem perform_generate {world : World} (quiet : workshop.writer.Quiet request.options) (same : world.tree = tree)
    (steady : workshop.IsSteady tree) :
    ∃ draws, (layer.generate workshop request).perform world =
      ((layer.produced workshop request site tree).1,
        { world with tree := (layer.produced workshop request site tree).2, draws }) := by
  subst same
  rw [generate]
  dsimp only
  rw [perform_bind, perform_templateHome]
  cases found : layer.home workshop world.tree with
  | error fault =>
    rw [produced_of_homeless found]
    exact ⟨world.draws, rfl⟩
  | ok directory =>
    rw [produced_of_home found]
    exact Workshop.perform_renderAndWrite quiet has (layer.paths_targets _ directory ▸ separate) steady
      (templateFile_mem_of_home found)

theorem produced_rooted : (layer.produced workshop request site tree).2.HasRoot workshop.writer.root site := by
  cases found : layer.home workshop tree with
  | error fault =>
    rw [produced_of_homeless found]
    exact has
  | ok directory =>
    rw [produced_of_home found]
    exact Workshop.composed_rooted has (layer.paths_targets _ directory ▸ separate)

theorem produced_touches :
    tree.Touches (layer.produced workshop request site tree).2 site (layer.paths (Names.ofRequest request)) := by
  cases found : layer.home workshop tree with
  | error fault =>
    rw [produced_of_homeless found]
    exact .refl tree site _
  | ok directory =>
    rw [produced_of_home found, ← layer.paths_targets _ directory]
    exact Workshop.composed_touches has (layer.paths_targets _ directory ▸ separate)

end

/-- Where its first template cannot be read, a layer changes nothing. -/
theorem produced_of_unread {directory : String} (found : layer.home workshop tree = .ok directory)
    (unread : ∀ name ∈ templateNames, ∃ e, tree.read (Template.fileIn directory name) = .error e) :
    (layer.produced workshop request site tree).2 = tree := by
  rw [produced_of_home found, targets]
  cases whole : layer.outputs (Names.ofRequest request) with
  | nil => cases layer <;> cases whole
  | cons output rest =>
    have listed : output ∈ layer.outputs (Names.ofRequest request) := by
      rw [whole]
      exact List.mem_cons_self
    rcases unread output.template (template_mem listed) with ⟨e, unread⟩
    exact Workshop.composed_of_unread unread

/-- A layer that is produced gives its paths. -/
theorem produced_eq_ok {files : List String} (done : (layer.produced workshop request site tree).1 = .ok files) :
    files = layer.paths (Names.ofRequest request) := by
  cases found : layer.home workshop tree with
  | error fault =>
    rw [produced_of_homeless found] at done
    cases done
  | ok directory =>
    rw [produced_of_home found] at done
    exact (Workshop.composed_eq_ok done).trans (layer.paths_targets _ directory)

/-! ## Once more -/

/-- The layer finds and reads its templates in the second tree as in the first. -/
structure ReadsAlike (layer : Layer) (workshop : Workshop) (names : Names) (first second : FileTree) : Prop where
  home : layer.home workshop second = layer.home workshop first
  templates : ∀ directory, layer.home workshop first = .ok directory →
    ∀ target ∈ layer.targets names directory, templateOf second target = templateOf first target

theorem readsAlike_of_sameEntries {names : Names} (same : tree.SameEntries after) :
    layer.ReadsAlike workshop names tree after := by
  constructor
  · cases layer
    case model => rw [home, home, pathExists, pathExists, pathExists, pathExists, same.status, same.status]
    all_goals rfl
  · intro directory _ target _
    exact same.read _

/-- Produced once more, a layer comes to the outcome that follows its first one, and nothing
changes. -/
theorem produced_again (has : tree.HasRoot workshop.writer.root site)
    (separate : FilePath.AreSeparate (layer.paths (Names.ofRequest request)))
    (afterHas : after.HasRoot workshop.writer.root site)
    (alike : ∀ path ∈ layer.paths (Names.ofRequest request),
      (layer.produced workshop request site tree).2.AlikeAt after site path)
    (reads : layer.ReadsAlike workshop (Names.ofRequest request) tree after) :
    (layer.produced workshop request site after).1 =
        nextOutcome request.options (layer.produced workshop request site tree).1 ∧
      after.SameEntries (layer.produced workshop request site after).2 := by
  cases found : layer.home workshop tree with
  | error fault =>
    rw [produced_of_homeless found, produced_of_homeless (reads.home.trans found)]
    exact ⟨rfl, .refl after⟩
  | ok directory =>
    rw [produced_of_home found] at alike ⊢
    rw [produced_of_home (reads.home.trans found)]
    rw [← layer.paths_targets _ directory] at separate alike
    apply Workshop.composed_again has separate afterHas
    · intro target member
      exact alike target.output.path (List.mem_map_of_mem member)
    · exact reads.templates directory found

end Layer
end Scaffold
