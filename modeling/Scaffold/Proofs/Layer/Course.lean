import Scaffold.Proofs.Layer.Templates

namespace Scaffold
namespace Layer

/-!
# Layers one after the other, and once more

Layers are produced one after the other, each in the tree that the ones before it have left.  A
second course starts where the first one has ended.  Every layer then meets what it has left behind
itself, since the others have worked elsewhere, and what it reads is what it has read before; so its
outcome follows from its first one, and it changes nothing.
-/

open FileTree
open Workshop (nextOutcome)

variable {workshop : Workshop} {request : Request} {site : Site} {start tree after : FileTree} {layer : Layer}
  {layers rest : List Layer}

/-- What comes of layers that are produced one after the other. -/
def course (workshop : Workshop) (request : Request) (site : Site) :
    List Layer → FileTree → List (Layer × Except Fault (List String)) × FileTree
  | [], tree => ([], tree)
  | layer :: rest, tree =>
    let produced := layer.produced workshop request site tree
    let others := course workshop request site rest produced.2
    ((layer, produced.1) :: others.1, others.2)

/-- What follows when a layer with an outcome is produced once more. -/
def next (options : Options) (entry : Layer × Except Fault (List String)) : Layer × Except Fault (List String) :=
  (entry.1, nextOutcome options entry.2)

section

variable (named : IsFileName (Names.ofRequest request).snake)
include named

theorem course_rooted (layers : List Layer) (has : tree.HasRoot workshop.writer.root site) :
    (course workshop request site layers tree).2.HasRoot workshop.writer.root site := by
  induction layers generalizing tree with
  | nil => exact has
  | cons layer rest ih => exact ih (produced_rooted has (separate_paths named layer))

theorem course_touches (layers : List Layer) (has : tree.HasRoot workshop.writer.root site) :
    tree.Touches (course workshop request site layers tree).2 site
      (layers.flatMap fun layer => layer.paths (Names.ofRequest request)) := by
  induction layers generalizing tree with
  | nil => exact .refl tree site []
  | cons layer rest ih =>
    have separate := separate_paths named layer
    rw [List.flatMap_cons]
    exact ((produced_touches has separate).mono (List.subset_append_left _ _)).trans
      ((ih (produced_rooted has separate)).mono (List.subset_append_right _ _))

end

/-- A layer that has been produced in a course has given its paths. -/
theorem eq_paths_of_course {files : List String}
    (member : (layer, .ok files) ∈ (course workshop request site layers tree).1) :
    files = layer.paths (Names.ofRequest request) := by
  induction layers generalizing tree with
  | nil => cases member
  | cons first rest ih =>
    rcases List.mem_cons.1 member with here | later
    · rcases Prod.mk.inj here with ⟨rfl, done⟩
      exact produced_eq_ok done.symm
    · exact ih later

theorem flatMap_paths_subset (layers : List Layer) (names : Names) :
    (layers.flatMap fun layer => layer.paths names) ⊆ allPaths names := by
  intro path member
  rcases List.mem_flatMap.1 member with ⟨layer, -, own⟩
  exact (layer.paths_sublist names).subset own

/-- Where the directory of the templates cannot be reached, layers change nothing. -/
theorem course_of_lost (others : ∀ layer ∈ layers, layer ≠ model) {base : Place} {way : List String}
    (ends : ∀ name ∈ templateNames,
      start.EndsAt (Template.fileIn workshop.templates name) base way (name ++ ".tera"))
    (kept : start.KeepsDirectories tree) {e : OsError} (lost : tree.walk base way = .error e) :
    (course workshop request site layers tree).2 = tree := by
  induction layers with
  | nil => rfl
  | cons layer rest ih =>
    rcases List.forall_mem_cons.1 others with ⟨other, others⟩
    rw [course, produced_of_lost other ends kept lost]
    exact ih others

/-! ## Once more -/

section

variable (closed : start.IsClosed) (grounded : workshop.IsGrounded start)
  (named : IsFileName (Names.ofRequest request).snake)
  (meant : start.placeOf workshop.writer.root = site.base ++ site.way)
  (touched : start.Touches tree site (allPaths (Names.ofRequest request)))
  (has : tree.HasRoot workshop.writer.root site)
include closed grounded named meant touched has

/-- A layer reads after its course what it has read before. -/
theorem readsAlike_of_course (others : ∀ layer ∈ rest, layer ≠ model)
    (same : (course workshop request site (layer :: rest) tree).2.SameEntries after) :
    layer.ReadsAlike workshop (Names.ofRequest request) tree after := by
  have during := (course_touches named _ has).mono (flatMap_paths_subset (layer :: rest) (Names.ofRequest request))
  have since := during.trans (same.touches site _)
  have alike : ∀ path ∈ workshop.templateFiles, tree.SeesAlike after path := by
    intro path listed
    have before := grounded.seesAlike closed named meant touched listed
    exact before.symm.trans (grounded.seesAlike closed named meant (touched.trans since) listed)
  by_cases isModel : layer = model
  · rw [isModel]
    exact readsAlike_model alike
  rcases Template.exists_ends closed grounded.templates with ⟨base, way, ends⟩
  cases walked : tree.walk base way with
  | error e =>
    have all : ∀ other ∈ layer :: rest, other ≠ model := List.forall_mem_cons.2 ⟨isModel, others⟩
    rw [course_of_lost all ends touched.toKeepsDirectories walked] at same
    exact readsAlike_of_sameEntries same
  | ok target =>
    rcases lay_of_walk (ends "model.go" (by decide)).named walked with ⟨-, rfl⟩
    exact readsAlike_of_reached isModel ends touched.toKeepsDirectories since.toKeepsDirectories alike walked

/-- Each layer comes to the outcome that follows its first one, and nothing changes. -/
theorem course_again
    (separate : FilePath.AreSeparate (layers.flatMap fun layer => layer.paths (Names.ofRequest request)))
    (others : ∀ layer ∈ layers.tail, layer ≠ model)
    (same : (course workshop request site layers tree).2.SameEntries after) :
    (course workshop request site layers after).1 =
        (course workshop request site layers tree).1.map (next request.options) ∧
      after.SameEntries (course workshop request site layers after).2 := by
  induction layers generalizing tree after with
  | nil => exact ⟨rfl, .refl after⟩
  | cons layer rest ih =>
    rw [List.flatMap_cons] at separate
    have own := separate_paths named layer
    have nextHas := produced_rooted has own
    have nextTouched := touched.trans ((produced_touches has own).mono
      (layer.paths_sublist (Names.ofRequest request)).subset)
    have afterHas := (course_rooted named _ has).congr same
    have alike : ∀ path ∈ layer.paths (Names.ofRequest request),
        (layer.produced workshop request site tree).2.AlikeAt after site path := by
      intro path member
      have undisturbed := (course_touches named rest nextHas).alike path
        fun other listed => (separate.across path member other listed).symm
      exact undisturbed.trans (same.alike _ _ _)
    have reads := readsAlike_of_course closed grounded named meant touched has others same
    rcases produced_again has own afterHas alike reads with ⟨outcome, still⟩
    have restOthers : ∀ layer ∈ rest.tail, layer ≠ model := fun layer member =>
      others layer (List.mem_of_mem_tail member)
    rcases ih nextTouched nextHas (separate.sublist (List.sublist_append_right _ _)) restOthers
      (same.trans still) with
      ⟨outcomes, stillThen⟩
    refine ⟨?_, still.trans stillThen⟩
    rw [course, course, List.map_cons, outcomes, outcome]
    rfl

end

end Layer
end Scaffold
