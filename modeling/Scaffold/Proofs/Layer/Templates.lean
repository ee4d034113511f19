import Scaffold.Proofs.Layer.Production

namespace Scaffold

/-!
# Templates that stay where they are

No file of a layer lies where a template is looked for, and no directory that is made for the layers
does either, as long as the root is not to be made in the place of a missing template.  So what the
paths of the templates lead to stays as it was.  When the directory of the templates cannot even be
reached, the layers that need it come to nothing, and nothing changes.
-/

open FileTree
open FilePath (IsDescent folders fileName segments)
open Layer (templateNames allPaths)

variable {workshop : Workshop} {start first second tree : FileTree} {site : Site} {names : Names} {layer : Layer}

namespace Template

/-! ## The path of a template -/

theorem segments_file {name : String} (listed : name ∈ templateNames) :
    segments (name ++ ".tera") = [name ++ ".tera"] := by
  revert name
  decide

theorem isDescent_file {name : String} (listed : name ∈ templateNames) : IsDescent (name ++ ".tera") := by
  have plain : ∀ name ∈ templateNames, FilePath.isAbsolute (name ++ ".tera") = false ∧
      FilePath.IsName (name ++ ".tera") := by
    decide
  refine ⟨(plain name listed).1, ?_⟩
  rw [segments_file listed]
  exact List.forall_mem_singleton.2 (plain name listed).2

theorem not_long_file {name : String} (listed : name ∈ templateNames) :
    ¬ maxNameBytes < (name ++ ".tera").utf8ByteSize := by
  revert name
  decide

/-- The templates of a directory lie at the end of one way. -/
theorem exists_ends (closed : tree.IsClosed) {directory : String} (turns : tree.TurnsSafely directory) :
    ∃ base way, ∀ name ∈ templateNames, tree.EndsAt (fileIn directory name) base way (name ++ ".tera") := by
  rcases exists_site closed turns with ⟨site, has, -⟩
  refine ⟨site.base, site.way, fun name listed => ?_⟩
  have ends := has.ends (name ++ ".tera") (isDescent_file listed)
  rw [Site.names, folders, fileName, segments_file listed] at ends
  rw [← List.append_nil site.way]
  exact ends

end Template

namespace Workshop

/-- The directories of a workshop do not turn back on what is missing, and no template that is
missing is the root, or a directory above it. -/
structure IsGrounded (workshop : Workshop) (tree : FileTree) : Prop where
  root : tree.TurnsSafely workshop.writer.root
  templates : tree.TurnsSafely workshop.templates
  bundled : tree.TurnsSafely workshop.bundled
  aside : ∀ path ∈ workshop.templateFiles, tree.pathExists path = false →
    ¬ tree.placeOf path <+: tree.placeOf workshop.writer.root

/-- No tree is asked for when none of the directories goes up. -/
theorem isGrounded_of_down
    (down : ∀ path ∈ [workshop.writer.root, workshop.templates, workshop.bundled], ".." ∉ FilePath.segments path)
    (aside : ∀ path ∈ workshop.templateFiles, start.pathExists path = false →
      ¬ start.placeOf path <+: start.placeOf workshop.writer.root) : workshop.IsGrounded start where
  root := turnsSafely_of_down (down _ (by simp)) start
  templates := turnsSafely_of_down (down _ (by simp)) start
  bundled := turnsSafely_of_down (down _ (by simp)) start
  aside := aside

theorem IsGrounded.exists_ends (grounded : workshop.IsGrounded start) (closed : start.IsClosed) {path : String}
    (listed : path ∈ workshop.templateFiles) :
    ∃ name ∈ templateNames, ∃ base way, start.EndsAt path base way (name ++ ".tera") := by
  rcases List.mem_append.1 listed with own | bundled
  · rcases List.mem_map.1 own with ⟨name, known, rfl⟩
    rcases Template.exists_ends closed grounded.templates with ⟨base, way, ends⟩
    exact ⟨name, known, base, way, ends name known⟩
  · rcases List.mem_singleton.1 bundled with rfl
    rcases Template.exists_ends closed grounded.bundled with ⟨base, way, ends⟩
    exact ⟨"model.go", by decide, base, way, ends "model.go" (by decide)⟩

/-- Whatever is done at the paths of the layers, the paths of the templates lead to what they led to
at the start. -/
theorem IsGrounded.seesAlike (grounded : workshop.IsGrounded start) (closed : start.IsClosed)
    (named : IsFileName names.snake) (meant : start.placeOf workshop.writer.root = site.base ++ site.way)
    (touches : start.Touches tree site (allPaths names)) {path : String} (listed : path ∈ workshop.templateFiles) :
    start.SeesAlike tree path := by
  rcases grounded.exists_ends closed listed with ⟨name, known, base, way, ends⟩
  apply ends.seesAlike_later touches.toKeepsDirectories
  apply touches.get?_of_foreign
  · exact fun other member => Layer.not_mem_segments named member known
  · intro free
    have place : start.placeOf path = base ++ way ++ [name ++ ".tera"] := by
      rw [ends.descends.placeOf, List.append_assoc]
    rw [← place, ← meant]
    apply grounded.aside path listed
    rw [← Bool.not_eq_true]
    intro there
    rcases exists_status_of_pathExists there with ⟨entry, found⟩
    rw [(ends.status_eq_ok_iff.1 found).2.2] at free
    cases free

/-- Whatever is done at the paths of the layers, the templates stay steady. -/
theorem IsSteady.later (steady : workshop.IsSteady start) (grounded : workshop.IsGrounded start)
    (closed : start.IsClosed) (named : IsFileName names.snake)
    (meant : start.placeOf workshop.writer.root = site.base ++ site.way)
    (touches : start.Touches tree site (allPaths names)) : workshop.IsSteady tree := by
  refine Template.Engine.IsSteady.mono steady fun path listed source read => ?_
  have alike := grounded.seesAlike closed named meant touches listed
  have there := alike.pathExists.symm.trans (pathExists_of_read read)
  rw [← alike.read there]
  exact read

end Workshop

/-! ## What a layer reads -/

namespace Layer

theorem readsAlike_model (alike : ∀ path ∈ workshop.templateFiles, first.SeesAlike second path) :
    model.ReadsAlike workshop names first second := by
  have own := alike _ (Workshop.templateFile_mem _ "model.go" (by decide))
  have bundled := alike _ workshop.bundledFile_mem
  constructor
  · rw [home, home, own.pathExists, bundled.pathExists]
  · intro directory found target listed
    rcases List.mem_singleton.1 listed with rfl
    rw [home] at found
    split at found
    · next there =>
      cases found
      exact own.read there
    · split at found
      · next there =>
        cases found
        exact bundled.read there
      · cases found

section

variable (other : layer ≠ model) {base : Place} {way : List String}
  (ends : ∀ name ∈ templateNames, start.EndsAt (Template.fileIn workshop.templates name) base way (name ++ ".tera"))
  (kept : start.KeepsDirectories first)
include other ends kept

theorem readsAlike_of_reached (keptOn : first.KeepsDirectories second)
    (alike : ∀ path ∈ workshop.templateFiles, first.SeesAlike second path)
    (reached : first.walk base way = .ok (base ++ way)) : layer.ReadsAlike workshop names first second := by
  constructor
  · rw [home_of_ne_model other, home_of_ne_model other]
  · intro directory found target listed
    rw [home_of_ne_model other] at found
    cases found
    rcases List.mem_map.1 listed with ⟨output, inOutputs, rfl⟩
    have known := template_mem inOutputs
    have ending := ends output.template known
    have same := (alike _ (Workshop.templateFile_mem _ _ known)).status ending.tidy
      (ending.descends.keep kept) keptOn
      (Template.not_long_file known) reached
    rw [Workshop.templateOf, Workshop.templateOf, FileTree.read, FileTree.read, same]

/-- Where the directory of the templates cannot be reached, a layer changes nothing. -/
theorem produced_of_lost {request : Request} {e : OsError} (lost : first.walk base way = .error e) :
    (layer.produced workshop request site first).2 = first := by
  apply produced_of_unread (home_of_ne_model other)
  intro name known
  rcases status_of_lost (ends name known).tidy ((ends name known).descends.keep kept) lost with ⟨e, nowhere⟩
  refine ⟨e, ?_⟩
  rw [FileTree.read, nowhere]
  rfl

end

end Layer
end Scaffold
