import Scaffold.Proofs.Generator.Replacement
import Scaffold.Proofs.Naming.Words
import Scaffold.Proofs.Snippet.Generated

namespace Scaffold

/-!
# Paths that stay below the root

Whatever a request says about its model, the files of its layers and the targets of its snippets lie
below the root.  Only two spellings of the model's name get into their paths, and no letter of an
identifier becomes a point, a slash or any other sign when it is put in lower case.
-/

namespace FilePath

/-- The name leads one step down, also on systems that separate names by backslashes or end texts
with a null. -/
structure IsStepDown (name : String) : Prop where
  solid : name ≠ ""
  moves : name ≠ "."
  descends : name ≠ ".."
  backslash : '\\' ∉ name.toList
  null : '\x00' ∉ name.toList

theorem isStepDown_iff {name : String} :
    IsStepDown name ↔ IsName name ∧ '\\' ∉ name.toList ∧ '\x00' ∉ name.toList := by
  constructor
  · intro step
    exact ⟨⟨FileTree.leads_iff.2 ⟨step.solid, step.moves⟩, step.descends⟩, step.backslash, step.null⟩
  · rintro ⟨named, backslash, null⟩
    rcases FileTree.leads_iff.1 named.moves with ⟨solid, moves⟩
    exact ⟨solid, moves, named.notUp, backslash, null⟩

instance (name : String) : Decidable (IsStepDown name) :=
  decidable_of_iff' _ isStepDown_iff

/-- A relative path, separated by slashes, that goes down with each of its segments. -/
structure IsConfined (path : String) : Prop where
  relative : isAbsolute path = false
  down : ∀ segment ∈ segments path, IsStepDown segment

theorem IsConfined.isDescent {path : String} (confined : IsConfined path) : IsDescent path :=
  ⟨confined.relative, fun segment member => (isStepDown_iff.1 (confined.down segment member)).1⟩

end FilePath

/-! ## The names in the paths -/

namespace Names

open FilePath (IsStepDown isStepDown_iff)

theorem isSign_backslash : Text.IsSign '\\' :=
  ⟨by decide, by decide⟩

theorem isSign_null : Text.IsSign '\x00' :=
  ⟨by decide, by decide⟩

/-- The name can be used in a path on any system. -/
structure IsPortable (text : String) : Prop extends IsFileName text where
  backslash : '\\' ∉ text.toList
  null : '\x00' ∉ text.toList

theorem IsPortable.isStepDown {name : String} (portable : IsPortable name) : IsStepDown name :=
  isStepDown_iff.2 ⟨portable.name, portable.backslash, portable.null⟩

theorem IsPortable.append {name : String} (portable : IsPortable name) {ending : String} (long : 2 ≤ ending.length)
    (plain : '/' ∉ ending.toList ∧ '\\' ∉ ending.toList ∧ '\x00' ∉ ending.toList) :
    IsPortable (name ++ ending) where
  toIsFileName := portable.toIsFileName.append long plain.1
  backslash := by
    rw [String.toList_append, List.mem_append, not_or]
    exact ⟨portable.backslash, plain.2.1⟩
  null := by
    rw [String.toList_append, List.mem_append, not_or]
    exact ⟨portable.null, plain.2.2⟩

variable {request : Request} (accepted : Validation.check request = [])
include accepted

theorem isPortable_snake : IsPortable (ofRequest request).snake where
  toIsFileName := isFileName_snake accepted
  backslash := (lacks_ofRequest accepted isSign_backslash (by decide)).permissionRoot
  null := (lacks_ofRequest accepted isSign_null (by decide)).permissionRoot

theorem isPortable_kebab : IsPortable (ofRequest request).kebab where
  toIsFileName := isFileName_kebab accepted
  backslash := (lacks_ofRequest accepted isSign_backslash (by decide)).kebab
  null := (lacks_ofRequest accepted isSign_null (by decide)).kebab

end Names

/-! ## The paths -/

section

variable {request : Request} (accepted : Validation.check request = [])
include accepted

theorem Layer.isConfined_of_mem {path : String} (listed : path ∈ allPaths (Names.ofRequest request)) :
    FilePath.IsConfined path where
  relative := isAbsolute_allPaths path listed
  down := by
    have known : ∀ name ∈ directories, FilePath.IsStepDown name := by decide
    have snake := Names.isPortable_snake accepted
    intro segment member
    rcases mem_segments snake.toIsFileName listed segment member with directory | rfl | rfl
    · exact known segment directory
    · exact (snake.append (by decide) (by decide)).isStepDown
    · exact ((snake.append (by decide) (by decide)).append (by decide) (by decide)).isStepDown

theorem Snippets.isStepDown_of_targets {target : List String}
    (listed : target ∈ targets (Names.ofRequest request)) :
    ∀ segment ∈ target, FilePath.IsStepDown segment := by
  have known : ∀ segment ∈ commonSegments, FilePath.IsStepDown segment := by decide
  have kebab := Names.isPortable_kebab accepted
  intro segment member
  rcases (mem_targets listed).2 segment member with common | rfl | rfl | rfl | rfl
  · exact known segment common
  · cases (Names.ofRequest request).area <;> decide
  · exact kebab.isStepDown
  · exact (kebab.append (by decide) (by decide)).isStepDown
  · exact (kebab.append (by decide) (by decide)).isStepDown

theorem Snippets.isConfined_of_produce (workshop : Workshop) {kind : SnippetKind} {component : Component} :
    ∀ snippet ∈ kind.produce (workshop.blueprint request component), FilePath.IsConfined snippet.targetFile := by
  intro snippet produced
  have named : ∀ kind : SnippetKind,
      (workshop.blueprint request component).names = Names.ofRequest request := fun _ => rfl
  have listed : snippet ∈ ofAllKinds fun _ => workshop.blueprint request component :=
    List.mem_flatMap.2 ⟨kind, by cases kind <;> decide, produced⟩
  refine ⟨isAbsolute_ofAllKinds named snippet listed, ?_⟩
  exact forall_segments_ofAllKinds named (Names.isFileName_kebab accepted)
    (fun _ known => isStepDown_of_targets accepted known) snippet listed

end

/-- Everything that an accepted request writes or aims at lies below the root, and the five files of
its layers do not get in each other's way. -/
theorem paths_confined {request : Request} (accepted : Validation.check request = []) :
    (∀ (layer : Layer), ∀ output ∈ layer.outputs (Names.ofRequest request), FilePath.IsConfined output.path) ∧
      (∀ (layer : Layer) (workshop : Workshop) (world : World),
        ∀ path ∈ filesOf ((layer.generate workshop request).perform world).1, FilePath.IsConfined path) ∧
      (∀ (kind : SnippetKind) (workshop : Workshop) (component : Component),
        ∀ snippet ∈ kind.produce (workshop.blueprint request component), FilePath.IsConfined snippet.targetFile) ∧
      (∀ path, FilePath.IsConfined path → ∀ (tree : FileTree) (root : String), tree.links = [] →
        tree.placeOf (FilePath.join root path) = tree.placeOf root ++ FilePath.segments path) ∧
      (Layer.allPaths (Names.ofRequest request)).length = 5 ∧ (Layer.allPaths (Names.ofRequest request)).Nodup ∧
      (Layer.allPaths (Names.ofRequest request)).Pairwise FilePath.Apart := by
  have separate := Layer.separate_allPaths (Names.isFileName_snake accepted)
  refine ⟨?_, ?_, fun kind workshop component => Snippets.isConfined_of_produce accepted workshop,
    fun path confined tree root unlinked =>
      confined.isDescent.placeOf unlinked root, rfl, separate.nodup, separate.apart⟩
  · intro layer output listed
    exact Layer.isConfined_of_mem accepted ((layer.paths_sublist _).subset (List.mem_map_of_mem listed))
  · intro layer workshop world path member
    cases performed : (layer.generate workshop request).perform world with
    | mk outcome after =>
      rw [performed] at member
      cases outcome with
      | error fault => exact absurd member List.not_mem_nil
      | ok files =>
        rw [filesOf, Layer.generate_eq_ok performed] at member
        exact Layer.isConfined_of_mem accepted ((layer.paths_sublist _).subset member)

/-- A model whose name is not of ASCII, with a path for its package that leads elsewhere. -/
def foreignRequest : Request where
  component := .all
  modelName := "PayİÉtat"
  packagePath := "../../admin\\"
  displayName := some "../state"
  fields := [{ name := "total", logicalType := "string" }]

theorem paths_confined_foreign :
    Validation.check foreignRequest = [] ∧
      (∀ path ∈ Layer.allPaths (Names.ofRequest foreignRequest), FilePath.IsConfined path) ∧
      (Layer.allPaths (Names.ofRequest foreignRequest)).Pairwise FilePath.Apart := by
  have accepted : Validation.check foreignRequest = [] := by decide +kernel
  rcases paths_confined accepted with ⟨outputs, -, -, -, -, -, apart⟩
  refine ⟨accepted, ?_, apart⟩
  intro path member
  rcases List.mem_flatMap.1 member with ⟨layer, -, own⟩
  rcases List.mem_map.1 own with ⟨output, listed, rfl⟩
  exact outputs layer output listed

end Scaffold
