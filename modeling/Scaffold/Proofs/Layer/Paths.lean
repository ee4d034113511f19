import Scaffold.Layer.Outputs
import Scaffold.Proofs.Job.Site
import Scaffold.Proofs.Naming.FileName

namespace Scaffold
namespace Layer

/-!
# Where the layers are written

The files of the layers lie in directories of their own, so that no path leads through another.
None of them has the name of a template in it.
-/

open FilePath (segments folders fileName)

variable {names : Names} {layer : Layer}

/-- The paths of the files of a layer. -/
def paths (layer : Layer) (names : Names) : List String :=
  (layer.outputs names).map Output.path

/-- The paths of the files of all layers. -/
def allPaths (names : Names) : List String :=
  all.flatMap fun layer => layer.paths names

/-- The path of the file of a layer that is written first. -/
def firstPath (layer : Layer) (names : Names) : String :=
  (layer.paths names).headD ""

theorem paths_eq_cons (layer : Layer) (names : Names) :
    ∃ rest, layer.paths names = layer.firstPath names :: rest := by
  cases layer <;> exact ⟨_, rfl⟩

theorem firstPath_mem (layer : Layer) (names : Names) : layer.firstPath names ∈ layer.paths names := by
  rcases layer.paths_eq_cons names with ⟨rest, whole⟩
  rw [whole]
  exact List.mem_cons_self

theorem mem_all (layer : Layer) : layer ∈ all := by
  cases layer <;> decide

theorem paths_sublist (layer : Layer) (names : Names) : (layer.paths names).Sublist (allPaths names) := by
  rw [allPaths, List.flatMap_def]
  exact List.sublist_flatten_of_mem (List.mem_map_of_mem layer.mem_all)

/-! ## The segments of a path -/

/-- The segments of the paths of a layer. -/
def segmentLists (names : Names) : Layer → List (List String)
  | model => [["internal", "shared", "models", names.snake ++ ".go"]]
  | repository => [["internal", names.area.name, "repository", names.snake ++ ".go"]]
  | service => [["internal", names.area.name, "service", names.snake ++ ".go"]]
  | handler => [
    ["internal", names.area.name, "handler", names.snake ++ ".go"],
    ["internal", names.area.name, "types", names.snake ++ "_types" ++ ".go"]]

/-- The directories of the layers' files. -/
def directories : List String :=
  ["internal", "admin", "master", "shared", "models", "repository", "service", "handler", "types"]

theorem segments_goFile {stem : String} (unbroken : '/' ∉ stem.toList) (directory : String) :
    segments (goFile directory stem) = segments directory ++ [stem ++ ".go"] := by
  have last : '/' ∉ (stem ++ ".go").toList := by
    rw [String.toList_append, List.mem_append, not_or]
    exact ⟨unbroken, by decide⟩
  rw [goFile, String.append_assoc, FilePath.segments_append_slash, FilePath.segments_of_unbroken last]

theorem segments_area (area : Area) :
    segments (area.directory ++ "/repository") = ["internal", area.name, "repository"] ∧
      segments (area.directory ++ "/service") = ["internal", area.name, "service"] ∧
      segments (area.directory ++ "/handler") = ["internal", area.name, "handler"] ∧
      segments (area.directory ++ "/types") = ["internal", area.name, "types"] := by
  cases area <;> decide

theorem segments_paths (unbroken : '/' ∉ names.snake.toList) (layer : Layer) :
    (layer.paths names).map segments = segmentLists names layer := by
  have typed : '/' ∉ (names.snake ++ "_types").toList := by
    rw [String.toList_append, List.mem_append, not_or]
    exact ⟨unbroken, by decide⟩
  have shared : segments "internal/shared/models" = ["internal", "shared", "models"] := by decide
  rcases segments_area names.area with ⟨repository, service, handler, types⟩
  cases layer <;>
    simp only [paths, outputs, List.map_cons, List.map_nil, segments_goFile unbroken, segments_goFile typed, shared,
      repository, service, handler, types, segmentLists] <;> rfl

theorem segments_allPaths (unbroken : '/' ∉ names.snake.toList) :
    (allPaths names).map segments = all.flatMap (segmentLists names) := by
  rw [allPaths, List.map_flatMap]
  congr 1
  funext layer
  exact segments_paths unbroken layer

theorem mem_segmentLists {listed : List String} (member : listed ∈ all.flatMap (segmentLists names)) :
    ∀ segment ∈ listed, segment ∈ directories ∨ segment = names.snake ++ ".go" ∨
      segment = names.snake ++ "_types" ++ ".go" := by
  have known : names.area.name ∈ directories := by
    cases names.area <;> decide
  have others : ∀ name ∈ ["internal", "shared", "models", "repository", "service", "handler", "types"],
      name ∈ directories := by
    decide
  revert listed
  simp [all, segmentLists, known, others]

theorem isAbsolute_allPaths : ∀ path ∈ allPaths names, FilePath.isAbsolute path = false := by
  simp [allPaths, all, paths, outputs, goFile, Area.directory, FilePath.isAbsolute]

section

variable (named : IsFileName names.snake)
include named

theorem mem_segments {path : String} (member : path ∈ allPaths names) :
    ∀ segment ∈ segments path, segment ∈ directories ∨ segment = names.snake ++ ".go" ∨
      segment = names.snake ++ "_types" ++ ".go" := by
  apply mem_segmentLists
  rw [← segments_allPaths named.unbroken]
  exact List.mem_map_of_mem member

/-- The paths of all layers lead down, and none of them through another. -/
theorem separate_allPaths : FilePath.AreSeparate (allPaths names) where
  descends path member := by
    refine ⟨isAbsolute_allPaths path member, fun segment inside => ?_⟩
    have plain : ∀ name ∈ directories, FilePath.IsName name := by decide
    rcases mem_segments named member segment inside with known | rfl | rfl
    · exact plain segment known
    · exact (named.append (by decide) (by decide)).name
    · exact ((named.append (by decide) (by decide)).append (by decide) (by decide)).name
  apart := by
    have apart : (all.flatMap (segmentLists names)).Pairwise fun one other => ¬ one <+: other ∧
        ¬ other <+: one := by
      simp [all, segmentLists, List.cons_prefix_cons]
    rw [← segments_allPaths named.unbroken, List.pairwise_map] at apart
    exact apart

theorem separate_paths (layer : Layer) : FilePath.AreSeparate (layer.paths names) :=
  (separate_allPaths named).sublist (layer.paths_sublist names)

/-- No two layers have a path in common. -/
theorem eq_of_mem_paths {one other : Layer} {path : String} (first : path ∈ one.paths names)
    (second : path ∈ other.paths names) : one = other := by
  have symmetric : Std.Symm (Function.onFun List.Disjoint fun layer : Layer => layer.paths names) :=
    ⟨fun _ _ disjoint _ inSecond inFirst => disjoint inFirst inSecond⟩
  by_contra different
  have disjoint := (List.nodup_flatMap.1 (separate_allPaths named).nodup).2
  exact disjoint.forall one.mem_all other.mem_all different first second

end

/-! ## The names of the templates -/

/-- The names of the templates of all layers. -/
def templateNames : List String :=
  ["model.go", "repository.go", "service.go", "handler.go", "handler_types.go"]

theorem template_mem {output : Output} (listed : output ∈ layer.outputs names) :
    output.template ∈ templateNames := by
  revert output
  cases layer <;> simp [outputs, templateNames]

/-- The file of a template is not called like a file or directory that the layers make. -/
theorem not_mem_segments (named : IsFileName names.snake) {path name : String} (member : path ∈ allPaths names)
    (listed : name ∈ templateNames) : name ++ ".tera" ∉ segments path := by
  have foreign : ∀ name ∈ templateNames, name ++ ".tera" ∉ directories := by decide
  have last : ∀ stem : String, name ++ ".tera" ≠ stem ++ ".go" := by
    intro stem same
    have ending := congrArg (fun s : String => s.toList.getLast?) same
    simp at ending
  intro inside
  rcases mem_segments named member _ inside with known | same | same
  · exact foreign name listed known
  · exact last _ same
  · exact last _ same

end Layer
end Scaffold
