import Scaffold.Proofs.Generator.Stages
import Scaffold.Proofs.Naming.FileName
import Scaffold.Proofs.Snippet.Independence
import Scaffold.Proofs.Splice.Marker

namespace Scaffold

/-!
# The snippets of a model

A request for everything gives ten snippets, whatever becomes of its layers.  Each goes to a file of
its own, in the area of the model or among the sources of the client, and no two have the same id.
-/

/-! ## What a request for everything gives -/

namespace Generator

variable {generator : Generator}

theorem snippets_gather (harvest : Harvest) (component : Component) (outcome : Except Fault (List String)) :
    (harvest.gather component outcome).snippets = harvest.snippets := by
  cases outcome <;> rfl

theorem snippets_harvestLayers (request : Request) (harvest : Harvest) (layers : List Layer) (world : World) :
    ((generator.harvestLayers request harvest layers).run world).1.snippets = harvest.snippets := by
  induction layers generalizing harvest world with
  | nil => rfl
  | cons layer rest ih =>
    rw [run_harvestLayers_cons]
    dsimp only
    rw [ih, snippets_gather]

theorem produceSnippets_of_standard (standard : generator.registry = .standard) (request : Request)
    (kind : SnippetKind) :
    generator.produceSnippets request (.ofSnippet kind) =
      .ok (kind.produce (generator.workshop.blueprint request (.ofSnippet kind))) := by
  have stage : generator.registry.get (.ofSnippet kind) = .ok (.ofSnippet kind) := by
    rw [standard]
    cases kind <;> rfl
  rw [produceSnippets, stage]
  rfl

theorem snippets_foldl_harvestSnippet (standard : generator.registry = .standard) (request : Request)
    (kinds : List SnippetKind) (harvest : Harvest) :
    (kinds.foldl (generator.harvestSnippet request) harvest).snippets =
      harvest.snippets ++ kinds.flatMap fun kind =>
        kind.produce (generator.workshop.blueprint (request.forComponent (.ofSnippet kind)) (.ofSnippet kind)) := by
  induction kinds generalizing harvest with
  | nil => exact (List.append_nil _).symm
  | cons kind rest ih =>
    rw [List.foldl_cons, ih, harvestSnippet_eq, produceSnippets_of_standard standard, List.flatMap_cons,
      ← List.append_assoc]
    rfl

theorem snippets_generateAll (request : Request) (world : World) :
    ((generator.generateAll request).run world).1.snippets =
      (SnippetKind.all.foldl (generator.harvestSnippet request)
        ((generator.harvestLayers request {} Layer.all).run world).1).snippets := by
  rw [generateAll, StateT.run_bind]
  dsimp only [bind, Id.run]
  cases (generator.harvestLayers request {} Layer.all).run world with
  | mk layers after =>
    dsimp only
    generalize SnippetKind.all.foldl (generator.harvestSnippet request) layers = harvest
    cases harvest.files.isEmpty <;> rfl

/-- The snippets of a request for everything are those of all kinds. -/
theorem snippets_generate (standard : generator.registry = .standard) {request : Request}
    (everything : request.component = .all) (accepted : Validation.check request = []) (world : World) :
    ((generator.generate request).run world).1.snippets = SnippetKind.all.flatMap fun kind =>
      kind.produce (generator.workshop.blueprint (request.forComponent (.ofSnippet kind)) (.ofSnippet kind)) := by
  rw [generate_of_valid accepted, everything]
  dsimp only
  rw [snippets_generateAll, snippets_foldl_harvestSnippet standard, snippets_harvestLayers]
  rfl

end Generator

/-! ## Where they go -/

namespace Snippets

/-- The segments of the targets of a model's snippets. -/
def targets (names : Names) : List (List String) := [
  ["internal", names.area.name, "routes", "routes.go"], ["internal", names.area.name, "wire.go"],
  ["internal", names.area.name, "handler", "handlers.go"],
  ["internal", names.area.name, "initializer", "migrations.go"],
  ["internal", names.area.name, "definitions", "permissions.go"],
  ["web", "src", "api", names.kebab ++ ".ts"], ["web", "src", "views", names.kebab, "index.vue"],
  ["web", "src", "views", names.kebab, "modules", names.kebab ++ "-dialog.vue"],
  ["web", "src", "router", "routes", "asyncRoutes.ts"], ["web", "src", "router", "routesAlias.ts"]]

/-- The categories of a model's snippets, by which their ids begin. -/
def categories : List String := [
  "routes", "wire_provider", "wire_handler", "migration", "permission", "frontend_api",
    "frontend_page", "frontend_form",
  "frontend_route_config", "frontend_route_alias"]

theorem id_toSnippet (placement : Placement) (names : Names) (content : String) :
    (placement.toSnippet names content).id = placement.category ++ "_" ++ names.snake := rfl

theorem targetFile_toSnippet (placement : Placement) (names : Names) (content : String) :
    (placement.toSnippet names content).targetFile = placement.targetFile := rfl

/-- The snippets of all kinds, for blueprints with the same names. -/
def ofAllKinds (blueprint : SnippetKind → Blueprint) : List Snippet :=
  SnippetKind.all.flatMap fun kind => kind.produce (blueprint kind)

variable {blueprint : SnippetKind → Blueprint} {names : Names} (named : ∀ kind, (blueprint kind).names = names)
include named

theorem ids_ofAllKinds :
    (ofAllKinds blueprint).map Snippet.id = categories.map fun category => category ++ "_" ++ names.snake := by
  simp only [ofAllKinds, SnippetKind.all, List.flatMap_cons, List.flatMap_nil, SnippetKind.produce, routes, wire,
    migration, permission, frontendApi, frontendPage, frontendForm, frontendRoute, named, List.map_cons,
    List.map_nil, id_toSnippet, categories, List.cons_append, List.nil_append]

theorem targetFiles_ofAllKinds :
    (ofAllKinds blueprint).map Snippet.targetFile = (targets names).map fun segments =>
    "/".intercalate segments := by
  simp only [ofAllKinds, SnippetKind.all, List.flatMap_cons, List.flatMap_nil, SnippetKind.produce, routes, wire,
    migration, permission, frontendApi, frontendPage, frontendForm, frontendRoute, named, List.map_cons,
    List.map_nil, targetFile_toSnippet, targets, List.cons_append, List.nil_append, viewDirectory, Area.directory]
  simp [← String.toList_inj]

end Snippets

/-! ## That they go to files of their own -/

namespace Snippets

/-- The segments that the targets of all models share. -/
def commonSegments : List String := [
  "internal", "routes", "routes.go", "wire.go", "handler", "handlers.go", "initializer",
    "migrations.go", "definitions",
  "permissions.go", "web", "src", "api", "views", "index.vue", "modules", "router",
    "asyncRoutes.ts", "routesAlias.ts"]

theorem mem_targets {names : Names} {target : List String} (listed : target ∈ targets names) :
    target ≠ [] ∧ ∀ segment ∈ target, segment ∈ commonSegments ∨ segment = names.area.name ∨
      segment = names.kebab ∨ segment = names.kebab ++ ".ts" ∨ segment = names.kebab ++ "-dialog.vue" := by
  revert target
  simp [targets, commonSegments]

theorem isFileName_of_targets {names : Names} (kebab : IsFileName names.kebab) {target : List String}
    (listed : target ∈ targets names) : ∀ segment ∈ target, IsFileName segment := by
  have common : ∀ segment ∈ commonSegments, FilePath.IsName segment ∧ '/' ∉ segment.toList := by decide
  intro segment member
  rcases (mem_targets listed).2 segment member with known | rfl | rfl | rfl | rfl
  · exact ⟨(common segment known).1, (common segment known).2⟩
  · cases names.area <;> exact ⟨by decide, by decide⟩
  · exact kebab
  · exact kebab.append (by decide) (by decide)
  · exact kebab.append (by decide) (by decide)

theorem segments_targets {names : Names} (kebab : IsFileName names.kebab) {target : List String}
    (listed : target ∈ targets names) : FilePath.segments ("/".intercalate target) = target :=
  FilePath.segments_intercalate (mem_targets listed).1
    fun segment member => (isFileName_of_targets kebab listed segment member).unbroken

theorem targets_apart (names : Names) :
    (targets names).Pairwise fun one other => ¬ one <+: other ∧ ¬ other <+: one := by
  simp [targets, List.cons_prefix_cons]

theorem relative_targets {names : Names} {target : List String} (listed : target ∈ targets names) :
    FilePath.isAbsolute ("/".intercalate target) = false := by
  revert target
  simp [targets, FilePath.isAbsolute]

end Snippets

/-! ## That they have something to say -/

namespace Snippets

theorem mem_paragraph_cons {c : Char} {line : String} (member : c ∈ line.toList) (rest : List String) :
    c ∈ (paragraph (line :: rest)).toList := by
  rw [paragraph]
  cases rest with
  | nil => rwa [String.intercalate_singleton]
  | cons next more =>
    rw [String.intercalate_cons_cons, String.toList_append, String.toList_append]
    exact List.mem_append_left _ (List.mem_append_left _ member)

variable {blueprint : SnippetKind → Blueprint}

/-- A snippet that goes before a marker is not blank. -/
theorem solid_ofAllKinds :
    ∀ snippet ∈ ofAllKinds blueprint, snippet.isAnchored = true →
      ∃ c ∈ snippet.content.toList, Text.isBlank c = false := by
  intro snippet listed anchored
  rcases List.mem_flatMap.1 listed with ⟨kind, -, produced⟩
  cases kind
  case routes =>
    rcases List.mem_singleton.1 produced with rfl
    exact ⟨'/', mem_paragraph_cons (by simp) _, by decide⟩
  case wire =>
    rcases List.mem_pair.1 produced with rfl | rfl
    · exact ⟨'/', mem_paragraph_cons (by simp) _, by decide⟩
    · exact ⟨'*', by simp [Placement.toSnippet], by decide⟩
  case migration =>
    rcases List.mem_singleton.1 produced with rfl
    exact ⟨'&', by simp [Placement.toSnippet], by decide⟩
  case permission =>
    rcases List.mem_singleton.1 produced with rfl
    exact ⟨'\x7b', mem_paragraph_cons (by simp) _, by decide⟩
  case frontendApi =>
    rcases List.mem_singleton.1 produced with rfl
    cases anchored
  case frontendPage =>
    rcases List.mem_singleton.1 produced with rfl
    cases anchored
  case frontendForm =>
    rcases List.mem_singleton.1 produced with rfl
    cases anchored
  case frontendRoute =>
    rcases List.mem_pair.1 produced with rfl | rfl
    · exact ⟨'\x7b', mem_paragraph_cons (by simp) _, by decide⟩
    · exact ⟨'=', by simp [Placement.toSnippet, routeAlias], by decide⟩

/-! ## That no two are alike -/

section

variable {names : Names} (named : ∀ kind, (blueprint kind).names = names)
include named

theorem length_ofAllKinds : (ofAllKinds blueprint).length = 10 := by
  have count := congrArg List.length (ids_ofAllKinds named)
  simpa [categories] using count

theorem nodup_ids : ((ofAllKinds blueprint).map Snippet.id).Nodup := by
  rw [ids_ofAllKinds named]
  apply List.Nodup.map
  · intro one other same
    exact String.append_left_inj (t := "_" ++ names.snake) |>.1 (by simpa [String.append_assoc] using same)
  · decide

theorem isAbsolute_ofAllKinds :
    ∀ snippet ∈ ofAllKinds blueprint, FilePath.isAbsolute snippet.targetFile = false := by
  have mapped : ∀ path ∈ (ofAllKinds blueprint).map Snippet.targetFile, FilePath.isAbsolute path = false := by
    rw [targetFiles_ofAllKinds named, List.forall_mem_map]
    exact fun target listed => relative_targets listed
  exact fun snippet listed => mapped _ (List.mem_map_of_mem listed)

variable (kebab : IsFileName names.kebab)
include kebab

theorem forall_segments_ofAllKinds {property : List String → Prop}
    (all : ∀ target ∈ targets names, property target) :
    ∀ snippet ∈ ofAllKinds blueprint, property (FilePath.segments snippet.targetFile) := by
  have mapped : ∀ path ∈ (ofAllKinds blueprint).map Snippet.targetFile, property (FilePath.segments path) := by
    rw [targetFiles_ofAllKinds named, List.forall_mem_map]
    intro target listed
    rw [segments_targets kebab listed]
    exact all target listed
  exact fun snippet listed => mapped _ (List.mem_map_of_mem listed)

theorem separate_targetFiles : FilePath.AreSeparate ((ofAllKinds blueprint).map Snippet.targetFile) where
  descends := by
    rw [List.forall_mem_map]
    intro snippet listed
    refine ⟨isAbsolute_ofAllKinds named snippet listed, ?_⟩
    exact forall_segments_ofAllKinds named kebab
      (fun _ listed segment member => (isFileName_of_targets kebab listed segment member).name) snippet listed
  apart := by
    rw [targetFiles_ofAllKinds named, List.pairwise_map]
    apply (targets_apart names).imp_of_mem
    intro one other first second apart
    rw [FilePath.Apart, segments_targets kebab first, segments_targets kebab second]
    exact apart

/-- The snippets of a model go to files of their own. -/
theorem arranged_ofAllKinds : Snippet.AreArranged (ofAllKinds blueprint) where
  separate := separate_targetFiles named kebab
  solid snippet listed anchored := by
    rcases solid_ofAllKinds snippet listed anchored with ⟨c, member, solid⟩
    apply Snippet.fragment_ne_nil
    rw [Text.blank, List.all_eq_false]
    exact ⟨c, member, Bool.not_eq_true _ ▸ solid⟩

theorem nodup_targetFiles : ((ofAllKinds blueprint).map Snippet.targetFile).Nodup :=
  (separate_targetFiles named kebab).nodup

end

end Snippets

/-! ## That they are independent -/

namespace Generator

variable {generator : Generator}

/-- The snippets of a model are ten, with ids and target files of their own, and can be applied in
any order and any number of times, below a root that does not turn back on a directory that is still
to be made, and whatever engine looks for their anchors. -/
theorem snippets_independent (standard : generator.registry = .standard) {request : Request}
    (everything : request.component = .all) (accepted : Validation.check request = [])
    (world : World) {root : String}
    {project : World} (closed : project.tree.IsClosed) (turns : project.tree.TurnsSafely root)
    (engine : Pattern.Engine) :
    ((generator.generate request).run world).1.snippets.length = 10 ∧
      (((generator.generate request).run world).1.snippets.map Snippet.id).Nodup ∧
      (((generator.generate request).run world).1.snippets.map Snippet.targetFile).Nodup ∧
      Snippet.AreIndependent root ((generator.generate request).run world).1.snippets project engine := by
  have named : ∀ kind : SnippetKind,
      (generator.workshop.blueprint (request.forComponent (.ofSnippet kind)) (.ofSnippet kind)).names =
        Names.ofRequest request := fun _ => rfl
  have kebab := Names.isFileName_kebab accepted
  rw [snippets_generate standard everything accepted world, ← Snippets.ofAllKinds]
  refine ⟨Snippets.length_ofAllKinds named, Snippets.nodup_ids named, Snippets.nodup_targetFiles named kebab, ?_⟩
  exact Snippet.areIndependent (Snippets.arranged_ofAllKinds named kebab) closed turns

/-- The snippets of a model can be applied below a directory of a small project. -/
theorem snippets_independent_order :
    plainGenerator.registry = .standard ∧ orderRequest.component = .all ∧ Validation.check orderRequest = [] ∧
      sparseTree.IsClosed ∧ sparseTree.TurnsSafely "out" ∧
      Snippet.AreIndependent "out" ((plainGenerator.generate orderRequest).run { tree := sparseTree }).1.snippets
        { tree := sparseTree } := by
  have accepted : Validation.check orderRequest = [] := by decide +kernel
  have closed : sparseTree.IsClosed := by decide +kernel
  have turns : sparseTree.TurnsSafely "out" :=
    FileTree.turnsSafely_of_down (by decide +kernel) _
  exact ⟨rfl, rfl, accepted, closed, turns, (snippets_independent rfl rfl accepted _ closed turns .standard).2.2.2⟩

/-- A project in `b`, beside which `a` is still to be made. -/
def splitTree : FileTree where
  entries := [
    (["b"], .directory), (["b", "internal"], .directory), (["b", "internal", "shared"], .directory),
    (["b", "internal", "shared", "wire.go"], .file "// <<<FORGE:INSERT providers>>>\n")]

/-- Below `a/../b`, the client's module makes `a`, and so the list of providers is found only after
it. -/
theorem not_snippets_independent_split :
    plainGenerator.registry = .standard ∧ orderRequest.component = .all ∧ Validation.check orderRequest = [] ∧
      splitTree.IsClosed ∧
      ¬ Snippet.AreIndependent "a/../b"
        ((plainGenerator.generate orderRequest).run { tree := splitTree }).1.snippets
        { tree := splitTree } := by
  have accepted : Validation.check orderRequest = [] := by decide +kernel
  refine ⟨rfl, rfl, accepted, by decide +kernel, ?_⟩
  intro independent
  rw [snippets_generate rfl rfl accepted] at independent
  have differs : ∃ wire ∈ Snippets.wire (Names.ofRequest orderRequest),
      ∃ client ∈ Snippets.frontendApi (plainGenerator.workshop.blueprint orderRequest (.ofSnippet .frontendApi)),
        wire ∉ [client] ∧
          ((wire.apply "a/../b").perform (Snippet.applyAll "a/../b" [client] { tree := splitTree })).1 ≠
            ((wire.apply "a/../b").perform { tree := splitTree }).1 := by
    decide +kernel
  rcases differs with ⟨wire, fromWire, client, fromClient, fresh, differs⟩
  have listed (kind : SnippetKind) (known : kind ∈ SnippetKind.all) {snippet : Snippet} :=
    fun produced => List.mem_flatMap.2 (⟨kind, known, produced⟩ : ∃ kind ∈ SnippetKind.all, snippet ∈ kind.produce
      (plainGenerator.workshop.blueprint (orderRequest.forComponent (.ofSnippet kind)) (.ofSnippet kind)))
  have wireListed := listed .wire (by decide) fromWire
  have clientListed := listed .frontendApi (by decide) fromClient
  apply differs
  apply independent.firstOutcome [client] _ wire wireListed fresh
  intro other member
  rw [List.mem_singleton.1 member]
  exact clientListed

end Generator
end Scaffold
