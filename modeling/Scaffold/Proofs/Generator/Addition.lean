import Scaffold.Proofs.FileTree.Additions
import Scaffold.Proofs.Generator.Stages
import Scaffold.Proofs.Workshop.Rollback

namespace Scaffold

open Job

/-!
# What a generation adds

When nothing may be overwritten, a generation adds the files that it reports and touches no other
file.  This holds of every stage by itself, also of one that fails, since a failed stage takes back
what it has written.  Over all stages the additions are put one behind the other.

The history gains at most one record, and that record lists the reported files.
-/

/-- The files that a stage reports; a stage that fails reports none. -/
def filesOf : Except Fault (List String) → List String
  | .ok files => files
  | .error _ => []

namespace Workshop

variable {workshop : Workshop} {options : Options} {before middle after : FileTree} {created : List String}
  {written : List (String × String)}

theorem placesBelow_root (tree : FileTree) (written : List (String × String)) :
    tree.placesBelow workshop.writer.root (written.map Prod.fst) =
      written.map (fun file => workshop.writer.placeIn tree file.1) := by
  rw [FileTree.placesBelow, List.map_map]
  rfl

/-- Where nothing may be overwritten, the loop adds what it has written. -/
theorem Progress.adds (progress : workshop.Progress options before after written created)
    (off : options.overwriteExisting = false) :
    before.Adds after workshop.writer.root (written.map Prod.fst) where
  toGrows := progress.grows
  held path member := by
    rcases List.mem_map.1 member with ⟨file, listed, rfl⟩
    exact (progress.held file listed).1
  absent place member := by
    rw [placesBelow_root] at member
    rcases List.mem_map.1 member with ⟨file, listed, rfl⟩
    exact progress.guarded off file listed
  others place outside := by
    rw [placesBelow_root] at outside
    exact progress.others place outside
  distinct := by
    rw [placesBelow_root]
    exact progress.distinct

/-- Writing a layer adds its files, or none when it fails. -/
theorem renderAndWrite_adds {data : Json.Value} {targets : List Target} {world after : World}
    {outcome : Except Fault (List String)} (quiet : workshop.writer.Quiet options)
    (off : options.overwriteExisting = false)
    (performed : (workshop.renderAndWrite options data targets).perform world = (outcome, after)) :
    world.tree.Adds after.tree workshop.writer.root (filesOf outcome) := by
  rcases renderAndWrite_cases performed with ⟨⟨fault, rfl⟩, draws, rfl⟩ | ⟨texts, draws, -, -, writing⟩
  · exact .refl world.tree workshop.writer.root
  have start : workshop.Progress options world.tree ({ world with draws } : World).tree [] [] := .start _ _ _
  have never {holds : Prop} (allowed : options.overwriteExisting = true) : holds := by
    rw [off] at allowed
    cases allowed
  rcases writeFrom_cases quiet never start never writing with
    ⟨rfl, created, progress⟩ | ⟨⟨fault, rfl⟩, written, middle, created, -, progress, loses⟩
  · exact progress.adds off
  · have same := progress.sameFiles loses off
    have kept := progress.grows.toKeepsDirectories.trans loses.toKeepsDirectories
    exact .nothing (kept.grows same) same workshop.writer.root

end Workshop

/-- Looking for the templates changes nothing. -/
theorem Layer.templateHome_world {layer : Layer} {workshop : Workshop} {world after : World}
    {outcome : Except Fault String} (performed : (layer.templateHome workshop).perform world = (outcome, after)) :
    after = world := by
  cases layer with
  | model =>
    rw [templateHome, Template.homeOf, perform_bind, perform_tree] at performed
    dsimp only at performed
    split at performed
    · cases performed
      rfl
    · split at performed
      · cases performed
        rfl
      · cases performed
        rfl
  | _ =>
    cases performed
    rfl

/-- The stage of a layer has not found its templates and changed nothing, or it has come to writing
its files. -/
theorem Layer.generate_cases {layer : Layer} {workshop : Workshop} {request : Request} {world after : World}
    {outcome : Except Fault (List String)}
    (performed : (layer.generate workshop request).perform world = (outcome, after)) :
    (∃ fault, outcome = .error fault) ∧ after = world ∨
      ∃ data directory, (workshop.renderAndWrite request.options data
        ((layer.outputs (Names.ofRequest request)).map fun output => { output, directory })).perform world =
          (outcome, after) := by
  rcases perform_bind_cases performed with ⟨fault, seeking, rfl⟩ | ⟨directory, middle, seeking, writing⟩
  · exact .inl ⟨⟨fault, rfl⟩, templateHome_world seeking⟩
  · cases templateHome_world seeking
    exact .inr ⟨_, directory, writing⟩

theorem Layer.generate_adds {layer : Layer} {workshop : Workshop} {request : Request} {world after : World}
    {outcome : Except Fault (List String)} (quiet : workshop.writer.Quiet request.options)
    (off : request.options.overwriteExisting = false)
    (performed : (layer.generate workshop request).perform world = (outcome, after)) :
    world.tree.Adds after.tree workshop.writer.root (filesOf outcome) := by
  rcases generate_cases performed with ⟨⟨fault, rfl⟩, rfl⟩ | ⟨data, directory, writing⟩
  · exact .refl _ _
  · exact Workshop.renderAndWrite_adds quiet off writing

namespace Generator

variable {generator : Generator}

theorem writeFiles_adds (builtin : generator.registry.IsBuiltin) {request : Request}
    (quiet : generator.workshop.writer.Quiet request.options) (off : request.options.overwriteExisting = false)
    (component : Component) (world : World) :
    let performed := (generator.writeFiles request component).perform world
    world.tree.Adds performed.2.tree generator.workshop.writer.root (filesOf performed.1) := by
  rcases writeFiles_cases builtin request component with ⟨fault, -, same⟩ | ⟨layer, -, same⟩
  · rw [same]
    exact .refl _ _
  · rw [same]
    exact Layer.generate_adds quiet off rfl

theorem files_gather (harvest : Harvest) (component : Component) (outcome : Except Fault (List String)) :
    (harvest.gather component outcome).files = harvest.files ++ filesOf outcome := by
  cases outcome with
  | error fault => exact (List.append_nil _).symm
  | ok files => rfl

/-- The snippets leave the files of a harvest alone. -/
theorem files_foldl_harvestSnippet (generator : Generator) (request : Request) (kinds : List SnippetKind)
    (harvest : Harvest) :
    (kinds.foldl (generator.harvestSnippet request) harvest).files = harvest.files := by
  induction kinds generalizing harvest with
  | nil => rfl
  | cons kind rest ih =>
    rw [List.foldl_cons, ih, harvestSnippet_eq]
    cases generator.produceSnippets (request.forComponent (Component.ofSnippet kind))
      (Component.ofSnippet kind) <;> rfl

/-- An error of the harvest stays. -/
theorem errors_of_foldl_harvestSnippet (generator : Generator) (request : Request) (kinds : List SnippetKind)
    {harvest : Harvest} (silent : (kinds.foldl (generator.harvestSnippet request) harvest).errors = []) :
    harvest.errors = [] := by
  induction kinds generalizing harvest with
  | nil => exact silent
  | cons kind rest ih =>
    have next := ih silent
    rw [harvestSnippet_eq] at next
    cases produced : generator.produceSnippets (request.forComponent (.ofSnippet kind)) (.ofSnippet kind) with
    | ok snippets =>
      rw [produced] at next
      exact next
    | error fault =>
      rw [produced] at next
      exact (List.append_eq_nil_iff.1 next).1

/-- The layers report their files one after the other, each working in the tree that the ones before
it have left. -/
theorem harvestLayers_relates (generator : Generator) (request : Request)
    (relates : List Layer → FileTree → FileTree → List String → Prop) (start : ∀ tree, relates [] tree tree [])
    (step : ∀ (layer : Layer) (rest : List Layer) (world : World) (after : FileTree) (files : List String),
      let performed := (generator.writeFiles (request.forComponent (.ofLayer layer)) (.ofLayer layer)).perform world
      relates rest performed.2.tree after files →
        relates (layer :: rest) world.tree after (filesOf performed.1 ++ files))
    (layers : List Layer) (harvest : Harvest) (world : World) :
    let result := (generator.harvestLayers request harvest layers).run world
    ∃ files, result.1.files = harvest.files ++ files ∧ relates layers world.tree result.2.tree files := by
  induction layers generalizing harvest world with
  | nil => exact ⟨[], (List.append_nil _).symm, start world.tree⟩
  | cons layer rest ih =>
    rw [run_harvestLayers_cons]
    dsimp only
    rcases ih (harvest.gather (.ofLayer layer) _) _ with ⟨files, gathered, related⟩
    refine ⟨_, ?_, step layer rest world _ files related⟩
    rw [← List.append_assoc, ← files_gather]
    exact gathered

/-- The layers add their files one after the other. -/
theorem harvestLayers_adds (builtin : generator.registry.IsBuiltin) {request : Request}
    (quiet : generator.workshop.writer.Quiet request.options) (off : request.options.overwriteExisting = false)
    (layers : List Layer) (harvest : Harvest) (world : World) :
    let result := (generator.harvestLayers request harvest layers).run world
    ∃ files, result.1.files = harvest.files ++ files ∧
      world.tree.Adds result.2.tree generator.workshop.writer.root files := by
  apply generator.harvestLayers_relates request
    fun _ before after files => before.Adds after generator.workshop.writer.root files
  · exact fun tree => .refl tree _
  · intro layer rest world after files
    have single : generator.workshop.writer.Quiet (request.forComponent (.ofLayer layer)).options := quiet
    exact (writeFiles_adds builtin single off (.ofLayer layer) world).append

/-- The response accounts for all that has changed: the reported files were added, and either the
history is as it was or it has taken one record, which lists them. -/
structure Accounted (generator : Generator) (request : Request) (before after : World) (response : Response) :
    Prop where
  adds : before.tree.Adds after.tree generator.workshop.writer.root response.files
  memory : response.historyUpdated = false ∧ after.memory = before.memory ∨
    response.historyUpdated = true ∧ ∃ components, after.memory =
      before.memory.add (Ledger.recordOf generator.workshop.now request components response.files)

theorem Accounted.nothing {request : Request} {response : Response} (files : response.files = [])
    (unrecorded : response.historyUpdated = false) (world : World) :
    generator.Accounted request world world response where
  adds := files ▸ .refl _ _
  memory := .inl ⟨unrecorded, rfl⟩

section Additive

variable (builtin : generator.registry.IsBuiltin) (inMemory : generator.ledger.store = .memory) {request : Request}
  (quiet : generator.workshop.writer.Quiet request.options) (off : request.options.overwriteExisting = false)
  (world : World)

include builtin inMemory quiet off

theorem generateFiles_accounted :
    let result := (generator.generateFiles request).run world
    generator.Accounted request world result.2 result.1 := by
  have adds := writeFiles_adds builtin quiet off request.component world
  have kept := (writeFiles_treeWork builtin request request.component).memory world
  rw [run_generateFiles inMemory]
  dsimp only at adds ⊢
  cases performed : (generator.writeFiles request request.component).perform world with
  | mk outcome after =>
    rw [performed] at adds kept
    cases outcome with
    | error fault => exact ⟨adds, .inl ⟨rfl, kept⟩⟩
    | ok files => exact ⟨adds, .inr ⟨rfl, [request.component], congrArg (History.add · _) kept⟩⟩

theorem generateAll_accounted :
    let result := (generator.generateAll request).run world
    generator.Accounted request world result.2 result.1 := by
  have kept := memory_harvestLayers builtin request {} Layer.all world
  rcases harvestLayers_adds builtin quiet off Layer.all {} world with ⟨files, gathered, adds⟩
  have whole := generator.files_foldl_harvestSnippet request SnippetKind.all
    ((generator.harvestLayers request {} Layer.all).run world).1
  rw [gathered] at whole
  rw [run_generateAll inMemory]
  dsimp only at adds ⊢
  generalize SnippetKind.all.foldl (generator.harvestSnippet request)
    ((generator.harvestLayers request {} Layer.all).run world).1 = harvest at whole
  refine ⟨?_, ?_⟩
  · rw [Harvest.summary, whole]
    exact adds
  · rw [rememberAll, kept]
    cases empty : harvest.files.isEmpty with
    | true => exact .inl ⟨by rw [Harvest.summary, empty]; rfl, rfl⟩
    | false => exact .inr ⟨by rw [Harvest.summary, empty]; rfl, harvest.written, rfl⟩

/-- A generation that may not overwrite anything adds what it reports and records it. -/
theorem generate_accounted :
    let result := (generator.generate request).run world
    generator.Accounted request world result.2 result.1 := by
  by_cases valid : Validation.check request = []
  · rw [generate_of_valid valid]
    split
    · exact generateAll_accounted builtin inMemory quiet off world
    · rw [generateSnippets]
      split
      · exact .nothing rfl rfl world
      · exact .nothing rfl rfl world
    · exact generateFiles_accounted builtin inMemory quiet off world
  · rw [generate_of_invalid valid]
    exact .nothing rfl rfl world

end Additive

end Generator
end Scaffold
