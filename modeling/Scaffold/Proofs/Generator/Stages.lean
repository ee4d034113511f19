import Scaffold.Generator
import Scaffold.Proofs.Workshop.Rollback
import Scaffold.Proofs.Workshop.StageWork

namespace Scaffold

open Job

/-!
# One stage of many

A generation is opened here into its steps: what one stage contributes to the harvest, and what is
recorded at the end.  With built-in stages, a stage that writes files is the writing of a layer, and
any other fails without touching anything.
-/

namespace Harvest

/-- The harvest after the stage of a layer. -/
def gather (harvest : Harvest) (component : Component) : Except Fault (List String) → Harvest
  | .ok files => { harvest with files := harvest.files ++ files, written := harvest.written ++ [component] }
  | .error fault => { harvest with errors := harvest.errors ++ Generator.stageErrors component fault }

/-- The harvest after the stage of a kind of snippets. -/
def gatherSnippets (harvest : Harvest) (component : Component) : Except Fault (List Snippet) → Harvest
  | .ok snippets => { harvest with snippets := harvest.snippets ++ snippets }
  | .error fault => { harvest with errors := harvest.errors ++ Generator.stageErrors component fault }

/-- The response that sums up what all stages have produced, when the history takes what is given to
it. -/
def summary (harvest : Harvest) : Response where
  success := harvest.errors.isEmpty
  files := harvest.files
  snippets := harvest.snippets
  message := Generator.harvestMessage harvest
  historyUpdated := !harvest.files.isEmpty
  errors := harvest.errors

end Harvest

namespace Generator

variable {generator : Generator}

/-! ## Running -/

/-- The next layer is written in the tree that the ones before it have left behind. -/
theorem run_harvestLayers_cons (request : Request) (harvest : Harvest) (layer : Layer) (rest : List Layer)
    (world : World) :
    (generator.harvestLayers request harvest (layer :: rest)).run world =
      let component := Component.ofLayer layer
      let performed := (generator.writeFiles (request.forComponent component) component).perform world
      (generator.harvestLayers request (harvest.gather component performed.1) rest).run performed.2 := by
  rw [harvestLayers, run_outcome_bind]
  dsimp only
  cases ((generator.writeFiles (request.forComponent (Component.ofLayer layer))
    (Component.ofLayer layer)).perform world).1 <;> rfl

theorem harvestSnippet_eq (request : Request) (harvest : Harvest) (kind : SnippetKind) :
    generator.harvestSnippet request harvest kind =
      harvest.gatherSnippets (Component.ofSnippet kind)
        (generator.produceSnippets (request.forComponent (Component.ofSnippet kind))
          (Component.ofSnippet kind)) := by
  rw [harvestSnippet]
  cases generator.produceSnippets (request.forComponent (Component.ofSnippet kind))
    (Component.ofSnippet kind) <;> rfl

/-- A history in memory always takes the record. -/
theorem run_record (inMemory : generator.ledger.store = .memory) (request : Request) (components : List Component)
    (files : List String) (world : World) :
    (generator.record request components files).run world = (true,
      { world with memory :=
        world.memory.add (Ledger.recordOf generator.workshop.now request components files) }) := by
  rw [record, Ledger.add, inMemory]
  rfl

/-- The response to one layer, by the outcome of its stage. -/
def answer (component : Component) : Except Fault (List String) → Response
  | .ok files => {
    success := true
    files := files
    message := "generated " ++ toString files.length ++ " file(s) for " ++ component.name
    historyUpdated := true }
  | .error fault => stageFailure component fault

/-- The memory after one layer, by the outcome of its stage. -/
def remember (generator : Generator) (request : Request) (memory : History) : Except Fault (List String) → History
  | .ok files => memory.add (Ledger.recordOf generator.workshop.now request [request.component] files)
  | .error _ => memory

theorem run_generateFiles (inMemory : generator.ledger.store = .memory) (request : Request) (world : World) :
    (generator.generateFiles request).run world =
      let performed := (generator.writeFiles request request.component).perform world
      (answer request.component performed.1,
        { performed.2 with memory := generator.remember request performed.2.memory performed.1 }) := by
  rw [generateFiles, run_outcome_bind]
  dsimp only
  cases ((generator.writeFiles request request.component).perform world).1 with
  | error fault => rfl
  | ok files =>
    dsimp only
    rw [StateT.run_bind, run_record inMemory]
    rfl

/-- The memory after all stages. -/
def rememberAll (generator : Generator) (request : Request) (memory : History) (harvest : Harvest) : History :=
  if harvest.files.isEmpty then memory
  else memory.add (Ledger.recordOf generator.workshop.now request harvest.written harvest.files)

theorem run_generateAll (inMemory : generator.ledger.store = .memory) (request : Request) (world : World) :
    (generator.generateAll request).run world =
      let layers := (generator.harvestLayers request {} Layer.all).run world
      let harvest := SnippetKind.all.foldl (generator.harvestSnippet request) layers.1
      (harvest.summary, { layers.2 with memory := generator.rememberAll request layers.2.memory harvest }) := by
  rw [generateAll, StateT.run_bind]
  dsimp only [bind, Id.run]
  cases (generator.harvestLayers request {} Layer.all).run world with
  | mk layers after =>
    dsimp only
    generalize SnippetKind.all.foldl (generator.harvestSnippet request) layers = harvest
    rw [Harvest.summary, rememberAll]
    cases nothing : harvest.files.isEmpty with
    | true => rfl
    | false =>
      change (generator.record request harvest.written harvest.files >>= _).run after = _
      rw [StateT.run_bind, run_record inMemory]
      rfl

/-! ## Choosing -/

theorem generate_of_invalid {request : Request} (invalid : Validation.check request ≠ []) :
    generator.generate request =
      pure (Response.failure "validation failed" (Fault.validation (Validation.check request)).messages) := by
  rw [generate, if_neg (by simpa using invalid)]

theorem generate_of_valid {request : Request} (valid : Validation.check request = []) :
    generator.generate request =
      match request.component with
      | .all => generator.generateAll request
      | .one (.snippet _) => pure (generator.generateSnippets request)
      | _ => generator.generateFiles request := by
  rw [generate, valid]
  rfl

/-! ## Built-in stages -/

theorem messages_ne_nil {fault : Fault} (plain : fault.isValidation = false) : fault.messages ≠ [] := by
  cases fault with
  | validation errors => cases plain
  | _ => exact List.cons_ne_nil _ _

/-- The stage of a component that writes files is the writing of a layer, or fails before it
starts. -/
theorem writeFiles_cases (builtin : generator.registry.IsBuiltin) (request : Request) (component : Component) :
    (∃ fault, fault.isValidation = false ∧ generator.writeFiles request component = throw fault) ∨
      ∃ layer, component = .ofLayer layer ∧
        generator.writeFiles request component = layer.generate generator.workshop request := by
  cases found : generator.registry.get component with
  | error fault =>
    refine .inl ⟨fault, Registry.isValidation_of_get found, ?_⟩
    rw [writeFiles, found]
    rfl
  | ok stage =>
    rcases builtin.of_get found with ⟨kind, rfl, rfl⟩
    cases kind with
    | snippet kind =>
      refine .inl ⟨Stage.lacks (.ofSnippet kind) "file generation", rfl, ?_⟩
      rw [writeFiles, found]
      rfl
    | layer layer =>
      refine .inr ⟨layer, rfl, ?_⟩
      rw [writeFiles, found]
      rfl

theorem writeFiles_treeWork (builtin : generator.registry.IsBuiltin) (request : Request) (component : Component) :
    TreeWork (generator.writeFiles request component) := by
  rcases writeFiles_cases builtin request component with ⟨fault, plain, same⟩ | ⟨layer, -, same⟩
  · rw [same]
    exact .throw plain
  · rw [same]
    exact layer.generate_treeWork generator.workshop request

/-- The layers leave the memory to what follows. -/
theorem memory_harvestLayers (builtin : generator.registry.IsBuiltin) (request : Request) (harvest : Harvest)
    (layers : List Layer) (world : World) :
    ((generator.harvestLayers request harvest layers).run world).2.memory = world.memory := by
  induction layers generalizing harvest world with
  | nil => rfl
  | cons layer rest ih =>
    rw [run_harvestLayers_cons]
    exact (ih _ _).trans ((writeFiles_treeWork builtin _ _).memory world)

/-- A stage that produces no snippets says so in one line. -/
theorem isValidation_of_produceSnippets (builtin : generator.registry.IsBuiltin) {request : Request}
    {component : Component} {fault : Fault} (failed : generator.produceSnippets request component = .error fault) :
    fault.isValidation = false := by
  rw [produceSnippets] at failed
  cases found : generator.registry.get component with
  | error lacking =>
    rw [found] at failed
    cases failed
    exact Registry.isValidation_of_get found
  | ok stage =>
    rw [found] at failed
    rcases builtin.of_get found with ⟨kind, rfl, rfl⟩
    cases kind <;> cases failed
    rfl

/-! ## A small project -/

/-- All built-in stages, without tools and with a history in memory. -/
def plainGenerator : Generator where
  registry := .standard
  workshop := .plainWorkshop
  ledger := { store := .memory, root := "out" }

/-- A project with the templates of two layers; one of them is malformed. -/
def sparseTree : FileTree where
  entries := [
    (["templates"], .directory), (["templates", "model.go.tera"], .file "text"),
    (["templates", "service.go.tera"], .file "\x7b\x7b name"), (["out"], .directory)]

def orderRequest : Request where
  component := .all
  modelName := "Order"
  fields := [{ name := "total", logicalType := "string" }]

/-! ## A project with links -/

/-- A project with the templates of two layers, in which the models are kept in `store`: there leads
a link in the place of the repository that the order will have. -/
def linkedTree : FileTree :=
  let tree : FileTree := { entries := [
    (["templates"], .directory), (["templates", "model.go.tera"], .file "model"),
    (["templates", "repository.go.tera"], .file "repository"),
    (["out"], .directory), (["out", "internal"], .directory), (["out", "internal", "store"], .directory),
    (["out", "internal", "shared"], .directory), (["out", "internal", "shared", "repository"], .directory)] }
  (tree.putLink ["out", "internal", "shared", "models"] "repository/order.go").putLink
    ["out", "internal", "shared", "repository", "order.go"] "../../store"

/-- All that there is of the order, which may be written over older files. -/
def renewingRequest : Request :=
  { orderRequest with options := { overwriteExisting := true } }

end Generator
end Scaffold
