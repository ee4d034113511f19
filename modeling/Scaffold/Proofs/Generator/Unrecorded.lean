import Scaffold.Proofs.Generator.Stages
import Scaffold.Proofs.History.Unreadable
import Scaffold.Proofs.Validation.Acceptance
import Scaffold.Proofs.Workshop.Aside

namespace Scaffold

open Job

/-!
# Generating next to a history that cannot be read

A file that cannot be read as a history is never written over.  The operations of the ledger refuse
to work on it, and a generation goes on without it: it writes the same files and gives the same
answer as in a project that has no history yet, except that nothing is recorded.  The paths of the
templates and of the outputs must not lead through the file, since a generation would then read or
write the file as something else than a history.
-/

/-- The world with nothing in the place of a path. -/
def World.without (world : World) (path : String) : World :=
  { world with tree := world.tree.erase (world.tree.placeOf path) }

/-- The layers that a component asks for. -/
def Component.layers : Component → List Layer
  | .all => Layer.all
  | .one (.layer layer) => [layer]
  | _ => []

namespace Generator

variable {generator : Generator} {request : Request} {start : FileTree} {place : Place} {path text : String}

/-- What is read and written for a request lies aside of the file. -/
def WorksAside (generator : Generator) (request : Request) (start : FileTree) (place : Place)
    (text : String) : Prop :=
  ∀ layer ∈ request.component.layers, layer.WorksAside generator.workshop request start place text

/-! ## The stages -/

theorem overlooks_writeFiles (builtin : generator.registry.IsBuiltin) (request : Request) (component : Component)
    (aside : ∀ layer, component = .ofLayer layer → layer.WorksAside generator.workshop request start place text) :
    Overlooks start place text (generator.writeFiles request component) := by
  obtain ⟨fault, -, same⟩ | ⟨layer, only, same⟩ := writeFiles_cases builtin request component
  · rw [same]
    exact .throw fault
  · rw [same]
    exact Layer.overlooks_generate (aside layer only)

/-- The layers yield the same whether or not the file is there. -/
theorem harvestLayers_aside (builtin : generator.registry.IsBuiltin) {layers : List Layer}
    (aside : ∀ layer ∈ layers, layer.WorksAside generator.workshop request start place text) (harvest : Harvest)
    {full bare : World} (beside : Beside start place text full bare) :
    let first := (generator.harvestLayers request harvest layers).run full
    let second := (generator.harvestLayers request harvest layers).run bare
    second.1 = first.1 ∧ Beside start place text first.2 second.2 := by
  induction layers generalizing harvest full bare with
  | nil => exact ⟨rfl, beside⟩
  | cons layer rest ih =>
    obtain ⟨own, others⟩ := List.forall_mem_cons.1 aside
    have stage : Overlooks start place text
        (generator.writeFiles (request.forComponent (.ofLayer layer)) (.ofLayer layer)) := by
      refine overlooks_writeFiles builtin _ _ fun other same => ?_
      cases same
      exact own.forComponent _
    obtain ⟨alike, later⟩ := stage full bare beside
    rw [run_harvestLayers_cons, run_harvestLayers_cons]
    dsimp only
    rw [alike]
    exact ih others _ later

/-! ## The record -/

theorem run_record_of_refuses {world : World} {fault : Fault} (refuses : generator.ledger.Refuses fault world)
    (components : List Component) (files : List String) :
    (generator.record request components files).run world = (false, world) := by
  rw [record, run_outcome_bind, refuses.add]
  rfl

/-- Recording leaves all files but that of the history as they are. -/
theorem contentAt?_record (inFile : generator.ledger.store = .file path) (components : List Component)
    (files : List String) (world : World) {place : Place} (aside : place ≠ world.tree.placeOf path) :
    ((generator.record request components files).run world).2.tree.contentAt? place =
    world.tree.contentAt? place := by
  rw [record, run_outcome_bind]
  exact Ledger.contentAt?_add inFile _ _ _ _ world aside

/-! ## The answer -/

/-- A generation that has not recorded anything: it gives the answer of another one, but for the
record, the text of the history has stayed, and all other files are the same. -/
structure Unrecorded (path text : String) (kept other : Response × World) : Prop where
  response : kept.1 = { other.1 with historyUpdated := false }
  history : kept.2.tree.read path = .ok text
  files : ∀ place, place ≠ kept.2.tree.placeOf path → kept.2.tree.contentAt? place = other.2.tree.contentAt? place

/-- The answer with what became of the record. -/
def answering (response : Response) (recorded : Bool × World) : Response × World :=
  ({ response with historyUpdated := recorded.1 }, recorded.2)

section

variable {full bare : World} (leads : start.LeadsToFile path) (own : start.placeOf path = place)
  (broken : ∀ history, History.parse text ≠ .ok history)
include leads own

/-- The file can still be read where it lies. -/
theorem Unrecorded.of_carries {response other : Response} (same : response = { other with historyUpdated := false })
    (carries : start.Carries place text full.tree bare.tree) :
    Unrecorded path text (response, full) (other, bare) where
  response := same
  history := carries.read leads own
  files third different := by
    have aside : third ≠ place := by
      rw [← own, ← carries.placeOf_eq]
      exact different
    exact (FileTree.contentAt?_congr (carries.elsewhere third aside)).symm

include broken

/-- The ledger refuses to record where the file lies. -/
theorem refuses_of_carries (inFile : generator.ledger.store = .file path)
    (carries : start.Carries place text full.tree bare.tree) :
    generator.ledger.Refuses (HistoryStore.unparsable path) full := by
  apply Ledger.refuses_of_unloaded
  rw [inFile]
  exact HistoryStore.perform_load_of_unparsable (carries.read leads own) broken

/-- Where the file is missing, a record may be made. -/
theorem Unrecorded.of_record (inFile : generator.ledger.store = .file path)
    (carries : start.Carries place text full.tree bare.tree) (response : Response) (components : List Component)
    (files : List String) :
    Unrecorded path text (answering response ((generator.record request components files).run full))
      (answering response ((generator.record request components files).run bare)) := by
  have settled : Unrecorded path text ({ response with historyUpdated := false }, full) (response, bare) :=
    .of_carries leads own rfl carries
  rw [run_record_of_refuses (refuses_of_carries leads own broken inFile carries)]
  refine ⟨rfl, settled.history, fun third different => ?_⟩
  -- The record is made in the bare tree only, and reaches no file but that of the history.
  have aside : third ≠ bare.tree.placeOf path := by
    rw [carries.placeOf_bare]
    exact different
  exact (settled.files third different).trans (contentAt?_record inFile components files bare aside).symm

end

/-! ## Running -/

theorem generateFiles_eq (request : Request) (world : World) :
    (generator.generateFiles request).run world =
      let performed := (generator.writeFiles request request.component).perform world
      match performed.1 with
      | .ok files =>
        answering (answer request.component (.ok files))
          ((generator.record request [request.component] files).run performed.2)
      | .error fault => (stageFailure request.component fault, performed.2) := by
  rw [generateFiles, run_outcome_bind]
  dsimp only
  cases ((generator.writeFiles request request.component).perform world).1 <;> rfl

theorem generateAll_eq (request : Request) (world : World) :
    (generator.generateAll request).run world =
      let layers := (generator.harvestLayers request {} Layer.all).run world
      let harvest := SnippetKind.all.foldl (generator.harvestSnippet request) layers.1
      answering harvest.summary (if harvest.files.isEmpty then (false, layers.2)
        else (generator.record request harvest.written harvest.files).run layers.2) := by
  rw [generateAll, StateT.run_bind]
  dsimp only [bind, Id.run]
  cases (generator.harvestLayers request {} Layer.all).run world with
  | mk layers after =>
    dsimp only
    generalize SnippetKind.all.foldl (generator.harvestSnippet request) layers = harvest
    cases harvest.files.isEmpty <;> rfl

section

variable (builtin : generator.registry.IsBuiltin) (inFile : generator.ledger.store = .file path)
  (leads : start.LeadsToFile path) (broken : ∀ history, History.parse text ≠ .ok history)
  (aside : generator.WorksAside request start (start.placeOf path) text) {full bare : World}
  (beside : Beside start (start.placeOf path) text full bare)
include builtin inFile leads broken aside beside

theorem unrecorded_of_layer {layer : Layer} (only : request.component = .ofLayer layer) :
    Unrecorded path text ((generator.generateFiles request).run full)
      ((generator.generateFiles request).run bare) := by
  have stage : Overlooks start (start.placeOf path) text (generator.writeFiles request request.component) := by
    refine overlooks_writeFiles builtin _ _ fun other same => ?_
    rw [only] at same
    cases same
    exact aside layer (by rw [only]; exact List.mem_cons_self)
  obtain ⟨alike, later⟩ := stage full bare beside
  rw [generateFiles_eq, generateFiles_eq]
  dsimp only
  rw [alike]
  cases ((generator.writeFiles request request.component).perform full).1 with
  | ok files => exact .of_record leads rfl broken inFile later.tree _ _ _
  | error fault => exact .of_carries leads rfl rfl later.tree

theorem unrecorded_of_all (everything : request.component = .all) :
    Unrecorded path text ((generator.generateAll request).run full) ((generator.generateAll request).run bare) := by
  have listed : ∀ layer ∈ Layer.all,
      layer.WorksAside generator.workshop request start (start.placeOf path) text := by
    intro layer member
    exact aside layer (by rw [everything]; exact member)
  obtain ⟨alike, later⟩ := harvestLayers_aside builtin listed {} beside
  rw [generateAll_eq, generateAll_eq]
  dsimp only
  rw [alike]
  split
  · exact .of_carries leads rfl rfl later.tree
  · exact .of_record leads rfl broken inFile later.tree _ _ _

/-- Whatever is asked for, the answer is the same with and without the file, and the file stays as
it is. -/
theorem generate_unrecorded :
    Unrecorded path text ((generator.generate request).run full) ((generator.generate request).run bare) := by
  by_cases accepted : Validation.check request = []
  · rw [generate_of_valid accepted]
    split
    · next everything => exact unrecorded_of_all builtin inFile leads broken aside beside everything
    · have plain : (generator.generateSnippets request).historyUpdated = false := by
        rw [generateSnippets]
        split <;> rfl
      exact .of_carries leads rfl (by rw [← plain]) beside.tree
    · next other noSnippet =>
      have known := (Validation.check_eq_nil.1 accepted).component
      rcases only : request.component with (_ | _) | _ | raw
      · exact unrecorded_of_layer builtin inFile leads broken aside beside only
      · exact absurd only (noSnippet _)
      · exact absurd only other
      · exact absurd only (known raw)
  · rw [generate_of_invalid accepted]
    exact .of_carries leads rfl rfl beside.tree

end

/-- A history that cannot be read is kept.  The ledger refuses every operation on it and changes
nothing, and a generation comes to the same as if there was no history, except that nothing is
recorded.  A history that can be read is kept by every transaction whose change fails. -/
theorem unparsable_history_kept :
    (∀ (world : World) (path text : String), world.tree.read path = .ok text →
      (∀ history, History.parse text ≠ .ok history) →
        (∀ root, Ledger.Refuses { store := .file path, root } (HistoryStore.unparsable path) world) ∧
        ∀ (generator : Generator) (request : Request), generator.registry.IsBuiltin →
          generator.ledger.store = .file path → world.tree.links = [] →
          generator.WorksAside request world.tree (world.tree.placeOf path) text →
          Unrecorded path text ((generator.generate request).run world)
            ((generator.generate request).run (world.without path))) ∧
    ∀ (store : HistoryStore) (world : World) (history : History), store.Holds world history →
      store.DiscardsFailures world history := by
  refine ⟨fun world path text readable broken =>
    ⟨fun root => ?_, fun generator request builtin inFile unlinked aside => ?_⟩,
    fun store world history holds => holds.discardsFailures⟩
  · exact Ledger.refuses_of_unloaded (HistoryStore.perform_load_of_unparsable readable broken)
  · have leads := FileTree.leadsToFile_of_read unlinked readable
    exact generate_unrecorded builtin inFile leads broken aside ⟨FileTree.carries_of_read unlinked readable, rfl⟩

/-- A generator with a formatter that keeps its history in a file. -/
def recordingGenerator : Generator :=
  { plainGenerator with
    workshop := { Workshop.plainWorkshop with
      writer := { root := "out", formatter := ["sed", "-i", "$a // formatted"] }
      toolbox := .lineEditor }
    ledger := { store := .file "data/history.json", root := "out" } }

/-- The line editor does what is asked of it aside of the history, so that only the paths matter. -/
theorem worksAside_recordingGenerator
    (outputs : ∀ layer ∈ request.component.layers, ∀ output ∈ layer.outputs (Names.ofRequest request),
      start.Avoids (recordingGenerator.workshop.writer.resolve output.path) place)
    (templates : ∀ layer ∈ request.component.layers,
      ∀ directory ∈ layer.templateDirectories recordingGenerator.workshop,
        ∀ output ∈ layer.outputs (Names.ofRequest request),
          start.Avoids (Template.fileIn directory output.template) place) :
    recordingGenerator.WorksAside request start place text :=
  fun layer asked => ⟨outputs layer asked, templates layer asked,
    fun output listed => Writer.toolsOverlook_lineEditor _ _ (outputs layer asked output listed)⟩

/-- The sparse project with a text in the place of its history. -/
def projectWith (place : Place) (text : String) : FileTree :=
  (sparseTree.put place.dropLast .directory).put place (.file text)

theorem parse_ne_ok {text : String} (fails : (History.parse text).toBool = false) :
    ∀ history, History.parse text ≠ .ok history := by
  intro history parsed
  rw [parsed] at fails
  cases fails

/-- One layer of the order is written next to a text that is no history, and only without the text
it is recorded. -/
theorem unparsable_history_kept_order :
    let world : World := { tree := projectWith ["data", "history.json"] "not json" }
    let saved : World := { tree := projectWith ["data", "history.json"] ({} : History).text }
    world.tree.read "data/history.json" = .ok "not json" ∧ (∀ history, History.parse "not json" ≠ .ok history) ∧
      recordingGenerator.registry.IsBuiltin ∧ recordingGenerator.ledger.store = .file "data/history.json" ∧
      world.tree.links = [] ∧
        recordingGenerator.WorksAside orderRequest world.tree (world.tree.placeOf "data/history.json") "not json" ∧
      (HistoryStore.file "data/history.json").Holds saved {} ∧
      recordingGenerator.ledger.Refuses (HistoryStore.unparsable "data/history.json") world ∧
      (let kept := (recordingGenerator.generate orderRequest).run world
       let other := (recordingGenerator.generate orderRequest).run (world.without "data/history.json")
       kept.1.files = ["internal/shared/models/order.go"] ∧ kept.1.historyUpdated = false ∧
         other.1.historyUpdated = true ∧ Unrecorded "data/history.json" "not json" kept other) ∧
      (HistoryStore.file "data/history.json").DiscardsFailures saved {} := by
  intro world saved
  have readable : world.tree.read "data/history.json" = .ok "not json" := by decide +kernel
  have broken : ∀ history, History.parse "not json" ≠ .ok history := parse_ne_ok (by decide +kernel)
  have aside : recordingGenerator.WorksAside orderRequest world.tree (world.tree.placeOf "data/history.json")
      "not json" :=
    worksAside_recordingGenerator (by decide +kernel) (by decide +kernel)
  have holds : (HistoryStore.file "data/history.json").Holds saved {} := by
    refine ⟨({} : History).text, ?_, History.parse_text (List.forall_mem_nil _)⟩
    decide +kernel
  have answers :
      ((recordingGenerator.generate orderRequest).run world).1.files = ["internal/shared/models/order.go"] ∧
      ((recordingGenerator.generate orderRequest).run (world.without "data/history.json")).1.historyUpdated =
        true := by
    decide +kernel
  obtain ⟨unparsable, discarded⟩ := unparsable_history_kept
  obtain ⟨refused, unrecorded⟩ := unparsable world "data/history.json" "not json" readable broken
  have same := unrecorded recordingGenerator orderRequest Registry.standard_isBuiltin rfl rfl aside
  refine ⟨readable, broken, Registry.standard_isBuiltin, rfl, rfl, aside, holds, refused "out",
    ⟨answers.1, ?_, answers.2, same⟩, discarded _ saved {} holds⟩
  rw [same.response]

/-- A generator that keeps its history where the template of a layer is looked for. -/
def overlappingGenerator : Generator :=
  { plainGenerator with ledger := { store := .file "templates/repository.go.tera", root := "out" } }

/-- One layer of the order. -/
def layerRequest (layer : Layer) : Request :=
  orderRequest.forComponent (.ofLayer layer)

/-- A generator with a formatter that empties the history. -/
def spoilingGenerator : Generator :=
  { recordingGenerator with
    workshop :=
      { recordingGenerator.workshop with
        toolbox := fun _ tree => tree.put ["data", "history.json"] (.file "") } }

/-- A project in which a link leads from the place of a template to the history. -/
def linkedProject : FileTree :=
  (projectWith ["data", "history.json"] "not json").putLink ["templates", "repository.go.tera"]
    "../data/history.json"

/-- No output leads through the place of a path. -/
def OutputsAside (generator : Generator) (request : Request) (tree : FileTree) (path : String) : Prop :=
  ∀ layer ∈ request.component.layers, ∀ output ∈ layer.outputs (Names.ofRequest request),
    tree.Avoids (generator.workshop.writer.resolve output.path) (tree.placeOf path)

instance (generator : Generator) (request : Request) (tree : FileTree) (path : String) :
    Decidable (generator.OutputsAside request tree path) :=
  inferInstanceAs (Decidable
    (∀ layer ∈ request.component.layers, ∀ output ∈ layer.outputs (Names.ofRequest request), _))

/-- It is not enough that no output leads through the history.  A history in the place of a template
makes a difference: its text is written as a file, and without it there is nothing to be rendered.
A formatter can take the text away.  Nor is it enough that no template is looked for there: a link
in the place of a template may lead to the history. -/
theorem not_unparsable_history_kept :
    (∀ history, History.parse "not json" ≠ .ok history) ∧
      (let world : World := { tree := projectWith ["templates", "repository.go.tera"] "not json" }
       let request := layerRequest .repository
       Validation.check request = [] ∧ overlappingGenerator.registry = .standard ∧
         overlappingGenerator.ledger.store = .file "templates/repository.go.tera" ∧
         world.tree.read "templates/repository.go.tera" = .ok "not json" ∧
         overlappingGenerator.OutputsAside request world.tree "templates/repository.go.tera" ∧
         let kept := (overlappingGenerator.generate request).run world
         let other := (overlappingGenerator.generate request).run (world.without "templates/repository.go.tera")
         kept.1.files = ["internal/shared/repository/order.go"] ∧ other.1.files = [] ∧
           other.1.errors ≠ kept.1.errors) ∧
      (let world : World := { tree := projectWith ["data", "history.json"] "not json" }
       let request := layerRequest .model
       Validation.check request = [] ∧ spoilingGenerator.registry = .standard ∧
         spoilingGenerator.ledger.store = .file "data/history.json" ∧
         world.tree.read "data/history.json" = .ok "not json" ∧
         spoilingGenerator.OutputsAside request world.tree "data/history.json" ∧
         ((spoilingGenerator.generate request).run world).2.tree.read "data/history.json" ≠ .ok "not json") ∧
      let world : World := { tree := linkedProject }
      let request := layerRequest .repository
      Validation.check request = [] ∧ recordingGenerator.registry = .standard ∧
        recordingGenerator.ledger.store = .file "data/history.json" ∧
        world.tree.read "data/history.json" = .ok "not json" ∧
        recordingGenerator.WorksAside request world.tree (world.tree.placeOf "data/history.json") "not json" ∧
        let kept := (recordingGenerator.generate request).run world
        let other := (recordingGenerator.generate request).run (world.without "data/history.json")
        kept.1.files = ["internal/shared/repository/order.go"] ∧ other.1.files = [] ∧
          other.1.errors ≠ kept.1.errors :=
  ⟨parse_ne_ok (by decide +kernel),
    ⟨by decide +kernel, rfl, rfl, by decide +kernel, by decide +kernel, by decide +kernel⟩,
    ⟨by decide +kernel, rfl, rfl, by decide +kernel, by decide +kernel, by decide +kernel⟩,
    by decide +kernel, rfl, rfl, by decide +kernel,
    worksAside_recordingGenerator (by decide +kernel) (by decide +kernel), by decide +kernel⟩

end Generator
end Scaffold
