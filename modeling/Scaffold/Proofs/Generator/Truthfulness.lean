import Scaffold.Proofs.Generator.Parts
import Scaffold.Proofs.Generator.Replacement

namespace Scaffold

open Job

/-!
# What a response says is so

A response is the only thing that a client sees of a generation.  What it says about files, history
and errors is what has happened, whichever stages there are, whatever of them has failed and
whatever there was before.
-/

namespace History

/-- The record of a module in a package, which is the first one with that key. -/
def recordFor? (history : History) (moduleName packagePath : String) : Option Record :=
  history.records.find? fun record => record.isFor moduleName packagePath

/-- A record that was added is the one of its module and package. -/
theorem recordFor?_add (history : History) (record : Record) :
    (history.add record).recordFor? record.moduleName record.packagePath = some record := by
  have own : record.isFor record.moduleName record.packagePath = true := by
    simp [Record.isFor]
  rw [recordFor?, add]
  dsimp only
  induction history.records with
  | nil => exact List.find?_cons_of_pos own
  | cons old rest ih =>
    rw [putRecord]
    split
    · exact List.find?_cons_of_pos own
    · next foreign => rwa [List.find?_cons_of_neg (p := fun record => Record.isFor record _ _) foreign]

end History

namespace Generator

/-- What a response says about a call agrees with the worlds before and after it.  Files are only
vouched for when no tools are run on them, which may do anything with them, and when none of them
may take the place of a link, through which another one has been written. -/
structure Truthful (generator : Generator) (request : Request) (before after : World) (response : Response) :
    Prop where
  success : response.success = true ↔ response.errors = []
  /-- A request with problems is answered by the list of them. -/
  rejected : Validation.check request ≠ [] → response.errors = (Validation.check request).map FieldError.text ∧
    response.files = [] ∧ response.snippets = [] ∧ after = before
  snippetsOnly : request.component.isSnippet = true → after = before
  /-- A layer that fails is taken back. -/
  takenBack : request.component.isLayer = true → response.success = false → response.files = [] ∧
    after.memory = before.memory ∧ (generator.workshop.writer.Quiet request.options →
      request.options.overwriteExisting = false → before.tree.SameFiles after.tree)
  /-- A layer that succeeds lists its paths, and nothing else. -/
  layered : ∀ layer, request.component = .ofLayer layer → response.success = true →
    response.files = layer.paths (Names.ofRequest request)
  /-- Each of all layers lists its paths or none of them; all do so when there are no errors. -/
  everything : request.component = .all → ∃ layers : List Layer, layers.Sublist Layer.all ∧
    response.files = layers.flatMap (fun layer => layer.paths (Names.ofRequest request)) ∧
    (response.success = true → layers = Layer.all)
  updated : response.historyUpdated = true ↔ response.files ≠ []
  recorded : response.files ≠ [] → ∃ record,
    after.memory.recordFor? request.modelName request.packagePath = some record ∧
      record.generatedFiles = response.files
  unrecorded : response.files = [] → after.memory = before.memory
  present : generator.workshop.writer.Quiet request.options →
    (request.options.overwriteExisting = true → before.tree.links = []) → ∀ path ∈ response.files,
      ∃ content, after.tree.read (generator.workshop.writer.resolve path) = .ok content

variable {generator : Generator} {request : Request}

/-- A response without files to a call that has changed nothing. -/
theorem Truthful.still {response : Response} (success : response.success = true ↔ response.errors = [])
    (idle : response.success = true → request.component.isSnippet = true)
    (rejected : Validation.check request ≠ [] → response.errors = (Validation.check request).map FieldError.text ∧
      response.snippets = [])
    (files : response.files = []) (updated : response.historyUpdated = false) (world : World) :
    generator.Truthful request world world response where
  success := success
  rejected invalid := ⟨(rejected invalid).1, files, (rejected invalid).2, rfl⟩
  snippetsOnly _ := rfl
  takenBack _ _ := ⟨files, rfl, fun _ _ => .refl _⟩
  layered layer only claimed := by
    have snippet := idle claimed
    rw [only] at snippet
    cases snippet
  everything all := by
    refine ⟨[], List.nil_sublist _, files, fun claimed => ?_⟩
    have snippet := idle claimed
    rw [all] at snippet
    cases snippet
  updated := by simp [files, updated]
  recorded written := absurd files written
  unrecorded _ := rfl
  present _ _ path member := by
    rw [files] at member
    cases member

theorem truthful_of_rejected (invalid : Validation.check request ≠ []) (world : World) :
    generator.Truthful request world world
      (Response.failure "validation failed" (Fault.validation (Validation.check request)).messages) := by
  refine .still ⟨fun claimed => ?_, fun silent => ?_⟩ (fun claimed => ?_) (fun _ => ⟨rfl, rfl⟩) rfl rfl world
  · cases claimed
  · exact absurd (List.map_eq_nil_iff.1 silent) invalid
  · cases claimed

theorem truthful_of_snippets (builtin : generator.registry.IsBuiltin) (accepted : Validation.check request = [])
    (only : request.component.isSnippet = true) (world : World) :
    generator.Truthful request world world (generator.generateSnippets request) := by
  rw [generateSnippets]
  split
  · exact .still ⟨fun _ => rfl, fun _ => rfl⟩ (fun _ => only) (absurd accepted) rfl rfl world
  · next failed =>
    have plain := isValidation_of_produceSnippets builtin failed
    exact .still (success_iff_of_stageFailure plain _) (fun _ => only) (absurd accepted) rfl rfl world

/-- A layer that fails leaves the history alone. -/
theorem truthful_of_failed {layer : Layer} (only : request.component = .ofLayer layer)
    (accepted : Validation.check request = [])
    {fault : Fault} (plain : fault.isValidation = false) {before after : World}
    (kept : after.memory = before.memory)
    (same : generator.workshop.writer.Quiet request.options → request.options.overwriteExisting = false →
      before.tree.SameFiles after.tree) :
    generator.Truthful request before after (stageFailure request.component fault) where
  success := success_iff_of_stageFailure plain _
  rejected := absurd accepted
  snippetsOnly snippet := by
    rw [only] at snippet
    cases snippet
  takenBack _ _ := ⟨rfl, kept, same⟩
  layered _ _ claimed := absurd claimed Bool.false_ne_true
  everything all := by
    rw [only] at all
    cases all
  updated := ⟨fun claimed => absurd claimed Bool.false_ne_true, fun written => absurd rfl written⟩
  recorded written := absurd rfl written
  unrecorded _ := kept
  present _ _ _ member := absurd member List.not_mem_nil

section

variable (builtin : generator.registry.IsBuiltin) (inMemory : generator.ledger.store = .memory)
  (accepted : Validation.check request = [])
include builtin inMemory accepted

theorem truthful_of_layer {layer : Layer} (only : request.component = .ofLayer layer) (world : World) :
    let result := (generator.generateFiles request).run world
    generator.Truthful request world result.2 result.1 := by
  have work := writeFiles_treeWork builtin request request.component
  have kept := work.memory world
  rw [run_generateFiles inMemory]
  dsimp only
  cases outcome : ((generator.writeFiles request request.component).perform world).1 with
  | error fault =>
    refine truthful_of_failed only accepted (work.fault world fault outcome) kept fun quiet off => ?_
    have adds := writeFiles_adds builtin quiet off request.component world
    dsimp only at adds
    rw [outcome] at adds
    exact fun place => adds.others place List.not_mem_nil
  | ok files =>
    obtain ⟨own, isLayer, rfl⟩ := writeFiles_eq_ok builtin outcome
    obtain ⟨rest, solid⟩ := own.paths_eq_cons (Names.ofRequest request)
    have written : own.paths (Names.ofRequest request) ≠ [] := solid ▸ List.cons_ne_nil _ _
    constructor
    case success => exact ⟨fun _ => rfl, fun _ => rfl⟩
    case rejected => exact absurd accepted
    case snippetsOnly =>
      rw [only]
      exact fun snippet => absurd snippet Bool.false_ne_true
    case takenBack => exact fun _ failed => absurd failed Bool.noConfusion
    case layered =>
      intro other same _
      rw [isLayer] at same
      cases same
      rfl
    case everything =>
      rw [only]
      nofun
    case updated => exact ⟨fun _ => written, fun _ => rfl⟩
    case recorded => exact fun _ => ⟨_, History.recordFor?_add _ (Ledger.recordOf _ request _ _), rfl⟩
    case unrecorded => exact fun nothing => absurd nothing written
    case present =>
      intro quiet careful path member
      have held := held_writeFiles builtin (Names.isFileName_snake accepted) quiet careful layer
      rw [← only] at held
      dsimp only at held
      rw [outcome] at held
      exact (held path member).exists_read

theorem truthful_of_all (everything : request.component = .all) (world : World) :
    let result := (generator.generateAll request).run world
    generator.Truthful request world result.2 result.1 := by
  have kept := memory_harvestLayers builtin request {} Layer.all world
  have whole := generator.files_foldl_harvestSnippet request SnippetKind.all
    ((generator.harvestLayers request {} Layer.all).run world).1
  have silent := @errors_of_foldl_harvestSnippet generator request SnippetKind.all
    ((generator.harvestLayers request {} Layer.all).run world).1
  rw [run_generateAll inMemory]
  dsimp only
  generalize SnippetKind.all.foldl (generator.harvestSnippet request)
    ((generator.harvestLayers request {} Layer.all).run world).1 = harvest at whole silent
  constructor
  case success => exact List.isEmpty_iff
  case rejected => exact absurd accepted
  case snippetsOnly =>
    rw [everything]
    exact fun snippet => absurd snippet Bool.false_ne_true
  case takenBack =>
    rw [everything]
    exact fun layer => absurd layer Bool.false_ne_true
  case layered =>
    rw [everything]
    nofun
  case everything =>
    obtain ⟨written, part, gathered, complete⟩ := harvestLayers_written builtin request Layer.all {} world
    refine fun _ => ⟨written, part, whole.trans gathered, fun success => ?_⟩
    exact (complete (silent (List.isEmpty_iff.1 success))).1
  case updated => simp [Harvest.summary]
  case recorded =>
    intro written
    have solid : ¬harvest.files.isEmpty = true := fun empty => written (List.isEmpty_iff.1 empty)
    rw [rememberAll, if_neg solid]
    exact ⟨_, History.recordFor?_add _ (Ledger.recordOf _ request _ _), rfl⟩
  case unrecorded =>
    intro unwritten
    have empty : harvest.files.isEmpty = true := List.isEmpty_iff.2 unwritten
    rw [rememberAll, if_pos empty]
    exact kept
  case present =>
    intro quiet careful path member
    rw [Harvest.summary, whole] at member
    exact (held_harvestLayers builtin (Names.isFileName_snake accepted) quiet careful path member).exists_read

end

/-- What a response says is so, for every request and every world, with any of the built-in
stages. -/
theorem generate_truthful (builtin : generator.registry.IsBuiltin) (inMemory : generator.ledger.store = .memory)
    (request : Request) (world : World) :
    let result := (generator.generate request).run world
    generator.Truthful request world result.2 result.1 := by
  by_cases accepted : Validation.check request = []
  · rw [generate_of_valid accepted]
    split
    · next everything => exact truthful_of_all builtin inMemory accepted everything world
    · next kind only => exact truthful_of_snippets builtin accepted (by rw [only]; rfl) world
    · next other noSnippet =>
      have known := (Validation.check_eq_nil.1 accepted).component
      rcases only : request.component with (_ | _) | _ | raw
      · exact truthful_of_layer builtin inMemory accepted only world
      · exact absurd only (noSnippet _)
      · exact absurd only other
      · exact absurd only (known raw)
  · rw [generate_of_invalid accepted]
    exact truthful_of_rejected accepted world

/-- A generator that has no stage but three. -/
def patchyGenerator : Generator :=
  { plainGenerator with
    registry := Registry.empty.registerAll ([.layer .handler, .layer .model, .snippet .wire].map Stage.ofKind) }

/-- The model of the order is written and everything else fails or has no stage, as the response
says. -/
theorem generate_truthful_order :
    patchyGenerator.registry.IsBuiltin ∧ patchyGenerator.ledger.store = .memory ∧
      let result := (patchyGenerator.generate orderRequest).run { tree := sparseTree }
      result.1.success = false ∧ result.1.files = ["internal/shared/models/order.go"] ∧
        result.1.snippets.length = 2 ∧
        result.1.errors.length = 10 ∧
          patchyGenerator.Truthful orderRequest { tree := sparseTree } result.2 result.1 := by
  have builtin : patchyGenerator.registry.IsBuiltin := Registry.empty_isBuiltin.registerAll _
  have facts : (fun response : Response =>
      (response.success, response.files, response.snippets.length, response.errors.length))
      ((patchyGenerator.generate orderRequest).run { tree := sparseTree }).1 =
        (false, ["internal/shared/models/order.go"], 2, 10) := by
    decide +kernel
  simp only [Prod.mk.injEq] at facts
  obtain ⟨failed, files, snippets, errors⟩ := facts
  exact ⟨builtin, rfl, failed, files, snippets, errors,
    generate_truthful builtin rfl orderRequest { tree := sparseTree }⟩

/-- The model is written to where the link of the repository leads.  Then the repository takes the
place of this link, and the model is reported under a path that does not lead to it any more. -/
theorem not_generate_truthful :
    plainGenerator.registry.IsBuiltin ∧ plainGenerator.ledger.store = .memory ∧
      plainGenerator.workshop.writer.Quiet renewingRequest.options ∧ Validation.check renewingRequest = [] ∧
      let result := (plainGenerator.generate renewingRequest).run { tree := linkedTree }
      result.1.files = ["internal/shared/models/order.go", "internal/shared/repository/order.go"] ∧
        result.2.tree.read (plainGenerator.workshop.writer.resolve "internal/shared/models/order.go") =
          .error .notADirectory := by
  refine ⟨Registry.standard_isBuiltin, rfl, Workshop.plainWorkshop_quiet _, ?_, ?_, ?_⟩ <;> decide +kernel

end Generator
end Scaffold
