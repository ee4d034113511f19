import Scaffold.Proofs.Generator.Addition
import Scaffold.Proofs.Generator.Parts
import Scaffold.Proofs.History.OrderedMap
import Scaffold.Proofs.Layer.Course
import Scaffold.Proofs.Snippet.Generated

namespace Scaffold

open Job FileTree

/-!
# Generating once more

A call that is made once more comes to what it came to at first, or is refused where it was served:
each layer meets its own traces.  Where files may be overwritten, the second answer is the first
one, and nothing changes.  Where they may not, every layer that was written is in conflict with its
first file, nothing is written, and nothing is recorded.
-/

namespace Generator

variable {generator : Generator} {request : Request} {site : Site}

/-! ## What comes of a call -/

theorem writeFiles_of_standard (standard : generator.registry = .standard) (request : Request) (layer : Layer) :
    generator.writeFiles request (.ofLayer layer) = layer.generate generator.workshop request := by
  have stage : generator.registry.get (.ofLayer layer) = .ok (.ofLayer layer) := by
    rw [standard]
    cases layer <;> rfl
  rw [writeFiles, stage]
  rfl

/-- A layer with its outcome, as a part of the answer. -/
def layerPart (entry : Layer × Except Fault (List String)) : Part :=
  ⟨.ofLayer entry.1, answer (.ofLayer entry.1) entry.2⟩

/-- The snippets of a kind, as a part of the answer. -/
def snippetPart (generator : Generator) (request : Request) (kind : SnippetKind) : Part :=
  ⟨.ofSnippet kind, generator.generateSnippets (request.forComponent (.ofSnippet kind))⟩

/-- What all stages come to, when the layers have come to their outcomes. -/
def harvestOf (generator : Generator) (request : Request) (outcomes : List (Layer × Except Fault (List String))) :
    Harvest :=
  Harvest.ofParts (outcomes.map layerPart ++ SnippetKind.all.map (generator.snippetPart request))

theorem foldl_harvestSnippet (generator : Generator) (request : Request) (kinds : List SnippetKind)
    (done : List Part) :
    kinds.foldl (generator.harvestSnippet request) (Harvest.ofParts done) =
      Harvest.ofParts (done ++ kinds.map (generator.snippetPart request)) := by
  induction kinds generalizing done with
  | nil => rw [List.map_nil, List.append_nil, List.foldl_nil]
  | cons kind rest ih =>
    rw [List.foldl_cons, harvestSnippet_ofParts, ih, List.map_cons, List.append_assoc]
    rfl

section

variable (standard : generator.registry = .standard) (quiet : generator.workshop.writer.Quiet request.options)
  {start : FileTree} (closed : start.IsClosed) (grounded : generator.workshop.IsGrounded start)
  (steady : generator.workshop.IsSteady start) (named : IsFileName (Names.ofRequest request).snake)
  (meant : start.placeOf generator.workshop.writer.root = site.base ++ site.way) {world : World}
  (touched : start.Touches world.tree site (Layer.allPaths (Names.ofRequest request)))
  (has : world.tree.HasRoot generator.workshop.writer.root site)
include standard quiet closed grounded steady named meant touched has

theorem run_harvestLayers (layers : List Layer) (done : List Part) :
    ∃ draws, (generator.harvestLayers request (Harvest.ofParts done) layers).run world =
      let course := Layer.course generator.workshop request site layers world.tree
      (Harvest.ofParts (done ++ course.1.map layerPart), { world with tree := course.2, draws }) := by
  induction layers generalizing done world with
  | nil =>
    refine ⟨world.draws, ?_⟩
    dsimp only [Layer.course]
    rw [List.map_nil, List.append_nil]
    rfl
  | cons layer rest ih =>
    have own := Layer.separate_paths named layer
    have steadyNow := steady.later grounded closed named meant touched
    have performed : ∃ draws,
        (layer.generate generator.workshop (request.forComponent (.ofLayer layer))).perform world =
          (_, { world with tree := _, draws }) :=
      Layer.perform_generate has own quiet rfl steadyNow
    rcases performed with ⟨draws, performed⟩
    let next : World :=
      { world with tree := (layer.produced generator.workshop request site world.tree).2, draws }
    have nextTouched : start.Touches next.tree site (Layer.allPaths (Names.ofRequest request)) :=
      touched.trans ((Layer.produced_touches has own).mono (layer.paths_sublist (Names.ofRequest request)).subset)
    have nextHas : next.tree.HasRoot generator.workshop.writer.root site := Layer.produced_rooted has own
    rcases ih nextTouched nextHas
        (done ++ [layerPart (layer, (layer.produced generator.workshop request site world.tree).1)])
          with ⟨taken, rested⟩
    refine ⟨taken, ?_⟩
    rw [run_harvestLayers_cons]
    dsimp only
    rw [writeFiles_of_standard standard, performed]
    dsimp only
    rw [gather_ofParts]
    refine Eq.trans rested ?_
    dsimp only [Layer.course]
    rw [List.append_assoc]
    rfl

variable (inMemory : generator.ledger.store = .memory) (accepted : Validation.check request = [])
include inMemory accepted

theorem run_generate_all (everything : request.component = .all) :
    let course := Layer.course generator.workshop request site Layer.all world.tree
    let harvest := generator.harvestOf request course.1
    ∃ after : World, (generator.generate request).run world = (harvest.summary, after) ∧ after.tree = course.2 ∧
      after.memory = generator.rememberAll request world.memory harvest := by
  rcases run_harvestLayers standard quiet closed grounded steady named meant touched has Layer.all []
    with ⟨draws, layers⟩
  have start : Harvest.ofParts [] = {} := rfl
  dsimp only at layers
  rw [start, List.nil_append] at layers
  refine ⟨{ world with tree := _, memory := _, draws }, ?_, rfl, rfl⟩
  rw [generate_of_valid accepted, everything]
  dsimp only
  rw [run_generateAll inMemory, layers]
  dsimp only
  rw [foldl_harvestSnippet]
  rfl

theorem run_generate_ofLayer {layer : Layer} (only : request.component = .ofLayer layer) :
    let produced := layer.produced generator.workshop request site world.tree
    ∃ after : World, (generator.generate request).run world = (answer (.ofLayer layer) produced.1, after) ∧
      after.tree = produced.2 ∧ after.memory = generator.remember request world.memory produced.1 := by
  have own := Layer.separate_paths named layer
  have steadyNow := steady.later grounded closed named meant touched
  rcases Layer.perform_generate has own quiet rfl steadyNow with ⟨draws, performed⟩
  let memory := generator.remember request world.memory
    (layer.produced generator.workshop request site world.tree).1
  refine ⟨{ world with tree := _, memory, draws }, ?_, rfl, rfl⟩
  rw [generate_of_valid accepted, only, Component.ofLayer]
  dsimp only
  rw [run_generateFiles inMemory, only, writeFiles_of_standard standard, performed]
  rfl

end

/-! ## What the harvest has -/

section

variable (standard : generator.registry = .standard) (outcomes : List (Layer × Except Fault (List String)))
include standard

/-- With all stages, the snippets are produced without any error. -/
theorem errors_snippetPart (kind : SnippetKind) :
    (generator.snippetPart request kind).response.files = [] ∧
    (generator.snippetPart request kind).errors = [] := by
  have produced := produceSnippets_of_standard standard (request.forComponent (.ofSnippet kind)) kind
  have only : (request.forComponent (.ofSnippet kind)).component = .ofSnippet kind := rfl
  rw [snippetPart, Part.errors]
  dsimp only
  rw [generateSnippets, only, produced]
  exact ⟨rfl, rfl⟩

theorem files_harvestOf :
    (generator.harvestOf request outcomes).files = outcomes.flatMap fun entry => filesOf entry.2 := by
  have none : (SnippetKind.all.map (generator.snippetPart request)).flatMap
      (fun part => part.response.files) = [] := by
    rw [List.flatMap_eq_nil_iff, List.forall_mem_map]
    exact fun kind _ => (errors_snippetPart standard kind).1
  rw [harvestOf, Harvest.ofParts]
  dsimp only
  rw [List.flatMap_append, none, List.append_nil, List.flatMap_map]
  congr 1
  funext entry
  rcases entry with ⟨layer, outcome⟩
  cases outcome <;> rfl

end

theorem stageErrors_subset_harvestOf {outcomes : List (Layer × Except Fault (List String))}
    {layer : Layer} {fault : Fault}
    (member : (layer, .error fault) ∈ outcomes) :
    stageErrors (.ofLayer layer) fault ⊆ (generator.harvestOf request outcomes).errors := by
  intro line listed
  rw [harvestOf, Harvest.ofParts, List.mem_flatMap]
  exact ⟨layerPart (layer, .error fault), List.mem_append_left _ (List.mem_map_of_mem member), listed⟩

/-! ## Once more -/

theorem files_answer (component : Component) (outcome : Except Fault (List String)) :
    (answer component outcome).files = filesOf outcome := by
  cases outcome <;> rfl

/-- A history that has remembered a harvest remembers it again without any change. -/
theorem rememberAll_rememberAll (memory : History) (harvest : Harvest) :
    generator.rememberAll request (generator.rememberAll request memory harvest) harvest =
      generator.rememberAll request memory harvest := by
  rw [rememberAll, rememberAll]
  split
  · rfl
  · exact History.add_add _ _

theorem remember_remember (memory : History) (outcome : Except Fault (List String)) :
    generator.remember request (generator.remember request memory outcome) outcome =
      generator.remember request memory outcome := by
  cases outcome with
  | error fault => rfl
  | ok files => exact History.add_add _ _

theorem map_next_of_overwrite (overwrite : request.options.overwriteExisting = true)
    (outcomes : List (Layer × Except Fault (List String))) :
    outcomes.map (Layer.next request.options) = outcomes := by
  rw [List.map_congr_left, List.map_id]
  rintro ⟨layer, outcome⟩ -
  rw [Layer.next, Workshop.nextOutcome_of_overwrite overwrite]
  rfl

section

variable (keep : request.options.overwriteExisting = false)
include keep

theorem filesOf_nextOutcome (outcome : Except Fault (List String)) :
    filesOf (Workshop.nextOutcome request.options outcome) = [] := by
  rcases outcome with fault | _ | ⟨path, rest⟩
  · rfl
  · rfl
  · rw [Workshop.nextOutcome, keep]
    rfl

/-- A layer that has been written is refused for its first file. -/
theorem nextOutcome_paths (layer : Layer) (names : Names) :
    Workshop.nextOutcome request.options (.ok (layer.paths names)) =
      .error (.conflict (layer.firstPath names)) := by
  rcases layer.paths_eq_cons names with ⟨rest, whole⟩
  rw [whole, Workshop.nextOutcome, keep]
  rfl

/-- Nothing is recorded of a layer that was refused, or has failed before. -/
theorem remember_nextOutcome_produced (memory : History) (layer : Layer) (workshop : Workshop) (site : Site)
    (tree : FileTree) :
    generator.remember request memory
      (Workshop.nextOutcome request.options (layer.produced workshop request site tree).1) = memory := by
  cases done : (layer.produced workshop request site tree).1 with
  | error fault => rfl
  | ok files =>
    rw [Layer.produced_eq_ok done, nextOutcome_paths keep]
    rfl

end

theorem files_harvestOf_next (standard : generator.registry = .standard)
    (keep : request.options.overwriteExisting = false) (outcomes : List (Layer × Except Fault (List String))) :
    (generator.harvestOf request (outcomes.map (Layer.next request.options))).files = [] := by
  rw [files_harvestOf standard, List.flatMap_eq_nil_iff, List.forall_mem_map]
  exact fun entry _ => filesOf_nextOutcome keep entry.2

/-- The errors by which a layer is refused whose first file is already there. -/
def refusal (request : Request) (layer : Layer) : List String :=
  let fault := Fault.conflict (layer.firstPath (Names.ofRequest request))
  match request.component with
  | .all => stageErrors (.ofLayer layer) fault
  | _ => fault.messages

/-- How the second answer to a request follows from the first one.  Each comes with the world after
it.  A layer whose first file is listed in the first answer has succeeded there. -/
structure Repeats (request : Request) (first second : Response × World) : Prop where
  sameFiles : first.2.tree.SameFiles second.2.tree
  memory : second.2.memory = first.2.memory
  response : request.options.overwriteExisting = true → second.1 = first.1
  files : request.options.overwriteExisting = false → second.1.files = []
  refused : request.options.overwriteExisting = false → ∀ layer : Layer,
    layer.firstPath (Names.ofRequest request) ∈ first.1.files → refusal request layer ⊆ second.1.errors

section

variable (standard : generator.registry = .standard) (inMemory : generator.ledger.store = .memory)
  (quiet : generator.workshop.writer.Quiet request.options)
  (accepted : Validation.check request = []) {world : World}
  (closed : world.tree.IsClosed) (grounded : generator.workshop.IsGrounded world.tree)
  (steady : generator.workshop.IsSteady world.tree)
include standard inMemory quiet accepted closed grounded steady

theorem repeats_of_all (everything : request.component = .all) :
    let first := (generator.generate request).run world
    Repeats request first ((generator.generate request).run first.2) := by
  rcases exists_site closed grounded.root with ⟨site, has, meant⟩
  have named := Names.isFileName_snake accepted
  have others : ∀ layer ∈ Layer.all.tail, layer ≠ Layer.model := by decide
  have afterHas := Layer.course_rooted named Layer.all has
  rcases Layer.course_again closed grounded named meant (.refl _ _ _) has
    (Layer.separate_allPaths named) others (.refl _)
    with ⟨outcomes, still⟩
  have touched := (Layer.course_touches named Layer.all has).mono (Layer.flatMap_paths_subset Layer.all _)
  rcases run_generate_all standard quiet closed grounded steady named meant (.refl _ _ _) has
    inMemory accepted everything
    with ⟨after, first, afterTree, afterMemory⟩
  rw [← afterTree] at afterHas touched outcomes still
  rcases run_generate_all standard quiet closed grounded steady named meant touched afterHas
    inMemory accepted everything
    with ⟨final, second, finalTree, finalMemory⟩
  rw [outcomes] at second finalMemory
  rw [afterMemory] at finalMemory
  rw [← finalTree] at still
  rw [first]
  dsimp only
  rw [second]
  constructor
  case sameFiles => exact still.sameFiles
  case memory =>
    refine finalMemory.trans (Eq.trans ?_ afterMemory.symm)
    cases overwrite : request.options.overwriteExisting with
    | true => rw [map_next_of_overwrite overwrite, rememberAll_rememberAll]
    | false => rw [rememberAll, if_pos (List.isEmpty_iff.2 (files_harvestOf_next standard overwrite _))]
  case response =>
    intro overwrite
    rw [map_next_of_overwrite overwrite]
  case files => exact fun keep => files_harvestOf_next standard keep _
  case refused =>
    intro keep layer listed
    rw [refusal, everything]
    apply stageErrors_subset_harvestOf
    dsimp only [Harvest.summary] at listed
    rw [files_harvestOf standard, List.mem_flatMap] at listed
    rcases listed with ⟨⟨other, outcome⟩, member, own⟩
    have next := List.mem_map_of_mem (f := Layer.next request.options) member
    rcases outcome with fault | files
    · cases own
    · obtain rfl := Layer.eq_paths_of_course member
      obtain rfl := Layer.eq_of_mem_paths named (layer.firstPath_mem _) own
      rw [Layer.next, nextOutcome_paths keep] at next
      exact next

theorem repeats_of_layer {layer : Layer} (only : request.component = .ofLayer layer) :
    let first := (generator.generate request).run world
    Repeats request first ((generator.generate request).run first.2) := by
  rcases exists_site closed grounded.root with ⟨site, has, meant⟩
  have named := Names.isFileName_snake accepted
  have separate : FilePath.AreSeparate ([layer].flatMap fun layer => layer.paths (Names.ofRequest request)) := by
    rw [List.flatMap_singleton]
    exact Layer.separate_paths named layer
  have afterHas := Layer.produced_rooted has (Layer.separate_paths named layer)
  rcases Layer.course_again closed grounded named meant (.refl _ _ _) has separate nofun (.refl _)
    with ⟨outcomes, still⟩
  have outcome := congrArg Prod.snd (List.head_eq_of_cons_eq outcomes)
  have touched := (Layer.produced_touches has (Layer.separate_paths named layer)).mono
    (layer.paths_sublist (Names.ofRequest request)).subset
  rcases run_generate_ofLayer standard quiet closed grounded steady named meant (.refl _ _ _) has
    inMemory accepted only
    with ⟨after, first, afterTree, afterMemory⟩
  dsimp only [Layer.course, Layer.next] at outcome still
  rw [← afterTree] at afterHas touched outcome still
  rcases run_generate_ofLayer standard quiet closed grounded steady named meant touched afterHas
    inMemory accepted only
    with ⟨final, second, finalTree, finalMemory⟩
  rw [outcome] at second finalMemory
  rw [afterMemory] at finalMemory
  rw [← finalTree] at still
  rw [first]
  dsimp only
  rw [second]
  constructor
  case sameFiles => exact still.sameFiles
  case memory =>
    refine finalMemory.trans (Eq.trans ?_ afterMemory.symm)
    cases overwrite : request.options.overwriteExisting with
    | true => rw [Workshop.nextOutcome_of_overwrite overwrite, remember_remember]
    | false => exact remember_nextOutcome_produced overwrite _ layer _ _ _
  case response =>
    intro overwrite
    rw [Workshop.nextOutcome_of_overwrite overwrite]
  case files =>
    intro keep
    exact (files_answer _ _).trans (filesOf_nextOutcome keep _)
  case refused =>
    intro keep other listed
    dsimp only at listed
    rw [files_answer] at listed
    rw [refusal, only]
    cases done : (layer.produced generator.workshop request site world.tree).1 with
    | error fault =>
      rw [done] at listed
      cases listed
    | ok files =>
      rw [done] at listed
      obtain rfl := Layer.produced_eq_ok done
      obtain rfl := Layer.eq_of_mem_paths named (other.firstPath_mem _) listed
      rw [nextOutcome_paths keep]
      exact List.Subset.refl _

/-- Generating once more changes no file and no record.  Where files may be overwritten, the answer
is the same; where they may not, every layer that has succeeded is refused for its first file. -/
theorem generate_again (layered : request.component = .all ∨ ∃ layer, request.component = .ofLayer layer) :
    let first := (generator.generate request).run world
    Repeats request first ((generator.generate request).run first.2) := by
  rcases layered with everything | ⟨layer, only⟩
  · exact repeats_of_all standard inMemory quiet accepted closed grounded steady everything
  · exact repeats_of_layer standard inMemory quiet accepted closed grounded steady only

end

/-- One layer of the order is written and three fail for their templates; once more, the first one
is in conflict. -/
theorem generate_again_order :
    let first := (plainGenerator.generate orderRequest).run { tree := sparseTree }
    let second := (plainGenerator.generate orderRequest).run first.2
    Validation.check orderRequest = [] ∧ orderRequest.component = .all ∧ sparseTree.IsClosed ∧
      plainGenerator.workshop.IsGrounded sparseTree ∧ plainGenerator.workshop.IsSteady sparseTree ∧
      first.1.files = ["internal/shared/models/order.go"] ∧ first.1.errors.length = 3 ∧
      second.1.files = [] ∧ second.1.errors.length = 4 ∧ Repeats orderRequest first second := by
  intro first second
  have accepted : Validation.check orderRequest = [] := by decide +kernel
  have closed : sparseTree.IsClosed := by decide +kernel
  have grounded : plainGenerator.workshop.IsGrounded sparseTree :=
    Workshop.isGrounded_of_down (by decide +kernel) (by decide +kernel)
  have steady : plainGenerator.workshop.IsSteady sparseTree := Template.Engine.standard_isSteady _ _
  exact ⟨accepted, rfl, closed, grounded, steady, by decide +kernel, by decide +kernel, by decide +kernel,
    by decide +kernel,
    generate_again rfl rfl (Workshop.plainWorkshop_quiet _) accepted closed grounded steady (.inl rfl)⟩

/-- A generator whose templates are sought by a turn back on a directory that the model's layer
makes. -/
def turningGenerator : Generator :=
  { plainGenerator with workshop := { Workshop.plainWorkshop with templates := "out/internal/../../templates" } }

/-- A generator whose root is in the place of a template that is missing. -/
def misplacedGenerator : Generator :=
  { plainGenerator with
    workshop := { Workshop.plainWorkshop with writer := { root := "templates/model.go.tera" } } }

/-- A template that asks for a random digit. -/
def diceTemplate : String :=
  "\x7b\x7b get_random(start=0, end=10) \x7d\x7d"

/-- The standard engine, which can roll dice besides. -/
def dicingEngine : Template.Engine where
  accept held :=
    if (held.head?.map Prod.snd) = some diceTemplate then .ok () else Template.Engine.standard.accept held
  render held name data draws :=
    if held.lookup name = some diceTemplate then (.ok (toString (draws % 10)), draws + 1)
    else Template.Engine.standard.render held name data draws

/-- A generator with templates that may roll dice. -/
def dicingGenerator : Generator :=
  { plainGenerator with workshop := { Workshop.plainWorkshop with engine := dicingEngine } }

/-- A project with a template of the model, and another one that comes with the program. -/
def twofoldTree : FileTree where
  entries := [
    (["templates"], .directory), (["templates", "model.go.tera"], .file "own"),
    (["bundled"], .directory), (["bundled", "model.go.tera"], .file "bundled"), (["out"], .directory)]

/-- A project with the template only that comes with the program. -/
def bundledTree : FileTree where
  entries := [(["bundled"], .directory), (["bundled", "model.go.tera"], .file "bundled")]

/-- A project with a template that rolls dice. -/
def dicingTree : FileTree where
  entries := [(["templates"], .directory), (["templates", "model.go.tera"], .file diceTemplate),
    (["out"], .directory)]

/-- The model of the order, which may be written over an older one. -/
def replacingRequest : Request :=
  { orderRequest.forComponent (.ofLayer .model) with options := { overwriteExisting := true } }

/-- A generator without tools that keeps its history in memory. -/
structure IsPlain (generator : Generator) : Prop where
  standard : generator.registry = .standard
  inMemory : generator.ledger.store = .memory
  quiet : generator.workshop.writer.Quiet replacingRequest.options

/-- What is not there at first, and is there once the model has been written, makes a difference.
Behind a turn back on a missing directory lies a template that cannot be reached at first, so that
the bundled one is taken; once more, the model is written from the other.  A root in the place of a
missing template is taken for the template once more, and cannot be read.  A template that rolls
dice gives another text.  A link that a file has replaced leads nowhere once more. -/
theorem not_generate_again :
    Validation.check replacingRequest = [] ∧ replacingRequest.component = .ofLayer .model ∧
      replacingRequest.options.overwriteExisting = true ∧
      (turningGenerator.IsPlain ∧ twofoldTree.IsClosed ∧
        let first := (turningGenerator.generate replacingRequest).run { tree := twofoldTree }
        let second := (turningGenerator.generate replacingRequest).run first.2
        ¬ first.2.tree.SameFiles second.2.tree) ∧
      (misplacedGenerator.IsPlain ∧ bundledTree.IsClosed ∧
        let first := (misplacedGenerator.generate replacingRequest).run { tree := bundledTree }
        let second := (misplacedGenerator.generate replacingRequest).run first.2
        first.1.success = true ∧ second.1.success = false) ∧
      (dicingGenerator.IsPlain ∧ dicingTree.IsClosed ∧ dicingGenerator.workshop.IsGrounded dicingTree ∧
        let first := (dicingGenerator.generate replacingRequest).run { tree := dicingTree }
        let second := (dicingGenerator.generate replacingRequest).run first.2
        ¬ first.2.tree.SameFiles second.2.tree) ∧
      plainGenerator.IsPlain ∧ { linkedTree with links := [] }.IsClosed ∧
        plainGenerator.workshop.IsGrounded linkedTree ∧ plainGenerator.workshop.IsSteady linkedTree ∧
        Validation.check renewingRequest = [] ∧
        let first := (plainGenerator.generate renewingRequest).run { tree := linkedTree }
        let second := (plainGenerator.generate renewingRequest).run first.2
        "internal/shared/models/order.go" ∈ first.1.files ∧ "internal/shared/models/order.go" ∉ second.1.files := by
  have apart {first second : FileTree}
      (differs : first.contentAt? ["out", "internal", "shared", "models", "order.go"] ≠
        second.contentAt? ["out", "internal", "shared", "models", "order.go"]) : ¬ first.SameFiles second :=
    fun same => differs (same _).symm
  refine ⟨by decide +kernel, rfl, rfl, ⟨⟨rfl, rfl, Workshop.plainWorkshop_quiet _⟩, by decide +kernel, ?_⟩,
    ⟨⟨rfl, rfl, fun _ => rfl, fun _ => rfl⟩, by decide +kernel, by decide +kernel⟩,
    ⟨⟨rfl, rfl, Workshop.plainWorkshop_quiet _⟩, by decide +kernel, ?_, ?_⟩,
    ⟨rfl, rfl, Workshop.plainWorkshop_quiet _⟩, by decide +kernel, ?_, Template.Engine.standard_isSteady _ _,
    by decide +kernel, by decide +kernel, by decide +kernel⟩
  · exact apart (by decide +kernel)
  · exact Workshop.isGrounded_of_down (by decide +kernel) (by decide +kernel)
  · exact apart (by decide +kernel)
  · exact Workshop.isGrounded_of_down (by decide +kernel) (by decide +kernel)

end Generator
end Scaffold
