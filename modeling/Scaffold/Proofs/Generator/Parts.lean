import Scaffold.Proofs.Generator.Stages

namespace Scaffold

open Job

/-!
# Everything at once and one by one

A request for everything does what the requests for its parts do one after the other: the same files
in the same tree, the same snippets, and the same errors under the names of their components.  Only
the history differs, which gets one record in the place of several.

The two ways never look at the same world, since the single requests leave their records behind.
They agree because a stage asks nothing but the tree.
-/

/-- A component and the response to it alone. -/
structure Part where
  component : Component
  response : Response

namespace Part

/-- The errors of a part under the name of its component. -/
def errors (part : Part) : List String :=
  part.response.errors.map (fun message => part.component.name ++ ": " ++ message)

/-- Whether the part is a layer that was written. -/
def isWritten (part : Part) : Bool :=
  part.component.isLayer && part.response.success

end Part

/-- What a list of parts comes to. -/
def Harvest.ofParts (parts : List Part) : Harvest where
  files := parts.flatMap (fun part => part.response.files)
  snippets := parts.flatMap (fun part => part.response.snippets)
  errors := parts.flatMap Part.errors
  written := (parts.filter Part.isWritten).map Part.component

namespace Generator

variable {generator : Generator}

/-- A layer adds to the harvest what the response to it says. -/
theorem gather_ofParts (done : List Part) (layer : Layer) (outcome : Except Fault (List String)) :
    (Harvest.ofParts done).gather (.ofLayer layer) outcome =
      Harvest.ofParts (done ++ [⟨.ofLayer layer, answer (.ofLayer layer) outcome⟩]) := by
  cases outcome with
  | ok files =>
    simp [Harvest.gather, Harvest.ofParts, answer, Part.errors, Part.isWritten, Component.ofLayer,
      Component.isLayer]
  | error fault =>
    simp [Harvest.gather, Harvest.ofParts, answer, stageFailure, Response.failure, Part.errors, Part.isWritten,
      stageErrors]

/-- A kind of snippets adds to the harvest what the response to it says. -/
theorem harvestSnippet_ofParts (request : Request) (done : List Part) (kind : SnippetKind) :
    generator.harvestSnippet request (Harvest.ofParts done) kind = Harvest.ofParts
      (done ++ [⟨.ofSnippet kind, generator.generateSnippets (request.forComponent (.ofSnippet kind))⟩]) := by
  have named : (request.forComponent (.ofSnippet kind)).component = .ofSnippet kind := rfl
  rw [harvestSnippet_eq, generateSnippets, named]
  cases generator.produceSnippets (request.forComponent (.ofSnippet kind)) (.ofSnippet kind) with
  | ok snippets =>
    simp [Harvest.gatherSnippets, Harvest.ofParts, Part.errors, Part.isWritten, Component.ofSnippet,
      Component.isLayer]
  | error fault =>
    simp [Harvest.gatherSnippets, Harvest.ofParts, stageFailure, Response.failure, Part.errors, Part.isWritten,
      stageErrors]

variable {request : Request}

theorem success_iff_of_stageFailure {fault : Fault} (plain : fault.isValidation = false) (component : Component) :
    (stageFailure component fault).success = true ↔ (stageFailure component fault).errors = [] := by
  constructor
  · intro claimed
    cases claimed
  · intro silent
    exact absurd silent (messages_ne_nil plain)

section Answers

variable (builtin : generator.registry.IsBuiltin) (inMemory : generator.ledger.store = .memory)
  (valid : Validation.check request = [])

include builtin inMemory valid

end Answers

end Generator
end Scaffold
