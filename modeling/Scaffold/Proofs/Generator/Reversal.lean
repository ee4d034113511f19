import Scaffold.Proofs.Generator.Addition
import Scaffold.Proofs.History.Deletion

namespace Scaffold
namespace Generator

open Job

/-!
# Taking a generation back

A generation that may not overwrite anything can be taken back by deleting its module.  It does not
matter which stages have failed: the record lists what was added and nothing else, so removing the
listed files leaves the files that there were.  Directories that were made on the way stay behind.

A module that the history knew already is left out, since its old record would be the one that is
deleted, or would be lost in the place of the new one.  The ledger has to look for the files below
the root below which the writer puts them, as it does in a project, where the configuration names
one root for both.
-/

variable {generator : Generator}

/-- Deleting the module after a recorded generation removes what the generation has reported, and
both the history and the files are what they were before. -/
theorem delete_after_generate (builtin : generator.registry.IsBuiltin) (inMemory : generator.ledger.store = .memory)
    (sameRoot : generator.ledger.root = generator.workshop.writer.root) {request : Request}
    (quiet : generator.workshop.writer.Quiet request.options) (off : request.options.overwriteExisting = false)
    {world after : World} {response : Response}
    (fresh : ∀ record ∈ world.memory.records, record.moduleName ≠ request.modelName)
    (generated : (generator.generate request).run world = (response, after))
    (updated : response.historyUpdated = true) :
    ∃ final, (generator.ledger.delete request.modelName).perform after =
      (.ok { removed := response.files }, final) ∧
      final.memory = world.memory ∧ world.tree.SameFiles final.tree := by
  have accounted := generate_accounted builtin inMemory quiet off world
  rw [generated] at accounted
  rcases accounted with ⟨adds, ⟨unrecorded, -⟩ | ⟨-, components, memory⟩⟩
  · rw [updated] at unrecorded
    cases unrecorded
  have distinct : (after.tree.placesBelow generator.workshop.writer.root response.files).Nodup :=
    adds.placesBelow _ response.files ▸ adds.distinct
  rcases Ledger.removeFiles_of_leadsToFile adds.held distinct with ⟨removed, loses⟩
  generalize recorded : Ledger.recordOf generator.workshop.now request components response.files = record at memory
  have named : record.moduleName = request.modelName := by rw [← recorded]; rfl
  have listed : record.generatedFiles = response.files := by rw [← recorded]; rfl
  rw [← named] at fresh ⊢
  rw [Ledger.perform_delete inMemory, memory, History.find?_add_of_fresh fresh, History.drop_add_of_fresh fresh]
  dsimp only
  rw [sameRoot, listed, removed]
  exact ⟨_, rfl, rfl, adds.sameFiles loses⟩

/-- The layers without a good template fail, and the one file that was written goes again. -/
theorem delete_after_generate_order : ∃ response after final,
    (plainGenerator.generate orderRequest).run { tree := sparseTree } = (response, after) ∧
      response.files = ["internal/shared/models/order.go"] ∧
      (plainGenerator.ledger.delete "Order").perform after = (.ok { removed := response.files }, final) ∧
      final.memory = {} ∧ sparseTree.SameFiles final.tree := by
  have fresh : ∀ record ∈ ({ tree := sparseTree } : World).memory.records,
      record.moduleName ≠ orderRequest.modelName := by
    intro record member
    cases member
  have facts : (fun response : Response => (response.files, response.historyUpdated))
      ((plainGenerator.generate orderRequest).run { tree := sparseTree }).1 =
        (["internal/shared/models/order.go"], true) := by
    decide +kernel
  cases generated : (plainGenerator.generate orderRequest).run { tree := sparseTree } with
  | mk response after =>
    rw [generated] at facts
    rcases Prod.mk.inj facts with ⟨files, updated⟩
    rcases delete_after_generate Registry.standard_isBuiltin rfl rfl (Workshop.plainWorkshop_quiet _) rfl fresh
        generated updated with
      ⟨final, deleted, memory, same⟩
    exact ⟨response, after, final, rfl, files, deleted, memory, same⟩

end Generator
end Scaffold
