import Scaffold.Proofs.FileTree.Aside
import Scaffold.Proofs.Job.TreeWork

namespace Scaffold
namespace Job

/-!
# Jobs that overlook a file

A job overlooks a file when it ends alike in worlds with and without the file, and leaves the worlds
as different as they were.  Jobs that are put together from such jobs overlook the file as well.
Where a job looks at the tree, what it goes on with has to be the same for both trees.
-/

variable {α β : Type} {start : FileTree} {place : Place} {text : String}

/-- A world with the file and one without it, in which as many random numbers have been taken. -/
structure Beside (start : FileTree) (place : Place) (text : String) (full bare : World) : Prop where
  tree : start.Carries place text full.tree bare.tree
  draws : bare.draws = full.draws

/-- The job ends alike whether or not the file is there, and leaves the file as it is. -/
def Overlooks (start : FileTree) (place : Place) (text : String) (job : Job α) : Prop :=
  ∀ full bare : World, Beside start place text full bare →
    (job.perform bare).1 = (job.perform full).1 ∧ Beside start place text (job.perform full).2 (job.perform bare).2

namespace Overlooks

/-- The job has one outcome in both worlds. -/
theorem perform {job : Job α} (overlooks : Overlooks start place text job) {full bare : World}
    (beside : Beside start place text full bare) : ∃ outcome afterFull afterBare,
      job.perform full = (outcome, afterFull) ∧ job.perform bare = (outcome, afterBare) ∧
        Beside start place text afterFull afterBare := by
  obtain ⟨alike, later⟩ := overlooks full bare beside
  exact ⟨(job.perform full).1, (job.perform full).2, (job.perform bare).2, rfl, Prod.ext alike rfl, later⟩

theorem pure (value : α) : Overlooks start place text (pure value : Job α) :=
  fun _ _ beside => ⟨rfl, beside⟩

theorem throw (fault : Fault) : Overlooks start place text (throw fault : Job α) :=
  fun _ _ beside => ⟨rfl, beside⟩

theorem ofExcept (result : Except Fault α) : Overlooks start place text (ofExcept result) := by
  intro full bare beside
  rw [perform_ofExcept, perform_ofExcept]
  exact ⟨rfl, beside⟩

theorem change {f : FileTree → FileTree.Changed} (fault : OsError → Fault)
    (aside : ∀ full bare, start.Carries place text full bare →
      FileTree.Changed.Carries start place text (f full) (f bare)) :
    Overlooks start place text (change f fault) := by
  intro full bare beside
  have both := aside full.tree bare.tree beside.tree
  rw [perform_change, perform_change, both.outcome]
  exact ⟨rfl, both.tree, beside.draws⟩

theorem modifyTree {f : FileTree → FileTree}
    (aside : ∀ full bare, start.Carries place text full bare → start.Carries place text (f full) (f bare)) :
    Overlooks start place text (modify (fun world => { world with tree := f world.tree }) : Job Unit) :=
  fun full bare beside => ⟨rfl, aside full.tree bare.tree beside.tree, beside.draws⟩

/-- The second job only has to overlook the file when it is given what the first one can end
with. -/
theorem bind_of {job : Job α} {next : α → Job β} (first : Overlooks start place text job)
    (rest : ∀ value before after, job.perform before = (.ok value, after) →
      Overlooks start place text (next value)) :
    Overlooks start place text (job >>= next) := by
  intro full bare beside
  obtain ⟨outcome, afterFull, afterBare, performedFull, performedBare, later⟩ := first.perform beside
  rw [perform_bind, perform_bind, performedFull, performedBare]
  cases outcome with
  | error fault => exact ⟨rfl, later⟩
  | ok value => exact rest value full afterFull performedFull afterFull afterBare later

theorem bind {job : Job α} {next : α → Job β} (first : Overlooks start place text job)
    (rest : ∀ value, Overlooks start place text (next value)) : Overlooks start place text (job >>= next) :=
  first.bind_of fun value _ _ _ => rest value

/-- The job looks at the tree, and goes on alike with both trees. -/
theorem look {next : FileTree → Job β}
    (same : ∀ full bare, start.Carries place text full bare → next bare = next full)
    (rest : ∀ tree, Overlooks start place text (next tree)) : Overlooks start place text (Job.tree >>= next) := by
  intro full bare beside
  rw [perform_bind, perform_bind, perform_tree, perform_tree]
  dsimp only
  rw [same full.tree bare.tree beside.tree]
  exact rest full.tree full bare beside

theorem tryCatch {job : Job α} {handle : Fault → Job α} (first : Overlooks start place text job)
    (rest : ∀ fault, Overlooks start place text (handle fault)) :
    Overlooks start place text (tryCatch job handle) := by
  intro full bare beside
  obtain ⟨outcome, afterFull, afterBare, performedFull, performedBare, later⟩ := first.perform beside
  rw [perform_tryCatch, perform_tryCatch, performedFull, performedBare]
  cases outcome with
  | error fault => exact rest fault afterFull afterBare later
  | ok value => exact ⟨rfl, later⟩

end Overlooks
end Job
end Scaffold
