import Scaffold.Fault
import Scaffold.FileTree.Change
import Scaffold.History.Document

namespace Scaffold

/-!
# Jobs

A job reads and changes the world: the tree of files, the history that a store without a file holds,
and the source from which random numbers are taken.  A job that fails leaves behind the changes that
it made before it failed.
-/

/-- All that a job can change. -/
structure World where
  tree : FileTree := {}
  /-- The history kept in memory. -/
  memory : History := {}
  /-- How many random numbers have been taken so far. -/
  draws : Nat := 0
  deriving Repr, Inhabited

/-- A computation that changes the world and may fail. -/
abbrev Job := ExceptT Fault (StateM World)

namespace Job

/-- Runs a job: its outcome and the world after it. -/
def perform {α : Type} (job : Job α) (world : World) : Except Fault α × World :=
  job.run.run world

/-- The tree of files as it is now. -/
def tree : Job FileTree := do
  return (← get).tree

/-- Changes the tree; an error of the system becomes the given fault. -/
def change (f : FileTree → FileTree.Changed) (fault : OsError → Fault) : Job Unit := do
  let world ← get
  let changed := f world.tree
  set { world with tree := changed.tree }
  match changed.outcome with
  | .ok () => return ()
  | .error e => throw (fault e)

/-- Fails with a fault, or gives a value. -/
def ofExcept {α : Type} : Except Fault α → Job α
  | .ok value => return value
  | .error fault => throw fault

/-- Goes by random numbers: `f` is given how many have been taken before, and gives how many have
been taken after it. -/
def drawing {α : Type} (f : Nat → Except Fault α × Nat) : Job α := do
  let world ← get
  let drawn := f world.draws
  set { world with draws := drawn.2 }
  ofExcept drawn.1

/-- The outcome of a job, as a value; the changes that it made stay. -/
def outcome {α : Type} (job : Job α) : StateM World (Except Fault α) :=
  job.run

end Job
end Scaffold
