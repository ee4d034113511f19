import Scaffold.Job

namespace Scaffold
namespace Job

/-!
# Jobs that work on the tree alone

The equations at the start say what performing a job comes to, one for each way in which jobs are
put together.  They are the only place where the two layers of a job, faults and the world, are
opened.

Every stage that writes files is built from these pieces without looking at the history kept in
memory.  Such a job leaves the memory as it is, and its outcome and its tree follow from the tree
that it started with and the random numbers that it takes.  None of its faults is a list of problems
with fields, so each is reported as exactly one line.
-/

variable {α β : Type}

/-! ## What performing comes to -/

theorem perform_tree (world : World) : tree.perform world = (.ok world.tree, world) :=
  rfl

theorem perform_ofExcept (result : Except Fault α) (world : World) :
    (ofExcept result).perform world = (result, world) := by
  cases result <;> rfl

/-- The second job starts where the first one ended, unless the first one failed. -/
theorem perform_bind (job : Job α) (next : α → Job β) (world : World) :
    (job >>= next).perform world =
      match job.perform world with
      | (.ok value, after) => (next value).perform after
      | (.error fault, after) => (.error fault, after) := by
  simp only [perform, ExceptT.run_bind, StateT.run_bind]
  cases performed : job.run.run world with
  | mk outcome after => cases outcome <;> rfl

/-- A job made of two has failed in the first, or has gone through the first and ended with the
second. -/
theorem perform_bind_cases {job : Job α} {next : α → Job β} {world after : World} {outcome : Except Fault β}
    (performed : (job >>= next).perform world = (outcome, after)) :
    (∃ fault, job.perform world = (.error fault, after) ∧ outcome = .error fault) ∨
      ∃ value middle, job.perform world = (.ok value, middle) ∧ (next value).perform middle = (outcome, after) := by
  rw [perform_bind] at performed
  cases first : job.perform world with
  | mk result middle =>
    rw [first] at performed
    cases result with
    | error fault => cases performed; exact .inl ⟨fault, rfl, rfl⟩
    | ok value => exact .inr ⟨value, middle, rfl, performed⟩

/-- A handler starts from the world that the failed job has left behind. -/
theorem perform_tryCatch (job : Job α) (handle : Fault → Job α) (world : World) :
    (tryCatch job handle).perform world =
      match job.perform world with
      | (.ok value, after) => (.ok value, after)
      | (.error fault, after) => (handle fault).perform after := by
  simp only [perform, ExceptT.run_tryCatch, StateT.run_bind]
  cases performed : job.run.run world with
  | mk outcome after => cases outcome <;> rfl

theorem perform_tryCatch_cases {job : Job α} {handle : Fault → Job α} {world after : World}
    {outcome : Except Fault α}
    (performed : (tryCatch job handle).perform world = (outcome, after)) :
    (∃ value, job.perform world = (.ok value, after) ∧ outcome = .ok value) ∨
      ∃ fault middle, job.perform world = (.error fault, middle) ∧
        (handle fault).perform middle = (outcome, after) := by
  rw [perform_tryCatch] at performed
  cases first : job.perform world with
  | mk result middle =>
    rw [first] at performed
    cases result with
    | error fault => exact .inr ⟨fault, middle, rfl, performed⟩
    | ok value => cases performed; exact .inl ⟨value, rfl, rfl⟩

/-- A change leaves its tree behind, also when it fails. -/
theorem perform_change (f : FileTree → FileTree.Changed) (fault : OsError → Fault) (world : World) :
    (change f fault).perform world =
      ((f world.tree).outcome.mapError fault, { world with tree := (f world.tree).tree }) := by
  have asked : (get : Job World).perform world = (.ok world, world) := rfl
  have stored : ∀ next, (set next : Job Unit).perform world = (.ok (), next) := fun _ => rfl
  rw [change, perform_bind, asked]
  dsimp only
  rw [perform_bind, stored]
  cases (f world.tree).outcome <;> rfl

theorem perform_drawing (f : Nat → Except Fault α × Nat) (world : World) :
    (drawing f).perform world = ((f world.draws).1, { world with draws := (f world.draws).2 }) := by
  have asked : (get : Job World).perform world = (.ok world, world) := rfl
  have stored : ∀ next, (set next : Job Unit).perform world = (.ok (), next) := fun _ => rfl
  rw [drawing, perform_bind, asked]
  dsimp only
  rw [perform_bind, stored]
  exact perform_ofExcept _ _

theorem perform_change_cases {f : FileTree → FileTree.Changed} {fault : OsError → Fault} {world after : World}
    {outcome : Except Fault Unit} (performed : (change f fault).perform world = (outcome, after)) :
    after = { world with tree := (f world.tree).tree } ∧
      ((∃ e, (f world.tree).outcome = .error e ∧ outcome = .error (fault e)) ∨
        (f world.tree).outcome = .ok () ∧ outcome = .ok ()) := by
  rw [perform_change] at performed
  cases changed : (f world.tree).outcome with
  | error e => rw [changed] at performed; cases performed; exact ⟨rfl, .inl ⟨e, rfl, rfl⟩⟩
  | ok _ => rw [changed] at performed; cases performed; exact ⟨rfl, .inr ⟨rfl, rfl⟩⟩

/-- What follows a job whose outcome is taken as a value goes on from the world that the job has
left behind. -/
theorem run_outcome_bind (job : Job α) (next : Except Fault α → StateM World β) (world : World) :
    (outcome job >>= next).run world = (next (job.perform world).1).run (job.perform world).2 :=
  rfl

/-! ## Working on the tree -/

/-- The job neither reads nor changes the memory, and does not fail with problems of fields. -/
structure TreeWork (job : Job α) : Prop where
  memory : ∀ world, (job.perform world).2.memory = world.memory
  followsTree : ∀ first second : World, first.tree = second.tree → first.draws = second.draws →
    (job.perform first).1 = (job.perform second).1 ∧ (job.perform first).2.tree = (job.perform second).2.tree ∧
      (job.perform first).2.draws = (job.perform second).2.draws
  fault : ∀ world fault, (job.perform world).1 = .error fault → fault.isValidation = false

namespace TreeWork

theorem pure (value : α) : TreeWork (pure value : Job α) where
  memory _ := rfl
  followsTree _ _ sameTree sameDraws := ⟨rfl, sameTree, sameDraws⟩
  fault _ _ failed := by cases failed

theorem throw {fault : Fault} (plain : fault.isValidation = false) : TreeWork (throw fault : Job α) where
  memory _ := rfl
  followsTree _ _ sameTree sameDraws := ⟨rfl, sameTree, sameDraws⟩
  fault _ _ failed := by cases failed; exact plain

theorem tree : TreeWork Job.tree where
  memory _ := rfl
  followsTree _ _ sameTree sameDraws := ⟨congrArg Except.ok sameTree, sameTree, sameDraws⟩
  fault _ _ failed := by cases failed

theorem ofExcept {result : Except Fault α} (plain : ∀ fault, result = .error fault → fault.isValidation = false) :
    TreeWork (ofExcept result) where
  memory world := by rw [perform_ofExcept]
  followsTree first second sameTree sameDraws := by
    rw [perform_ofExcept, perform_ofExcept]
    exact ⟨rfl, sameTree, sameDraws⟩
  fault world fault failed := by
    rw [perform_ofExcept] at failed
    exact plain fault failed

theorem change (f : FileTree → FileTree.Changed) {fault : OsError → Fault}
    (plain : ∀ e, (fault e).isValidation = false) : TreeWork (change f fault) where
  memory world := by rw [perform_change]
  followsTree first second sameTree sameDraws := by
    rw [perform_change, perform_change, sameTree]
    exact ⟨rfl, rfl, sameDraws⟩
  fault world reported failed := by
    rw [perform_change] at failed
    cases outcome : (f world.tree).outcome with
    | ok value => rw [outcome] at failed; cases failed
    | error e => rw [outcome] at failed; cases failed; exact plain e

theorem drawing {f : Nat → Except Fault α × Nat}
    (plain : ∀ draws fault, (f draws).1 = .error fault → fault.isValidation = false) :
    TreeWork (drawing f) where
  memory world := by rw [perform_drawing]
  followsTree first second sameTree sameDraws := by
    rw [perform_drawing, perform_drawing, sameDraws]
    exact ⟨rfl, sameTree, rfl⟩
  fault world reported failed := by
    rw [perform_drawing] at failed
    exact plain world.draws reported failed

theorem modifyTree (f : FileTree → FileTree) :
    TreeWork (modify (fun world => { world with tree := f world.tree }) : Job Unit) where
  memory _ := rfl
  followsTree _ _ sameTree sameDraws := ⟨rfl, congrArg f sameTree, sameDraws⟩
  fault _ _ failed := by cases failed

theorem bind {job : Job α} {next : α → Job β} (first : TreeWork job) (rest : ∀ value, TreeWork (next value)) :
    TreeWork (job >>= next) where
  memory world := by
    have kept := first.memory world
    rw [perform_bind]
    cases performed : job.perform world with
    | mk outcome after =>
      rw [performed] at kept
      cases outcome with
      | error fault => exact kept
      | ok value => exact ((rest value).memory after).trans kept
  followsTree left right sameTree sameDraws := by
    have agree := first.followsTree left right sameTree sameDraws
    rw [perform_bind, perform_bind]
    cases performedLeft : job.perform left with
    | mk outcome afterLeft =>
      cases performedRight : job.perform right with
      | mk other afterRight =>
        rw [performedLeft, performedRight] at agree
        rcases agree with ⟨sameOutcome, sameTree, sameDraws⟩
        dsimp only at sameOutcome sameTree sameDraws
        subst other
        cases outcome with
        | error fault => exact ⟨rfl, sameTree, sameDraws⟩
        | ok value => exact (rest value).followsTree afterLeft afterRight sameTree sameDraws
  fault world fault failed := by
    have plain := first.fault world
    rw [perform_bind] at failed
    cases performed : job.perform world with
    | mk outcome after =>
      rw [performed] at plain failed
      cases outcome with
      | error thrown => cases failed; exact plain _ rfl
      | ok value => exact (rest value).fault after fault failed

theorem tryCatch {job : Job α} {handle : Fault → Job α} (first : TreeWork job)
    (rest : ∀ fault, fault.isValidation = false → TreeWork (handle fault)) :
    TreeWork (tryCatch job handle) where
  memory world := by
    have kept := first.memory world
    have plain := first.fault world
    rw [perform_tryCatch]
    cases performed : job.perform world with
    | mk outcome after =>
      rw [performed] at kept plain
      cases outcome with
      | error fault => exact ((rest fault (plain fault rfl)).memory after).trans kept
      | ok value => exact kept
  followsTree left right sameTree sameDraws := by
    have agree := first.followsTree left right sameTree sameDraws
    have plain := first.fault left
    rw [perform_tryCatch, perform_tryCatch]
    cases performedLeft : job.perform left with
    | mk outcome afterLeft =>
      cases performedRight : job.perform right with
      | mk other afterRight =>
        rw [performedLeft] at plain
        rw [performedLeft, performedRight] at agree
        rcases agree with ⟨sameOutcome, sameTree, sameDraws⟩
        dsimp only at sameOutcome sameTree sameDraws
        subst other
        cases outcome with
        | error fault => exact (rest fault (plain fault rfl)).followsTree afterLeft afterRight sameTree sameDraws
        | ok value => exact ⟨rfl, sameTree, sameDraws⟩
  fault world fault failed := by
    have plain := first.fault world
    rw [perform_tryCatch] at failed
    cases performed : job.perform world with
    | mk outcome after =>
      rw [performed] at plain failed
      cases outcome with
      | error thrown => exact (rest thrown (plain thrown rfl)).fault after fault failed
      | ok value => cases failed

end TreeWork
end Job
end Scaffold
