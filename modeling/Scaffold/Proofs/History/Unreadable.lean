import Scaffold.Proofs.History.Refinement

namespace Scaffold

open Job

/-!
# Documents that stay as they are

A history is saved only after it has been loaded and changed.  Where the file cannot be read as a
history, every operation fails as the loading does, before anything is changed.  Where the change of
a loaded history fails, its copy is dropped, and nothing but the change itself has touched the
world.
-/

namespace HistoryStore

/-- The fault of a file that cannot be read as a history. -/
def unparsable (path : String) : Fault :=
  .history ("cannot parse '" ++ path ++ "'")

/-- The document that is kept in the store. -/
def Holds : HistoryStore → World → History → Prop
  | memory, world, history => world.memory = history
  | file path, world, history => ∃ text, world.tree.read path = .ok text ∧ History.parse text = .ok history

variable {α : Type} {store : HistoryStore} {world : World} {path text : String} {history : History}

/-! ## Loading -/

/-- Loading a text that can be read comes to reading it as a history. -/
theorem perform_load_of_read (readable : world.tree.read path = .ok text) :
    (file path).load.perform world = ((History.parse text).mapError (fun _ => unparsable path), world) := by
  rw [load, perform_bind, perform_tree]
  dsimp only
  rw [FileTree.pathExists_of_read readable, readable]
  dsimp only
  cases History.parse text <;> rfl

theorem perform_load_of_unparsable (readable : world.tree.read path = .ok text)
    (broken : ∀ history, History.parse text ≠ .ok history) :
    (file path).load.perform world = (.error (unparsable path), world) := by
  rw [perform_load_of_read readable]
  cases parsed : History.parse text with
  | error e => rfl
  | ok history => exact absurd parsed (broken history)

/-- What is kept in the store is loaded. -/
theorem Holds.perform_load (holds : store.Holds world history) :
    store.load.perform world = (.ok history, world) := by
  cases store with
  | memory =>
    obtain rfl := holds
    rfl
  | file path =>
    obtain ⟨text, readable, parsed⟩ := holds
    rw [perform_load_of_read readable, parsed]
    rfl

/-! ## Changes that fail -/

/-- A transaction that cannot load the history has done nothing. -/
theorem perform_transact_of_unloaded {fault : Fault} (failed : store.load.perform world = (.error fault, world))
    (f : History → Job (α × History)) : (store.transact f).perform world = (.error fault, world) := by
  rw [transact, perform_bind, failed]

/-- A change of a copy of the history, which has changed the copy even where it fails. -/
def onCopy (change : History → Except Fault α × History) (history : History) : Job (α × History) := do
  let result ← Job.ofExcept (change history).1
  return (result, (change history).2)

/-- Transactions that fail save nothing: the world is as the change has left it, and as it was where
only a copy of the history was changed. -/
structure DiscardsFailures (store : HistoryStore) (world : World) (history : History) : Prop where
  change : ∀ (α : Type) (f : History → Job (α × History)) fault after,
    (f history).perform world = (.error fault, after) → (store.transact f).perform world = (.error fault, after)
  copy : ∀ (α : Type) (f : History → Except Fault α × History) fault, (f history).1 = .error fault →
    (store.transact (onCopy f)).perform world = (.error fault, world)

theorem Holds.discardsFailures (holds : store.Holds world history) : store.DiscardsFailures world history where
  change α f fault after failed := by
    rw [perform_transact store f holds.perform_load, failed]
  copy α f fault failed := by
    have thrown : (onCopy f history).perform world = (.error fault, world) := by
      rw [onCopy, perform_bind, failed]
      rfl
    rw [perform_transact store _ holds.perform_load, thrown]

end HistoryStore

namespace Ledger

open HistoryStore

/-- Every operation of the ledger fails with the fault, and leaves the world as it is. -/
structure Refuses (ledger : Ledger) (fault : Fault) (world : World) : Prop where
  add : ∀ now request components files,
    (ledger.add now request components files).perform world = (.error fault, world)
  all : ledger.all.perform world = (.error fault, world)
  find : ∀ moduleName, (ledger.find moduleName).perform world = (.error fault, world)
  delete : ∀ moduleName, (ledger.delete moduleName).perform world = (.error fault, world)
  clear : ledger.clear.perform world = (.error fault, world)
  transact : ∀ (α : Type) (f : History → Job (α × History)),
    (ledger.store.transact f).perform world = (.error fault, world)

theorem refuses_of_unloaded {ledger : Ledger} {fault : Fault} {world : World}
    (failed : ledger.store.load.perform world = (.error fault, world)) : ledger.Refuses fault world where
  add _ _ _ _ := perform_transact_of_unloaded failed _
  all := by rw [all, perform_bind, failed]
  find moduleName := by rw [find, perform_bind, failed]
  delete _ := perform_transact_of_unloaded failed _
  clear := perform_transact_of_unloaded failed _
  transact _ f := perform_transact_of_unloaded failed f

end Ledger

/-! ## What a record leaves alone -/

namespace HistoryStore

variable {path : String} {history : History} {world : World}

/-- Loading changes nothing. -/
theorem exists_perform_load (store : HistoryStore) (world : World) :
    ∃ outcome, store.load.perform world = (outcome, world) := by
  cases store with
  | memory => exact ⟨_, rfl⟩
  | file path =>
    rw [load, perform_bind, perform_tree]
    dsimp only
    split
    · exact ⟨_, rfl⟩
    · split
      · exact ⟨_, rfl⟩
      · split <;> exact ⟨_, rfl⟩

/-- Saving in a file leaves all other files as they are, even where it fails. -/
theorem contentAt?_save (path : String) (history : History) (world : World) {place : Place}
    (aside : place ≠ world.tree.placeOf path) :
    (((file path).save history).perform world).2.tree.contentAt? place = world.tree.contentAt? place := by
  have made := FileTree.makeDirectories_addsDirectories world.tree (directoryOf path)
  rw [perform_save_file]
  dsimp only
  split
  · exact made.sameFiles place
  · have still : place ≠ (world.tree.makeDirectories (directoryOf path)).tree.placeOf path := by
      rw [made.placeOf]
      exact aside
    exact (FileTree.contentAt?_congr (get?_replaceFile_of_ne _ still)).trans (made.sameFiles place)

end HistoryStore

/-- Recording a generation in a file leaves all other files as they are, whether or not it fails. -/
theorem Ledger.contentAt?_add {ledger : Ledger} {path : String} (inFile : ledger.store = .file path) (now : Instant)
    (request : Request) (components : List Component) (files : List String) (world : World) {place : Place}
    (aside : place ≠ world.tree.placeOf path) :
    ((ledger.add now request components files).perform world).2.tree.contentAt? place =
    world.tree.contentAt? place := by
  rw [Ledger.add, inFile]
  obtain ⟨fault | history, loaded⟩ := HistoryStore.exists_perform_load (.file path) world
  · rw [HistoryStore.perform_transact_of_unloaded loaded]
  · rw [HistoryStore.perform_transact _ _ loaded]
    exact HistoryStore.contentAt?_save path _ world aside

end Scaffold
