import Scaffold.History.Store
import Scaffold.Request

namespace Scaffold

/-!
# The ledger of generations

The operations on the history: recording a generation, looking records up, and undoing generations
by removing the files that they wrote.
-/

/-- What became of the files of dropped records. -/
structure Removal where
  removed : List String := []
  /-- Files that were gone already. -/
  missing : List String := []
  failed : List String := []
  deriving DecidableEq, Repr, Inhabited

namespace Removal

/-- Two removals, one after the other. -/
def append (a b : Removal) : Removal where
  removed := a.removed ++ b.removed
  missing := a.missing ++ b.missing
  failed := a.failed ++ b.failed

end Removal

/-- A history, and the directory that the paths in it are relative to. -/
structure Ledger where
  store : HistoryStore
  root : String

namespace Ledger

/-- The fault of a module without a record. -/
def noHistory (moduleName : String) : Fault :=
  .history ("no history for module " ++ moduleName)

/-- The record of a generation. -/
def recordOf (now : Instant) (request : Request) (components : List Component) (files : List String) : Record where
  moduleName := request.modelName
  generatedAt := now
  components := components.map Component.name
  modelName := request.modelName
  tableName := request.resolvedTableName
  packagePath := request.packagePath
  generatedBy := Record.producer
  generatedFiles := files

/-- Records a generation. -/
def add (ledger : Ledger) (now : Instant) (request : Request) (components : List Component)
    (files : List String) : Job Unit :=
  ledger.store.transact (fun history => return ((), history.add (recordOf now request components files)))

/-- All records. -/
def all (ledger : Ledger) : Job (List Record) := do
  return (← ledger.store.load).records

/-- The first record of a module. -/
def find (ledger : Ledger) (moduleName : String) : Job Record := do
  match (← ledger.store.load).find? moduleName with
  | some record => return record
  | none => throw (noHistory moduleName)

/-- Removes one file, and says what became of it. -/
def removeFile (root relative : String) (tree : FileTree) : Removal × FileTree :=
  let changed := tree.removeFile (FilePath.join root relative)
  let removal : Removal :=
    match changed.outcome with
    | .ok () => { removed := [relative] }
    | .error e => if e == .notFound then { missing := [relative] } else { failed := [relative] }
  (removal, changed.tree)

/-- Removes files in their order. -/
def removeFiles (root : String) : List String → FileTree → Removal × FileTree
  | [], tree => ({}, tree)
  | relative :: rest, tree =>
    let (first, tree) := removeFile root relative tree
    let (others, tree) := removeFiles root rest tree
    (first.append others, tree)

/-- Removes the files of a list of records from the tree. -/
def removeRecorded (ledger : Ledger) (records : List Record) : Job Removal := do
  let world ← get
  let (removal, tree) := removeFiles ledger.root (records.flatMap Record.generatedFiles) world.tree
  set { world with tree }
  return removal

/-- Drops the first record of a module and removes its files. -/
def delete (ledger : Ledger) (moduleName : String) : Job Removal :=
  ledger.store.transact (fun history =>
    match history.find? moduleName with
    | none => throw (noHistory moduleName)
    | some record => do
      let removal ← ledger.removeRecorded [record]
      return (removal, history.drop moduleName))

/-- Removes the files of all records and empties the history. -/
def clear (ledger : Ledger) : Job Removal :=
  ledger.store.transact (fun history => do
    let removal ← ledger.removeRecorded history.records
    return (removal, {}))

end Ledger
end Scaffold
