import Scaffold.Job

namespace Scaffold

/-!
# Keeping the history

The history is kept in memory or in a file.  Every change loads the whole history, changes it and
saves it, and nothing is saved when the change fails.
-/

/-- Where the history is kept. -/
inductive HistoryStore where
  | memory
  | file (path : String)
  deriving DecidableEq, Repr

namespace HistoryStore

/-- Loads the history; a file that does not exist holds an empty one. -/
def load : HistoryStore → Job History
  | memory => do
    return (← get).memory
  | file path => do
    let tree ← Job.tree
    if !tree.pathExists path then
      return {}
    match tree.read path with
    | .error e => throw (.fileOperation "read history" path e)
    | .ok text =>
      match History.parse text with
      | .ok history => return history
      | .error _ => throw (.history ("cannot parse '" ++ path ++ "'"))

/-- Saves the history. -/
def save (store : HistoryStore) (history : History) : Job Unit :=
  match store with
  | memory => modify (fun world => { world with memory := history })
  | file path => do
    let directory := ((FilePath.parent? path).filter (fun s => !s.isEmpty)).getD "."
    Job.change (·.makeDirectories directory) (.fileOperation "create directory" directory)
    Job.change (·.replaceFile path history.text) (.fileOperation "write history" path)

/-- Loads the history, changes it and saves it. -/
def transact {α : Type} (store : HistoryStore) (f : History → Job (α × History)) : Job α := do
  let history ← store.load
  let (result, history) ← f history
  store.save history
  return result

end HistoryStore
end Scaffold
