import Scaffold.Proofs.FileTree.Additions
import Scaffold.Proofs.Job.TreeWork

namespace Scaffold

open Job

/-!
# Records that come and go

A record of a module that the history does not know goes behind all others, so that dropping the
module gives the history back.  Deleting and clearing in memory are the removal of the listed files
followed by the change of the records.
-/

namespace History

/-- A record whose module and package no other record has goes behind all others. -/
theorem putRecord_of_fresh {record : Record} {records : List Record}
    (fresh : ∀ other ∈ records, other.moduleName ≠ record.moduleName) :
    putRecord record records = records ++ [record] := by
  induction records with
  | nil => rfl
  | cons old rest ih =>
    have foreign : old.isFor record.moduleName record.packagePath = false := by
      simp [Record.isFor, fresh old List.mem_cons_self]
    rw [putRecord, if_neg (by simp [foreign]), ih fun other member => fresh other (List.mem_cons_of_mem old member)]
    rfl

theorem find?_add_of_fresh {history : History} {record : Record}
    (fresh : ∀ other ∈ history.records, other.moduleName ≠ record.moduleName) :
    (history.add record).find? record.moduleName = some record := by
  have unknown : history.records.find? (fun other => other.moduleName == record.moduleName) = none :=
    List.find?_eq_none.2 fun other member => by simpa using fresh other member
  rw [add, find?, putRecord_of_fresh fresh, List.find?_append, unknown, Option.none_or, List.find?_singleton]
  simp

theorem drop_add_of_fresh {history : History} {record : Record}
    (fresh : ∀ other ∈ history.records, other.moduleName ≠ record.moduleName) :
    (history.add record).drop record.moduleName = history := by
  have foreign : ∀ other ∈ history.records, ¬(other.moduleName == record.moduleName) = true :=
    fun other member => by simpa using fresh other member
  rw [drop, add, putRecord_of_fresh fresh, List.eraseP_append_right [record] foreign,
    List.eraseP_cons_of_pos (by simp), List.append_nil]

/-! ## Listed files -/

/-- The files that all records together list. -/
def listed (history : History) : List String :=
  history.records.flatMap Record.generatedFiles

/-- After a record has been added, its files are listed, and besides them no file that was not
listed before. -/
theorem listed_add (history : History) (record : Record) : ∃ kept, kept.Sublist history.listed ∧
    (history.add record).listed.Perm (record.generatedFiles ++ kept) := by
  rw [listed, listed, add]
  induction history.records with
  | nil => exact ⟨[], .refl _, .refl _⟩
  | cons old rest ih =>
    rw [putRecord]
    split
    · exact ⟨rest.flatMap Record.generatedFiles, List.sublist_append_right _ _, .refl _⟩
    · rcases ih with ⟨kept, sublist, same⟩
      refine ⟨old.generatedFiles ++ kept, sublist.append_left old.generatedFiles, ?_⟩
      exact (same.append_left old.generatedFiles).trans (List.perm_append_comm_assoc _ _ _)

/-- Dropping a module takes its first record and no other. -/
theorem records_drop {history : History} {moduleName : String} {record : Record}
    (found : history.find? moduleName = some record) :
    history.records.Perm (record :: (history.drop moduleName).records) := by
  rcases history with ⟨version, records⟩
  rw [find?] at found
  rw [drop]
  dsimp only at found ⊢
  induction records with
  | nil => cases found
  | cons old rest ih =>
    cases own : old.moduleName == moduleName with
    | true =>
      rw [List.find?_cons, own] at found
      rw [List.eraseP_cons, own]
      cases found
      exact .refl _
    | false =>
      rw [List.find?_cons, own] at found
      rw [List.eraseP_cons, own]
      exact ((ih found).cons old).trans (.swap _ _ _)

theorem listed_drop {history : History} {moduleName : String} {record : Record}
    (found : history.find? moduleName = some record) :
    history.listed.Perm (record.generatedFiles ++ (history.drop moduleName).listed) :=
  (records_drop found).flatMap_right Record.generatedFiles

end History

/-- A change of the history in memory. -/
theorem HistoryStore.perform_transact_memory {α : Type} (f : History → Job (α × History)) (world : World) :
    (memory.transact f).perform world =
      match (f world.memory).perform world with
      | (.ok (result, history), after) => (.ok result, { after with memory := history })
      | (.error fault, after) => (.error fault, after) := by
  have loaded : memory.load.perform world = (.ok world.memory, world) := rfl
  rw [transact, perform_bind, loaded]
  dsimp only
  rw [perform_bind]
  cases (f world.memory).perform world with
  | mk outcome after => cases outcome <;> rfl

namespace Ledger

variable {ledger : Ledger}

theorem perform_removeRecorded (records : List Record) (world : World) :
    (ledger.removeRecorded records).perform world =
      let removal := removeFiles ledger.root (records.flatMap Record.generatedFiles) world.tree
      (.ok removal.1, { world with tree := removal.2 }) :=
  rfl

/-- Deleting a module removes what its first record lists, and drops the record. -/
theorem perform_delete (inMemory : ledger.store = .memory) (moduleName : String) (world : World) :
    (ledger.delete moduleName).perform world =
      match world.memory.find? moduleName with
      | none => (.error (noHistory moduleName), world)
      | some record =>
        let removal := removeFiles ledger.root record.generatedFiles world.tree
        (.ok removal.1, { world with tree := removal.2, memory := world.memory.drop moduleName }) := by
  rw [delete, inMemory, HistoryStore.perform_transact_memory]
  cases found : world.memory.find? moduleName with
  | none => rfl
  | some record =>
    dsimp only
    rw [perform_bind, perform_removeRecorded, List.flatMap_singleton]
    rfl

/-- Clearing removes what all records list, and leaves an empty history. -/
theorem perform_clear (inMemory : ledger.store = .memory) (world : World) :
    ledger.clear.perform world =
      let removal := removeFiles ledger.root (world.memory.records.flatMap Record.generatedFiles) world.tree
      (.ok removal.1, { world with tree := removal.2, memory := {} }) := by
  rw [clear, inMemory, HistoryStore.perform_transact_memory, perform_bind, perform_removeRecorded]
  rfl

end Ledger
end Scaffold
