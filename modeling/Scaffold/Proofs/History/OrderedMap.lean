import Mathlib.Data.List.Nodup
import Scaffold.Proofs.History.FileStore

namespace Scaffold

open Job

/-!
# The history as an ordered map

Module and package together are the key of a record.  No key is there twice, a record that is added
takes the place of the one with its key, and all other records keep their order.  Looking up and
deleting go by the module alone, so both mean the first of the records with that module name.

This goes for every store that does not fail and that gives back what was saved last.  A store in
memory does so for all histories.  A file does so once it holds a history, for times that can be
written and read back.
-/

namespace Record

/-- Module and package, which no two records of a history share. -/
def key (record : Record) : String × String :=
  (record.moduleName, record.packagePath)

theorem isFor_iff {record : Record} {moduleName packagePath : String} :
    record.isFor moduleName packagePath = true ↔ record.key = (moduleName, packagePath) := by
  simp [isFor, key]

end Record

namespace History

/-- The keys of the records are pairwise distinct. -/
def DistinctKeys (history : History) : Prop :=
  (history.records.map Record.key).Nodup

/-- The second list is the first one with a record put into the place of the one with its key, or
behind all others when its key is new. -/
inductive Puts (record : Record) : List Record → List Record → Prop
  | replaced (before : List Record) (old : Record) (after : List Record) (same : old.key = record.key) :
    Puts record (before ++ old :: after) (before ++ record :: after)
  | appended (records : List Record) (fresh : ∀ other ∈ records, other.key ≠ record.key) :
    Puts record records (records ++ [record])

theorem Puts.cons {record : Record} {first second : List Record} (puts : Puts record first second) {other : Record}
    (foreign : other.key ≠ record.key) : Puts record (other :: first) (other :: second) := by
  cases puts with
  | replaced before old after same => exact .replaced (other :: before) old after same
  | appended _ fresh => exact .appended (other :: first) (List.forall_mem_cons.2 ⟨foreign, fresh⟩)

theorem putRecord_puts (record : Record) (records : List Record) :
    Puts record records (putRecord record records) := by
  induction records with
  | nil => exact .appended [] (by simp)
  | cons old rest ih =>
    rw [putRecord]
    split
    · next same => exact .replaced [] old rest (Record.isFor_iff.1 same)
    · next foreign => exact ih.cons (fun same => foreign (Record.isFor_iff.2 same))

theorem Puts.mem_cases {record other : Record} {first second : List Record} (puts : Puts record first second)
    (member : other ∈ second) : other = record ∨ other ∈ first := by
  cases puts with
  | replaced before old after same =>
    rcases List.mem_append.1 member with early | late
    · exact .inr (List.mem_append_left _ early)
    · rcases List.mem_cons.1 late with same | later
      · exact .inl same
      · exact .inr (List.mem_append_right _ (List.mem_cons_of_mem old later))
  | appended _ fresh =>
    rcases List.mem_append.1 member with early | late
    · exact .inr early
    · exact .inl (List.mem_singleton.1 late)

theorem Puts.nodup {record : Record} {first second : List Record} (puts : Puts record first second)
    (distinct : (first.map Record.key).Nodup) : (second.map Record.key).Nodup := by
  cases puts with
  | replaced before old after same =>
    rw [List.map_append, List.map_cons] at distinct ⊢
    rw [← same]
    exact distinct
  | appended _ fresh =>
    rw [List.map_append, List.map_singleton, ← List.concat_eq_append]
    refine distinct.concat fun member => ?_
    rcases List.mem_map.1 member with ⟨other, recorded, same⟩
    exact fresh other recorded same

/-- A record that is put once more takes its own place. -/
theorem putRecord_putRecord (record : Record) (records : List Record) :
    putRecord record (putRecord record records) = putRecord record records := by
  have own : record.isFor record.moduleName record.packagePath = true := Record.isFor_iff.2 rfl
  induction records with
  | nil => rw [putRecord, putRecord, if_pos own]
  | cons old rest ih =>
    by_cases same : old.isFor record.moduleName record.packagePath = true
    · rw [putRecord, if_pos same, putRecord, if_pos own]
    · rw [putRecord, if_neg same, putRecord, if_neg same, ih]

variable {history : History}

theorem add_add (history : History) (record : Record) : (history.add record).add record = history.add record :=
  congrArg (fun records => { history with records }) (putRecord_putRecord record history.records)

theorem DistinctKeys.add (distinct : history.DistinctKeys) (record : Record) : (history.add record).DistinctKeys :=
  (putRecord_puts record history.records).nodup distinct

/-- The times of all records are among the given ones. -/
def IsTimely (history : History) (keeps : Instant → Prop) : Prop :=
  ∀ record ∈ history.records, keeps record.generatedAt

theorem isTimely_empty (keeps : Instant → Prop) : ({} : History).IsTimely keeps :=
  List.forall_mem_nil _

theorem IsTimely.add {keeps : Instant → Prop} (timely : history.IsTimely keeps) {record : Record}
    (kept : keeps record.generatedAt) : (history.add record).IsTimely keeps := by
  intro other member
  rcases (putRecord_puts record history.records).mem_cases member with rfl | old
  · exact kept
  · exact timely other old

theorem IsTimely.drop {keeps : Instant → Prop} (timely : history.IsTimely keeps) (moduleName : String) :
    (history.drop moduleName).IsTimely keeps :=
  fun record member => timely record (List.mem_of_mem_eraseP member)

theorem DistinctKeys.drop (distinct : history.DistinctKeys) (moduleName : String) :
    (history.drop moduleName).DistinctKeys :=
  (List.eraseP_sublist.map Record.key).nodup distinct

/-- The first record of a module is found, and it is the one that is dropped. -/
theorem find?_and_drop_of_first {before later : List Record} {record : Record} {moduleName : String}
    (records : history.records = before ++ record :: later) (own : record.moduleName = moduleName)
    (first : ∀ other ∈ before, other.moduleName ≠ moduleName) :
    history.find? moduleName = some record ∧
      history.drop moduleName = { history with records := before ++ later } := by
  have foreign : ∀ other ∈ before, ¬(other.moduleName == moduleName) = true :=
    fun other member => by simpa using first other member
  constructor
  · rw [find?, records, List.find?_append, List.find?_eq_none.2 foreign, Option.none_or,
      List.find?_cons_of_pos (by simpa using own)]
  · rw [drop, records, List.eraseP_append_right _ foreign, List.eraseP_cons_of_pos (by simpa using own)]

theorem find?_of_unknown {moduleName : String}
    (unknown : ∀ record ∈ history.records, record.moduleName ≠ moduleName) :
    history.find? moduleName = none :=
  List.find?_eq_none.2 fun record member => by simpa using unknown record member

end History

/-! ## Accounting for files -/

/-- Each of the files is in exactly one of the three lists, which keep their order. -/
structure Removal.Accounts (removal : Removal) (files : List String) : Prop where
  rearranged : (removal.removed ++ removal.missing ++ removal.failed).Perm files
  removed : removal.removed.Sublist files
  missing : removal.missing.Sublist files
  failed : removal.failed.Sublist files

theorem Removal.Accounts.append {first second : Removal} {files others : List String} (here : first.Accounts files)
    (there : second.Accounts others) : (first.append second).Accounts (files ++ others) where
  rearranged := by
    refine .trans ?_ (here.rearranged.append there.rearranged)
    rw [List.perm_iff_count]
    intro file
    simp only [Removal.append, List.count_append]
    omega
  removed := here.removed.append there.removed
  missing := here.missing.append there.missing
  failed := here.failed.append there.failed

namespace Ledger

theorem removeFile_accounts (root relative : String) (tree : FileTree) :
    (removeFile root relative tree).1.Accounts [relative] := by
  rw [removeFile]
  dsimp only
  cases (tree.removeFile (FilePath.join root relative)).outcome with
  | ok _ => exact ⟨.refl _, .refl _, List.nil_sublist _, List.nil_sublist _⟩
  | error e =>
    dsimp only
    split
    · exact ⟨.refl _, List.nil_sublist _, .refl _, List.nil_sublist _⟩
    · exact ⟨.refl _, List.nil_sublist _, List.nil_sublist _, .refl _⟩

theorem removeFiles_accounts (root : String) (files : List String) (tree : FileTree) :
    (removeFiles root files tree).1.Accounts files := by
  induction files generalizing tree with
  | nil => exact ⟨.refl _, .refl _, .refl _, .refl _⟩
  | cons relative rest ih => exact (removeFile_accounts root relative tree).append (ih _)

/-! ## Stores that do not fail -/

/-- In the worlds that are `sound` the store does not fail.  Loading gives the history that is
`held`; saving, also after files were removed, leads to a sound world that holds what was saved.
The times of the records are among those that the store `keeps`. -/
structure NeverFails (ledger : Ledger) (keeps : Instant → Prop) (sound : World → Prop) (held : World → History) :
    Prop where
  load : ∀ world, sound world → ledger.store.load.perform world = (.ok (held world), world)
  timely : ∀ world, sound world → (held world).IsTimely keeps
  save : ∀ world, sound world → ∀ files history, history.IsTimely keeps → ∃ after,
    (ledger.store.save history).perform { world with tree := (removeFiles ledger.root files world.tree).2 } =
      (.ok (), after) ∧ sound after ∧ held after = history

/-- A store in memory never fails. -/
theorem neverFails_memory {ledger : Ledger} (inMemory : ledger.store = .memory) :
    ledger.NeverFails (fun _ => True) (fun _ => True) World.memory where
  load world _ := by rw [inMemory]; rfl
  timely _ _ _ _ := trivial
  save world _ files history _ := by rw [inMemory]; exact ⟨_, rfl, trivial, rfl⟩

/-- A file that holds a history does not fail, as long as its directory stays. -/
theorem neverFails_file {ledger : Ledger} {path : String} (inFile : ledger.store = .file path) :
    ledger.NeverFails Instant.IsPlain (HistoryStore.IsReady path) (HistoryStore.loaded path) where
  load world ready := by rw [inFile]; exact ready.perform_load
  timely world ready := ready.hasPlainTimes
  save world ready files history timely := by
    rw [inFile]
    have writable := ready.toIsWritable.removeFiles ledger.root files
    exact HistoryStore.IsWritable.perform_save writable timely

variable {ledger : Ledger} {keeps : Instant → Prop} {sound : World → Prop} {held : World → History} {world : World}

/-- A transaction that removes files and changes the history. -/
theorem NeverFails.perform_transact {α : Type} (never : ledger.NeverFails keeps sound held) (isSound : sound world)
    (files : List String) {f : History → Job (α × History)} {result : α} {history : History}
    (timely : history.IsTimely keeps) (changes : (f (held world)).perform world =
      (.ok (result, history), { world with tree := (removeFiles ledger.root files world.tree).2 })) :
    ∃ after, (ledger.store.transact f).perform world = (.ok result, after) ∧ sound after ∧
      held after = history := by
  rcases never.save world isSound files history timely with ⟨after, saved, afterSound, holds⟩
  refine ⟨after, ?_, afterSound, holds⟩
  rw [HistoryStore.transact, perform_bind, never.load world isSound]
  dsimp only
  rw [perform_bind, changes]
  dsimp only
  rw [perform_bind, saved]
  rfl

theorem NeverFails.perform_transact_of_error {α : Type} (never : ledger.NeverFails keeps sound held)
    (isSound : sound world)
    {f : History → Job (α × History)} {fault : Fault}
    (fails : (f (held world)).perform world = (.error fault, world)) :
    (ledger.store.transact f).perform world = (.error fault, world) := by
  rw [HistoryStore.transact, perform_bind, never.load world isSound]
  dsimp only
  rw [perform_bind, fails]

theorem NeverFails.perform_add (never : ledger.NeverFails keeps sound held) (isSound : sound world) {now : Instant}
    (kept : keeps now) (request : Request) (components : List Component) (files : List String) :
    ∃ after, (ledger.add now request components files).perform world = (.ok (), after) ∧ sound after ∧
      held after = (held world).add (recordOf now request components files) :=
  never.perform_transact isSound [] ((never.timely world isSound).add kept) rfl

theorem NeverFails.perform_find (never : ledger.NeverFails keeps sound held) (isSound : sound world)
    (moduleName : String) :
    (ledger.find moduleName).perform world =
      (match (held world).find? moduleName with
        | some record => .ok record
        | none => .error (noHistory moduleName), world) := by
  rw [find, perform_bind, never.load world isSound]
  dsimp only
  cases (held world).find? moduleName <;> rfl

theorem NeverFails.perform_delete (never : ledger.NeverFails keeps sound held) (isSound : sound world)
    {moduleName : String}
    {record : Record} (found : (held world).find? moduleName = some record) :
    ∃ after, (ledger.delete moduleName).perform world =
        (.ok (removeFiles ledger.root record.generatedFiles world.tree).1, after) ∧
      sound after ∧ held after = (held world).drop moduleName := by
  apply never.perform_transact isSound record.generatedFiles ((never.timely world isSound).drop moduleName)
  rw [found]
  dsimp only
  rw [perform_bind, perform_removeRecorded, List.flatMap_singleton]
  rfl

theorem NeverFails.perform_delete_of_unknown (never : ledger.NeverFails keeps sound held) (isSound : sound world)
    {moduleName : String} (unknown : (held world).find? moduleName = none) :
    (ledger.delete moduleName).perform world = (.error (noHistory moduleName), world) := by
  apply never.perform_transact_of_error isSound
  rw [unknown]
  rfl

theorem NeverFails.perform_clear (never : ledger.NeverFails keeps sound held) (isSound : sound world) :
    ∃ after, ledger.clear.perform world =
        (.ok (removeFiles ledger.root ((held world).records.flatMap Record.generatedFiles) world.tree).1, after) ∧
      sound after ∧ held after = {} := by
  apply never.perform_transact isSound ((held world).records.flatMap Record.generatedFiles)
    (History.isTimely_empty keeps)
  rw [perform_bind, perform_removeRecorded]
  rfl

/-! ## Sequences of calls -/

/-- What a client may ask of the ledger. -/
inductive Call where
  | add (now : Instant) (request : Request) (components : List Component) (files : List String)
  | find (moduleName : String)
  | delete (moduleName : String)
  | clear

/-- The time of a call is one that the store keeps. -/
def Call.IsTimely (keeps : Instant → Prop) : Call → Prop
  | add now _ _ _ => keeps now
  | find _ => True
  | delete _ => True
  | clear => True

/-- The world after a call, whatever it answers. -/
def serve (ledger : Ledger) (world : World) : Call → World
  | .add now request components files => ((ledger.add now request components files).perform world).2
  | .find moduleName => ((ledger.find moduleName).perform world).2
  | .delete moduleName => ((ledger.delete moduleName).perform world).2
  | .clear => (ledger.clear.perform world).2

/-- The world after a sequence of calls. -/
def serveAll (ledger : Ledger) (world : World) (calls : List Call) : World :=
  calls.foldl ledger.serve world

/-- A call leads to a sound world with distinct keys again. -/
theorem NeverFails.serve (never : ledger.NeverFails keeps sound held) (isSound : sound world)
    (distinct : (held world).DistinctKeys) {call : Call} (timely : call.IsTimely keeps) :
    sound (ledger.serve world call) ∧ (held (ledger.serve world call)).DistinctKeys := by
  cases call with
  | add now request components files =>
    rcases never.perform_add isSound timely request components files with ⟨after, performed, afterSound, holds⟩
    rw [Ledger.serve, performed, holds]
    exact ⟨afterSound, distinct.add _⟩
  | find moduleName =>
    rw [Ledger.serve, never.perform_find isSound]
    exact ⟨isSound, distinct⟩
  | delete moduleName =>
    rw [Ledger.serve]
    cases found : (held world).find? moduleName with
    | none =>
      rw [never.perform_delete_of_unknown isSound found]
      exact ⟨isSound, distinct⟩
    | some record =>
      rcases never.perform_delete isSound found with ⟨after, performed, afterSound, holds⟩
      rw [performed, holds]
      exact ⟨afterSound, distinct.drop moduleName⟩
  | clear =>
    rcases never.perform_clear isSound with ⟨after, performed, afterSound, holds⟩
    rw [Ledger.serve, performed, holds]
    exact ⟨afterSound, List.nodup_nil⟩

theorem NeverFails.serveAll (never : ledger.NeverFails keeps sound held) (isSound : sound world)
    (distinct : (held world).DistinctKeys) {calls : List Call} (timely : ∀ call ∈ calls, call.IsTimely keeps) :
    sound (ledger.serveAll world calls) ∧ (held (ledger.serveAll world calls)).DistinctKeys := by
  induction calls generalizing world with
  | nil => exact ⟨isSound, distinct⟩
  | cons call rest ih =>
    rcases List.forall_mem_cons.1 timely with ⟨first, others⟩
    rcases never.serve isSound distinct first with ⟨afterSound, afterDistinct⟩
    exact ih afterSound afterDistinct others

/-! ## What a client sees -/

/-- The history is an ordered map in which a module name stands for the first record that has it. -/
structure OrderedMap (ledger : Ledger) (keeps : Instant → Prop) (held : World → History) (world : World) :
    Prop where
  distinct : (held world).DistinctKeys
  add : ∀ now request components files, keeps now → ∃ after,
    (ledger.add now request components files).perform world = (.ok (), after) ∧
    (held after).version = (held world).version ∧
    History.Puts (recordOf now request components files) (held world).records (held after).records
  known : ∀ moduleName before record later, (held world).records = before ++ record :: later →
    record.moduleName = moduleName → (∀ other ∈ before, other.moduleName ≠ moduleName) →
    (ledger.find moduleName).perform world = (.ok record, world) ∧
    ∃ removal after, (ledger.delete moduleName).perform world = (.ok removal, after) ∧
      held after = { held world with records := before ++ later } ∧ removal.Accounts record.generatedFiles
  unknown : ∀ moduleName, (∀ record ∈ (held world).records, record.moduleName ≠ moduleName) → ∃ message,
    (ledger.find moduleName).perform world = (.error (.history message), world) ∧
    (ledger.delete moduleName).perform world = (.error (.history message), world)
  clear : ∃ removal after, ledger.clear.perform world = (.ok removal, after) ∧ held after = {} ∧
    removal.Accounts ((held world).records.flatMap Record.generatedFiles)

theorem NeverFails.orderedMap (never : ledger.NeverFails keeps sound held) (isSound : sound world)
    (distinct : (held world).DistinctKeys) : ledger.OrderedMap keeps held world where
  distinct := distinct
  add now request components files kept := by
    rcases never.perform_add isSound kept request components files with ⟨after, performed, -, holds⟩
    refine ⟨after, performed, ?_⟩
    rw [holds]
    exact ⟨rfl, History.putRecord_puts _ _⟩
  known moduleName before record later records own first := by
    rcases History.find?_and_drop_of_first records own first with ⟨found, dropped⟩
    rcases never.perform_delete isSound found with ⟨after, performed, -, holds⟩
    refine ⟨?_, _, after, performed, holds.trans dropped, removeFiles_accounts _ _ _⟩
    rw [never.perform_find isSound, found]
  unknown moduleName unknown := by
    have absent := History.find?_of_unknown unknown
    refine ⟨"no history for module " ++ moduleName, ?_, never.perform_delete_of_unknown isSound absent⟩
    rw [never.perform_find isSound, absent]
    rfl
  clear := by
    rcases never.perform_clear isSound with ⟨after, performed, -, holds⟩
    exact ⟨_, after, performed, holds, removeFiles_accounts _ _ _⟩

/-- As long as the store does not fail, the history stays an ordered map, whatever is called in
whatever order. -/
theorem serveAll_orderedMap (never : ledger.NeverFails keeps sound held) (isSound : sound world)
    (distinct : (held world).DistinctKeys) {calls : List Call} (timely : ∀ call ∈ calls, call.IsTimely keeps) :
    ledger.OrderedMap keeps held (ledger.serveAll world calls) := by
  rcases never.serveAll isSound distinct timely with ⟨afterSound, afterDistinct⟩
  exact never.orderedMap afterSound afterDistinct

/-- Two records of one module; the second call of `delete` takes the record that the first one has
left. -/
def sampleRecord (packagePath : String) (files : List String) : Record where
  moduleName := "Order"
  generatedAt := { date := { year := 2020, month := 1, day := 2 }, hour := 3, minute := 4, second := 5, nano := 0 }
  components := ["model"]
  modelName := "Order"
  packagePath := packagePath
  generatedFiles := files

def sampleWorld : World where
  memory := { records := [sampleRecord "internal/admin" ["a.go", "a.go"], sampleRecord "internal/master" ["b.go"]] }

/-- The same records in a file. -/
def filedWorld : World where
  tree := { entries := [(["data"], .directory), (["data", "history.json"], .file sampleWorld.memory.text)] }

/-- The calls take the first record away, in memory as well as in a file. -/
theorem serveAll_orderedMap_order :
    let calls : List Call := [.delete "Order", .find "Order"]
    let ledger : Ledger := { store := .memory, root := "out" }
    let filing : Ledger := { store := .file "data/history.json", root := "out" }
    (∀ call ∈ calls, ∀ keeps, call.IsTimely keeps) ∧
      (sampleWorld.memory.DistinctKeys ∧
        (ledger.serveAll sampleWorld calls).memory.records = [sampleRecord "internal/master" ["b.go"]] ∧
        ledger.OrderedMap (fun _ => True) World.memory (ledger.serveAll sampleWorld calls)) ∧
      HistoryStore.IsReady "data/history.json" filedWorld ∧
        (HistoryStore.loaded "data/history.json" filedWorld).DistinctKeys ∧
        filing.OrderedMap Instant.IsPlain (HistoryStore.loaded "data/history.json")
          (filing.serveAll filedWorld calls) := by
  intro calls ledger filing
  have timely : ∀ call ∈ calls, ∀ keeps, call.IsTimely keeps := by
    intro call member keeps
    rcases List.mem_pair.1 member with rfl | rfl <;> trivial
  have distinct : sampleWorld.memory.DistinctKeys := by
    rw [History.DistinctKeys]
    decide
  have plain : sampleWorld.memory.HasPlainTimes := by
    have first : (sampleRecord "internal/admin" ["a.go", "a.go"]).generatedAt.IsPlain :=
      ⟨by decide, by decide, by decide, by decide, by decide, by decide⟩
    exact List.forall_mem_cons.2 ⟨first, List.forall_mem_singleton.2 first⟩
  have ready : HistoryStore.IsReady "data/history.json" filedWorld :=
    ⟨⟨rfl, by decide +kernel, by decide +kernel, by decide +kernel⟩, sampleWorld.memory, plain, by decide +kernel⟩
  have loads : HistoryStore.loaded "data/history.json" filedWorld = sampleWorld.memory := by
    have content : filedWorld.tree.contentAt? (filedWorld.tree.placeOf "data/history.json") =
        some sampleWorld.memory.text := by
      decide +kernel
    have leads : filedWorld.tree.LeadsToFile "data/history.json" :=
      ⟨ready.located, ready.linkAt?_eq_none _, by rw [content]; rfl⟩
    have performed := HistoryStore.load_of_content leads content plain
    rw [HistoryStore.loaded, performed]
  have distinctLoaded : (HistoryStore.loaded "data/history.json" filedWorld).DistinctKeys := loads ▸ distinct
  exact ⟨timely, ⟨distinct, by decide +kernel,
      serveAll_orderedMap (neverFails_memory rfl) trivial distinct fun call member => timely call member _⟩,
    ready, distinctLoaded,
    serveAll_orderedMap (neverFails_file rfl) ready distinctLoaded fun call member => timely call member _⟩

end Ledger
end Scaffold
