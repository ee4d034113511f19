import Mathlib.Data.String.Basic
import Scaffold.Proofs.History.FileStore
import Scaffold.Proofs.History.OrderedMap
import Scaffold.Proofs.Text.Pieces

namespace Scaffold

open Job

/-!
# A ledger with a file answers like one in memory

The same accesses are made to two ledgers, one with its history in a file, the other with its
history in memory.  Each access is answered alike and leads to worlds that mirror each other again,
unless the file cannot be read or written.  By induction this holds for every sequence of accesses,
those that fail included.
-/

theorem Job.perform_map {α β : Type} (g : α → β) (job : Job α) (world : World) :
    (g <$> job).perform world = ((job.perform world).1.map g, (job.perform world).2) := by
  have both := perform_bind job (fun value => (pure (g value) : Job β)) world
  rw [← bind_pure_comp]
  refine both.trans ?_
  rcases job.perform world with ⟨outcome, after⟩
  cases outcome <;> rfl

/-- Loading, changing and saving, one after the other. -/
theorem HistoryStore.perform_transact {α : Type} (store : HistoryStore) (f : History → Job (α × History))
    {world : World} {history : History} (loaded : store.load.perform world = (.ok history, world)) :
    (store.transact f).perform world =
      match (f history).perform world with
      | (.ok (result, next), after) =>
        (((store.save next).perform after).1.map (fun _ => result), ((store.save next).perform after).2)
      | (.error fault, after) => (.error fault, after) := by
  rw [transact, perform_bind, loaded]
  dsimp only
  rw [perform_bind]
  rcases (f history).perform world with ⟨_ | ⟨result, next⟩, after⟩
  · rfl
  · exact perform_map (fun _ => result) (store.save next) after

namespace Ledger

/-! ## Runs -/

/-- What can be asked of a ledger or of its store.  The changes of a transaction depend on the
history alone. -/
inductive Access (α : Type) where
  | load
  | save (history : History)
  | all
  | transact (change : History → Except Fault (α × History))
  | call (call : Call)

/-- What an access answers when it does not fail. -/
inductive Answer (α : Type) where
  | done
  | document (history : History)
  | records (records : List Record)
  | record (record : Record)
  | removal (removal : Removal)
  | value (value : α)

def ask {α : Type} (ledger : Ledger) : Access α → Job (Answer α)
  | .load => .document <$> ledger.store.load
  | .save history => (fun _ => .done) <$> ledger.store.save history
  | .all => .records <$> ledger.all
  | .transact change => .value <$> ledger.store.transact (fun history => Job.ofExcept (change history))
  | .call (.add now request components files) => (fun _ => .done) <$> ledger.add now request components files
  | .call (.find moduleName) => .record <$> ledger.find moduleName
  | .call (.delete moduleName) => .removal <$> ledger.delete moduleName
  | .call .clear => .removal <$> ledger.clear

/-- One access of a run. -/
structure Step (α : Type) where
  access : Access α
  before : World
  answer : Except Fault (Answer α)
  after : World

def step {α : Type} (ledger : Ledger) (world : World) (access : Access α) : Step α where
  access := access
  before := world
  answer := ((ledger.ask access).perform world).1
  after := ((ledger.ask access).perform world).2

/-- The accesses of a run, each in the world that the one before it has left behind. -/
def trace {α : Type} (ledger : Ledger) (world : World) : List (Access α) → List (Step α)
  | [] => []
  | access :: rest => ledger.step world access :: ledger.trace (ledger.step world access).after rest

/-- The store has failed to read or write, and not the change of a transaction has answered so. -/
def Step.StoreFails {α : Type} (store : HistoryStore) (step : Step α) : Prop :=
  ∃ operation place cause, step.answer = .error (.fileOperation operation place cause) ∧
    ∀ change, step.access = .transact change → ∀ history, (store.load.perform step.before).1 = .ok history →
      change history ≠ .error (.fileOperation operation place cause)

end Ledger

namespace HistoryStore

open Ledger

variable {α β : Type} {start : FileTree} {root path : String} {upper base : World}

/-! ## One access -/

/-- The same answer in both worlds, which mirror each other afterwards. -/
def Alike (start : FileTree) (path : String) (first second : Except Fault β × World) : Prop :=
  first.1 = second.1 ∧ Mirrors start path first.2 second.2

theorem Alike.map {γ : Type} {first second : Except Fault β × World} (alike : Alike start path first second)
    (g : β → γ) : Alike start path (first.1.map g, first.2) (second.1.map g, second.2) :=
  ⟨congrArg (Except.map g) alike.1, alike.2⟩

/-- A transaction whose change does the same in both worlds does so itself, unless saving fails. -/
theorem Mirrors.transact (mirrors : Mirrors start path upper base) (absent : start.pathExists path = false)
    (closed : start.IsClosed) {f : History → Job (β × History)}
    (alike : Alike start path ((f base.memory).perform upper) ((f base.memory).perform base))
    (plain : ((memory.transact f).perform base).2.memory.HasPlainTimes) :
    Alike start path (((file path).transact f).perform upper) ((memory.transact f).perform base) ∨
      (∃ operation place cause,
        (((file path).transact f).perform upper).1 = .error (.fileOperation operation place cause)) ∧
      ∃ result, ((f base.memory).perform upper).1 = .ok result := by
  rw [perform_transact_memory] at plain ⊢
  rw [perform_transact (file path) f (mirrors.load absent)]
  rcases alike with ⟨same, later⟩
  revert plain same later
  rcases (f base.memory).perform upper with ⟨outcome, upperAfter⟩
  rcases (f base.memory).perform base with ⟨other, baseAfter⟩
  intro plain same later
  dsimp only at same later
  subst other
  rcases outcome with fault | ⟨result, next⟩
  · -- Nothing is saved when the change fails.
    exact .inl ⟨rfl, later⟩
  · dsimp only at plain ⊢
    rcases later.save closed plain with ⟨operation, place, cause, last, failed⟩ | ⟨last, saved, alsoLater⟩
    · rw [failed]
      exact .inr ⟨⟨operation, place, cause, rfl⟩, _, rfl⟩
    · rw [saved]
      exact .inl ⟨rfl, alsoLater⟩

/-- Removing files that the history lists does the same in both worlds. -/
theorem Mirrors.removeRecorded (mirrors : Mirrors start path upper base) {records : List Record}
    (listed : ∀ record ∈ records, record ∈ base.memory.records)
    (aside : ListsAside start root path base.memory) (next : History) :
    Alike start path
      ((do return (← (Ledger.mk (file path) root).removeRecorded records, next) : Job (_ × History)).perform upper)
      ((do return (← (Ledger.mk memory root).removeRecorded records, next) : Job (_ × History)).perform base) := by
  have known : ∀ file ∈ records.flatMap Record.generatedFiles, file ∈ base.memory.listed := by
    intro file member
    rcases List.mem_flatMap.1 member with ⟨record, recorded, lists⟩
    exact List.mem_flatMap.2 ⟨record, listed record recorded, lists⟩
  rcases mirrors.removeFiles known (fun file member => aside file (known file member)) with ⟨same, later⟩
  refine ⟨?_, later⟩
  rw [perform_bind, perform_bind, perform_removeRecorded, perform_removeRecorded]
  exact congrArg (fun removal => Except.ok (removal, next)) same

/-- What starts with loading and then only looks at the history. -/
theorem Mirrors.look (mirrors : Mirrors start path upper base) (absent : start.pathExists path = false)
    {next : History → Job β} (looks : ∃ result, ∀ world, (next base.memory).perform world = (result, world)) :
    Alike start path (((file path).load >>= next).perform upper) ((memory.load >>= next).perform base) := by
  rcases looks with ⟨result, looks⟩
  have held : memory.load.perform base = (.ok base.memory, base) := rfl
  rw [perform_bind, perform_bind, mirrors.load absent, held]
  dsimp only
  rw [looks, looks]
  exact ⟨rfl, mirrors⟩

/-- An access that is a transaction, whose change does the same in both worlds. -/
theorem Mirrors.change (mirrors : Mirrors start path upper base) (absent : start.pathExists path = false)
    (closed : start.IsClosed) {access : Access α} {f : History → Job (β × History)} {g : β → Answer α}
    (asked : ∀ store, (Ledger.mk store root).ask access = g <$> store.transact f)
    (alike : Alike start path ((f base.memory).perform upper) ((f base.memory).perform base))
    (own : ∀ change, access = .transact change → ∀ result, ((f base.memory).perform upper).1 = .ok result →
      ∃ value, change base.memory = .ok value)
    (plain : (step ⟨memory, root⟩ base access).after.memory.HasPlainTimes) :
    Alike start path ((Ledger.mk (file path) root).ask access |>.perform upper)
        ((Ledger.mk memory root).ask access |>.perform base) ∨
      (step ⟨file path, root⟩ upper access).StoreFails (file path) := by
  rw [step, asked, perform_map] at plain
  rcases mirrors.transact absent closed alike plain with done | ⟨⟨operation, place, cause, failed⟩, result, changed⟩
  · left
    rw [asked, asked, perform_map, perform_map]
    exact done.map g
  · right
    refine ⟨operation, place, cause, ?_, ?_⟩
    · rw [step, asked, perform_map, failed]
      rfl
    · -- The change itself has worked, so the fault comes from saving.
      intro change isTransaction history read blamed
      have loaded := congrArg Prod.fst (mirrors.load absent)
      cases read.symm.trans loaded
      rcases own change isTransaction result changed with ⟨value, worked⟩
      cases worked.symm.trans blamed

/-- A call is answered alike, unless the file cannot be written. -/
theorem Mirrors.call (mirrors : Mirrors start path upper base) (absent : start.pathExists path = false)
    (closed : start.IsClosed) (call : Call)
    (plain : (step ⟨memory, root⟩ base (Access.call call : Access α)).after.memory.HasPlainTimes)
    (aside : ListsAside start root path base.memory) :
    Alike start path ((Ledger.mk (file path) root).ask (Access.call call : Access α) |>.perform upper)
        ((Ledger.mk memory root).ask (Access.call call : Access α) |>.perform base) ∨
      (step ⟨file path, root⟩ upper (Access.call call : Access α)).StoreFails (file path) := by
  cases call with
  | add now request components files =>
    exact mirrors.change absent closed (fun _ => rfl) ⟨rfl, mirrors⟩ (fun _ other => by cases other) plain
  | find moduleName =>
    left
    rw [ask, ask, perform_map, perform_map]
    refine (mirrors.look absent ?_).map _
    cases base.memory.find? moduleName with
    | none => exact ⟨.error (noHistory moduleName), fun _ => rfl⟩
    | some record => exact ⟨.ok record, fun _ => rfl⟩
  | delete moduleName =>
    have asked : ∀ store, (Ledger.mk store root).ask (.call (.delete moduleName)) =
        (.removal <$> store.transact fun history =>
          (history.find? moduleName).elim (throw (noHistory moduleName)) fun record => do
            return (← (Ledger.mk memory root).removeRecorded [record], history.drop moduleName) :
        Job (Answer α)) := by
      intro store
      refine congrArg (fun f => Answer.removal <$> store.transact f) (funext fun history => ?_)
      cases history.find? moduleName <;> rfl
    refine mirrors.change absent closed asked ?_ (fun _ other => by cases other) plain
    cases found : base.memory.find? moduleName with
    | none => exact ⟨rfl, mirrors⟩
    | some record =>
      have first : record ∈ base.memory.records := List.mem_of_find?_eq_some found
      exact mirrors.removeRecorded (by simpa using first) aside _
  | clear =>
    have asked : ∀ store, (Ledger.mk store root).ask (.call .clear) =
        (.removal <$> store.transact fun history => do
          return (← (Ledger.mk memory root).removeRecorded history.records, {}) : Job (Answer α)) :=
      fun _ => rfl
    refine mirrors.change absent closed asked ?_ (fun _ other => by cases other) plain
    exact mirrors.removeRecorded (fun _ member => member) aside {}

/-- An access is answered alike, unless the file cannot be written. -/
theorem Mirrors.answers (mirrors : Mirrors start path upper base) (absent : start.pathExists path = false)
    (closed : start.IsClosed) (access : Access α)
    (plain : (step ⟨memory, root⟩ base access).after.memory.HasPlainTimes)
    (aside : ListsAside start root path base.memory) :
    Alike start path ((Ledger.mk (file path) root).ask access |>.perform upper)
        ((Ledger.mk memory root).ask access |>.perform base) ∨
      (step ⟨file path, root⟩ upper access).StoreFails (file path) := by
  cases access with
  | load =>
    left
    rw [ask, ask, perform_map, perform_map, mirrors.load absent]
    exact ⟨rfl, mirrors⟩
  | save history =>
    have plainNew : history.HasPlainTimes := plain
    rcases mirrors.save closed plainNew with ⟨operation, place, cause, after, failed⟩ | ⟨after, saved, later⟩
    · right
      refine ⟨operation, place, cause, ?_, fun change other => by cases other⟩
      rw [step, ask, perform_map, failed]
      rfl
    · left
      rw [ask, ask, perform_map, perform_map, saved]
      exact ⟨rfl, later⟩
  | all =>
    left
    rw [ask, ask, perform_map, perform_map]
    exact (mirrors.look absent ⟨.ok base.memory.records, fun _ => rfl⟩).map _
  | transact change =>
    refine mirrors.change absent closed (fun _ => rfl) ?_ ?_ plain
    · rw [perform_ofExcept, perform_ofExcept]
      exact ⟨rfl, mirrors⟩
    · rintro _ ⟨⟩ result changed
      rw [perform_ofExcept] at changed
      exact ⟨result, changed⟩
  | call call => exact mirrors.call absent closed call plain aside

/-! ## Whole runs -/

/-- The history can be written exactly, and nothing that it lists has to do with the history
file. -/
structure IsSeparate (start : FileTree) (root path : String) (history : History) : Prop where
  plainTimes : history.HasPlainTimes
  unrelated : ∀ recorded ∈ history.listed, IsUnrelated start root path recorded

/-- The accesses can be made from the tree to a file that is not there yet and to an empty history
in memory, without a failure of the file and with nothing recorded that has to do with it. -/
structure Comparable (start : FileTree) (root path : String) (accesses : List (Access α)) : Prop where
  closed : start.IsClosed
  absent : start.pathExists path = false
  separate : ∀ held ∈ (Ledger.mk memory root).trace { tree := start } accesses,
    IsSeparate start root path held.after.memory
  works : ∀ kept ∈ (Ledger.mk (file path) root).trace { tree := start } accesses, ¬ kept.StoreFails (file path)

/-- No path that is ever recorded has a name that is too long, nor has the root. -/
def RecordsShortNames (start : FileTree) (root : String) (accesses : List (Access α)) : Prop :=
  ∀ held ∈ (Ledger.mk memory root).trace { tree := start } accesses, ∀ recorded ∈ held.after.memory.listed,
    FileTree.HasShortNames (FilePath.join root recorded)

/-- A step with the file gives the answer of the step in memory, and the file then holds the history
in memory. -/
def Agrees (path : String) (kept held : Step α) : Prop :=
  kept.answer = held.answer ∧ ((file path).load.perform kept.after).1 = .ok held.after.memory

/-- The run with the file agrees with the run in memory at each step. -/
def RunsAgree (start : FileTree) (root path : String) (accesses : List (Access α)) : Prop :=
  List.Forall₂ (Agrees path) ((Ledger.mk (file path) root).trace { tree := start } accesses)
    ((Ledger.mk memory root).trace { tree := start } accesses)

/-- Two runs agree at each step, from worlds that mirror each other. -/
theorem Mirrors.run (mirrors : Mirrors start path upper base) (absent : start.pathExists path = false)
    (closed : start.IsClosed) {accesses : List (Access α)}
    (aside : ListsAside start root path base.memory)
    (fits : ∀ held ∈ (Ledger.mk memory root).trace base accesses,
      held.after.memory.HasPlainTimes ∧ ListsAside start root path held.after.memory)
    (works : ∀ kept ∈ (Ledger.mk (file path) root).trace upper accesses, ¬ kept.StoreFails (file path)) :
    List.Forall₂ (Agrees path) ((Ledger.mk (file path) root).trace upper accesses)
      ((Ledger.mk memory root).trace base accesses) := by
  induction accesses generalizing upper base with
  | nil => exact .nil
  | cons access rest ih =>
    rcases List.forall_mem_cons.1 fits with ⟨⟨plain, later⟩, others⟩
    rcases List.forall_mem_cons.1 works with ⟨written, othersWritten⟩
    rcases mirrors.answers absent closed access plain aside with ⟨same, mirrored⟩ | failed
    · have loaded := congrArg Prod.fst (mirrored.load absent)
      exact .cons ⟨same, loaded⟩ (ih mirrored later others othersWritten)
    · exact absurd failed written

/-- A ledger with its history in a file that is not there yet answers every sequence of accesses as
one in memory does, and the file holds the history in memory after each of them. -/
theorem file_refines_memory {accesses : List (Access α)} (comparable : Comparable start root path accesses)
    (short : RecordsShortNames start root accesses) (safe : start.TurnsSafely root) :
    RunsAgree start root path accesses ∧
      ∀ (history : History) (world after : World), world.tree.links = [] → history.HasPlainTimes →
        ((file path).save history).perform world = (.ok (), after) →
        (file path).load.perform after = (.ok history, after) := by
  refine ⟨?_, fun history world after unlinked plain saved => load_after_save unlinked plain saved⟩
  have mirrors : Mirrors start path { tree := start } { tree := start } := .absent rfl rfl rfl
  refine mirrors.run comparable.absent comparable.closed ?_ ?_ comparable.works
  · intro file member
    exact absurd member List.not_mem_nil
  · intro held member
    have separate := comparable.separate held member
    refine ⟨separate.plainTimes, fun file listed => ?_⟩
    exact (separate.unrelated file listed).staysAside safe (short held member file listed)

/-! ## Runs that agree, and runs that do not -/

/-- The answers of two runs that agree are the same. -/
theorem answers_eq_of_agrees {kept held : List (Step α)} (agree : List.Forall₂ (Agrees path) kept held) :
    kept.map Step.answer = held.map Step.answer := by
  induction agree with
  | nil => rfl
  | cons same _ ih => rw [List.map_cons, List.map_cons, same.1, ih]

/-- Deleting a module that the history knows, whatever keeps the history. -/
theorem perform_delete_of_found {store : HistoryStore} {world : World} {history : History} {moduleName : String}
    {record : Record} (loaded : store.load.perform world = (.ok history, world))
    (found : history.find? moduleName = some record) :
    ((Ledger.mk store root).delete moduleName).perform world =
      let removal := removeFiles root record.generatedFiles world.tree
      let saved := (store.save (history.drop moduleName)).perform { world with tree := removal.2 }
      (saved.1.map (fun _ => removal.1), saved.2) := by
  rw [delete, perform_transact _ _ loaded, found]
  dsimp only
  rw [perform_bind, perform_removeRecorded, List.flatMap_singleton]
  rfl

/-- A project with one file, in which nothing has been recorded yet. -/
def sampleTree : FileTree where
  entries := [(["out", "x.go"], .file "package out\n"), (["out"], .directory)]

def samplePath : String := "data/history.json"

def sampleHistory (recorded : String) : History where
  records := [sampleRecord "internal/admin" [recorded]]

/-- A history with one recorded file is saved, and then its record is undone. -/
def undoing (recorded : String) : List (Access Unit) :=
  [.save (sampleHistory recorded), .call (.delete "Order")]

/-- The tree after the history has been saved: the directory of the history file is new as well. -/
def savedTree (recorded : String) : FileTree where
  entries := (["data", "history.json"], .file (sampleHistory recorded).text) :: (["data"], .directory) ::
    sampleTree.entries

section Samples

variable {recorded : String}

theorem hasPlainTimes_sample (recorded : String) : (sampleHistory recorded).HasPlainTimes := by
  have plain : Instant.IsPlain
      { date := { year := 2020, month := 1, day := 2 }, hour := 3, minute := 4, second := 5, nano := 0 } :=
    ⟨by decide, by decide, by decide, by decide, by decide, by decide⟩
  intro record member
  rw [List.mem_singleton.1 member]
  exact plain

theorem perform_save_sample (recorded : String) :
    ((file samplePath).save (sampleHistory recorded)).perform { tree := sampleTree } =
      (.ok (), { tree := savedTree recorded }) := by
  have made : directoryOf samplePath = "data" := by decide +kernel
  rw [perform_save_file, made]
  rfl

theorem answers_memory (root recorded : String) :
    ((Ledger.mk memory root).trace { tree := sampleTree } (undoing recorded)).map Step.answer =
      [.ok .done, .ok (.removal (removeFiles root [recorded] sampleTree).1)] :=
  rfl

theorem eq_of_above_sample {above : String} (isAbove : FilePath.Above above samplePath) :
    above = "data" ∨ above = "" := by
  have first : FilePath.parent? samplePath = some "data" := by decide +kernel
  have second : FilePath.parent? "data" = some "" := by decide +kernel
  have third : FilePath.parent? "" = none := by decide +kernel
  cases isAbove with
  | parent cut => rw [first] at cut; cases cut; exact .inl rfl
  | step cut higher =>
    rw [first] at cut
    cases cut
    cases higher with
    | parent cut => rw [second] at cut; cases cut; exact .inr rfl
    | step cut higher =>
      rw [second] at cut
      cases cut
      cases higher with
      | parent cut => rw [third] at cut; cases cut
      | step cut _ => rw [third] at cut; cases cut

theorem isUnrelated_sample (relative : FilePath.isAbsolute recorded = false)
    (down : ".." ∉ FilePath.segments recorded)
    (aside : ¬ ["data", "history.json"] <+: sampleTree.placeOf (FilePath.join root recorded))
    (notAbove : sampleTree.placeOf (FilePath.join root recorded) ∉ [["data"], []]) :
    IsUnrelated sampleTree root samplePath recorded where
  relative := relative
  down := down
  aside := by
    have place : sampleTree.placeOf samplePath = ["data", "history.json"] := by decide +kernel
    rw [place]
    exact aside
  notAbove := by
    rintro ⟨above, isAbove, meant⟩
    apply notAbove
    rw [← meant]
    rcases eq_of_above_sample isAbove with rfl | rfl
    · decide +kernel
    · decide +kernel

variable (again :
  (((file samplePath).save {}).perform { tree := (removeFiles root [recorded] (savedTree recorded)).2 }).1 = .ok ())

include again

theorem answers_file :
    ((Ledger.mk (file samplePath) root).trace { tree := sampleTree } (undoing recorded)).map Step.answer =
      [.ok .done, .ok (.removal (removeFiles root [recorded] (savedTree recorded)).1)] := by
  have saved := perform_save_sample recorded
  have loaded := load_after_save rfl (hasPlainTimes_sample recorded) saved
  have first : (Ledger.mk (file samplePath) root).step { tree := sampleTree } (.save (sampleHistory recorded)) =
      { access := .save (sampleHistory recorded), before := { tree := sampleTree },
        answer := (.ok .done : Except Fault (Answer Unit)), after := { tree := savedTree recorded } } := by
    rw [step, ask, perform_map, saved]
    rfl
  have found : (sampleHistory recorded).find? "Order" = some (sampleRecord "internal/admin" [recorded]) := rfl
  have dropped : (sampleHistory recorded).drop "Order" = {} := rfl
  have second :
      ((Ledger.mk (file samplePath) root).step { tree := savedTree recorded } (.call (.delete "Order"))).answer =
        (.ok (.removal (removeFiles root [recorded] (savedTree recorded)).1) : Except Fault (Answer Unit)) := by
    rw [step, ask, perform_map, perform_delete_of_found loaded found, dropped]
    dsimp only [sampleRecord]
    rw [again]
    rfl
  rw [undoing, trace, trace, trace, List.map_cons, List.map_cons, first, second]
  rfl

theorem comparable_sample (unrelated : IsUnrelated sampleTree root samplePath recorded) :
    Comparable sampleTree root samplePath (undoing recorded) where
  closed := by
    refine ⟨fun place entry member => ?_, rfl⟩
    simp only [sampleTree, List.mem_cons, List.not_mem_nil, or_false, Prod.mk.injEq] at member
    rcases member with ⟨rfl, -⟩ | ⟨rfl, -⟩
    · decide +kernel
    · decide +kernel
  absent := by decide +kernel
  separate := by
    have memories : ((Ledger.mk memory root).trace { tree := sampleTree } (undoing recorded)).map
        (fun held => held.after.memory) = [sampleHistory recorded, {}] := rfl
    intro held member
    have known : held.after.memory ∈ [sampleHistory recorded, {}] := memories ▸ List.mem_map_of_mem member
    rw [List.mem_pair] at known
    rcases known with same | same
    · rw [same]
      refine ⟨hasPlainTimes_sample recorded, fun file listed => ?_⟩
      rw [List.mem_singleton.1 listed]
      exact unrelated
    · rw [same]
      exact ⟨nofun, nofun⟩
  works := by
    rintro kept member ⟨operation, place, cause, failed, -⟩
    have known := List.mem_map_of_mem (f := Step.answer) member
    rw [answers_file again, List.mem_pair, failed] at known
    rcases known with other | other
    · cases other
    · cases other

theorem not_runsAgree_sample
    (differ : (removeFiles root [recorded] (savedTree recorded)).1 ≠ (removeFiles root [recorded] sampleTree).1) :
    ¬ RunsAgree sampleTree root samplePath (undoing recorded) := by
  intro agree
  have same := answers_eq_of_agrees agree
  rw [answers_file again, answers_memory] at same
  simp only [List.cons.injEq, Except.ok.injEq, Answer.removal.injEq, and_true, true_and] at same
  exact differ same

end Samples

/-- A file in a directory that exists from the start is removed in both runs. -/
theorem file_refines_memory_existing :
    Comparable sampleTree "out" samplePath (undoing "x.go") ∧ RecordsShortNames sampleTree "out" (undoing "x.go") ∧
      sampleTree.TurnsSafely "out" ∧ RunsAgree sampleTree "out" samplePath (undoing "x.go") := by
  have unrelated : IsUnrelated sampleTree "out" samplePath "x.go" :=
    isUnrelated_sample (by decide +kernel) (by decide +kernel) (by decide +kernel) (by decide +kernel)
  have comparable : Comparable sampleTree "out" samplePath (undoing "x.go") :=
    comparable_sample (by decide +kernel) unrelated
  have short : RecordsShortNames sampleTree "out" (undoing "x.go") := by
    intro held member recorded listed
    have names : ∀ history ∈ [sampleHistory "x.go", {}], ∀ recorded ∈ history.listed,
        ∀ segment ∈ FilePath.segments (FilePath.join "out" recorded),
          segment.utf8ByteSize ≤ FileTree.maxNameBytes := by
      decide +kernel
    exact names _ (List.mem_map_of_mem (f := fun held => held.after.memory) member) recorded listed
  have safe : sampleTree.TurnsSafely "out" := FileTree.turnsSafely_of_down (by decide +kernel) _
  exact ⟨comparable, short, safe, (file_refines_memory comparable short safe).1⟩

/-! ## Where the file shows -/

/-- A name of one byte more than a name can have, in the directory of the history file. -/
def longName : String :=
  String.ofList (List.replicate 256 'n')

def longPath : String :=
  "data" ++ "/" ++ longName

theorem utf8ByteSize_longName : longName.utf8ByteSize = 256 := by
  have size : String.utf8Len (List.replicate 256 'n') = 256 := by decide +kernel
  exact (String.utf8ByteSize_ofList _).trans size

theorem longName_ne {short : String} (fits : short.utf8ByteSize < 256) : longName ≠ short := by
  rintro rfl
  rw [utf8ByteSize_longName] at fits
  exact absurd fits (by decide)

theorem toList_longPath : longPath.toList = "data/".toList ++ List.replicate 256 'n' := by
  have letters : longName.toList = List.replicate 256 'n' := String.toList_ofList
  have text : longPath.toList = "data/".toList ++ longName.toList := by simp [longPath]
  exact text.trans (congrArg _ letters)

theorem segments_longPath : FilePath.segments longPath = ["data", longName] := by
  have letters : longName.toList = List.replicate 256 'n' := String.toList_ofList
  have name : FilePath.segments longName = [longName] := by
    rw [FilePath.segments, Text.pieces_of_unbroken, List.map_singleton, String.ofList_toList]
    intro c member
    rw [letters] at member
    rw [List.eq_of_mem_replicate member]
    decide
  rw [longPath, FilePath.segments_append_slash, name]
  rfl

theorem isAbsolute_longPath : FilePath.isAbsolute longPath = false := by
  rw [FilePath.isAbsolute, toList_longPath]
  rfl

theorem locate_longPath {tree : FileTree} (fromRoot : tree.workingDirectory = []) (unlinked : tree.links = []) :
    tree.locate longPath = (tree.walk [] ["data"]).bind (fun _ => .error .nameTooLong) := by
  have noNul : '\x00' ∉ longPath.toList := by
    rw [toList_longPath]
    decide +kernel
  have cut : FileTree.splitLast (FilePath.segments longPath) = (["data"], some longName) := by
    have solid : longName ≠ "" := longName_ne (by decide)
    rw [segments_longPath, FileTree.splitLast, List.reverse_cons, List.reverse_singleton, List.singleton_append,
      List.dropWhile_cons, if_neg (by simpa using solid)]
    rfl
  have solid : longPath ≠ "" := by
    intro blank
    rw [blank] at cut
    exact absurd cut (by decide)
  have located := FileTree.locate_of_long_name unlinked noNul solid cut (by rw [utf8ByteSize_longName]; decide)
  rwa [FileTree.startOf, isAbsolute_longPath, fromRoot] at located

theorem removeFiles_longPath (tree : FileTree) {e : OsError} (located : tree.locate longPath = .error e) :
    removeFiles "" [longPath] tree =
      (if e == .notFound then { missing := [longPath] } else { failed := [longPath] }, tree) := by
  have joined : FilePath.join "" longPath = longPath := by
    rw [FilePath.join, isAbsolute_longPath]
    exact String.empty_append
  have removed : tree.removeFile longPath = ⟨.error e, tree⟩ := by rw [FileTree.removeFile, located]
  rw [Ledger.removeFiles, removeFile, joined, removed]
  dsimp only
  split <;> rfl

theorem isUnrelated_longPath : IsUnrelated sampleTree "" samplePath longPath := by
  have named : longName ≠ "" ∧ longName ≠ "." ∧ longName ≠ ".." ∧ longName ≠ "history.json" :=
    ⟨longName_ne (by decide), longName_ne (by decide), longName_ne (by decide), longName_ne (by decide)⟩
  have place : sampleTree.placeOf (FilePath.join "" longPath) = ["data", longName] := by
    rw [FileTree.placeOf_join rfl _ isAbsolute_longPath, segments_longPath,
      FileTree.foldl_turn_names (by simp [named])]
    simp [named]
    rfl
  apply isUnrelated_sample isAbsolute_longPath
  · rw [segments_longPath]
    simp [Ne.symm named.2.2.1]
  · rw [place]
    simp [Ne.symm named.2.2.2]
  · rw [place]
    simp

/-- Two ways to notice that saving has made the directory of the history file: a name that is too
long is an error of its own below that directory, but only if the directory is there; and a root may
lead through it and out of it again. -/
theorem runs_differ_below_new_directory :
    (Comparable sampleTree "" samplePath (undoing longPath) ∧
      ¬ RunsAgree sampleTree "" samplePath (undoing longPath)) ∧
    (Comparable sampleTree "data/../out" samplePath (undoing "x.go") ∧
      ¬ RunsAgree sampleTree "data/../out" samplePath (undoing "x.go")) := by
  constructor
  · have failed := removeFiles_longPath (savedTree longPath) ((locate_longPath rfl rfl).trans rfl)
    have missing := removeFiles_longPath sampleTree ((locate_longPath rfl rfl).trans rfl)
    have again : (((file samplePath).save {}).perform
        { tree := (removeFiles "" [longPath] (savedTree longPath)).2 }).1 = .ok () := by
      rw [failed]
      decide +kernel
    refine ⟨comparable_sample again isUnrelated_longPath, not_runsAgree_sample again ?_⟩
    rw [failed, missing]
    intro same
    cases congrArg (fun removal => removal.missing.length) same
  · have unrelated : IsUnrelated sampleTree "data/../out" samplePath "x.go" :=
      isUnrelated_sample (by decide +kernel) (by decide +kernel) (by decide +kernel) (by decide +kernel)
    have again : (((file samplePath).save {}).perform
        { tree := (removeFiles "data/../out" ["x.go"] (savedTree "x.go")).2 }).1 = .ok () := by
      decide +kernel
    exact ⟨comparable_sample again unrelated, not_runsAgree_sample again (by decide +kernel)⟩

end HistoryStore
end Scaffold
