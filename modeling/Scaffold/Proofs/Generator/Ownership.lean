import Mathlib.Data.List.Nodup
import Scaffold.Proofs.Generator.Addition
import Scaffold.Proofs.History.Deletion

namespace Scaffold

open Job

/-!
# Who owns a file

As long as only the generator touches the files below the root, every file that a record lists is
there, and no two records list the same one.  Modules may well aim at the same path: whoever comes
second is refused, because nothing may be overwritten.  A record that takes the place of an older
one leaves the files of the older one behind without an owner, which does no harm.

The invariant speaks of places and not of paths, since two paths can mean one place.
-/

namespace FileTree

/-- Every listed path leads to a file, each to one of its own. -/
structure Owns (tree : FileTree) (root : String) (listed : List String) : Prop where
  present : ∀ path ∈ listed, tree.LeadsToFile (FilePath.join root path)
  distinct : (tree.placesBelow root listed).Nodup

variable {before after : FileTree} {root : String} {listed other gone kept added : List String}

theorem Owns.nil (tree : FileTree) (root : String) : tree.Owns root [] :=
  ⟨fun _ member => absurd member List.not_mem_nil, List.nodup_nil⟩

theorem Owns.sublist (owns : before.Owns root listed) (part : other.Sublist listed) : before.Owns root other :=
  ⟨fun path member => owns.present path (part.subset member), owns.distinct.sublist (part.map _)⟩

theorem Owns.perm (owns : before.Owns root listed) (same : listed.Perm other) : before.Owns root other :=
  ⟨fun path member => owns.present path (same.mem_iff.2 member), (same.map _).nodup owns.distinct⟩

theorem Owns.nodup (owns : before.Owns root listed) : listed.Nodup :=
  owns.distinct.of_map

/-- What is added lies at places that were free, so that it gets in nobody's way. -/
theorem Owns.adds (owns : before.Owns root listed) (adds : before.Adds after root added) :
    after.Owns root (added ++ listed) where
  present path member := by
    rcases List.mem_append.1 member with new | old
    · exact adds.held path new
    · have leads := owns.present path old
      exact leads.keep adds.toKeepsDirectories (adds.files _ leads.there)
  distinct := by
    rw [adds.placesBelow, placesBelow_append, List.nodup_append]
    refine ⟨adds.distinct, owns.distinct, ?_⟩
    rintro place new _ old rfl
    rcases List.mem_map.1 old with ⟨path, member, rfl⟩
    have there := (owns.present path member).there
    rw [adds.absent _ new] at there
    cases there

/-- When some of the listed files are lost, all others keep their content. -/
theorem Owns.contentAt?_kept (owns : before.Owns root (gone ++ kept))
    (loses : before.Loses after (before.placesBelow root gone)) {path : String} (member : path ∈ kept) :
    after.contentAt? (before.placeOf (FilePath.join root path)) =
      before.contentAt? (before.placeOf (FilePath.join root path)) := by
  have distinct := owns.distinct
  rw [placesBelow_append, List.nodup_append] at distinct
  have here : before.placeOf (FilePath.join root path) ∈ before.placesBelow root kept :=
    List.mem_map.2 ⟨path, member, rfl⟩
  rw [loses.contents, if_neg fun lost => distinct.2.2 _ lost _ here rfl]

theorem Owns.loses (owns : before.Owns root (gone ++ kept))
    (loses : before.Loses after (before.placesBelow root gone)) : after.Owns root kept where
  present path member := by
    have leads := owns.present path (List.mem_append_right gone member)
    refine leads.keep loses.toKeepsDirectories ?_
    rw [owns.contentAt?_kept loses member]
    exact leads.there
  distinct := by
    rw [loses.placesBelow]
    exact (owns.sublist (List.sublist_append_right gone kept)).distinct

/-- A file that was not lost reads as before. -/
theorem Owns.read_kept (owns : before.Owns root (gone ++ kept))
    (loses : before.Loses after (before.placesBelow root gone)) {path : String} (member : path ∈ kept) :
    after.read (FilePath.join root path) = before.read (FilePath.join root path) := by
  have leads := owns.present path (List.mem_append_right gone member)
  rcases Option.isSome_iff_exists.1 leads.there with ⟨content, holds⟩
  have still := (owns.loses loses).present path member
  have same := owns.contentAt?_kept loses member
  rw [← loses.placeOf, loses.placeOf (FilePath.join root path), holds] at same
  rw [leads.read holds, still.read (by rw [loses.placeOf]; exact same)]

/-- The files under the paths are gone, and every other file is as it was. -/
structure Removes (before after : FileTree) (root : String) (paths : List String) : Prop where
  gone : ∀ path ∈ paths, ∀ content, after.read (FilePath.join root path) ≠ .ok content
  others : ∀ place, place ∉ before.placesBelow root paths → after.contentAt? place = before.contentAt? place

/-- What is lost under a path that led to a file cannot be read any more. -/
theorem Loses.removes (loses : before.Loses after (before.placesBelow root gone))
    (present : ∀ path ∈ gone, before.LeadsToFile (FilePath.join root path)) : before.Removes after root gone where
  gone path member content readable := by
    have inside : before.placeOf (FilePath.join root path) ∈ before.placesBelow root gone :=
      List.mem_map.2 ⟨path, member, rfl⟩
    have holds := (present path member).contentAt?_of_read loses.toKeepsDirectories readable
    rw [loses.contents, if_pos inside] at holds
    cases holds
  others place outside := by
    rw [loses.contents, if_neg outside]

end FileTree

namespace Generator

variable {generator : Generator}

/-! ## Calls -/

/-- What a client may ask for. -/
inductive Call where
  | generate (request : Request)
  | delete (moduleName : String)
  | clear

/-- The call may not overwrite anything, and no tools are run for it. -/
def Call.IsCareful (generator : Generator) : Call → Prop
  | generate request =>
    request.options.overwriteExisting = false ∧ generator.workshop.writer.Quiet request.options
  | delete _ => True
  | clear => True

/-- The world after a call, whatever it answers. -/
def serve (generator : Generator) (world : World) : Call → World
  | .generate request => ((generator.generate request).run world).2
  | .delete moduleName => ((generator.ledger.delete moduleName).perform world).2
  | .clear => (generator.ledger.clear.perform world).2

/-- The world after a sequence of calls. -/
def serveAll (generator : Generator) (world : World) (calls : List Call) : World :=
  calls.foldl generator.serve world

/-- The files that the records list are all there, each listed once. -/
def Owned (generator : Generator) (world : World) : Prop :=
  world.tree.Owns generator.ledger.root world.memory.listed

/-! ## Each call -/

/-- Deleting a module removes all files of its record, and no file that another record lists. -/
theorem Owned.perform_delete (inMemory : generator.ledger.store = .memory) {world : World}
    (owned : generator.Owned world) {moduleName : String} {record : Record}
    (found : world.memory.find? moduleName = some record) :
    ∃ tree, (generator.ledger.delete moduleName).perform world =
        (.ok { removed := record.generatedFiles }, { world with tree, memory := world.memory.drop moduleName }) ∧
      world.tree.Removes tree generator.ledger.root record.generatedFiles ∧
      tree.Owns generator.ledger.root (world.memory.drop moduleName).listed ∧
      ∀ path ∈ (world.memory.drop moduleName).listed,
        tree.read (FilePath.join generator.ledger.root path) =
          world.tree.read (FilePath.join generator.ledger.root path) := by
  have split := FileTree.Owns.perm owned (History.listed_drop found)
  have gone := split.sublist (List.sublist_append_left _ _)
  rcases Ledger.removeFiles_of_leadsToFile gone.present gone.distinct with ⟨removed, loses⟩
  rw [Ledger.perform_delete inMemory, found]
  dsimp only
  rw [removed]
  exact ⟨_, rfl, loses.removes gone.present, split.loses loses, fun path member => split.read_kept loses member⟩

/-- Clearing removes all listed files. -/
theorem Owned.perform_clear (inMemory : generator.ledger.store = .memory) {world : World}
    (owned : generator.Owned world) : ∃ tree, generator.ledger.clear.perform world =
        (.ok { removed := world.memory.listed }, { world with tree, memory := {} }) ∧
      world.tree.Removes tree generator.ledger.root world.memory.listed := by
  rcases Ledger.removeFiles_of_leadsToFile owned.present owned.distinct with ⟨removed, loses⟩
  rw [Ledger.perform_clear inMemory]
  dsimp only
  rw [History.listed] at removed ⊢
  rw [removed]
  exact ⟨_, rfl, loses.removes owned.present⟩

section Calls

variable (builtin : generator.registry.IsBuiltin) (inMemory : generator.ledger.store = .memory)
  (sameRoot : generator.ledger.root = generator.workshop.writer.root)

include builtin inMemory sameRoot

theorem Owned.generate {request : Request} (quiet : generator.workshop.writer.Quiet request.options)
    (off : request.options.overwriteExisting = false) {world : World} (owned : generator.Owned world) :
    generator.Owned ((generator.generate request).run world).2 := by
  rcases generate_accounted builtin inMemory quiet off world with ⟨adds, recorded⟩
  rw [← sameRoot] at adds
  have all := owned.adds adds
  rw [Owned]
  rcases recorded with ⟨-, memory⟩ | ⟨-, components, memory⟩
  · rw [memory]
    exact all.sublist (List.sublist_append_right _ _)
  · rw [memory]
    rcases world.memory.listed_add (Ledger.recordOf generator.workshop.now request components
      ((generator.generate request).run world).1.files) with ⟨kept, part, same⟩
    -- A record that was replaced is not among `kept`: its files are still there, but nobody lists
    -- them any more.
    exact (all.sublist (part.append_left _)).perm same.symm

/-- No call disturbs the ownership. -/
theorem Owned.serve {world : World} (owned : generator.Owned world) {call : Call}
    (careful : call.IsCareful generator) :
    generator.Owned (generator.serve world call) := by
  cases call with
  | generate request => exact owned.generate builtin inMemory sameRoot careful.2 careful.1
  | delete moduleName =>
    rw [Generator.serve]
    cases found : world.memory.find? moduleName with
    | none => rw [Ledger.perform_delete inMemory, found]; exact owned
    | some record =>
      rcases owned.perform_delete inMemory found with ⟨tree, performed, -, owns, -⟩
      rw [performed]
      exact owns
  | clear =>
    rw [Generator.serve]
    rcases owned.perform_clear inMemory with ⟨tree, performed, -⟩
    rw [performed]
    exact .nil tree generator.ledger.root

theorem Owned.serveAll {calls : List Call} {world : World} (owned : generator.Owned world)
    (careful : ∀ call ∈ calls, call.IsCareful generator) :
    generator.Owned (generator.serveAll world calls) := by
  induction calls generalizing world with
  | nil => exact owned
  | cons call rest ih =>
    have first := owned.serve builtin inMemory sameRoot (careful call List.mem_cons_self)
    exact ih first fun other member => careful other (List.mem_cons_of_mem call member)

end Calls

/-! ## What a client sees -/

/-- Every listed file is there and is listed once.  A module can be deleted when it has a record,
and then the files of that record are gone, while all others stay, those of the other records among
them.  Clearing removes every listed file and no other. -/
structure Orderly (generator : Generator) (world : World) : Prop where
  readable : ∀ record ∈ world.memory.records, ∀ path ∈ record.generatedFiles,
    ∃ content, world.tree.read (FilePath.join generator.ledger.root path) = .ok content
  once : (world.memory.records.flatMap Record.generatedFiles).Nodup
  deletes : ∀ moduleName record, world.memory.find? moduleName = some record →
    ∃ after, (generator.ledger.delete moduleName).perform world =
      (.ok { removed := record.generatedFiles }, after) ∧
      world.tree.Removes after.tree generator.ledger.root record.generatedFiles ∧
      ∀ other ∈ world.memory.records, other ≠ record → ∀ path ∈ other.generatedFiles,
        after.tree.read (FilePath.join generator.ledger.root path) =
          world.tree.read (FilePath.join generator.ledger.root path)
  refuses : ∀ moduleName, world.memory.find? moduleName = none →
    (generator.ledger.delete moduleName).perform world = (.error (Ledger.noHistory moduleName), world)
  clears : ∃ after, generator.ledger.clear.perform world =
      (.ok { removed := world.memory.records.flatMap Record.generatedFiles }, after) ∧
    world.tree.Removes after.tree generator.ledger.root (world.memory.records.flatMap Record.generatedFiles)

theorem Owned.orderly (inMemory : generator.ledger.store = .memory) {world : World}
    (owned : generator.Owned world) :
    generator.Orderly world where
  readable record recorded path member :=
    FileTree.LeadsToFile.exists_read (owned.present path (List.mem_flatMap.2 ⟨record, recorded, member⟩))
  once := owned.nodup
  deletes moduleName record found := by
    rcases owned.perform_delete inMemory found with ⟨tree, performed, removes, -, kept⟩
    refine ⟨_, performed, removes, fun other recorded different path member => kept path ?_⟩
    rcases List.mem_cons.1 ((History.records_drop found).mem_iff.1 recorded) with same | others
    · exact absurd same different
    · exact List.mem_flatMap.2 ⟨other, others, member⟩
  refuses moduleName unknown := by
    rw [Ledger.perform_delete inMemory, unknown]
  clears := by
    rcases owned.perform_clear inMemory with ⟨tree, performed, removes⟩
    exact ⟨_, performed, removes⟩

/-- Whatever is called, in whatever order, the world stays orderly. -/
theorem serveAll_orderly (builtin : generator.registry.IsBuiltin) (inMemory : generator.ledger.store = .memory)
    (sameRoot : generator.ledger.root = generator.workshop.writer.root) {calls : List Call}
    (careful : ∀ call ∈ calls, call.IsCareful generator) (tree : FileTree) :
    generator.Orderly (generator.serveAll { tree } calls) := by
  have start : generator.Owned { tree } := .nil tree generator.ledger.root
  exact (start.serveAll builtin inMemory sameRoot careful).orderly inMemory

/-- The model of the customer. -/
def customerRequest : Request :=
  { orderRequest.forComponent (.ofLayer .model) with modelName := "Customer" }

/-- The second generation is refused, since the model of the order is there already.  The customer
is deleted once, and is unknown the second time. -/
def orderCalls : List Call :=
  [.generate orderRequest, .generate (orderRequest.forComponent (.ofLayer .model)), .generate customerRequest,
    .delete "Customer", .delete "Customer"]

/-- The file of the customer goes, and the file of the order stays. -/
theorem serveAll_orderly_order :
    let filled := plainGenerator.serveAll { tree := sparseTree } (orderCalls.take 3)
    let world := plainGenerator.serveAll { tree := sparseTree } orderCalls
    filled.memory.listed = ["internal/shared/models/order.go", "internal/shared/models/customer.go"] ∧
      plainGenerator.Orderly filled ∧
      world.memory.listed = ["internal/shared/models/order.go"] ∧ plainGenerator.Orderly world := by
  have careful : ∀ call ∈ orderCalls, call.IsCareful plainGenerator := by
    have quiet := Workshop.plainWorkshop_quiet
    simp [orderCalls, Call.IsCareful, plainGenerator, quiet, orderRequest, customerRequest, Request.forComponent]
  have carefulAtFirst : ∀ call ∈ orderCalls.take 3, call.IsCareful plainGenerator :=
    fun call member => careful call (List.mem_of_mem_take member)
  exact ⟨by decide +kernel, serveAll_orderly Registry.standard_isBuiltin rfl rfl carefulAtFirst sparseTree,
    by decide +kernel, serveAll_orderly Registry.standard_isBuiltin rfl rfl careful sparseTree⟩

end Generator
end Scaffold
