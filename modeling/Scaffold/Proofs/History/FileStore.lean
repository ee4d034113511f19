import Scaffold.Proofs.FileTree.Overlay
import Scaffold.Proofs.History.Deletion
import Scaffold.Proofs.History.Document

namespace Scaffold

open Job

/-!
# A history in a file next to one in memory

Two worlds start from the same tree, one with its history in a file that does not exist yet, the
other with an empty history in memory.  Until the first save the two trees are equal; from then on
the tree with the file overlays the other one, and the file holds the text of the history in memory.
Loading gives the same history in both worlds.  Saving and removing recorded files lead to two
worlds of the same kind again.
-/

namespace FileTree

/-- The place of one of the paths above a path. -/
def IsAbove (tree : FileTree) (path : String) (place : Place) : Prop :=
  ∃ above, FilePath.Above above path ∧ tree.placeOf above = place

theorem KeepsDirectories.isAbove {before after : FileTree} (kept : before.KeepsDirectories after) (path : String) :
    after.IsAbove path = before.IsAbove path := by
  funext place
  simp only [IsAbove, kept.placeOf]

end FileTree

namespace HistoryStore

/-- The directory in which a history file is written. -/
def directoryOf (path : String) : String :=
  ((FilePath.parent? path).filter (fun s => !s.isEmpty)).getD "."

/-- What saving in a file comes to: the two changes of the tree, the second only after the first has
succeeded. -/
theorem perform_save_file (path : String) (history : History) (world : World) :
    ((file path).save history).perform world =
      let made := world.tree.makeDirectories (directoryOf path)
      let written := made.tree.replaceFile path history.text
      match made.outcome with
      | .error e =>
        (.error (.fileOperation "create directory" (directoryOf path) e), { world with tree := made.tree })
      | .ok () =>
        (written.outcome.mapError (.fileOperation "write history" path), { world with tree := written.tree }) := by
  have both := perform_bind
    (change (·.makeDirectories (directoryOf path)) (.fileOperation "create directory" (directoryOf path)))
    (fun _ => change (·.replaceFile path history.text) (.fileOperation "write history" path)) world
  rw [perform_change] at both
  refine both.trans ?_
  dsimp only
  cases (world.tree.makeDirectories (directoryOf path)).outcome with
  | error e => rfl
  | ok _ => exact perform_change _ _ _

/-- Making the directory of a path adds no more than directories above the path. -/
theorem makeDirectories_directoryOf (tree : FileTree) (path : String) (place : Place) :
    (tree.makeDirectories (directoryOf path)).tree.get? place = tree.get? place ∨
      tree.IsAbove path place ∧ tree.get? place = none ∧
        (tree.makeDirectories (directoryOf path)).tree.get? place = some .directory := by
  have here : (tree.makeDirectories ".").tree.get? place = tree.get? place := by
    rw [FileTree.tree_makeDirectories_here]
  rw [directoryOf]
  cases cut : FilePath.parent? path with
  | none => exact .inl here
  | some parent =>
    by_cases blank : parent.isEmpty = true
    · simp only [Option.filter, blank, Bool.not_true, Bool.false_eq_true, if_false, Option.getD_none]
      exact .inl here
    · simp only [Option.filter, blank, Bool.not_false, if_true, Option.getD_some]
      rcases FileTree.makeDirectories_makesWay tree parent place with same | ⟨⟨above, isAbove, meant⟩, free, made⟩
      · exact .inl same
      · refine .inr ⟨⟨above, ?_, meant⟩, free, made⟩
        rcases isAbove with rfl | higher
        · exact .parent cut
        · exact .step cut higher

theorem get?_replaceFile_of_ne (tree : FileTree) {path content : String} {place : Place}
    (different : place ≠ tree.placeOf path) :
    (tree.replaceFile path content).tree.get? place = tree.get? place := by
  rw [FileTree.replaceFile]
  cases located : tree.locate path with
  | error e => rfl
  | ok target =>
    cases target with
    | directory place => rfl
    | name other slash =>
      rw [(FileTree.placeOf_of_locate located).1] at different
      dsimp only
      split
      · rfl
      · rfl
      · exact tree.get?_put_of_ne different _

/-- Saving in a file fails with a fault of the file system, or the file is there and otherwise only
directories above it are new. -/
theorem save_file_cases (path : String) (history : History) {world : World} (unlinked : world.tree.links = []) :
    (∃ operation place e after,
      ((file path).save history).perform world = (.error (.fileOperation operation place e), after)) ∨
    ∃ after : FileTree, ((file path).save history).perform world = (.ok (), { world with tree := after }) ∧
      world.tree.Stores after path history.text ∧
      world.tree.Overlays after (world.tree.IsAbove path) (world.tree.placeOf path) := by
  rw [perform_save_file]
  dsimp only
  have added := FileTree.makeDirectories_addsDirectories world.tree (directoryOf path)
  cases made : (world.tree.makeDirectories (directoryOf path)).outcome with
  | error e => exact .inl ⟨_, _, _, _, rfl⟩
  | ok _ =>
    dsimp only
    cases written :
        ((world.tree.makeDirectories (directoryOf path)).tree.replaceFile path history.text).outcome with
    | error e => exact .inl ⟨_, _, _, _, rfl⟩
    | ok _ =>
      have stores := added.stores (FileTree.stores_of_replaceFile (added.links.trans unlinked) written)
      refine .inr ⟨_, rfl, stores, stores.grows.toKeepsDirectories, ?_⟩
      intro other different
      rw [get?_replaceFile_of_ne _ (by rw [added.placeOf]; exact different)]
      exact makeDirectories_directoryOf world.tree path other

/-- A file that holds the text of a history is loaded as that history. -/
theorem load_of_content {path : String} {history : History} {world : World} (leads : world.tree.LeadsToFile path)
    (content : world.tree.contentAt? (world.tree.placeOf path) = some history.text)
    (plain : history.HasPlainTimes) :
    (file path).load.perform world = (.ok history, world) := by
  have readable := leads.read content
  have asked := perform_tree world
  rw [load, perform_bind, asked]
  dsimp only
  rw [FileTree.pathExists_of_read readable, readable]
  dsimp only
  rw [History.parse_text plain]
  rfl

/-- What has been saved in a file is loaded again. -/
theorem load_after_save {path : String} {history : History} {world after : World} (unlinked : world.tree.links = [])
    (plain : history.HasPlainTimes) (saved : ((file path).save history).perform world = (.ok (), after)) :
    (file path).load.perform after = (.ok history, after) := by
  rcases save_file_cases path history unlinked with ⟨_, _, _, _, failed⟩ | ⟨tree, performed, stores, -⟩
  · rw [failed] at saved
    cases saved
  · rw [performed] at saved
    cases saved
    apply load_of_content stores.leadsToFile _ plain
    rw [stores.grows.placeOf]
    exact stores.content

/-! ## A file that holds a history -/

/-- The file can be written: its directory is there, and no directory lies in its place.  There are
no links. -/
structure IsWritable (path : String) (tree : FileTree) : Prop where
  unlinked : tree.links = []
  directory : tree.isDirectory (directoryOf path) = true
  located : tree.locate path = .ok (.name (tree.placeOf path) false)
  free : tree.get? (tree.placeOf path) ≠ some .directory

theorem IsWritable.linkAt?_eq_none {path : String} {tree : FileTree}
    (writable : IsWritable path tree) (place : Place) :
    tree.linkAt? place = none := by
  rw [FileTree.linkAt?, writable.unlinked]
  rfl

/-- The file holds a history, and can be written again. -/
structure IsReady (path : String) (world : World) : Prop extends IsWritable path world.tree where
  held : ∃ history : History, history.HasPlainTimes ∧
    world.tree.contentAt? (world.tree.placeOf path) = some history.text

theorem isReady_of_content {path : String} {world : World} {history : History} (unlinked : world.tree.links = [])
    (directory : world.tree.isDirectory (directoryOf path) = true) (leads : world.tree.LeadsToFile path)
    (content : world.tree.contentAt? (world.tree.placeOf path) = some history.text)
    (plain : history.HasPlainTimes) :
    IsReady path world where
  unlinked := unlinked
  directory := directory
  located := leads.located
  free := by
    rw [FileTree.get?_eq_file_iff.2 content]
    nofun
  held := ⟨history, plain, content⟩

/-- The history that is loaded from a file, or an empty one where none can be. -/
def loaded (path : String) (world : World) : History :=
  match ((file path).load.perform world).1 with
  | .ok history => history
  | .error _ => {}

theorem IsReady.perform_load_held {path : String} {world : World} (ready : IsReady path world) :
    ∃ history : History, history.HasPlainTimes ∧ (file path).load.perform world = (.ok history, world) := by
  rcases ready.held with ⟨history, plain, content⟩
  have leads : world.tree.LeadsToFile path := ⟨ready.located, ready.linkAt?_eq_none _, by rw [content]; rfl⟩
  exact ⟨history, plain, load_of_content leads content plain⟩

theorem IsReady.perform_load {path : String} {world : World} (ready : IsReady path world) :
    (file path).load.perform world = (.ok (loaded path world), world) := by
  rcases ready.perform_load_held with ⟨history, -, performed⟩
  rw [loaded, performed]

theorem IsReady.hasPlainTimes {path : String} {world : World} (ready : IsReady path world) :
    (loaded path world).HasPlainTimes := by
  rcases ready.perform_load_held with ⟨history, plain, performed⟩
  rw [loaded, performed]
  exact plain

/-- Files can be removed, the history among them. -/
theorem IsWritable.removeFile {path : String} {tree : FileTree} (writable : IsWritable path tree) (other : String) :
    IsWritable path (tree.removeFile other).tree := by
  have kept := FileTree.removeFile_keepsDirectories writable.unlinked other
  refine ⟨kept.links.trans writable.unlinked, kept.isDirectory writable.directory, ?_, ?_⟩
  · rw [kept.placeOf]
    exact kept.locate writable.located
  · rw [kept.placeOf]
    rcases FileTree.removeFile_cases writable.unlinked other with same | ⟨content, held, erased⟩
    · rw [same]
      exact writable.free
    · rw [erased]
      by_cases own : tree.placeOf path = tree.placeOf other
      · have below : tree.placeOf other ≠ [] := own ▸ (FileTree.placeOf_of_locate writable.located).2
        rw [own, tree.get?_erase_self below]
        nofun
      · rw [tree.get?_erase_of_ne own]
        exact writable.free

theorem IsWritable.removeFiles {path : String} {tree : FileTree} (writable : IsWritable path tree) (root : String)
    (files : List String) : IsWritable path (Ledger.removeFiles root files tree).2 := by
  induction files generalizing tree with
  | nil => exact writable
  | cons file rest ih => exact ih (writable.removeFile _)

theorem IsWritable.perform_save {path : String} {world : World} (writable : IsWritable path world.tree)
    {history : History} (plain : history.HasPlainTimes) :
    ∃ after, ((file path).save history).perform world = (.ok (), after) ∧ IsReady path after ∧
      loaded path after = history := by
  have made := FileTree.makeDirectories_of_isDirectory writable.unlinked writable.directory
  have stores := FileTree.stores_put history.text writable.located (writable.linkAt?_eq_none _) writable.free
  have written : world.tree.replaceFile path history.text =
      ⟨.ok (), world.tree.put (world.tree.placeOf path) (.file history.text)⟩ := by
    rw [FileTree.replaceFile, writable.located]
    dsimp only
    rw [FileTree.eraseLink_of_unlinked writable.unlinked]
    cases entry : world.tree.get? (world.tree.placeOf path) with
    | none => rfl
    | some kind =>
      cases kind with
      | directory => exact absurd entry writable.free
      | file content => rfl
  have saved : ((file path).save history).perform world =
      (.ok (), { world with tree := world.tree.put (world.tree.placeOf path) (.file history.text) }) := by
    rw [perform_save_file]
    dsimp only
    rw [made]
    dsimp only
    rw [written]
    rfl
  refine ⟨_, saved, ?_, ?_⟩
  · refine isReady_of_content ?_ ?_ stores.leadsToFile ?_ plain
    · exact writable.unlinked
    · exact stores.grows.isDirectory writable.directory
    · rw [stores.grows.placeOf]
      exact stores.content
  · rw [loaded, load_after_save writable.unlinked plain saved]

/-! ## Two worlds side by side -/

/-- The first tree is the second one with the text of a history in the file. -/
structure KeepsFile (start : FileTree) (path : String) (history : History) (upper base : FileTree) : Prop where
  overlays : base.Overlays upper (start.IsAbove path) (start.placeOf path)
  closed : base.IsClosed
  fromStart : start.KeepsDirectories base
  leads : upper.LeadsToFile path
  content : upper.contentAt? (start.placeOf path) = some history.text

/-- The second world keeps in memory what the first one keeps in the file, which is missing as long
as nothing has been saved.  Everything else lies in both trees or in neither, except for directories
above the file. -/
inductive Mirrors (start : FileTree) (path : String) (upper base : World) : Prop
  | absent (upperSame : upper.tree = start) (baseSame : base.tree = start) (empty : base.memory = {})
  | kept (keeps : KeepsFile start path base.memory upper.tree base.tree) (plain : base.memory.HasPlainTimes)

variable {start : FileTree} {path : String} {upper base : World}

theorem KeepsFile.unlinked {history : History} {upper base : FileTree}
    (keeps : KeepsFile start path history upper base) : upper.links = [] :=
  keeps.overlays.links.trans keeps.closed.unlinked

theorem Mirrors.unlinked (mirrors : Mirrors start path upper base) (closed : start.IsClosed) :
    upper.tree.links = [] := by
  cases mirrors with
  | absent upperSame _ _ => exact upperSame ▸ closed.unlinked
  | kept keeps _ => exact keeps.unlinked

/-- Both worlds load the same history. -/
theorem Mirrors.load (mirrors : Mirrors start path upper base) (absent : start.pathExists path = false) :
    (file path).load.perform upper = (.ok base.memory, upper) := by
  cases mirrors with
  | absent upperSame baseSame empty =>
    have asked := perform_tree upper
    rw [HistoryStore.load, perform_bind, asked, upperSame]
    dsimp only
    rw [absent, empty]
    rfl
  | kept keeps plain =>
    have same := (keeps.overlays.placeOf path).trans (keeps.fromStart.placeOf path)
    exact load_of_content keeps.leads (same ▸ keeps.content) plain

/-- Saving the same history in both worlds, when it does not fail. -/
theorem Mirrors.save (mirrors : Mirrors start path upper base) (closed : start.IsClosed) {history : History}
    (plain : history.HasPlainTimes) :
    (∃ operation place e after,
      ((file path).save history).perform upper = (.error (.fileOperation operation place e), after)) ∨
    ∃ after, ((file path).save history).perform upper = (.ok (), after) ∧
      Mirrors start path after { base with memory := history } := by
  rcases save_file_cases path history (mirrors.unlinked closed) with failed | ⟨after, saved, stores, overlays⟩
  · exact .inl failed
  refine .inr ⟨_, saved, ?_⟩
  have leads := stores.leadsToFile
  cases mirrors with
  | absent upperSame baseSame empty =>
    rw [upperSame] at overlays
    have content := stores.content
    rw [upperSame] at content
    rw [← baseSame] at overlays content closed
    rw [← baseSame]
    exact .kept ⟨overlays, closed, .refl _, leads, content⟩ plain
  | kept keeps _ =>
    have fromStart := keeps.fromStart.trans keeps.overlays.toKeepsDirectories
    have content := stores.content
    rw [fromStart.placeOf] at content
    rw [fromStart.isAbove, fromStart.placeOf] at overlays
    exact .kept ⟨keeps.overlays.trans overlays, keeps.closed, keeps.fromStart, leads, content⟩ plain

/-! ## Removing recorded files -/

/-- A recorded path that has nothing to do with the history file: it is relative, does not go up,
and means neither the file, nor a place below it, nor one of the directories above it. -/
structure IsUnrelated (start : FileTree) (root path recorded : String) : Prop where
  relative : FilePath.isAbsolute recorded = false
  down : ".." ∉ FilePath.segments recorded
  aside : ¬ start.placeOf path <+: start.placeOf (FilePath.join root recorded)
  notAbove : ¬ start.IsAbove path (start.placeOf (FilePath.join root recorded))

theorem IsUnrelated.staysAside {root recorded : String} (unrelated : IsUnrelated start root path recorded)
    (safe : start.TurnsSafely root) (short : FileTree.HasShortNames (FilePath.join root recorded)) :
    start.StaysAside (start.IsAbove path) (start.placeOf path) (FilePath.join root recorded) where
  safe := safe.join unrelated.relative unrelated.down
  short := short
  aside := unrelated.aside
  notAbove := unrelated.notAbove

/-- All that the history lists stays aside of the history file. -/
def ListsAside (start : FileTree) (root path : String) (history : History) : Prop :=
  ∀ file ∈ history.listed, start.StaysAside (start.IsAbove path) (start.placeOf path) (FilePath.join root file)

/-- Removing one file that stays aside of the history file. -/
theorem KeepsFile.removeFile {history : History} {upper base : FileTree}
    (keeps : KeepsFile start path history upper base) {other : String}
    (stays : start.StaysAside (start.IsAbove path) (start.placeOf path) other) :
    (upper.removeFile other).outcome = (base.removeFile other).outcome ∧
      KeepsFile start path history (upper.removeFile other).tree (base.removeFile other).tree := by
  rcases keeps.overlays.removeFile keeps.closed (stays.keep keeps.fromStart) with ⟨same, overlays⟩
  have kept := FileTree.removeFile_keepsDirectories keeps.unlinked other
  have toUpper := keeps.fromStart.trans keeps.overlays.toKeepsDirectories
  have content : (upper.removeFile other).tree.contentAt? (start.placeOf path) = some history.text := by
    rcases FileTree.removeFile_cases keeps.unlinked other with unchanged | ⟨text, file, erased⟩
    · rw [unchanged]
      exact keeps.content
    · have different : start.placeOf path ≠ upper.placeOf other := by
        rw [toUpper.placeOf]
        intro meant
        exact stays.aside (meant ▸ List.prefix_rfl)
      rw [erased, FileTree.contentAt?_congr (upper.get?_erase_of_ne different)]
      exact keeps.content
  refine ⟨same, overlays, keeps.closed.removeFile other, ?_, ?_, content⟩
  · exact keeps.fromStart.trans (FileTree.removeFile_keepsDirectories keeps.closed.unlinked other)
  · apply keeps.leads.keep kept
    rw [toUpper.placeOf, content]
    rfl

theorem KeepsFile.removeFiles {history : History} {root : String} {files : List String} {upper base : FileTree}
    (keeps : KeepsFile start path history upper base)
    (aside : ∀ file ∈ files, start.StaysAside (start.IsAbove path) (start.placeOf path) (FilePath.join root file)) :
    (Ledger.removeFiles root files upper).1 = (Ledger.removeFiles root files base).1 ∧
      KeepsFile start path history (Ledger.removeFiles root files upper).2
        (Ledger.removeFiles root files base).2 := by
  induction files generalizing upper base with
  | nil => exact ⟨rfl, keeps⟩
  | cons file rest ih =>
    rcases List.forall_mem_cons.1 aside with ⟨first, others⟩
    rcases keeps.removeFile first with ⟨same, later⟩
    rcases ih later others with ⟨sameRest, last⟩
    have removal : (Ledger.removeFile root file upper).1 = (Ledger.removeFile root file base).1 := by
      rw [Ledger.removeFile, Ledger.removeFile, same]
    refine ⟨?_, last⟩
    rw [Ledger.removeFiles, Ledger.removeFiles]
    dsimp only
    rw [removal]
    exact congrArg _ sameRest

/-- Removing recorded files has the same outcome in both worlds. -/
theorem Mirrors.removeFiles (mirrors : Mirrors start path upper base) {root : String} {files : List String}
    (listed : ∀ file ∈ files, file ∈ base.memory.listed)
    (aside : ∀ file ∈ files, start.StaysAside (start.IsAbove path) (start.placeOf path) (FilePath.join root file)) :
    (Ledger.removeFiles root files upper.tree).1 = (Ledger.removeFiles root files base.tree).1 ∧
      Mirrors start path { upper with tree := (Ledger.removeFiles root files upper.tree).2 }
        { base with tree := (Ledger.removeFiles root files base.tree).2 } := by
  cases mirrors with
  | absent upperSame baseSame empty =>
    have nothing : files = [] := by
      rw [List.eq_nil_iff_forall_not_mem]
      intro file member
      have recorded := listed file member
      rw [empty] at recorded
      exact List.not_mem_nil recorded
    subst nothing
    exact ⟨rfl, .absent upperSame baseSame empty⟩
  | kept keeps plain =>
    rcases keeps.removeFiles aside with ⟨same, later⟩
    exact ⟨same, .kept later plain⟩

end HistoryStore
end Scaffold
