import Scaffold.Proofs.FileTree.Place

namespace Scaffold
namespace FileTree

/-!
# What changes of a tree keep

Three relations between the trees before and after a change say all that is needed of it later.
`KeepsDirectories` lets every path be followed afterwards that could be followed before: it keeps
the links, too.  `Grows` also keeps every file as some file, though not its content.  `SameFiles` is
equality of the regular files, with directories left out of account: directories that were made for
a file stay behind when the file is removed again.

`Stores` is the whole effect of one write, for the writes that replace and for those that do not.
-/

/-- The tree after a change has every directory that it had before, and the same links. -/
structure KeepsDirectories (before after : FileTree) : Prop where
  workingDirectory : after.workingDirectory = before.workingDirectory
  links : after.links = before.links
  directories : ∀ place, before.get? place = some .directory → after.get? place = some .directory

/-- The tree after a change has every directory, and a file wherever it had one before. -/
structure Grows (before after : FileTree) : Prop extends KeepsDirectories before after where
  files : ∀ place, (before.contentAt? place).isSome → (after.contentAt? place).isSome

/-- The two trees have the same regular files with the same content. -/
def SameFiles (before after : FileTree) : Prop :=
  ∀ place, after.contentAt? place = before.contentAt? place

/-- The path can be followed to a regular file, which is not behind a link. -/
structure LeadsToFile (tree : FileTree) (path : String) : Prop where
  located : tree.locate path = .ok (.name (tree.placeOf path) false)
  free : tree.linkAt? (tree.placeOf path) = none
  there : (tree.contentAt? (tree.placeOf path)).isSome

theorem KeepsDirectories.refl (tree : FileTree) : tree.KeepsDirectories tree :=
  ⟨rfl, rfl, fun _ there => there⟩

theorem KeepsDirectories.trans {before middle after : FileTree} (first : before.KeepsDirectories middle)
    (last : middle.KeepsDirectories after) : before.KeepsDirectories after :=
  ⟨last.workingDirectory.trans first.workingDirectory, last.links.trans first.links,
    fun place there => last.directories place (first.directories place there)⟩

theorem Grows.refl (tree : FileTree) : tree.Grows tree :=
  ⟨.refl tree, fun _ there => there⟩

theorem Grows.trans {before middle after : FileTree} (first : before.Grows middle) (last : middle.Grows after) :
    before.Grows after :=
  ⟨first.toKeepsDirectories.trans last.toKeepsDirectories,
    fun place there => last.files place (first.files place there)⟩

theorem SameFiles.refl (tree : FileTree) : tree.SameFiles tree :=
  fun _ => rfl

theorem SameFiles.trans {before middle after : FileTree} (first : before.SameFiles middle)
    (last : middle.SameFiles after) : before.SameFiles after :=
  fun place => (last place).trans (first place)

/-- A change that keeps the directories and all files lets the tree grow. -/
theorem KeepsDirectories.grows {before after : FileTree} (kept : before.KeepsDirectories after)
    (same : before.SameFiles after) : before.Grows after :=
  ⟨kept, fun place there => (same place).symm ▸ there⟩

/-! ## One place -/

/-- A place holds a file exactly when it has a content. -/
theorem get?_eq_file_iff {tree : FileTree} {place : Place} {content : String} :
    tree.get? place = some (.file content) ↔ tree.contentAt? place = some content := by
  rw [contentAt?]
  rcases tree.get? place with _ | _ | _ <;> simp

theorem contentAt?_of_get? {tree : FileTree} {place : Place} (free : tree.get? place = none ∨
    tree.get? place = some .directory) : tree.contentAt? place = none := by
  rcases free with free | free <;> rw [contentAt?, free]

/-- The content of a place follows from the entry that it holds. -/
theorem contentAt?_congr {first second : FileTree} {place : Place} (same : first.get? place = second.get? place) :
    first.contentAt? place = second.contentAt? place := by
  rw [contentAt?, contentAt?, same]

theorem contentAt?_put_self (tree : FileTree) {place : Place} (below : place ≠ []) (content : String) :
    (tree.put place (.file content)).contentAt? place = some content :=
  get?_eq_file_iff.1 (tree.get?_put_self below _)

/-! ## Following a path afterwards -/

theorem KeepsDirectories.placeOf {before after : FileTree} (kept : before.KeepsDirectories after) (path : String) :
    after.placeOf path = before.placeOf path := by
  rw [FileTree.placeOf, FileTree.placeOf, approach_congr kept.links kept.workingDirectory,
    startOf_congr kept.workingDirectory]

theorem KeepsDirectories.enter {before after : FileTree} (kept : before.KeepsDirectories after) {place next : Place}
    {segment : String} (entered : before.enter place segment = .ok next) :
    after.enter place segment = .ok next := by
  rw [FileTree.enter] at entered ⊢
  split at entered
  · next here => rw [if_pos here]; exact entered
  · next notHere =>
    rw [if_neg notHere]
    split at entered
    · next up => rw [if_pos up]; exact entered
    · next notUp =>
      rw [if_neg notUp]
      split at entered
      · cases entered
      · next short =>
        rw [if_neg short]
        split at entered
        · next directory => rw [kept.directories _ directory]; exact entered
        · cases entered
        · cases entered

theorem KeepsDirectories.walk {before after : FileTree} (kept : before.KeepsDirectories after)
    {place target : Place}
    {segments : List String} (reached : before.walk place segments = .ok target) :
    after.walk place segments = .ok target := by
  induction segments generalizing place with
  | nil => exact reached
  | cons segment rest ih =>
    rw [FileTree.walk] at reached ⊢
    cases entered : before.enter place segment with
    | error e => rw [entered] at reached; cases reached
    | ok next =>
      rw [entered] at reached
      rw [kept.enter entered]
      exact ih reached

theorem KeepsDirectories.aim {before after : FileTree} (kept : before.KeepsDirectories after) {start : Place}
    {segments : List String} {target : Target} (aimed : before.aim start segments = .ok target) :
    after.aim start segments = .ok target := by
  rw [FileTree.aim] at aimed ⊢
  split at aimed
  · next front cut =>
    cases walked : before.walk start front with
    | error e => rw [walked] at aimed; cases aimed
    | ok reached => rw [walked] at aimed; rw [kept.walk walked]; exact aimed
  · next front last cut =>
    split at aimed
    · next dots =>
      rw [if_pos dots]
      cases walked : before.walk start (front ++ [last]) with
      | error e => rw [walked] at aimed; cases aimed
      | ok reached => rw [walked] at aimed; rw [kept.walk walked]; exact aimed
    · next ordinary =>
      rw [if_neg ordinary]
      cases walked : before.walk start front with
      | error e => rw [walked] at aimed; cases aimed
      | ok reached => rw [walked] at aimed; rw [kept.walk walked]; exact aimed

theorem KeepsDirectories.follow {before after : FileTree} (kept : before.KeepsDirectories after) {path : String}
    {trail : Trail} {target : Target} (followed : before.follow path trail = .ok target) :
    after.follow path trail = .ok target := by
  rcases follow_eq_ok_iff.1 followed with ⟨noNul, solid, segments, rfl, aimed⟩
  rw [← startOf_congr kept.workingDirectory] at aimed
  exact follow_eq_ok_iff.2 ⟨noNul, solid, segments, rfl, kept.aim aimed⟩

/-- Where a path leads does not change as long as directories and links stay. -/
theorem KeepsDirectories.locate {before after : FileTree} (kept : before.KeepsDirectories after) {path : String}
    {target : Target} (located : before.locate path = .ok target) : after.locate path = .ok target := by
  rw [FileTree.locate, approach_congr kept.links kept.workingDirectory]
  exact kept.follow located

theorem KeepsDirectories.arrive {before after : FileTree} (kept : before.KeepsDirectories after) {path : String}
    {target : Target} (arrived : before.arrive path = .ok target) : after.arrive path = .ok target := by
  rw [FileTree.arrive, trail_congr kept.links, startOf_congr kept.workingDirectory]
  exact kept.follow arrived

theorem LeadsToFile.keep {before after : FileTree} {path : String} (leads : before.LeadsToFile path)
    (kept : before.KeepsDirectories after) (there : (after.contentAt? (before.placeOf path)).isSome) :
    after.LeadsToFile path := by
  have meant := kept.placeOf path
  constructor
  case located => rw [meant]; exact kept.locate leads.located
  case free => rw [meant, linkAt?_congr kept.links]; exact leads.free
  case there => rw [meant]; exact there

/-- Reading a path gives the content of the place that it means. -/
theorem LeadsToFile.read {tree : FileTree} {path content : String} (leads : tree.LeadsToFile path)
    (holds : tree.contentAt? (tree.placeOf path) = some content) : tree.read path = .ok content := by
  have entry := get?_eq_file_iff.2 holds
  have arrived := arrive_of_locate leads.located leads.free
  simp [FileTree.read, status, arrived, entry, bind, Except.bind, pure, Except.pure]

theorem LeadsToFile.exists_read {tree : FileTree} {path : String} (leads : tree.LeadsToFile path) :
    ∃ content, tree.read path = .ok content := by
  rcases Option.isSome_iff_exists.1 leads.there with ⟨content, holds⟩
  exact ⟨content, leads.read holds⟩

/-- Whatever is read under a path that has led to a file lies at its old place. -/
theorem LeadsToFile.contentAt?_of_read {before after : FileTree} {path content : String}
    (leads : before.LeadsToFile path)
    (kept : before.KeepsDirectories after) (readable : after.read path = .ok content) :
    after.contentAt? (before.placeOf path) = some content := by
  have arrived : after.arrive path = .ok (.name (before.placeOf path) false) :=
    kept.arrive (arrive_of_locate leads.located leads.free)
  rw [FileTree.read, status, arrived] at readable
  dsimp only [bind, Except.bind] at readable
  cases entry : after.get? (before.placeOf path) with
  | none => rw [entry] at readable; cases readable
  | some kind =>
    rw [entry] at readable
    cases kind with
    | directory => cases readable
    | file text => cases readable; exact get?_eq_file_iff.1 entry

/-- Without links, a path that can be read leads to a file. -/
theorem leadsToFile_of_read {tree : FileTree} (unlinked : tree.links = []) {path content : String}
    (readable : tree.read path = .ok content) : tree.LeadsToFile path := by
  rw [FileTree.read, status, arrive_of_unlinked unlinked] at readable
  have free (place : Place) : tree.linkAt? place = none := by rw [linkAt?, unlinked]; rfl
  cases located : tree.locate path with
  | error e => rw [located] at readable; cases readable
  | ok target =>
    rw [located] at readable
    cases target with
    | directory place => cases readable
    | name place slash =>
      have same := (placeOf_of_locate located).1
      subst same
      dsimp only [bind, Except.bind] at readable
      cases entry : tree.get? (tree.placeOf path) with
      | none => rw [entry] at readable; cases readable
      | some kind =>
        rw [entry] at readable
        cases kind with
        | directory => cases readable
        | file text =>
          cases slash with
          | true => cases readable
          | false => exact ⟨located, free _, by rw [get?_eq_file_iff.1 entry]; rfl⟩

theorem contentAt?_of_read {tree : FileTree} (unlinked : tree.links = []) {path content : String}
    (readable : tree.read path = .ok content) : tree.contentAt? (tree.placeOf path) = some content := by
  have leads := leadsToFile_of_read unlinked readable
  rcases Option.isSome_iff_exists.1 leads.there with ⟨text, holds⟩
  have same := (leads.read holds).symm.trans readable
  rw [holds, Except.ok.inj same]

theorem pathExists_of_read {tree : FileTree} {path content : String} (readable : tree.read path = .ok content) :
    tree.pathExists path = true := by
  rw [read] at readable
  rw [pathExists]
  cases there : tree.status path with
  | error e => rw [there] at readable; cases readable
  | ok entry => rfl

end FileTree
end Scaffold
