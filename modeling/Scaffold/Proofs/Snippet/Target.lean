import Scaffold.Proofs.Snippet.Application
import Scaffold.Proofs.Splice.Marker

namespace Scaffold
namespace Snippet

/-!
# The target of a snippet

Whatever the path of its target looks like, and wherever it leads, applying a snippet writes one
file or none.  A run that ends in any other way than with a written file has at most made
directories.  What a run has written stops the next one: an anchored snippet is found in its target,
and a target without an anchor is not written once it exists.
-/

open FileTree Job

variable {engine : Pattern.Engine} {snippet : Snippet} {root : String} {before after : FileTree}

/-- What a run has done to the files when it ends as it does. -/
inductive Leaves (snippet : Snippet) (engine : Pattern.Engine) (root : String) (before after : FileTree) :
    Except Fault Applied → Prop where
  | failed (fault : Fault) (files : before.SameFiles after) : Leaves snippet engine root before after (.error fault)
  | skipped (reason : String)
      (differs : before.pathExists (FilePath.join root snippet.targetFile) ≠ snippet.isAnchored)
      (same : after = before) :
      Leaves snippet engine root before after (.ok (.skipped reason))
  | alreadyPresent (anchored : snippet.isAnchored = true) (same : after = before) :
      Leaves snippet engine root before after (.ok .alreadyPresent)
  | merged {old text : String} (anchored : snippet.isAnchored = true)
      (held : before.contentAt? (before.placeOf (FilePath.join root snippet.targetFile)) = some old)
      (spliced : snippet.splice old engine = .ok (.merged text))
      (stored : before.Stores after (FilePath.join root snippet.targetFile) text) :
      Leaves snippet engine root before after (.ok .merged)
  | created (bare : snippet.isAnchored = false)
      (absent : before.pathExists (FilePath.join root snippet.targetFile) = false)
      (stored : before.Stores after (FilePath.join root snippet.targetFile)
        (String.ofList (Text.trimEnd snippet.content.toList ++ ['\n']))) :
      Leaves snippet engine root before after (.ok .created)

/-- Following what was decided ends as decided, with the content written, or fails on the way to
it. -/
theorem follow_cases {done : Applied} {content : String} {world after : World} {outcome : Except Fault Applied}
    (unlinked : world.tree.links = [])
    (performed : (snippet.follow root (done, some content)).perform world = (outcome, after)) :
    after.memory = world.memory ∧
      ((∃ fault, outcome = .error fault) ∧ world.tree.SameFiles after.tree ∨
        outcome = .ok done ∧ world.tree.Stores after.tree (FilePath.join root snippet.targetFile) content) := by
  have still : (snippet.deposit root content).overwrite = true → world.tree.links = [] := fun _ => unlinked
  rw [follow] at performed
  rcases perform_bind_cases performed with ⟨fault, deposited, rfl⟩ | ⟨_, middle, deposited, performed⟩
  · rcases Deposit.job_cases still deposited with ⟨memory, ⟨-, added⟩ | ⟨succeeded, -⟩⟩
    · exact ⟨memory, .inl ⟨⟨fault, rfl⟩, added.sameFiles⟩⟩
    · cases succeeded
  · cases performed
    rcases Deposit.job_cases still deposited with ⟨memory, ⟨⟨_, failed⟩, -⟩ | ⟨-, stores, -⟩⟩
    · cases failed
    · rw [path_deposit, content_deposit] at stores
      exact ⟨memory, .inr ⟨rfl, stores⟩⟩

theorem apply_leaves {world after : World} {outcome : Except Fault Applied} (unlinked : world.tree.links = [])
    (performed : (snippet.apply root engine).perform world = (outcome, after)) :
    after.memory = world.memory ∧ snippet.Leaves engine root world.tree after.tree outcome := by
  rw [perform_apply_eq] at performed
  cases seen : snippet.verdict engine root world.tree with
  | error fault =>
    rw [seen] at performed
    cases performed
    exact ⟨rfl, .failed fault (.refl _)⟩
  | ok decided =>
    rw [seen] at performed
    dsimp only at performed
    cases decided_of_verdict seen with
    | alreadyPresent anchored =>
      cases performed
      exact ⟨rfl, .alreadyPresent anchored rfl⟩
    | skipped reason differs =>
      cases performed
      exact ⟨rfl, .skipped reason differs rfl⟩
    | merged anchored readable spliced =>
      rcases follow_cases unlinked performed with ⟨memory, ⟨⟨fault, rfl⟩, files⟩ | ⟨rfl, stored⟩⟩
      · exact ⟨memory, .failed fault files⟩
      · exact ⟨memory, .merged anchored (contentAt?_of_read unlinked readable) spliced stored⟩
    | created bare absent =>
      rcases follow_cases unlinked performed with ⟨memory, ⟨⟨fault, rfl⟩, files⟩ | ⟨rfl, stored⟩⟩
      · exact ⟨memory, .failed fault files⟩
      · exact ⟨memory, .created bare absent stored⟩

/-! ## The next run -/

/-- A file that was stored is there for the next run, which leaves it. -/
theorem perform_apply_of_stores {world after : World} {content : String}
    (stored : world.tree.Stores after.tree (FilePath.join root snippet.targetFile) content)
    (held : snippet.isAnchored = true → snippet.splice content engine = .ok .alreadyPresent) :
    ∃ done, (snippet.apply root engine).perform after = (.ok done, after) ∧
      (snippet.isAnchored = true → done = .alreadyPresent) ∧
      (snippet.isAnchored = false → ∃ reason, done = .skipped reason) := by
  have readable : after.tree.read (FilePath.join root snippet.targetFile) = .ok content := by
    apply stored.leadsToFile.read
    rw [stored.grows.placeOf]
    exact stored.content
  rcases verdict_of_found readable held with ⟨done, seen, marked, unmarked⟩
  refine ⟨done, ?_, marked, unmarked⟩
  rw [perform_apply_eq, seen]
  rfl

/-- Whatever engine searches the texts, a snippet touches its target only, and a snippet that is not
blank only once, in every tree without links.  A run that fails leaves every file as it was, one
that skips the snippet or finds it present leaves everything as it was, and any other has merged the
snippet into its target, or created the target from it, without a change to another file.  After
that nothing more is written. -/
theorem apply_touches_target {world after : World} {outcome : Except Fault Applied}
    (unlinked : world.tree.links = [])
    (performed : (snippet.apply root engine).perform world = (outcome, after)) :
    after.memory = world.memory ∧ snippet.Leaves engine root world.tree after.tree outcome ∧
    (outcome = .ok .merged → Text.blank snippet.content = false →
      (snippet.apply root engine).perform after = (.ok .alreadyPresent, after)) ∧
    (outcome = .ok .created → ∃ reason, (snippet.apply root engine).perform after =
      (.ok (.skipped reason), after)) := by
  rcases apply_leaves unlinked performed with ⟨memory, leaves⟩
  refine ⟨memory, leaves, ?_, ?_⟩
  · rintro rfl solid
    cases leaves with
    | merged anchored held spliced stored =>
      have again := splice_of_merged (fragment_ne_nil solid) spliced
      rcases perform_apply_of_stores stored fun _ => again with ⟨done, performed, marked, -⟩
      rw [performed, marked anchored]
  · rintro rfl
    cases leaves with
    | created bare absent stored =>
      rcases perform_apply_of_stores stored fun anchored => absurd (anchored.symm.trans bare) nofun with
        ⟨done, performed, -, skipped⟩
      rcases skipped bare with ⟨reason, rfl⟩
      exact ⟨reason, performed⟩

/-- A line of a menu. -/
def menuLine : Snippet where
  id := "orders"
  content := "menu.Add(orders)\n"
  targetFile := "admin/menu.go"
  insertionPoint := "menu"
  insertBefore := some "end of the menu"
  description := "entry for orders"
  priority := 1
  category := "menu"

/-- A file of its own, in a directory that is not there yet. -/
def menuFile : Snippet :=
  { menuLine with targetFile := "admin/orders/menu.go", insertBefore := none }

/-- A project with a menu. -/
def menuTree : FileTree where
  entries := [(["work"], .directory), (["work", "admin"], .directory),
    (["work", "admin", "menu.go"], .file "package admin\n// end of the menu\n")]
  workingDirectory := ["work"]

theorem apply_touches_target_menu :
    let world : World := { tree := menuTree }
    let mended := (menuLine.apply "/work").perform world
    let added := (menuFile.apply "/work").perform world
    (mended.1 = .ok .merged ∧ menuLine.Leaves .standard "/work" menuTree mended.2.tree mended.1 ∧
      mended.2.tree.contentAt? ["work", "admin", "menu.go"] =
        some "package admin\nmenu.Add(orders)\n// end of the menu\n" ∧
      (menuLine.apply "/work").perform mended.2 = (.ok .alreadyPresent, mended.2)) ∧
    (added.1 = .ok .created ∧ menuFile.Leaves .standard "/work" menuTree added.2.tree added.1 ∧
      added.2.tree.contentAt? ["work", "admin", "orders", "menu.go"] = some "menu.Add(orders)\n" ∧
      ∃ reason, (menuFile.apply "/work").perform added.2 = (.ok (.skipped reason), added.2)) := by
  intro world mended added
  have merged : mended.1 = .ok .merged := by decide +kernel
  have created : added.1 = .ok .created := by decide +kernel
  have first := apply_touches_target rfl (Prod.eta mended).symm
  have second := apply_touches_target rfl (Prod.eta added).symm
  exact ⟨⟨merged, first.2.1, by decide +kernel, first.2.2.1 merged (by decide +kernel)⟩,
    ⟨created, second.2.1, by decide +kernel, second.2.2.2 created⟩⟩

end Snippet
end Scaffold
