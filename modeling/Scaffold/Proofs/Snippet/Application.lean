import Scaffold.Apply
import Scaffold.Proofs.Job.Deposit
import Scaffold.Proofs.Text.Occurrence

namespace Scaffold
namespace Snippet

/-!
# Applying a snippet

Applying a snippet is looking at its target first, and then writing it or not.  What is seen depends
on the end of the target's path alone, and so does what is written.  A snippet that has been applied
is not written again: where it went it is found, and where it could not be written it still cannot.
-/

open FileTree Job

/-! ## Looking, then writing -/

/-- What follows from what is seen of a snippet's target: a fault, or what will have been done and
the content to be written, if any. -/
@[irreducible]
def judge (snippet : Snippet) (engine : Pattern.Engine) (path : String) (there : Bool)
    (read : Except OsError String) :
    Except Fault (Applied × Option String) :=
  match there, snippet.isAnchored with
  | true, true =>
    match read with
    | .error e => .error (.fileOperation "read" path e)
    | .ok content =>
      (snippet.splice content engine).map fun
        | .alreadyPresent => (.alreadyPresent, none)
        | .merged text => (.merged, some text)
  | false, false => .ok (.created, some (String.ofList (snippet.fragment ++ ['\n'])))
  | true, false => .ok (.skipped (snippet.targetFile ++ " exists and the snippet has no anchor"), none)
  | false, true =>
    .ok (.skipped (snippet.targetFile ++ " does not exist; add the " ++ snippet.insertionPoint ++
      " anchor first"), none)

/-- What follows from what a tree has at the snippet's target. -/
def verdict (snippet : Snippet) (engine : Pattern.Engine) (root : String) (tree : FileTree) :
    Except Fault (Applied × Option String) :=
  snippet.judge engine (FilePath.join root snippet.targetFile)
    (tree.pathExists (FilePath.join root snippet.targetFile))
    (tree.read (FilePath.join root snippet.targetFile))

/-- The deposit by which the snippet's target gets a content. -/
@[irreducible]
def deposit (snippet : Snippet) (root content : String) : Deposit where
  overwrite := true
  path := FilePath.join root snippet.targetFile
  content
  directory := (FilePath.parent? (FilePath.join root snippet.targetFile)).getD "."
  unmade := .fileOperation "create directory" ((FilePath.parent? (FilePath.join root snippet.targetFile)).getD ".")
  unwritten := .fileOperation "write" (FilePath.join root snippet.targetFile)

@[simp] theorem path_deposit (snippet : Snippet) (root content : String) :
    (snippet.deposit root content).path = FilePath.join root snippet.targetFile := by
  rw [deposit]

@[simp] theorem content_deposit (snippet : Snippet) (root content : String) :
    (snippet.deposit root content).content = content := by
  rw [deposit]

theorem replaceContent_eq_job (snippet : Snippet) (root content : String) :
    replaceContent (FilePath.join root snippet.targetFile) content = (snippet.deposit root content).job := by
  unfold replaceContent Deposit.job deposit
  simp only [store, if_true]

/-- Writes what is to be written of a snippet, if anything. -/
def follow (snippet : Snippet) (root : String) : Applied × Option String → Job Applied
  | (done, none) => return done
  | (done, some content) => do
    (snippet.deposit root content).job
    return done

/-- Applying a snippet is to look, and then to do what follows from what is seen. -/
theorem perform_apply_eq (snippet : Snippet) (engine : Pattern.Engine) (root : String) (world : World) :
    (snippet.apply root engine).perform world =
      match snippet.verdict engine root world.tree with
      | .error fault => (.error fault, world)
      | .ok decided => (snippet.follow root decided).perform world := by
  rw [apply, perform_bind, perform_tree, verdict, judge.eq_def]
  dsimp only
  cases there : world.tree.pathExists (FilePath.join root snippet.targetFile) with
  | false =>
    cases snippet.isAnchored with
    | false =>
      dsimp only
      rw [replaceContent_eq_job]
      rfl
    | true => rfl
  | true =>
    cases snippet.isAnchored with
    | false => rfl
    | true =>
      dsimp only
      cases world.tree.read (FilePath.join root snippet.targetFile) with
      | error e => rfl
      | ok content =>
        dsimp only
        rw [perform_bind, perform_ofExcept]
        cases snippet.splice content engine with
        | error fault => rfl
        | ok spliced =>
          cases spliced with
          | alreadyPresent => rfl
          | merged text =>
            dsimp only
            rw [replaceContent_eq_job]
            rfl

variable {engine : Pattern.Engine} {snippet : Snippet} {root : String} {tree before after : FileTree}
  {base : Place} {names : List String}
  {last : String}

/-- What may follow for a snippet from what is seen of its target, with what it follows from. -/
inductive Decided (snippet : Snippet) (engine : Pattern.Engine) (root : String) (tree : FileTree) :
    Applied × Option String → Prop where
  | alreadyPresent {old : String} (anchored : snippet.isAnchored = true)
      (readable : tree.read (FilePath.join root snippet.targetFile) = .ok old)
      (held : snippet.splice old engine = .ok .alreadyPresent) :
        Decided snippet engine root tree (.alreadyPresent, none)
  | merged {old text : String} (anchored : snippet.isAnchored = true)
      (readable : tree.read (FilePath.join root snippet.targetFile) = .ok old)
      (spliced : snippet.splice old engine = .ok (.merged text)) :
        Decided snippet engine root tree (.merged, some text)
  | created (bare : snippet.isAnchored = false)
      (absent : tree.pathExists (FilePath.join root snippet.targetFile) = false) :
      Decided snippet engine root tree (.created, some (String.ofList (snippet.fragment ++ ['\n'])))
  | skipped (reason : String)
      (differs : tree.pathExists (FilePath.join root snippet.targetFile) ≠ snippet.isAnchored) :
      Decided snippet engine root tree (.skipped reason, none)

theorem decided_of_verdict {decided : Applied × Option String}
    (seen : snippet.verdict engine root tree = .ok decided) :
    snippet.Decided engine root tree decided := by
  rw [verdict, judge.eq_def] at seen
  split at seen
  · next anchored =>
    split at seen
    · cases seen
    next old readable =>
    cases spliced : snippet.splice old engine with
    | error fault =>
      rw [spliced] at seen
      cases seen
    | ok result =>
      rw [spliced] at seen
      cases result with
      | alreadyPresent =>
        cases seen
        exact .alreadyPresent anchored readable spliced
      | merged text =>
        cases seen
        exact .merged anchored readable spliced
  · next absent bare =>
    cases seen
    exact .created bare absent
  · next there bare =>
    cases seen
    exact .skipped _ (by rw [there, bare]; nofun)
  · next absent anchored =>
    cases seen
    exact .skipped _ (by rw [absent, anchored]; nofun)

/-- What comes of a snippet whose target lies at the end of a way. -/
def applied (snippet : Snippet) (engine : Pattern.Engine) (root : String) (tree : FileTree) (base : Place)
    (names : List String) (last : String) : Except Fault Applied × FileTree :=
  match snippet.verdict engine root tree with
  | .error fault => (.error fault, tree)
  | .ok (done, none) => (.ok done, tree)
  | .ok (done, some content) =>
    let result := (snippet.deposit root content).result tree base names last
    (result.1.map fun _ => done, result.2)

theorem applied_of_fault {fault : Fault} (seen : snippet.verdict engine root tree = .error fault) :
    snippet.applied engine root tree base names last = (.error fault, tree) := by
  rw [applied, seen]

theorem applied_of_idle {done : Applied} (seen : snippet.verdict engine root tree = .ok (done, none)) :
    snippet.applied engine root tree base names last = (.ok done, tree) := by
  rw [applied, seen]

theorem applied_of_content {done : Applied} {content : String}
    (seen : snippet.verdict engine root tree = .ok (done, some content)) :
    snippet.applied engine root tree base names last =
      (((snippet.deposit root content).result tree base names last).1.map fun _ => done,
        ((snippet.deposit root content).result tree base names last).2) := by
  rw [applied, seen]

/-- The directory that is made for a snippet is that of its target. -/
theorem parent?_deposit (ends : tree.EndsAt (FilePath.join root snippet.targetFile) base names last)
    (content : String) :
    FilePath.parent? (snippet.deposit root content).path = some (snippet.deposit root content).directory := by
  rcases ends.exists_parent with ⟨parent, cut, -⟩
  rw [deposit]
  dsimp only
  rw [cut, Option.getD_some]

theorem perform_apply {world : World}
    (ends : world.tree.EndsAt (FilePath.join root snippet.targetFile) base names last) :
    (snippet.apply root engine).perform world =
      ((snippet.applied engine root world.tree base names last).1,
        { world with tree := (snippet.applied engine root world.tree base names last).2 }) := by
  rw [perform_apply_eq]
  cases seen : snippet.verdict engine root world.tree with
  | error fault =>
    rw [applied_of_fault seen]
  | ok decided =>
    rcases decided with ⟨done, _ | content⟩
    · rw [applied_of_idle seen]
      rfl
    · have deposited : world.tree.EndsAt (snippet.deposit root content).path base names last := by
        rw [path_deposit]
        exact ends
      dsimp only [follow]
      rw [applied_of_content seen, perform_bind, Deposit.perform_job deposited (parent?_deposit ends content)]
      cases ((snippet.deposit root content).result world.tree base names last).1 <;> rfl

/-! ## In trees that are alike -/

section

variable (first : before.EndsAt (FilePath.join root snippet.targetFile) base names last)
  (second : after.EndsAt (FilePath.join root snippet.targetFile) base names last)
include first second

theorem verdict_congr (engine : Pattern.Engine)
    (ending : after.get? (base ++ names ++ [last]) = before.get? (base ++ names ++ [last])) :
    snippet.verdict engine root after = snippet.verdict engine root before := by
  rw [verdict, verdict, (first.seesAlike second ending).pathExists]
  cases there : before.pathExists (FilePath.join root snippet.targetFile) with
  | false =>
    rw [judge.eq_def, judge.eq_def]
    cases snippet.isAnchored <;> rfl
  | true => rw [(first.seesAlike second ending).read there]

/-- In alike trees, the outcome is the same, and the trees are alike afterwards. -/
theorem applied_alike (alike : before.Alike after base names last) :
    (snippet.applied engine root after base names last).1 = (snippet.applied engine root before base names last).1 ∧
      (snippet.applied engine root before base names last).2.Alike
        (snippet.applied engine root after base names last).2 base names
        last := by
  have same := verdict_congr first second engine alike.ending
  cases seen : snippet.verdict engine root before with
  | error fault =>
    rw [applied_of_fault seen, applied_of_fault (same.trans seen)]
    exact ⟨rfl, alike⟩
  | ok decided =>
    rcases decided with ⟨done, _ | content⟩
    · rw [applied_of_idle seen, applied_of_idle (same.trans seen)]
      exact ⟨rfl, alike⟩
    · rcases (snippet.deposit root content).result_alike alike with ⟨outcome, left⟩
      rw [applied_of_content seen, applied_of_content (same.trans seen)]
      refine ⟨?_, left⟩
      dsimp only
      rw [outcome]

/-- A snippet that changes nothing in one tree changes nothing in a tree that is alike. -/
theorem applied_sameEntries (alike : before.Alike after base names last)
    (settled : before.SameEntries (snippet.applied engine root before base names last).2) :
    after.SameEntries (snippet.applied engine root after base names last).2 := by
  have same := verdict_congr first second engine alike.ending
  cases seen : snippet.verdict engine root before with
  | error fault =>
    rw [applied_of_fault (same.trans seen)]
    exact .refl after
  | ok decided =>
    rcases decided with ⟨done, _ | content⟩
    · rw [applied_of_idle (same.trans seen)]
      exact .refl after
    · rw [applied_of_content seen] at settled
      rw [applied_of_content (same.trans seen)]
      exact Deposit.result_sameEntries alike settled

end

/-! ## What is left behind -/

theorem applied_overlays (snippet : Snippet) (engine : Pattern.Engine) (root : String) (tree : FileTree)
    (base : Place) (names : List String) (last : String) :
    tree.Overlays (snippet.applied engine root tree base names last).2 (OnWay base names)
      (base ++ names ++ [last]) := by
  cases seen : snippet.verdict engine root tree with
  | error fault =>
    rw [applied_of_fault seen]
    exact .refl tree _ _
  | ok decided =>
    rcases decided with ⟨done, _ | content⟩
    · rw [applied_of_idle seen]
      exact .refl tree _ _
    · rw [applied_of_content seen]
      exact Deposit.result_overlays _ tree base names last

theorem applied_closed (ends : tree.EndsAt (FilePath.join root snippet.targetFile) base names last) :
    (snippet.applied engine root tree base names last).2.IsClosedBelow base := by
  cases seen : snippet.verdict engine root tree with
  | error fault =>
    rw [applied_of_fault seen]
    exact ends.closed
  | ok decided =>
    rcases decided with ⟨done, _ | content⟩
    · rw [applied_of_idle seen]
      exact ends.closed
    · rw [applied_of_content seen]
      exact Deposit.result_closed ends.closed ends.named

/-! ## Applying again -/

/-- A text into which a snippet has been merged holds it. -/
theorem splice_of_merged {content text : String} (solid : snippet.fragment ≠ [])
    (merged : snippet.splice content engine = .ok (.merged text)) :
    snippet.splice text engine = .ok .alreadyPresent := by
  rw [splice] at merged ⊢
  split at merged
  · cases merged
  cases cut : snippet.insertionCut content.toList engine with
  | error fault =>
    rw [cut] at merged
    cases merged
  | ok place =>
    rw [cut] at merged
    cases merged
    have present : snippet.isPresentIn (mergeAt snippet.fragment place) = true := by
      rw [isPresentIn, Bool.and_eq_true, Text.occurs_iff, mergeAt]
      exact ⟨by simpa using solid, _, _, rfl⟩
    rw [String.toList_ofList, if_pos present]

theorem verdict_of_found {content : String}
    (readable : tree.read (FilePath.join root snippet.targetFile) = .ok content)
    (held : snippet.isAnchored = true → snippet.splice content engine = .ok .alreadyPresent) :
    ∃ done, snippet.verdict engine root tree = .ok (done, none) ∧
      (snippet.isAnchored = true → done = .alreadyPresent) ∧
      (snippet.isAnchored = false → ∃ reason, done = .skipped reason) := by
  rw [verdict, pathExists_of_read readable, readable, judge.eq_def]
  cases anchored : snippet.isAnchored with
  | false => exact ⟨_, rfl, nofun, fun _ => ⟨_, rfl⟩⟩
  | true =>
    dsimp only
    rw [held anchored]
    exact ⟨_, rfl, fun _ => rfl, nofun⟩

/-- What an anchored snippet writes holds it. -/
theorem splice_of_verdict (solid : snippet.isAnchored = true → snippet.fragment ≠ []) {done : Applied}
    {content : String} (seen : snippet.verdict engine root tree = .ok (done, some content))
    (anchored : snippet.isAnchored = true) : snippet.splice content engine = .ok .alreadyPresent := by
  cases decided_of_verdict seen with
  | merged _ readable spliced => exact splice_of_merged (solid anchored) spliced
  | created bare absent => exact absurd (anchored.symm.trans bare) nofun

/-- Nothing is left to be done where a snippet has been applied. -/
theorem applied_settled (ends : tree.EndsAt (FilePath.join root snippet.targetFile) base names last)
    (solid : snippet.isAnchored = true → snippet.fragment ≠ []) :
    (snippet.applied engine root tree base names last).2.SameEntries
      (snippet.applied engine root (snippet.applied engine root tree base names last).2 base names last).2 := by
  have kept := (snippet.applied_overlays engine root tree base names last).toKeepsDirectories
  have later := ends.keep kept (applied_closed ends)
  cases seen : snippet.verdict engine root tree with
  | error fault =>
    rw [applied_of_fault seen]
    dsimp only
    rw [applied_of_fault seen]
    exact .refl tree
  | ok decided =>
    rcases decided with ⟨done, _ | content⟩
    · rw [applied_of_idle seen]
      dsimp only
      rw [applied_of_idle seen]
      exact .refl tree
    · rw [applied_of_content seen] at later ⊢
      dsimp only at later ⊢
      cases outcome : ((snippet.deposit root content).result tree base names last).1 with
      | ok _ =>
        -- The file has been written, and the snippet is found in it.
        have deposited : tree.EndsAt (snippet.deposit root content).path base names last := by
          rw [path_deposit]
          exact ends
        have found := Deposit.status_result deposited outcome
        rw [path_deposit, content_deposit] at found
        have readable : ((snippet.deposit root content).result tree base names last).2.read
            (FilePath.join root snippet.targetFile) = .ok content := by
          rw [FileTree.read, found]
          rfl
        rcases verdict_of_found readable (splice_of_verdict solid seen) with ⟨again, idle, -⟩
        rw [applied_of_idle idle]
        exact .refl _
      | error fault =>
        -- What could not be written cannot be written now.
        have unchanged := (snippet.deposit root content).get?_result tree base names last
        rw [outcome] at unchanged
        have same := verdict_congr ends later engine unchanged
        rw [applied_of_content (same.trans seen), Deposit.result_again outcome]
        exact .refl _

end Snippet
end Scaffold
