import Mathlib.Data.List.Induction
import Mathlib.Data.List.Pairwise
import Scaffold.Proofs.Job.Site
import Scaffold.Proofs.Snippet.Application

namespace Scaffold
namespace Snippet

/-!
# Snippets that do not get into each other's way

Snippets whose targets are different files, none of them on the way to another, can be applied in
any order and any number of times.  Each is first applied as if it were alone, and does nothing when
it is applied again.
-/

open FileTree Job
open FilePath (Apart IsDescent fileName)

/-- Snippets that go to files of their own. -/
structure AreArranged (snippets : List Snippet) : Prop where
  separate : FilePath.AreSeparate (snippets.map Snippet.targetFile)
  solid : ∀ snippet ∈ snippets, snippet.isAnchored = true → snippet.fragment ≠ []

theorem AreArranged.descends {snippets : List Snippet} (arranged : AreArranged snippets) {snippet : Snippet}
    (listed : snippet ∈ snippets) : IsDescent snippet.targetFile :=
  arranged.separate.descends _ (List.mem_map_of_mem listed)

theorem AreArranged.apart_of_ne {snippets : List Snippet} (arranged : AreArranged snippets) {one other : Snippet}
    (first : one ∈ snippets) (second : other ∈ snippets) (different : one ≠ other) :
    Apart one.targetFile other.targetFile := by
  have symmetric : Std.Symm fun one other : Snippet => Apart one.targetFile other.targetFile :=
    ⟨fun _ _ apart => apart.symm⟩
  exact (List.pairwise_map.1 arranged.separate.apart).forall first second different

/-! ## Applying one after the other -/

/-- The world after snippets have been applied one after the other, with an engine that looks for
their anchors. -/
def applyAll (root : String) (snippets : List Snippet) (world : World) (engine : Pattern.Engine := .standard) :
    World :=
  snippets.foldl (fun world snippet => ((snippet.apply root engine).perform world).2) world

/-- It does not matter when and how often the snippets are applied. -/
structure AreIndependent (root : String) (snippets : List Snippet) (world : World)
    (engine : Pattern.Engine := .standard) : Prop where
  firstOutcome : ∀ earlier, (∀ other ∈ earlier, other ∈ snippets) → ∀ snippet ∈ snippets, snippet ∉ earlier →
    ((snippet.apply root engine).perform (applyAll root earlier world engine)).1 =
    ((snippet.apply root engine).perform world).1
  laterChange : ∀ earlier, (∀ other ∈ earlier, other ∈ snippets) → ∀ snippet ∈ earlier,
    (applyAll root earlier world engine).tree.SameEntries
    ((snippet.apply root engine).perform (applyAll root earlier world engine)).2.tree ∧
      ((snippet.apply root engine).perform (applyAll root earlier world engine)).2.memory =
        (applyAll root earlier world engine).memory
  sameFiles : ∀ first second, (∀ snippet, snippet ∈ first ↔ snippet ∈ snippets) →
    (∀ snippet, snippet ∈ second ↔ snippet ∈ snippets) →
    (applyAll root first world engine).tree.SameFiles (applyAll root second world engine).tree

section

variable {engine : Pattern.Engine} {root : String} {snippets : List Snippet} {site : Site}

/-- What applying the snippet comes to in a tree. -/
abbrev appliedAt (engine : Pattern.Engine) (root : String) (site : Site) (tree : FileTree) (snippet : Snippet) :
    Except Fault Applied × FileTree :=
  snippet.applied engine root tree site.base (site.names snippet.targetFile) (fileName snippet.targetFile)

/-- How far a run has come: `start` is the tree before it, `now` the tree in the middle of it, and
`done` are the snippets that were applied. -/
structure Progress (engine : Pattern.Engine) (root : String) (snippets : List Snippet) (site : Site)
    (start now : FileTree) (done : List Snippet) :
    Prop extends Touches start now site (snippets.map Snippet.targetFile) where
  rooted : now.HasRoot root site
  fresh : ∀ snippet ∈ snippets, snippet ∉ done → start.AlikeAt now site snippet.targetFile
  applied : ∀ snippet ∈ snippets, snippet ∈ done →
    (snippet.appliedAt engine root site start).2.AlikeAt now site snippet.targetFile

theorem Progress.start {tree : FileTree} (has : tree.HasRoot root site) :
    Progress engine root snippets site tree tree [] where
  toTouches := .refl tree site _
  rooted := has
  fresh _ _ _ := .refl tree _ _ _
  applied _ _ member := by cases member

variable {start now : FileTree} {done : List Snippet} {snippet : Snippet}

section

variable (arranged : AreArranged snippets) (has : start.HasRoot root site)
  (progress : Progress engine root snippets site start now done) (listed : snippet ∈ snippets)
include arranged listed

/-- What a snippet does leaves the other snippets' targets and ways as they were. -/
theorem appliedAt_alike {other : Snippet} (otherListed : other ∈ snippets) (different : other ≠ snippet)
    (now : FileTree) : now.AlikeAt (snippet.appliedAt engine root site now).2 site other.targetFile := by
  have overlays := snippet.applied_overlays engine root now site.base (site.names snippet.targetFile)
    (fileName snippet.targetFile)
  apply (overlays.touches List.mem_cons_self).alike
  intro path member
  rw [List.mem_singleton.1 member]
  exact arranged.apart_of_ne listed otherListed different.symm

include progress

theorem Progress.ends : now.EndsAt (FilePath.join root snippet.targetFile) site.base (site.names snippet.targetFile)
    (fileName snippet.targetFile) :=
  progress.rooted.ends _ (arranged.descends listed)

include has

/-- A snippet that is applied for the first time does what it would have done at the start. -/
theorem Progress.first (fresh : snippet ∉ done) :
    (snippet.appliedAt engine root site now).1 = (snippet.appliedAt engine root site start).1 ∧
      (snippet.appliedAt engine root site start).2.AlikeAt
        (snippet.appliedAt engine root site now).2 site snippet.targetFile :=
  applied_alike (has.ends _ (arranged.descends listed)) (progress.ends arranged listed)
    (progress.fresh snippet listed fresh)

/-- A snippet that is applied again changes nothing. -/
theorem Progress.again (member : snippet ∈ done) : now.SameEntries (snippet.appliedAt engine root site now).2 := by
  have first := has.ends _ (arranged.descends listed)
  have kept := (snippet.applied_overlays engine root start site.base (site.names snippet.targetFile)
    (fileName snippet.targetFile)).toKeepsDirectories
  exact applied_sameEntries (first.keep kept (applied_closed first)) (progress.ends arranged listed)
    (progress.applied snippet listed member) (applied_settled first (arranged.solid snippet listed))

/-- One more snippet has been applied. -/
theorem Progress.step :
    Progress engine root snippets site start (snippet.appliedAt engine root site now).2 (done ++ [snippet]) := by
  have overlays := snippet.applied_overlays engine root now site.base (site.names snippet.targetFile)
    (fileName snippet.targetFile)
  constructor
  case toTouches => exact progress.toTouches.trans (overlays.touches (List.mem_map_of_mem listed))
  case rooted =>
    exact progress.rooted.keep overlays.toKeepsDirectories (applied_closed (progress.ends arranged listed))
  case fresh =>
    intro other otherListed fresh
    rw [List.mem_append, List.mem_singleton, not_or] at fresh
    exact (progress.fresh other otherListed fresh.1).trans
      (appliedAt_alike arranged listed otherListed fresh.2 now)
  case applied =>
    intro other otherListed member
    by_cases same : other = snippet
    · subst same
      by_cases earlier : other ∈ done
      · have settled := progress.again arranged has listed earlier
        refine (progress.applied other listed earlier).trans ⟨⟨overlays.toKeepsDirectories, ?_⟩, settled.entries _⟩
        exact fun _ _ _ => .inl (settled.entries _)
      · exact (progress.first arranged has listed earlier).2
    · have earlier : other ∈ done := by
        rcases List.mem_append.1 member with earlier | last
        · exact earlier
        · exact absurd (List.mem_singleton.1 last) same
      exact (progress.applied other otherListed earlier).trans
        (appliedAt_alike arranged listed otherListed same now)

end

theorem applyAll_concat (engine : Pattern.Engine) (root : String) (earlier : List Snippet) (snippet : Snippet)
    (world : World) :
    applyAll root (earlier ++ [snippet]) world engine =
      ((snippet.apply root engine).perform (applyAll root earlier world engine)).2 := by
  rw [applyAll, List.foldl_append]
  rfl

/-- A run through snippets that go to files of their own. -/
theorem progress_applyAll (engine : Pattern.Engine) (arranged : AreArranged snippets) {world : World}
    (has : world.tree.HasRoot root site)
    {order : List Snippet} (listed : ∀ snippet ∈ order, snippet ∈ snippets) :
    Progress engine root snippets site world.tree (applyAll root order world engine).tree order ∧
      (applyAll root order world engine).memory = world.memory := by
  induction order using List.reverseRecOn with
  | nil => exact ⟨.start has, rfl⟩
  | append_singleton earlier snippet ih =>
    rcases List.forall_mem_append.1 listed with ⟨others, last⟩
    rcases ih others with ⟨progress, memory⟩
    have member := last snippet List.mem_cons_self
    rw [applyAll_concat, perform_apply (progress.ends arranged member)]
    exact ⟨progress.step arranged has member, memory⟩

/-- Snippets that go to files of their own are independent. -/
theorem areIndependent (arranged : AreArranged snippets) {world : World} (closed : world.tree.IsClosed)
    (turns : world.tree.TurnsSafely root) : AreIndependent root snippets world engine := by
  rcases exists_site closed turns with ⟨site, has, -⟩
  have run {order : List Snippet} (listed : ∀ snippet ∈ order, snippet ∈ snippets) :=
    progress_applyAll engine arranged has listed
  constructor
  case firstOutcome =>
    intro earlier listed snippet member fresh
    have progress := (run listed).1
    rw [perform_apply (progress.ends arranged member),
      perform_apply (has.ends _ (arranged.descends member))]
    exact (progress.first arranged has member fresh).1
  case laterChange =>
    intro earlier listed snippet member
    have progress := (run listed).1
    rw [perform_apply (progress.ends arranged (listed snippet member))]
    exact ⟨progress.again arranged has (listed snippet member) member, rfl⟩
  case sameFiles =>
    intro first second allFirst allSecond place
    have one := (run fun snippet member => (allFirst snippet).1 member).1
    have two := (run fun snippet member => (allSecond snippet).1 member).1
    by_cases target : ∃ snippet ∈ snippets, place = site.place snippet.targetFile
    · rcases target with ⟨snippet, member, rfl⟩
      have inOne := (one.applied snippet member ((allFirst snippet).2 member)).ending
      have inTwo := (two.applied snippet member ((allSecond snippet).2 member)).ending
      exact contentAt?_congr (inTwo.trans inOne.symm)
    · have outside : ∀ path ∈ snippets.map Snippet.targetFile, place ≠ site.place path := by
        rw [List.forall_mem_map]
        exact fun snippet member same => target ⟨snippet, member, same⟩
      rw [one.contentAt? outside, two.contentAt? outside]

end

end Snippet
end Scaffold
