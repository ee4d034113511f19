import Mathlib.Data.List.Pairwise
import Scaffold.Proofs.Job.Deposit

namespace Scaffold

/-!
# Files below one root

Files that are written below one root have ways that begin alike: they start from the directory to
which the root can be followed, and lead through the rest of the root first.  As long as no path
leads through another, writing a file leaves the ways of the others alone, and what is at their
ends.
-/

namespace FilePath

/-- The segments of a path before the last. -/
def folders (path : String) : List String :=
  (segments path).dropLast

/-- The last segment of a path. -/
def fileName (path : String) : String :=
  (segments path).getLast?.getD ""

theorem segments_eq_concat (path : String) : segments path = folders path ++ [fileName path] := by
  have some : segments path ≠ [] := by
    rw [segments]
    simpa using Text.pieces_ne_nil _ _
  rw [folders, fileName, List.getLast?_eq_some_getLast some]
  exact (List.dropLast_concat_getLast some).symm

/-- A relative path that leads down from name to name. -/
structure IsDescent (path : String) : Prop where
  relative : isAbsolute path = false
  named : ∀ segment ∈ segments path, IsName segment

/-- Neither path leads through the other. -/
def Apart (one other : String) : Prop :=
  ¬ segments one <+: segments other ∧ ¬ segments other <+: segments one

theorem Apart.symm {one other : String} (apart : Apart one other) : Apart other one :=
  ⟨apart.2, apart.1⟩

instance : Std.Symm Apart :=
  ⟨fun _ _ apart => apart.symm⟩

theorem not_prefix_folders (path : String) : ¬ segments path <+: folders path := by
  intro part
  have longer := part.length_le
  rw [segments_eq_concat, List.length_append, List.length_singleton] at longer
  omega

theorem Apart.not_prefix_folders {one other : String} (apart : Apart one other) :
    ¬ segments one <+: folders other := by
  intro part
  have further := part.trans (List.prefix_append (folders other) [fileName other])
  rw [← segments_eq_concat] at further
  exact apart.1 further

/-- Paths that lead down, none of them through another. -/
structure AreSeparate (paths : List String) : Prop where
  descends : ∀ path ∈ paths, IsDescent path
  apart : paths.Pairwise Apart

theorem AreSeparate.apart_of_ne {paths : List String} (separate : AreSeparate paths) {one other : String}
    (first : one ∈ paths) (second : other ∈ paths) (different : one ≠ other) : Apart one other :=
  separate.apart.forall first second different

/-- No path of them leads through the place of one of them. -/
theorem AreSeparate.not_prefix_folders {paths : List String} (separate : AreSeparate paths) {one other : String}
    (first : one ∈ paths) (second : other ∈ paths) : ¬ segments one <+: folders other := by
  by_cases same : one = other
  · rw [same]
    exact FilePath.not_prefix_folders other
  · exact (separate.apart_of_ne first second same).not_prefix_folders

theorem AreSeparate.tail {path : String} {rest : List String} (separate : AreSeparate (path :: rest)) :
    AreSeparate rest :=
  ⟨fun other member => separate.descends other (List.mem_cons_of_mem path member),
    (List.pairwise_cons.1 separate.apart).2⟩

theorem AreSeparate.head {path : String} {rest : List String} (separate : AreSeparate (path :: rest)) :
    ∀ other ∈ rest, Apart path other :=
  (List.pairwise_cons.1 separate.apart).1

theorem AreSeparate.nodup {paths : List String} (separate : AreSeparate paths) : paths.Nodup := by
  apply separate.apart.imp
  rintro one other ⟨aside, -⟩ rfl
  exact aside List.prefix_rfl

theorem AreSeparate.across {front back : List String} (separate : AreSeparate (front ++ back)) :
    ∀ one ∈ front, ∀ other ∈ back, Apart one other :=
  (List.pairwise_append.1 separate.apart).2.2

theorem AreSeparate.sublist {paths part : List String} (separate : AreSeparate paths) (fewer : part.Sublist paths) :
    AreSeparate part :=
  ⟨fun path member => separate.descends path (fewer.subset member), separate.apart.sublist fewer⟩

end FilePath

open FilePath (IsDescent Apart leads segments steps folders fileName)

/-- Where a root lies: the directory to which it can be followed, and the names that lead on from
there. -/
structure Site where
  base : Place
  way : List String

namespace Site

/-- The names that lead from the base to the last name of a path. -/
def names (site : Site) (path : String) : List String :=
  site.way ++ folders path

/-- The place to which a path leads. -/
def place (site : Site) (path : String) : Place :=
  site.base ++ site.names path ++ [fileName path]

theorem place_eq (site : Site) (path : String) : site.place path = site.base ++ (site.way ++ segments path) := by
  rw [place, names, FilePath.segments_eq_concat, List.append_assoc, List.append_assoc]

@[simp] theorem place_ne_nil (site : Site) (path : String) : site.place path ≠ [] :=
  FileTree.end_ne_nil _ _ _

theorem place_ne_of_apart (site : Site) {one other : String} (apart : Apart one other) :
    site.place one ≠ site.place other := by
  rcases apart with ⟨aside, -⟩
  rw [place_eq, place_eq]
  intro same
  rw [List.append_cancel_left (List.append_cancel_left same)] at aside
  exact aside List.prefix_rfl

end Site

namespace FileTree

variable {tree before middle after : FileTree} {root path other : String} {site : Site} {paths : List String}

/-- The root lies there, and whatever goes down below it can be worked with. -/
structure HasRoot (tree : FileTree) (root : String) (site : Site) : Prop where
  closed : tree.IsClosedBelow site.base
  ends : ∀ path, IsDescent path → tree.EndsAt (FilePath.join root path) site.base (site.names path) (fileName path)

/-- Without `..`, a place is left behind by the segments that lead somewhere. -/
theorem foldl_turn_down {names : List String} (down : ".." ∉ names) (place : Place) :
    names.foldl turn place = place ++ names.filter leads := by
  induction names generalizing place with
  | nil => exact (List.append_nil place).symm
  | cons name rest ih =>
    rw [List.mem_cons, not_or] at down
    rw [List.foldl_cons, ih down.2]
    cases here : (name == "" || name == ".") with
    | true =>
      have idle : leads name = false := by rw [leads, here]; rfl
      rw [turn_here place here, List.filter_cons_of_neg (by simp [idle])]
    | false =>
      have moves : leads name = true := by rw [leads, here]; rfl
      rw [turn_name place here down.1, List.filter_cons_of_pos moves, List.append_assoc]
      rfl

/-- A root that does not turn back on what is missing lies somewhere. -/
theorem exists_site (closed : tree.IsClosed) (turns : tree.TurnsSafely root) :
    ∃ site : Site, tree.HasRoot root site ∧ tree.placeOf root = site.base ++ site.way := by
  rcases turns with ⟨front, rest, whole, down, base, reached⟩
  refine ⟨⟨base, rest.filter leads⟩, ⟨closed.below base, fun path descent => ?_⟩, ?_⟩
  · rcases FilePath.segments_join root descent.relative with ⟨-, -, -, -, -, start⟩
    have named := descent.named
    have shape := FilePath.segments_eq_concat path
    rw [shape] at named
    have all : (segments path).filter leads = folders path ++ [fileName path] := by
      rw [shape]
      exact List.filter_eq_self.2 fun segment member => (named segment member).moves
    have last : leads (fileName path) = true := (named _ (by simp)).moves
    refine ⟨closed.below base, .inr (FilePath.EndsInStep.join ⟨_, _, shape, last⟩ root descent.relative), ?_, ?_,
      closed.unlinked⟩
    · refine ⟨front.filter leads, ?_, ?_⟩
      · rw [FilePath.steps_join root descent.relative, steps, steps, whole, all, List.filter_append]
        simp only [Site.names, List.append_assoc]
      · rw [walk_leads, startOf, start]
        exact reached
    · rw [Site.names, List.append_assoc, List.forall_mem_append]
      refine ⟨fun segment member => ?_, named⟩
      rcases List.mem_filter.1 member with ⟨inside, moves⟩
      exact ⟨moves, fun up => down (up ▸ inside)⟩
  · rw [placeOf_of_unlinked closed.unlinked, whole, List.foldl_append, ← foldl_turn_of_walk reached,
      foldl_turn_down down]

theorem HasRoot.keep (has : before.HasRoot root site) (kept : before.KeepsDirectories after)
    (closed : after.IsClosedBelow site.base) : after.HasRoot root site :=
  ⟨closed, fun path descent => (has.ends path descent).keep kept closed⟩

theorem HasRoot.congr (has : before.HasRoot root site) (same : before.SameEntries after) :
    after.HasRoot root site := by
  apply has.keep same.keepsDirectories
  intro names name entry some there
  rw [same.entries] at there ⊢
  exact has.closed names name entry some there

theorem HasRoot.pathExists_of_free (has : tree.HasRoot root site) (descent : IsDescent path)
    (free : tree.get? (site.place path) = none) : tree.pathExists (FilePath.join root path) = false := by
  rw [← Bool.not_eq_true]
  intro there
  rcases exists_status_of_pathExists there with ⟨entry, found⟩
  have ends := has.ends path descent
  have holds := (ends.status_eq_ok_iff.1 found).2.2
  rw [Site.place, holds] at free
  cases free

/-- What could be found under a path can be found there later, if something is at its place. -/
theorem HasRoot.pathExists_of_held (first : before.HasRoot root site) (second : after.HasRoot root site)
    (descent : IsDescent path) (there : before.pathExists (FilePath.join root path) = true) {entry : Entry}
    (held : after.get? (site.place path) = some entry) : after.pathExists (FilePath.join root path) = true := by
  rcases exists_status_of_pathExists there with ⟨earlier, found⟩
  have firstEnds := first.ends path descent
  have secondEnds := second.ends path descent
  rcases firstEnds.status_eq_ok_iff.1 found with ⟨noNul, short, -⟩
  exact pathExists_of_status (secondEnds.status_eq_ok_iff.2 ⟨noNul, short, held⟩)

/-! ## What is left alone -/

/-- The two trees share the way to a path's place and have the same there. -/
abbrev AlikeAt (before after : FileTree) (site : Site) (path : String) : Prop :=
  before.Alike after site.base (site.names path) (fileName path)

/-- Only the places of the paths were worked on: elsewhere, nothing is new but directories on the
ways to them. -/
structure Touches (before after : FileTree) (site : Site) (paths : List String) : Prop
    extends KeepsDirectories before after where
  others : ∀ place, (∀ path ∈ paths, place ≠ site.place path) → after.get? place = before.get? place ∨
    (∃ path ∈ paths, OnWay site.base (site.names path) place) ∧
      before.get? place = none ∧ after.get? place = some .directory

theorem Touches.refl (tree : FileTree) (site : Site) (paths : List String) : tree.Touches tree site paths :=
  ⟨.refl tree, fun _ _ => .inl rfl⟩

theorem SameEntries.touches (same : before.SameEntries after) (site : Site) (paths : List String) :
    before.Touches after site paths :=
  ⟨same.keepsDirectories, fun place _ => .inl (same.entries place)⟩

theorem Touches.trans (first : before.Touches middle site paths) (last : middle.Touches after site paths) :
    before.Touches after site paths where
  toKeepsDirectories := first.toKeepsDirectories.trans last.toKeepsDirectories
  others place outside := by
    rcases last.others place outside with same | ⟨way, free, made⟩
    · rw [same]
      exact first.others place outside
    · rcases first.others place outside with same | ⟨-, -, there⟩
      · exact .inr ⟨way, same ▸ free, made⟩
      · rw [free] at there
        cases there

theorem Touches.mono {more : List String} (touches : before.Touches after site paths) (part : paths ⊆ more) :
    before.Touches after site more where
  toKeepsDirectories := touches.toKeepsDirectories
  others place outside := by
    rcases touches.others place fun path member => outside path (part member) with
      same | ⟨⟨path, member, way⟩, free, made⟩
    · exact .inl same
    · exact .inr ⟨⟨path, part member, way⟩, free, made⟩

theorem Overlays.touches (overlays : before.Overlays after (OnWay site.base (site.names path)) (site.place path))
    (member : path ∈ paths) : before.Touches after site paths where
  toKeepsDirectories := overlays.toKeepsDirectories
  others place outside := by
    rcases overlays.others place (outside path member) with same | ⟨way, free, made⟩
    · exact .inl same
    · exact .inr ⟨⟨path, member, way⟩, free, made⟩

theorem Touches.contentAt? (touches : before.Touches after site paths) {place : Place}
    (outside : ∀ path ∈ paths, place ≠ site.place path) : after.contentAt? place = before.contentAt? place := by
  rcases touches.others place outside with same | ⟨-, free, made⟩
  · exact contentAt?_congr same
  · rw [contentAt?_of_get? (.inl free), contentAt?_of_get? (.inr made)]

/-- What is done at the places of some paths leaves the way of a path alone that leads through none
of them. -/
theorem Touches.sharesWay (touches : before.Touches after site paths)
    (clear : ∀ path ∈ paths, ¬ segments path <+: folders other) :
    before.SharesWay after site.base (site.names other) := by
  refine ⟨touches.toKeepsDirectories, fun front some part => (touches.others _ ?_).imp_right And.right⟩
  intro path member same
  rw [Site.place_eq] at same
  rw [List.append_cancel_left same, Site.names, List.prefix_append_right_inj] at part
  exact clear path member part

theorem Touches.shares_own (touches : before.Touches after site paths) (separate : FilePath.AreSeparate paths)
    (member : path ∈ paths) : before.SharesWay after site.base (site.names path) :=
  touches.sharesWay fun _ listed => separate.not_prefix_folders listed member

/-- What is done at the places of some paths leaves a path alone that is apart from all of them. -/
theorem Touches.alike (touches : before.Touches after site paths) (other : String)
    (apart : ∀ path ∈ paths, Apart path other) :
    before.AlikeAt after site other := by
  refine ⟨touches.sharesWay fun path member => (apart path member).not_prefix_folders, ?_⟩
  have outside : ∀ path ∈ paths, site.place other ≠ site.place path :=
    fun path member => site.place_ne_of_apart (apart path member).symm
  rcases touches.others (site.place other) outside with same | ⟨⟨path, member, front, -, part, meant⟩, -, -⟩
  · exact same
  · rw [Site.place_eq] at meant
    rw [← List.append_cancel_left meant, Site.names, List.prefix_append_right_inj] at part
    exact absurd part (apart path member).symm.not_prefix_folders

/-- A place whose last name is in none of the paths is left alone, unless the root is to be made
there or below. -/
theorem Touches.get?_of_foreign (touches : before.Touches after site paths) {place : Place} {name : String}
    (foreign : ∀ path ∈ paths, name ∉ segments path)
    (aside : before.get? (place ++ [name]) = none → ¬ place ++ [name] <+: site.base ++ site.way) :
    after.get? (place ++ [name]) = before.get? (place ++ [name]) := by
  have outside : ∀ path ∈ paths, place ++ [name] ≠ site.place path := by
    intro path member same
    rcases List.append_inj' same rfl with ⟨-, last⟩
    apply foreign path member
    rw [FilePath.segments_eq_concat, List.cons.inj last |>.1]
    exact List.mem_append_right _ List.mem_cons_self
  rcases touches.others _ outside with same | ⟨⟨path, member, front, -, part, meant⟩, free, -⟩
  · exact same
  exfalso
  apply aside free
  rw [meant, List.prefix_append_right_inj]
  rcases List.prefix_or_prefix_of_prefix part (List.prefix_append site.way (folders path))
    with inside | ⟨more, whole⟩
  · exact inside
  subst whole
  rcases List.eq_nil_or_concat more with rfl | ⟨init, last, rfl⟩
  · exact (List.append_nil _).symm ▸ List.prefix_rfl
  · -- The place would be the one of a directory of the path.
    rw [Site.names, List.prefix_append_right_inj] at part
    rw [List.concat_eq_append, ← List.append_assoc, ← List.append_assoc] at meant
    rcases List.append_inj' meant rfl with ⟨-, same⟩
    rw [(List.cons.inj same).1] at foreign
    refine absurd ?_ (foreign path member)
    rw [FilePath.segments_eq_concat]
    apply List.mem_append_left
    apply part.subset
    simp

/-! ## Removing files -/

theorem Descends.placeOf {base : Place} {names : List String} (descends : tree.Descends path base names) :
    tree.placeOf path = base ++ names := by
  rcases descends.followed with ⟨front, whole, reached⟩
  have start := foldl_turn_of_walk reached
  rw [placeOf_of_unlinked descends.unlinked, ← foldl_turn_leads, ← steps, whole, List.foldl_append, ← start,
    foldl_turn_down fun up => (descends.named _ up).notUp rfl,
    List.filter_eq_self.2 fun name member => (descends.named name member).moves]

theorem HasRoot.placeOf (has : tree.HasRoot root site) (descent : IsDescent path) :
    tree.placeOf (FilePath.join root path) = site.place path := by
  rw [(has.ends path descent).descends.placeOf, Site.place, List.append_assoc]

/-- Below the root, the path leads to a file. -/
def HasFile (tree : FileTree) (root path : String) : Prop :=
  ∃ content, tree.status (FilePath.join root path) = .ok (.file content)

theorem HasFile.leadsToFile (unlinked : tree.links = []) (there : tree.HasFile root path) :
    tree.LeadsToFile (FilePath.join root path) := by
  rcases there with ⟨content, found⟩
  have readable : tree.read (FilePath.join root path) = .ok content := by
    rw [read, found]
    rfl
  exact leadsToFile_of_read unlinked readable

theorem HasRoot.removeFile (has : tree.HasRoot root site) (descent : IsDescent path)
    (there : tree.HasFile root path) :
    (tree.removeFile (FilePath.join root path)).tree = tree.erase (site.place path) := by
  have unlinked := (has.ends path descent).descends.unlinked
  rw [removeFile_of_leadsToFile (there.leadsToFile unlinked), has.placeOf descent]

theorem HasRoot.notDirectory (has : tree.HasRoot root site) (descent : IsDescent path)
    (there : tree.HasFile root path) :
    tree.get? (site.place path) ≠ some .directory := by
  rcases there with ⟨content, found⟩
  have ends := has.ends path descent
  have holds := (ends.status_eq_ok_iff.1 found).2.2
  rw [Site.place, holds]
  exact nofun

theorem overlays_erase (tree : FileTree) (way : Place → Prop) {place : Place}
    (notDirectory : tree.get? place ≠ some .directory) : tree.Overlays (tree.erase place) way place := by
  refine ⟨⟨rfl, rfl, fun other there => ?_⟩, fun other different => .inl (get?_erase_of_ne _ different)⟩
  have different : other ≠ place := by
    rintro rfl
    exact notDirectory there
  rw [get?_erase_of_ne _ different]
  exact there

theorem IsClosedBelow.erase {base place : Place} (closed : tree.IsClosedBelow base) (below : place ≠ [])
    (notDirectory : tree.get? place ≠ some .directory) : (tree.erase place).IsClosedBelow base := by
  intro names name entry some there
  have different : base ++ names ++ [name] ≠ place := by
    intro same
    rw [same, get?_erase_self _ below] at there
    cases there
  rw [get?_erase_of_ne _ different] at there
  have parent := closed names name entry some there
  rw [get?_erase_of_ne]
  · exact parent
  · intro same
    exact notDirectory (same ▸ parent)

/-- The tree without the files of some paths. -/
def strike (root : String) (tree : FileTree) (paths : List String) : FileTree :=
  paths.foldl (fun tree path => (tree.removeFile (FilePath.join root path)).tree) tree

/-- Files that are removed were all that is missing afterwards. -/
structure Strikes (before after : FileTree) (root : String) (site : Site) (paths : List String) : Prop where
  touches : before.Touches after site paths
  rooted : after.HasRoot root site
  gone : ∀ path ∈ paths, after.get? (site.place path) = none
  others : ∀ place, (∀ path ∈ paths, place ≠ site.place path) → after.get? place = before.get? place

theorem strikes_strike (has : tree.HasRoot root site) (separate : FilePath.AreSeparate paths)
    (there : ∀ path ∈ paths, tree.HasFile root path) : tree.Strikes (tree.strike root paths) root site paths := by
  induction paths generalizing tree with
  | nil => exact ⟨.refl tree site [], has, nofun, fun _ _ => rfl⟩
  | cons path rest ih =>
    have descent := separate.descends path List.mem_cons_self
    have first := there path List.mem_cons_self
    have notDirectory := has.notDirectory descent first
    have overlays := tree.overlays_erase (OnWay site.base (site.names path)) notDirectory
    have rooted := has.keep overlays.toKeepsDirectories (has.closed.erase (site.place_ne_nil path) notDirectory)
    have touched : tree.Touches (tree.erase (site.place path)) site [path] := overlays.touches List.mem_cons_self
    have later : ∀ other ∈ rest, (tree.erase (site.place path)).HasFile root other := by
      intro other member
      rcases there other (List.mem_cons_of_mem path member) with ⟨content, found⟩
      have alike := touched.alike other fun one listed => by
        rw [List.mem_singleton.1 listed]
        exact separate.head other member
      have down := separate.descends other (List.mem_cons_of_mem path member)
      exact ⟨content, ((has.ends other down).seesAlike (rooted.ends other down) alike.ending _).2 found⟩
    have rested := ih rooted separate.tail later
    rw [strike, List.foldl_cons, has.removeFile descent first]
    constructor
    case touches =>
      exact (touched.mono (by simp)).trans (rested.touches.mono (List.subset_cons_self path rest))
    case rooted => exact rested.rooted
    case gone =>
      intro other member
      by_cases again : other ∈ rest
      · exact rested.gone other again
      · have same : other = path := (List.mem_cons.1 member).resolve_right again
        rw [same]
        refine (rested.others _ fun one listed => ?_).trans (get?_erase_self _ (site.place_ne_nil path))
        exact site.place_ne_of_apart (separate.head one listed)
    case others =>
      intro place outside
      rcases List.forall_mem_cons.1 outside with ⟨here, elsewhere⟩
      exact (rested.others place elsewhere).trans (get?_erase_of_ne _ here)

end FileTree
end Scaffold
