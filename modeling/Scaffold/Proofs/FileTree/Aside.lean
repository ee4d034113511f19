import Mathlib.Data.List.Infix
import Scaffold.Proofs.FileTree.Laying

namespace Scaffold

/-!
# Working aside of a file

Two trees without links differ at one place only: the full tree has a file there, and the bare tree
has nothing.  A path that neither ends at the place nor passes through it leads to the same in both
trees.  A change along such a path comes to the same in both, and afterwards they still differ at
that place only, with the same file in the full tree.

The directories of the tree from which the work has started are kept throughout, so that the file
stays within reach.
-/

namespace FilePath

/-- The path above a path starts where it does and takes the first of its steps. -/
theorem steps_of_parent? {path parent : String} (cut : parent? path = some parent) :
    steps parent <+: steps path ∧ isAbsolute parent = isAbsolute path := by
  have whole : steps (String.ofList (trimBack path.toList.reverse).reverse) = steps path := by
    rw [steps_trimBack, List.reverse_reverse, String.ofList_toList]
  rw [isAbsolute_eq path, ← getLast?_trimBack, ← whole]
  rw [parent?] at cut
  obtain ⟨name, rest, trimmed, dropped, unbroken, ending⟩ := exists_name (trimBack path.toList.reverse)
  rw [trimmed] at cut ⊢
  rw [trimmed] at dropped
  split at cut
  · cases cut
  · cases cut
  next notEmpty _ =>
  rw [dropped] at cut
  cases cut
  -- What was cut off is the name at the end; the slashes and points before it are no steps.
  constructor
  · rw [steps_trimBack, steps, steps, segments_reverse unbroken ending, List.filter_append]
    rcases ending with rfl | ⟨others, rfl⟩
    · exact List.nil_prefix
    · have turned : String.ofList ('/' :: others).reverse = String.ofList (others.reverse ++ '/' :: []) := by simp
      have last : steps (String.ofList ([] : List Char)) = [] := rfl
      have same := steps_append_slash others.reverse []
      rw [last, List.append_nil, steps, steps] at same
      rw [turned, same]
      exact List.prefix_append _ _
  · rw [isAbsolute_eq, String.toList_ofList, List.reverse_reverse]
    by_cases blank : name = []
    · rw [blank, List.nil_append, getLast?_trimBack]
    · exact getLast?_name unbroken blank ending

end FilePath

namespace FileTree

open FilePath (leads steps)

/-! ## Paths that avoid a place -/

/-- The path neither ends at the place nor passes through it. -/
def Avoids (tree : FileTree) (path : String) (place : Place) : Prop :=
  ∀ front, front <+: steps path → front.foldl turn (tree.startOf path) ≠ place

instance (tree : FileTree) (path : String) (place : Place) : Decidable (tree.Avoids path place) :=
  decidable_of_iff (∀ front ∈ (steps path).inits, front.foldl turn (tree.startOf path) ≠ place) (by simp [Avoids])

variable {tree start full bare : FileTree} {path root content text : String} {place : Place}

theorem Avoids.placeOf_ne (avoids : tree.Avoids path place) (unlinked : tree.links = []) :
    tree.placeOf path ≠ place := by
  have whole := avoids (steps path) List.prefix_rfl
  rw [steps, foldl_turn_leads, ← placeOf_of_unlinked unlinked] at whole
  exact whole

theorem Avoids.parent {parent : String} (avoids : tree.Avoids path place)
    (cut : FilePath.parent? path = some parent) :
    tree.Avoids parent place := by
  obtain ⟨above, start⟩ := FilePath.steps_of_parent? cut
  intro front part
  rw [startOf, start]
  exact avoids front (part.trans above)

/-- A path that is joined to a root passes through the root. -/
theorem Avoids.of_join (avoids : tree.Avoids (FilePath.join root path) place)
    (relative : FilePath.isAbsolute path = false) : tree.Avoids root place := by
  obtain ⟨-, -, -, -, -, start⟩ := FilePath.segments_join root relative
  intro front part
  rw [startOf, ← start]
  apply avoids front
  rw [FilePath.steps_join root relative]
  exact part.trans (List.prefix_append _ _)

/-! ## Two trees -/

/-- The full tree is the bare one with a text in a file at a place where the bare one has nothing,
and neither has links. -/
structure Carries (start : FileTree) (place : Place) (text : String) (full bare : FileTree) : Prop where
  fromStart : start.KeepsDirectories full
  unlinked : start.links = []
  workingDirectory : bare.workingDirectory = full.workingDirectory
  links : bare.links = full.links
  content : full.contentAt? place = some text
  missing : bare.get? place = none
  elsewhere : ∀ other, other ≠ place → bare.get? other = full.get? other

/-- A tree with a file that can be read, and the tree without it. -/
theorem carries_of_read (unlinked : tree.links = []) (readable : tree.read path = .ok text) :
    Carries tree (tree.placeOf path) text tree (tree.erase (tree.placeOf path)) where
  fromStart := .refl tree
  unlinked := unlinked
  workingDirectory := rfl
  links := rfl
  content := contentAt?_of_read unlinked readable
  missing := by
    have located := (leadsToFile_of_read unlinked readable).located
    exact tree.get?_erase_self (placeOf_of_locate located).2
  elsewhere _ different := tree.get?_erase_of_ne different

namespace Carries

theorem startOf_eq (carries : Carries start place text full bare) (path : String) :
    full.startOf path = start.startOf path ∧ bare.startOf path = start.startOf path := by
  simp only [FileTree.startOf, carries.workingDirectory, carries.fromStart.workingDirectory, and_self]

theorem fullUnlinked (carries : Carries start place text full bare) : full.links = [] :=
  carries.fromStart.links.trans carries.unlinked

theorem bareUnlinked (carries : Carries start place text full bare) : bare.links = [] :=
  carries.links.trans carries.fullUnlinked

theorem placeOf_eq (carries : Carries start place text full bare) (path : String) :
    full.placeOf path = start.placeOf path :=
  carries.fromStart.placeOf path

theorem placeOf_bare (carries : Carries start place text full bare) (path : String) :
    bare.placeOf path = full.placeOf path := by
  rw [FileTree.placeOf, FileTree.placeOf, startOf_congr carries.workingDirectory,
    approach_congr carries.links carries.workingDirectory]

/-- The file stays within reach of its path. -/
theorem read (carries : Carries start place text full bare) (leads : start.LeadsToFile path)
    (own : start.placeOf path = place) : full.read path = .ok text := by
  have content := carries.content
  rw [← own] at content
  have still := leads.keep carries.fromStart (Option.isSome_of_mem content)
  apply still.read
  rw [carries.placeOf_eq]
  exact content

/-! ### Following a path -/

theorem enter (carries : Carries start place text full bare) {segment : String} {here : Place}
    (aside : turn here segment ≠ place) : bare.enter here segment = full.enter here segment := by
  rw [turn] at aside
  rw [FileTree.enter, FileTree.enter]
  split at aside
  · next stays => rw [if_pos stays, if_pos stays]
  next moves =>
  rw [if_neg moves, if_neg moves]
  split at aside
  · next up => rw [if_pos up, if_pos up]
  next down =>
  rw [if_neg down, if_neg down, carries.elsewhere _ aside]

theorem walk (carries : Carries start place text full bare) {segments : List String} {here : Place}
    (aside : ∀ front, front <+: segments → front.foldl turn here ≠ place) :
    bare.walk here segments = full.walk here segments := by
  -- Each segment leads from one front of the path to the next one, so that no step looks at the
  -- place.
  induction segments generalizing here with
  | nil => rfl
  | cons segment rest ih =>
    have first : turn here segment ≠ place := aside [segment] (List.cons_prefix_cons.2 ⟨rfl, List.nil_prefix⟩)
    rw [FileTree.walk, FileTree.walk, carries.enter first]
    cases entered : full.enter here segment with
    | error e => rfl
    | ok next =>
      apply ih
      intro front part
      rw [turn_of_enter entered]
      exact aside (segment :: front) (List.cons_prefix_cons.2 ⟨rfl, part⟩)

/-- The part of a path up to one of its segments is followed alike. -/
theorem walk_part (carries : Carries start place text full bare) (avoids : start.Avoids path place)
    {front rest : List String} (whole : FilePath.segments path = front ++ rest) :
    bare.walk (start.startOf path) front = full.walk (start.startOf path) front := by
  rw [← walk_leads bare, ← walk_leads full]
  apply carries.walk
  intro part before
  apply avoids part
  rw [steps, whole, List.filter_append]
  exact before.trans (List.prefix_append _ _)

theorem locate (carries : Carries start place text full bare) (avoids : start.Avoids path place) :
    bare.locate path = full.locate path := by
  obtain ⟨fullStart, bareStart⟩ := carries.startOf_eq path
  rw [locate_of_unlinked carries.bareUnlinked, locate_of_unlinked carries.fullUnlinked, follow, follow, fullStart,
    bareStart, aim, aim]
  cases cut : splitLast (FilePath.segments path) with
  | mk before ending =>
    cases ending with
    | none =>
      rw [(splitLast_eq_none cut).1]
      rfl
    | some last =>
      obtain ⟨-, blanks, whole, -⟩ := splitLast_eq_some cut
      have further : FilePath.segments path = before ++ [last] ++ blanks := by rw [whole, List.append_assoc]; rfl
      dsimp only
      rw [carries.walk_part avoids whole, carries.walk_part avoids further]

/-- What a path leads to that avoids the place lies elsewhere. -/
theorem get?_of_locate (carries : Carries start place text full bare) (avoids : start.Avoids path place)
    {found : Place} {slash : Bool} (located : full.locate path = .ok (.name found slash)) :
    found ≠ place ∧ bare.get? found = full.get? found := by
  have aside : found ≠ place := by
    rw [← (placeOf_of_locate located).1, carries.placeOf_eq]
    exact avoids.placeOf_ne carries.unlinked
  exact ⟨aside, carries.elsewhere found aside⟩

theorem status (carries : Carries start place text full bare) (avoids : start.Avoids path place) :
    bare.status path = full.status path := by
  rw [FileTree.status, FileTree.status, arrive_of_unlinked carries.bareUnlinked,
    arrive_of_unlinked carries.fullUnlinked, carries.locate avoids]
  cases located : full.locate path with
  | error e => rfl
  | ok target =>
    cases target with
    | directory found => rfl
    | name found slash =>
      dsimp only [bind, Except.bind]
      rw [(carries.get?_of_locate avoids located).2]

theorem pathExists (carries : Carries start place text full bare) (avoids : start.Avoids path place) :
    bare.pathExists path = full.pathExists path := by
  rw [FileTree.pathExists, FileTree.pathExists, carries.status avoids]

theorem isDirectory (carries : Carries start place text full bare) (avoids : start.Avoids path place) :
    bare.isDirectory path = full.isDirectory path := by
  rw [FileTree.isDirectory, FileTree.isDirectory, carries.status avoids]

theorem read_aside (carries : Carries start place text full bare) (avoids : start.Avoids path place) :
    bare.read path = full.read path := by
  rw [FileTree.read, FileTree.read, carries.status avoids]

/-! ### Changing another place -/

/-- One other place, which was not a directory, gets the same in both trees. -/
theorem replace (carries : Carries start place text full bare) {other : Place} (aside : other ≠ place)
    (free : full.get? other ≠ some .directory) {fuller barer : FileTree}
    (fullKept : fuller.workingDirectory = full.workingDirectory ∧ fuller.links = full.links)
    (bareKept : barer.workingDirectory = bare.workingDirectory ∧ barer.links = bare.links)
    (fullSame : ∀ third, third ≠ other → fuller.get? third = full.get? third)
    (bareSame : ∀ third, third ≠ other → barer.get? third = bare.get? third)
    (alike : barer.get? other = fuller.get? other) : Carries start place text fuller barer where
  fromStart := by
    refine ⟨fullKept.1.trans carries.fromStart.workingDirectory, fullKept.2.trans carries.fromStart.links,
      fun directory there => ?_⟩
    have kept := carries.fromStart.directories directory there
    have different : directory ≠ other := by
      rintro rfl
      exact free kept
    exact (fullSame directory different).trans kept
  unlinked := carries.unlinked
  workingDirectory := by rw [bareKept.1, fullKept.1, carries.workingDirectory]
  links := by rw [bareKept.2, fullKept.2, carries.links]
  content := (contentAt?_congr (fullSame place aside.symm)).trans carries.content
  missing := (bareSame place aside.symm).trans carries.missing
  elsewhere third different := by
    by_cases same : third = other
    · rw [same]
      exact alike
    · rw [fullSame third same, bareSame third same]
      exact carries.elsewhere third different

variable {other : Place}

theorem ne_nil_of_free (free : full.get? other ≠ some .directory) : other ≠ [] := by
  rintro rfl
  exact free rfl

theorem put (carries : Carries start place text full bare) (aside : other ≠ place)
    (free : full.get? other ≠ some .directory) (entry : Entry) :
    Carries start place text (full.put other entry) (bare.put other entry) := by
  have below := ne_nil_of_free free
  refine carries.replace aside free ?_ ?_ (fun third different => get?_put_of_ne _ different _)
    (fun third different => get?_put_of_ne _ different _) ?_
  · exact ⟨rfl, rfl⟩
  · exact ⟨rfl, rfl⟩
  · rw [get?_put_self _ below, get?_put_self _ below]

theorem erase (carries : Carries start place text full bare) (aside : other ≠ place)
    (free : full.get? other ≠ some .directory) :
    Carries start place text (full.erase other) (bare.erase other) := by
  have below := ne_nil_of_free free
  refine carries.replace aside free ?_ ?_ (fun third different => get?_erase_of_ne _ different)
    (fun third different => get?_erase_of_ne _ different) ?_
  · exact ⟨rfl, rfl⟩
  · exact ⟨rfl, rfl⟩
  · rw [get?_erase_self _ below, get?_erase_self _ below]

end Carries

/-! ## Changes of both trees -/

/-- Two changes end alike, and the trees after them differ by the file only. -/
structure Changed.Carries (start : FileTree) (place : Place) (text : String) (full bare : Changed) : Prop where
  outcome : bare.outcome = full.outcome
  tree : FileTree.Carries start place text full.tree bare.tree

namespace Carries

variable (carries : Carries start place text full bare) (avoids : start.Avoids path place)
include carries avoids

theorem makeDirectory : Changed.Carries start place text (full.makeDirectory path) (bare.makeDirectory path) := by
  rw [FileTree.makeDirectory, FileTree.makeDirectory, carries.locate avoids]
  cases located : full.locate path with
  | error e => exact ⟨rfl, carries⟩
  | ok target =>
    cases target with
    | directory found => exact ⟨rfl, carries⟩
    | name found slash =>
      obtain ⟨aside, same⟩ := carries.get?_of_locate avoids located
      dsimp only
      rw [isTaken_of_unlinked carries.bareUnlinked, isTaken_of_unlinked carries.fullUnlinked, same]
      split
      · exact ⟨rfl, carries⟩
      · next free => exact ⟨rfl, carries.put aside (fun there => free (by rw [there]; rfl)) .directory⟩

theorem ensureDirectory :
    Changed.Carries start place text (full.ensureDirectory path) (bare.ensureDirectory path) := by
  have made := carries.makeDirectory avoids
  rw [FileTree.ensureDirectory, FileTree.ensureDirectory]
  rw [made.outcome, carries.isDirectory avoids]
  split
  · exact made
  · exact ⟨rfl, carries⟩

theorem makeDirectoriesWithin (fuel : Nat) : Changed.Carries start place text (full.makeDirectoriesWithin fuel path)
    (bare.makeDirectoriesWithin fuel path) := by
  induction fuel generalizing path with
  | zero => exact ⟨rfl, carries⟩
  | succ fuel ih =>
    have made := carries.makeDirectory avoids
    rw [FileTree.makeDirectoriesWithin, FileTree.makeDirectoriesWithin]
    split
    · exact ⟨rfl, carries⟩
    · dsimp only
      rw [made.outcome, carries.isDirectory avoids]
      split
      · exact made
      · split
        · exact ⟨rfl, carries⟩
        · cases cut : FilePath.parent? path with
          | none => exact ⟨rfl, carries⟩
          | some parent =>
            -- Both trees have got the same directories above the path before the path itself is
            -- tried again.
            have above := ih (avoids.parent cut)
            dsimp only
            rw [above.outcome]
            split
            · exact above.tree.ensureDirectory avoids
            · exact ⟨rfl, above.tree⟩

theorem makeDirectories :
    Changed.Carries start place text (full.makeDirectories path) (bare.makeDirectories path) :=
  carries.makeDirectoriesWithin avoids _

theorem replaceFile (content : String) :
    Changed.Carries start place text (full.replaceFile path content) (bare.replaceFile path content) := by
  rw [FileTree.replaceFile, FileTree.replaceFile, carries.locate avoids]
  cases located : full.locate path with
  | error e => exact ⟨rfl, carries⟩
  | ok target =>
    cases target with
    | directory found => exact ⟨rfl, carries⟩
    | name found slash =>
      obtain ⟨aside, same⟩ := carries.get?_of_locate avoids located
      dsimp only
      rw [eraseLink_of_unlinked carries.bareUnlinked, eraseLink_of_unlinked carries.fullUnlinked, same]
      split
      · exact ⟨rfl, carries⟩
      · exact ⟨rfl, carries⟩
      · next noDirectory => exact ⟨rfl, carries.put aside noDirectory _⟩

theorem createFile (content : String) :
    Changed.Carries start place text (full.createFile path content) (bare.createFile path content) := by
  rw [FileTree.createFile, FileTree.createFile, carries.locate avoids]
  cases located : full.locate path with
  | error e => exact ⟨rfl, carries⟩
  | ok target =>
    cases target with
    | directory found => exact ⟨rfl, carries⟩
    | name found slash =>
      obtain ⟨aside, same⟩ := carries.get?_of_locate avoids located
      dsimp only
      rw [isTaken_of_unlinked carries.bareUnlinked, isTaken_of_unlinked carries.fullUnlinked, same]
      split
      · exact ⟨rfl, carries⟩
      · exact ⟨rfl, carries⟩
      · next free => exact ⟨rfl, carries.put aside (fun there => by rw [there] at free; cases free) _⟩

theorem removeFile : Changed.Carries start place text (full.removeFile path) (bare.removeFile path) := by
  rw [removeFile_of_unlinked carries.bareUnlinked, removeFile_of_unlinked carries.fullUnlinked,
    carries.locate avoids]
  cases located : full.locate path with
  | error e => exact ⟨rfl, carries⟩
  | ok target =>
    cases target with
    | directory found => exact ⟨rfl, carries⟩
    | name found slash =>
      obtain ⟨aside, same⟩ := carries.get?_of_locate avoids located
      dsimp only
      rw [same]
      split
      · exact ⟨rfl, carries⟩
      · exact ⟨rfl, carries⟩
      · exact ⟨rfl, carries⟩
      · next file => exact ⟨rfl, carries.erase aside (fun there => by rw [there] at file; cases file)⟩

end Carries
end FileTree
end Scaffold
