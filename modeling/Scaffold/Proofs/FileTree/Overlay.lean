import Scaffold.Proofs.FileTree.Closed
import Scaffold.Proofs.FileTree.Effect

namespace Scaffold

/-!
# A tree with one more file

Saving a file of one's own, such as the history, adds that file to a tree, and perhaps the
directories above it, while all else stays.  Whoever removes other files does not notice: a path
that means neither the file, nor a place below it, nor one of the directories above it, is removed
from both trees with the same outcome.

The one way to notice would be a path that goes through an added directory and comes back out of it
by `..`.  So the segment `..` may occur only where the path could already be followed.
-/

namespace FilePath

/-- The paths that are met when a path is cut back segment by segment. -/
inductive Above : String → String → Prop
  | parent {path parent : String} (cut : parent? path = some parent) : Above parent path
  | step {path parent above : String} (cut : parent? path = some parent) (higher : Above above parent) :
    Above above path

end FilePath

namespace FileTree

/-! ## Directories that are made -/

/-- The change made no more than directories at the place of a path and of the paths above it. -/
def MakesWay (before after : FileTree) (path : String) : Prop :=
  ∀ place, after.get? place = before.get? place ∨
    (∃ above, (above = path ∨ FilePath.Above above path) ∧ before.placeOf above = place) ∧
      before.get? place = none ∧ after.get? place = some .directory

theorem MakesWay.refl (tree : FileTree) (path : String) : tree.MakesWay tree path :=
  fun _ => .inl rfl

theorem makeDirectory_makesWay (tree : FileTree) (path : String) :
    tree.MakesWay (tree.makeDirectory path).tree path := by
  rw [makeDirectory]
  split
  · exact .refl tree path
  · exact .refl tree path
  · next place slash located =>
    split
    · exact .refl tree path
    · next free =>
      rcases placeOf_of_locate located with ⟨meant, below⟩
      intro other
      by_cases same : other = place
      · subst same
        exact .inr ⟨⟨path, .inl rfl, meant⟩, (free_of_isTaken (by simpa using free)).1, tree.get?_put_self below _⟩
      · exact .inl (tree.get?_put_of_ne same _)

theorem ensureDirectory_makesWay (tree : FileTree) (path : String) :
    tree.MakesWay (tree.ensureDirectory path).tree path := by
  rw [ensureDirectory]
  split
  · exact makeDirectory_makesWay tree path
  · exact .refl tree path

theorem MakesWay.step {before middle after : FileTree} {path parent : String}
    (kept : before.KeepsDirectories middle)
    (cut : FilePath.parent? path = some parent) (first : before.MakesWay middle parent)
    (last : middle.MakesWay after path) : before.MakesWay after path := by
  have higher : ∀ above, above = parent ∨ FilePath.Above above parent → FilePath.Above above path := by
    rintro above (rfl | above)
    · exact .parent cut
    · exact .step cut above
  intro place
  rcases first place with same | ⟨⟨above, isAbove, meant⟩, free, made⟩
  · rcases last place with unchanged | ⟨⟨above, isAbove, meant⟩, free, made⟩
    · exact .inl (unchanged.trans same)
    · exact .inr ⟨⟨above, isAbove, kept.placeOf above ▸ meant⟩, same ▸ free, made⟩
  · rcases last place with unchanged | ⟨-, alsoFree, -⟩
    · exact .inr ⟨⟨above, .inr (higher above isAbove), meant⟩, free, unchanged.trans made⟩
    · rw [made] at alsoFree
      cases alsoFree

theorem MakesWay.of_parent {before after : FileTree} {path parent : String}
    (cut : FilePath.parent? path = some parent) (made : before.MakesWay after parent) :
    before.MakesWay after path := by
  intro place
  rcases made place with same | ⟨⟨above, isAbove, meant⟩, free, there⟩
  · exact .inl same
  · refine .inr ⟨⟨above, .inr ?_, meant⟩, free, there⟩
    rcases isAbove with rfl | higher
    · exact .parent cut
    · exact .step cut higher

theorem makeDirectoriesWithin_makesWay (tree : FileTree) (fuel : Nat) (path : String) :
    tree.MakesWay (tree.makeDirectoriesWithin fuel path).tree path := by
  induction fuel generalizing path with
  | zero => exact .refl tree path
  | succ fuel ih =>
    rw [makeDirectoriesWithin]
    split
    · exact .refl tree path
    · dsimp only
      split
      · exact makeDirectory_makesWay tree path
      · split
        · exact .refl tree path
        · split
          · exact .refl tree path
          · next parent cut =>
            have kept := (makeDirectoriesWithin_addsDirectories tree fuel parent).toKeepsDirectories
            split
            · exact .step kept cut (ih parent) (ensureDirectory_makesWay _ path)
            · exact .of_parent cut (ih parent)

theorem makeDirectories_makesWay (tree : FileTree) (path : String) :
    tree.MakesWay (tree.makeDirectories path).tree path :=
  makeDirectoriesWithin_makesWay tree _ path

theorem tree_makeDirectories_here (tree : FileTree) : (tree.makeDirectories ".").tree = tree := by
  rfl

/-! ## Overlays -/

/-- The second tree has all that the first one has, and besides only a file at the given place, and
directories at places on the way to it. -/
structure Overlays (base upper : FileTree) (way : Place → Prop) (place : Place) : Prop
    extends KeepsDirectories base upper where
  others : ∀ other, other ≠ place → upper.get? other = base.get? other ∨
    way other ∧ base.get? other = none ∧ upper.get? other = some .directory

theorem Overlays.refl (tree : FileTree) (way : Place → Prop) (place : Place) : tree.Overlays tree way place :=
  ⟨.refl tree, fun _ _ => .inl rfl⟩

/-- A file that is written into the second tree once more. -/
theorem Overlays.trans {base upper after : FileTree} {way : Place → Prop} {place : Place}
    (first : base.Overlays upper way place) (last : upper.Overlays after way place) :
    base.Overlays after way place where
  toKeepsDirectories := first.toKeepsDirectories.trans last.toKeepsDirectories
  others other different := by
    rcases last.others other different with same | ⟨isAbove, free, made⟩
    · rw [same]
      exact first.others other different
    · rcases first.others other different with alike | ⟨-, -, there⟩
      · exact .inr ⟨isAbove, alike ▸ free, made⟩
      · rw [free] at there
        cases there

/-! ## Following a path in both trees -/

/-- No segment of the path is longer than a name can be. -/
def HasShortNames (path : String) : Prop :=
  ∀ segment ∈ FilePath.segments path, segment.utf8ByteSize ≤ maxNameBytes

/-- Without `..`, the place that segments lead to lies below the one that they start from. -/
theorem prefix_foldl_turn {segments : List String} (down : ".." ∉ segments) (place : Place) :
    place <+: segments.foldl turn place := by
  induction segments generalizing place with
  | nil => exact List.prefix_rfl
  | cons segment rest ih =>
    rw [List.mem_cons, not_or] at down
    have further := ih down.2 (turn place segment)
    rw [List.foldl_cons]
    refine List.IsPrefix.trans ?_ further
    rw [turn]
    split
    · exact List.prefix_rfl
    · rw [if_neg (by simpa using Ne.symm down.1)]
      exact List.prefix_append _ _

/-- Nothing lies below a place of a closed tree that holds nothing. -/
theorem IsClosed.free_below {tree : FileTree} (closed : tree.IsClosed) {place : Place}
    (free : tree.get? place = none)
    (names : List String) : tree.get? (place ++ names) = none := by
  cases names with
  | nil => rw [List.append_nil]; exact free
  | cons name rest =>
    cases there : tree.get? (place ++ name :: rest) with
    | none => rfl
    | some entry =>
      have directory := closed.above place (by simp) there
      rw [free] at directory
      cases directory

variable {base upper : FileTree} {way : Place → Prop} {place : Place}

/-- The result of a walk that only the second tree allows: it has come to a directory below which
the first tree has nothing. -/
def Strays (base upper : FileTree) (result : Except OsError Place) : Prop :=
  ∃ target, result = .ok target ∧ upper.get? target = some .directory ∧ ∀ names, base.get? (target ++ names) = none

/-- A segment that is empty or `.` leads nowhere else. -/
theorem enter_here (tree : FileTree) (place : Place) {segment : String}
    (here : (segment == "" || segment == ".") = true) : tree.enter place segment = .ok place := by
  rw [enter, if_pos here]

theorem turn_here (place : Place) {segment : String} (here : (segment == "" || segment == ".") = true) :
    turn place segment = place := by
  rw [turn, if_pos here]

/-- Entering a segment that is a name. -/
theorem enter_name (tree : FileTree) (place : Place) {segment : String}
    (solid : (segment == "" || segment == ".") = false) (down : ".." ≠ segment)
    (short : segment.utf8ByteSize ≤ maxNameBytes) :
    tree.enter place segment =
      match tree.get? (place ++ [segment]) with
      | some .directory => .ok (place ++ [segment])
      | some (.file _) => .error .notADirectory
      | none => .error .notFound := by
  have fits : ¬ maxNameBytes < segment.utf8ByteSize := by omega
  exact (if_neg (by simp [solid])).trans ((if_neg (by simpa using down.symm)).trans ((if_neg fits).trans rfl))

theorem turn_name (place : Place) {segment : String} (solid : (segment == "" || segment == ".") = false)
    (down : ".." ≠ segment) : turn place segment = place ++ [segment] := by
  rw [turn, if_neg (by simp [solid]), if_neg (by simpa using down.symm)]

/-- A path that goes down from a place and stays aside of another one does not begin at it. -/
theorem ne_of_aside {segments : List String} {start place : Place} (down : ".." ∉ segments)
    (aside : ¬ place <+: segments.foldl turn start) : start ≠ place := by
  rintro rfl
  exact aside (prefix_foldl_turn down _)

theorem Overlays.walk_strayed (overlays : base.Overlays upper way place) {start : Place} {segments : List String}
    (strayed : upper.get? start = some .directory) (free : ∀ names, base.get? (start ++ names) = none)
    (down : ".." ∉ segments) (short : ∀ segment ∈ segments, segment.utf8ByteSize ≤ maxNameBytes)
    (aside : ¬ place <+: segments.foldl turn start) :
    upper.walk start segments = .error .notFound ∨ Strays base upper (upper.walk start segments) := by
  induction segments generalizing start with
  | nil => exact .inr ⟨start, rfl, strayed, free⟩
  | cons segment rest ih =>
    rw [List.mem_cons, not_or] at down
    rcases List.forall_mem_cons.1 short with ⟨fits, othersFit⟩
    rw [List.foldl_cons] at aside
    cases here : (segment == "" || segment == ".") with
    | true =>
      rw [turn_here start here] at aside
      rw [walk, enter_here upper start here]
      exact ih strayed free down.2 othersFit aside
    | false =>
      rw [turn_name start here down.1] at aside
      rw [walk, enter_name upper start here down.1 fits]
      rcases overlays.others _ (ne_of_aside down.2 aside) with same | ⟨-, -, made⟩
      · rw [same, free]
        exact .inl rfl
      · rw [made]
        refine ih made ?_ down.2 othersFit aside
        intro names
        rw [List.append_assoc]
        exact free _

/-- A walk without `..` that stays aside of the additional file comes to the same result in both
trees, unless it strays into directories that the first tree does not have. -/
theorem Overlays.walk_down (overlays : base.Overlays upper way place) (closed : base.IsClosed) {start : Place}
    {segments : List String} (down : ".." ∉ segments)
    (short : ∀ segment ∈ segments, segment.utf8ByteSize ≤ maxNameBytes)
    (aside : ¬ place <+: segments.foldl turn start) :
    upper.walk start segments = base.walk start segments ∨
      base.walk start segments = .error .notFound ∧ Strays base upper (upper.walk start segments) := by
  induction segments generalizing start with
  | nil => exact .inl rfl
  | cons segment rest ih =>
    rw [List.mem_cons, not_or] at down
    rcases List.forall_mem_cons.1 short with ⟨fits, othersFit⟩
    rw [List.foldl_cons] at aside
    cases here : (segment == "" || segment == ".") with
    | true =>
      rw [turn_here start here] at aside
      rw [walk, walk, enter_here upper start here, enter_here base start here]
      exact ih down.2 othersFit aside
    | false =>
      rw [turn_name start here down.1] at aside
      rw [walk, walk, enter_name upper start here down.1 fits, enter_name base start here down.1 fits]
      rcases overlays.others _ (ne_of_aside down.2 aside) with same | ⟨-, free, made⟩
      · rw [same]
        rcases base.get? (start ++ [segment]) with _ | _ | _
        · exact .inl rfl
        · exact .inl rfl
        · exact ih down.2 othersFit aside
      · rw [made, free]
        rcases overlays.walk_strayed made (closed.free_below free) down.2 othersFit aside with lost | strays
        · exact .inl lost
        · exact .inr ⟨rfl, strays⟩

/-- The same of a walk that begins with segments which the first tree lets be followed. -/
theorem Overlays.walk (overlays : base.Overlays upper way place) (closed : base.IsClosed) {start reached : Place}
    {before after : List String} (followed : base.walk start before = .ok reached) (down : ".." ∉ after)
    (short : ∀ segment ∈ after, segment.utf8ByteSize ≤ maxNameBytes)
    (aside : ¬ place <+: (before ++ after).foldl turn start) :
    upper.walk start (before ++ after) = base.walk start (before ++ after) ∨
      base.walk start (before ++ after) = .error .notFound ∧
        Strays base upper (upper.walk start (before ++ after)) := by
  rw [List.foldl_append, ← foldl_turn_of_walk followed] at aside
  rw [walk_append, walk_append, followed, overlays.toKeepsDirectories.walk followed]
  exact overlays.walk_down closed down short aside

/-- The conditions on a path under which neither tree can be told from the other by removing what it
leads to. -/
structure StaysAside (tree : FileTree) (way : Place → Prop) (place : Place) (path : String) : Prop where
  safe : tree.TurnsSafely path
  short : HasShortNames path
  aside : ¬ place <+: tree.placeOf path
  notAbove : ¬ way (tree.placeOf path)

theorem StaysAside.keep {before after : FileTree} {path : String} (stays : before.StaysAside way place path)
    (kept : before.KeepsDirectories after) : after.StaysAside way place path where
  safe := by
    rcases stays.safe with ⟨front, back, whole, down, reached, followed⟩
    rw [← startOf_congr kept.workingDirectory] at followed
    exact ⟨front, back, whole, down, reached, kept.walk followed⟩
  short := stays.short
  aside := by rw [kept.placeOf]; exact stays.aside
  notAbove := by rw [kept.placeOf]; exact stays.notAbove

/-- A walk along a part of the path. -/
theorem Overlays.walk_part (overlays : base.Overlays upper way place) (closed : base.IsClosed) {path : String}
    (stays : base.StaysAside way place path) {front back : List String}
    (whole : FilePath.segments path = front ++ back) :
    let start := base.startOf path
    upper.walk start front = base.walk start front ∨
      base.walk start front = .error .notFound ∧ Strays base upper (upper.walk start front) := by
  intro start
  rcases stays.safe with ⟨before, after, cut, down, reached, followed⟩
  rcases List.append_eq_append_iff.1 (whole.symm.trans cut) with ⟨rest, more, behind⟩ | ⟨rest, more, behind⟩
  · -- The part ends where the first tree lets the path be followed.
    subst more
    rw [walk_append] at followed
    cases part : base.walk start front with
    | error e => rw [part] at followed; cases followed
    | ok middle => exact .inl (overlays.toKeepsDirectories.walk part)
  · subst more
    rw [behind, List.mem_append, not_or] at down
    have shortRest : ∀ segment ∈ rest, segment.utf8ByteSize ≤ maxNameBytes := by
      intro segment member
      apply stays.short
      rw [whole]
      simp [member]
    apply overlays.walk closed followed down.1 shortRest
    intro reaches
    apply stays.aside
    rw [placeOf_of_unlinked closed.unlinked, whole, List.foldl_append]
    exact reaches.trans (prefix_foldl_turn down.2 _)

/-- What holds nothing in the first tree, and is neither the file nor on the way to it, holds
nothing in the second. -/
theorem Overlays.get?_of_aside (overlays : base.Overlays upper way place) {other : Place}
    (aside : ¬ place <+: other)
    (notAbove : ¬ way other) : upper.get? other = base.get? other := by
  have different : other ≠ place := by
    rintro rfl
    exact aside List.prefix_rfl
  rcases overlays.others other different with same | ⟨isAbove, -, -⟩
  · exact same
  · exact absurd isAbove notAbove

/-- A path that stays aside leads to the same target in both trees, or to nothing in either. -/
theorem Overlays.locate (overlays : base.Overlays upper way place) (closed : base.IsClosed) {path : String}
    (stays : base.StaysAside way place path) :
    upper.locate path = base.locate path ∨ base.locate path = .error .notFound ∧
      ∃ slash, upper.locate path = .ok (.name (base.placeOf path) slash) ∧
        upper.get? (base.placeOf path) = none := by
  have same := overlays.get?_of_aside stays.aside stays.notAbove
  have sameStart := startOf_congr overlays.workingDirectory path
  rw [locate_of_unlinked closed.unlinked, locate_of_unlinked (overlays.links.trans closed.unlinked), follow, follow,
    sameStart]
  split
  · exact .inl rfl
  split
  · exact .inl rfl
  rw [aim, aim]
  split
  · next front cut =>
    rw [(splitLast_eq_none cut).1]
    exact .inl rfl
  · next front last cut =>
    rcases splitLast_eq_some cut with ⟨solid, blanks, whole, empty⟩
    split
    · next dots =>
      have part : FilePath.segments path = (front ++ [last]) ++ blanks := by rw [whole]; simp
      rcases overlays.walk_part closed stays part with alike | ⟨lost, target, strayed, made, free⟩
      · exact .inl (by rw [alike])
      · -- The path would mean a directory that only the second tree has.
        exfalso
        have meant : base.placeOf path = target := by
          rw [foldl_turn_of_walk strayed, placeOf_of_unlinked closed.unlinked, part, List.foldl_append,
            foldl_turn_blanks empty]
        have nothing := free []
        rw [List.append_nil, ← meant, ← same, meant, made] at nothing
        cases nothing
    · next ordinary =>
      rcases overlays.walk_part closed stays whole with alike | ⟨lost, target, strayed, made, free⟩
      · exact .inl (by rw [alike])
      · have meant : base.placeOf path = target ++ [last] := by
          have name : last ≠ "." ∧ last ≠ ".." := by simpa using ordinary
          rw [foldl_turn_of_walk strayed, placeOf_of_unlinked closed.unlinked, whole,
            List.foldl_append, List.foldl_cons, foldl_turn_blanks empty, turn]
          simp [solid, name]
        have short : ¬ maxNameBytes < last.utf8ByteSize := by
          have fits := stays.short last (by rw [whole]; simp)
          omega
        rw [lost, strayed]
        refine .inr ⟨rfl, (FilePath.segments path).getLast? == some "", ?_, by rw [same, meant]; exact free _⟩
        rw [meant]
        dsimp only [bind, Except.bind]
        rw [if_neg short]
        rfl

/-! ## Removing from both trees -/

theorem Overlays.erase (overlays : base.Overlays upper way place) {other : Place} {content : String}
    (file : base.get? other = some (.file content)) :
    (base.erase other).Overlays (upper.erase other) way place := by
  have below : other ≠ [] := by
    rintro rfl
    cases file
  have erased : ∀ tree : FileTree, (tree.erase other).get? other = none := fun tree => tree.get?_erase_self below
  refine ⟨⟨overlays.workingDirectory, overlays.links, ?_⟩, ?_⟩
  · intro place there
    by_cases same : place = other
    · rw [same, erased] at there
      cases there
    · rw [get?_erase_of_ne _ same] at there ⊢
      exact overlays.directories place there
  · intro place different
    by_cases same : place = other
    · rw [same, erased, erased]
      exact .inl rfl
    · rw [get?_erase_of_ne _ same, get?_erase_of_ne _ same]
      exact overlays.others place different

theorem IsClosed.erase {tree : FileTree} (closed : tree.IsClosed) {place : Place} {content : String}
    (file : tree.get? place = some (.file content)) : (tree.erase place).IsClosed := by
  refine ⟨fun other entry member => ?_, closed.unlinked⟩
  rcases closed.nested other entry (List.mem_filter.1 member).1 with ⟨below, directory⟩
  refine ⟨below, ?_⟩
  have different : other.dropLast ≠ place := by
    intro same
    rw [isDirectoryAt, same, file] at directory
    cases directory
  rw [isDirectoryAt, get?_erase_of_ne _ different]
  exact directory

/-- Where there are no links, a path is removed by what it leads to. -/
theorem removeFile_of_unlinked {tree : FileTree} (unlinked : tree.links = []) (path : String) :
    tree.removeFile path =
      match tree.locate path with
      | .error e => ⟨.error e, tree⟩
      | .ok (.directory _) => ⟨.error .isADirectory, tree⟩
      | .ok (.name place slash) =>
        match tree.get? place, slash with
        | none, _ => ⟨.error .notFound, tree⟩
        | some .directory, _ => ⟨.error .isADirectory, tree⟩
        | some (.file _), true => ⟨.error .notADirectory, tree⟩
        | some (.file _), false => ⟨.ok (), tree.erase place⟩ := by
  have free (place : Place) : (tree.linkAt? place).isSome = false := by rw [linkAt?, unlinked]; rfl
  rw [removeFile]
  rcases tree.locate path with _ | _ | ⟨place, slash⟩
  · rfl
  · rfl
  · exact if_neg (by simp [free place])

/-- What a removal does to a tree without links: nothing, or it erases the place of the file that
the path leads to. -/
theorem removeFile_cases {tree : FileTree} (unlinked : tree.links = []) (path : String) :
    (tree.removeFile path).tree = tree ∨
      ∃ content, tree.get? (tree.placeOf path) = some (.file content) ∧
        (tree.removeFile path).tree = tree.erase (tree.placeOf path) := by
  rw [removeFile_of_unlinked unlinked]
  cases located : tree.locate path with
  | error e => exact .inl rfl
  | ok target =>
    cases target with
    | directory place => exact .inl rfl
    | name place slash =>
      rw [(placeOf_of_locate located).1]
      dsimp only
      cases there : tree.get? place with
      | none => exact .inl rfl
      | some entry =>
        cases entry with
        | directory => exact .inl rfl
        | file content =>
          cases slash with
          | true => exact .inl rfl
          | false => exact .inr ⟨content, rfl, rfl⟩

theorem removeFile_keepsDirectories {tree : FileTree} (unlinked : tree.links = []) (path : String) :
    tree.KeepsDirectories (tree.removeFile path).tree := by
  rcases removeFile_cases unlinked path with same | ⟨content, file, erased⟩
  · rw [same]
    exact .refl tree
  · rw [erased]
    refine ⟨rfl, rfl, fun other there => ?_⟩
    have different : other ≠ tree.placeOf path := by
      rintro rfl
      rw [file] at there
      cases there
    rw [get?_erase_of_ne _ different]
    exact there

theorem IsClosed.removeFile {tree : FileTree} (closed : tree.IsClosed) (path : String) :
    (tree.removeFile path).tree.IsClosed := by
  rcases removeFile_cases closed.unlinked path with same | ⟨content, file, erased⟩
  · rw [same]
    exact closed
  · rw [erased]
    exact closed.erase file

/-- A path that stays aside is removed from both trees with the same outcome, and one still overlays
the other. -/
theorem Overlays.removeFile (overlays : base.Overlays upper way place) (closed : base.IsClosed) {path : String}
    (stays : base.StaysAside way place path) :
    (upper.removeFile path).outcome = (base.removeFile path).outcome ∧
      (base.removeFile path).tree.Overlays (upper.removeFile path).tree way place := by
  have same := overlays.get?_of_aside stays.aside stays.notAbove
  rw [removeFile_of_unlinked closed.unlinked, removeFile_of_unlinked (overlays.links.trans closed.unlinked)]
  rcases overlays.locate closed stays with alike | ⟨lost, slash, found, nothing⟩
  · rw [alike]
    cases located : base.locate path with
    | error e => exact ⟨rfl, overlays⟩
    | ok target =>
      cases target with
      | directory place => exact ⟨rfl, overlays⟩
      | name other slash =>
        rw [(placeOf_of_locate located).1] at same
        dsimp only
        rw [same]
        cases there : base.get? other with
        | none => exact ⟨rfl, overlays⟩
        | some entry =>
          cases entry with
          | directory => exact ⟨rfl, overlays⟩
          | file content =>
            cases slash with
            | true => exact ⟨rfl, overlays⟩
            | false => exact ⟨rfl, overlays.erase there⟩
  · rw [lost, found]
    dsimp only
    rw [nothing]
    exact ⟨rfl, overlays⟩

/-! ## Names that are too long -/

/-- A name that is too long is noticed only where the directory above it is there. -/
theorem locate_of_long_name {tree : FileTree} (unlinked : tree.links = []) {path last : String}
    {front : List String}
    (noNul : '\x00' ∉ path.toList) (solid : path ≠ "")
    (cut : splitLast (FilePath.segments path) = (front, some last)) (long : maxNameBytes < last.utf8ByteSize) :
    tree.locate path =
      (tree.walk (tree.startOf path) front).bind (fun _ => .error .nameTooLong) := by
  have ordinary : last ≠ "." ∧ last ≠ ".." := by
    constructor
    · rintro rfl
      exact absurd long (by decide)
    · rintro rfl
      exact absurd long (by decide)
  rw [locate_of_unlinked unlinked, follow, if_neg (by simpa using noNul), if_neg (by simpa using solid)]
  rw [aim, cut]
  dsimp only
  rw [if_neg (by simpa using ordinary)]
  simp only [if_pos long]
  rfl

end FileTree
end Scaffold
