import Scaffold.Proofs.FileTree.Trail

namespace Scaffold

/-!
# The place that a path means

The segments of a path and the links say at which place it ends.  The files and directories only
decide whether the path can be followed that far.  The place is therefore the same before and after
a change that leaves the links alone.  Without links, paths under one root that consist of different
names mean different places.
-/

namespace FilePath

/-- The names of a path, which are all of its segments that are not empty. -/
def names (path : String) : List String :=
  (segments path).filter (fun segment => segment != "")

/-- A relative path in which every segment is a name or empty. -/
def IsPlain (path : String) : Prop :=
  isAbsolute path = false ∧ ∀ segment ∈ segments path, segment ≠ "." ∧ segment ≠ ".."

instance (path : String) : Decidable (IsPlain path) :=
  inferInstanceAs (Decidable (_ ∧ _))

theorem segments_append_slash (base path : String) :
    segments (base ++ "/" ++ path) = segments base ++ segments path := by
  have slash : (base ++ "/" ++ path).toList = base.toList ++ '/' :: path.toList := by simp
  rw [segments, slash, Text.pieces_append_break (by decide), List.map_append]
  rfl

/-- Joining puts the segments of a relative path behind those of the root, except for empty ones at
the end. -/
theorem segments_join (root : String) {path : String} (relative : isAbsolute path = false) :
    ∃ front blanks, segments root = front ++ blanks ∧ (∀ blank ∈ blanks, blank = "") ∧
      segments (join root path) = front ++ segments path ∧ isAbsolute (join root path) = isAbsolute root := by
  rw [join, if_neg (by simp [relative])]
  by_cases empty : root = ""
  · subst empty
    rw [if_pos (by decide), String.empty_append]
    exact ⟨[], [""], by decide, by simp, rfl, relative⟩
  · have first : ∀ rest, isAbsolute (root ++ rest) = isAbsolute root := by
      intro rest
      cases chars : root.toList with
      | nil => exact absurd (String.toList_eq_nil_iff.1 chars) empty
      | cons c others => simp [isAbsolute, chars]
    by_cases slash : root.toList.getLast? = some '/'
    · -- The segments of the root end in an empty one, which leads nowhere.
      rcases List.getLast?_eq_some_iff.1 slash with ⟨init, chars⟩
      rw [if_pos (by simp [slash])]
      have rootText : root = String.ofList init ++ "/" ++ "" := by
        apply String.ext
        simp [chars]
      have joined : segments (root ++ path) = segments (String.ofList init) ++ segments path := by
        rw [← segments_append_slash, rootText, String.append_empty]
      have alone : segments root = segments (String.ofList init) ++ [""] := by
        rw [rootText, segments_append_slash]
        rfl
      exact ⟨_, _, alone, by simp, joined, first path⟩
    · rw [if_neg (by simp [slash, empty])]
      refine ⟨segments root, [], by simp, by simp, segments_append_slash root path, ?_⟩
      rw [String.append_assoc, first]

end FilePath

namespace FileTree

/-- The place that a path means, whether or not the tree lets it be reached. -/
def placeOf (tree : FileTree) (path : String) : Place :=
  (tree.approach path).all.foldl turn (tree.startOf path)

theorem placeOf_of_unlinked {tree : FileTree} (unlinked : tree.links = []) (path : String) :
    tree.placeOf path = (FilePath.segments path).foldl turn (tree.startOf path) := by
  rw [placeOf, approach_of_unlinked unlinked]
  rfl

theorem turn_empty (place : Place) : turn place "" = place :=
  rfl

/-- Names are put behind a place one after the other. -/
theorem foldl_turn_names {segments : List String} (plain : ∀ segment ∈ segments, segment ≠ "." ∧ segment ≠ "..")
    (place : Place) : segments.foldl turn place = place ++ segments.filter (fun segment => segment != "") := by
  induction segments generalizing place with
  | nil => simp
  | cons segment rest ih =>
    have others := fun other member => plain other (List.mem_cons_of_mem segment member)
    rcases plain segment List.mem_cons_self with ⟨notHere, notUp⟩
    rw [List.foldl_cons, ih others]
    by_cases blank : segment = ""
    · subst blank
      rw [turn_empty, List.filter_cons_of_neg (by simp)]
    · rw [List.filter_cons_of_pos (by simpa using blank), turn]
      simp [blank, notHere, notUp]

theorem foldl_turn_blanks {blanks : List String} (empty : ∀ blank ∈ blanks, blank = "") (place : Place) :
    blanks.foldl turn place = place := by
  have plain : ∀ blank ∈ blanks, blank ≠ "." ∧ blank ≠ ".." := by
    intro blank member
    rw [empty blank member]
    exact ⟨by decide, by decide⟩
  rw [foldl_turn_names plain, List.filter_eq_nil_iff.2 (by simpa using empty), List.append_nil]

/-! ## Joining -/

/-- A relative path is followed from the place of the root to which it is joined. -/
theorem placeOf_join {tree : FileTree} (unlinked : tree.links = []) (root : String) {path : String}
    (relative : FilePath.isAbsolute path = false) :
    tree.placeOf (FilePath.join root path) = (FilePath.segments path).foldl turn (tree.placeOf root) := by
  rcases FilePath.segments_join root relative with ⟨front, blanks, whole, empty, joined, start⟩
  rw [placeOf_of_unlinked unlinked, placeOf_of_unlinked unlinked, joined, startOf, startOf, start, whole,
    List.foldl_append, List.foldl_append, foldl_turn_blanks empty]

theorem placeOf_join_plain {tree : FileTree} (unlinked : tree.links = []) (root : String) {path : String}
    (plain : FilePath.IsPlain path) :
    tree.placeOf (FilePath.join root path) = tree.placeOf root ++ FilePath.names path := by
  rw [placeOf_join unlinked root plain.1, foldl_turn_names plain.2]
  rfl

/-! ## Following a path -/

theorem turn_of_enter {tree : FileTree} {place next : Place} {segment : String}
    (entered : tree.enter place segment = .ok next) : next = turn place segment := by
  rw [enter] at entered
  rw [turn]
  split at entered
  · next here => cases entered; rw [if_pos here]
  · next notHere =>
    rw [if_neg notHere]
    split at entered
    · next up => cases entered; rw [if_pos up]
    · next notUp =>
      rw [if_neg notUp]
      split at entered
      · cases entered
      · split at entered <;> cases entered
        rfl

/-- A walk that succeeds ends where its segments say. -/
theorem foldl_turn_of_walk {tree : FileTree} {place target : Place} {segments : List String}
    (reached : tree.walk place segments = .ok target) : target = segments.foldl turn place := by
  induction segments generalizing place with
  | nil => cases reached; rfl
  | cons segment rest ih =>
    rw [walk] at reached
    cases entered : tree.enter place segment with
    | error e => rw [entered] at reached; cases reached
    | ok next =>
      rw [entered] at reached
      rw [List.foldl_cons, ← turn_of_enter entered]
      exact ih reached

theorem follow_eq_ok_iff {tree : FileTree} {path : String} {trail : Trail} {target : Target} :
    tree.follow path trail = .ok target ↔
      path.toList.contains '\x00' = false ∧ path.isEmpty = false ∧
        ∃ segments, trail = .ok segments ∧ tree.aim (tree.startOf path) segments = .ok target := by
  constructor
  · intro followed
    rw [follow.eq_def] at followed
    split at followed
    · cases followed
    next noNul =>
    split at followed
    · cases followed
    next solid =>
    refine ⟨by simpa using noNul, by simpa using solid, ?_⟩
    cases trail with
    | ok segments => exact ⟨segments, rfl, followed⟩
    | error front =>
      dsimp only at followed
      cases walked : tree.walk (tree.startOf path) front <;> rw [walked] at followed <;> cases followed
  · rintro ⟨noNul, solid, segments, rfl, aimed⟩
    rw [follow.eq_def, if_neg (by simpa using noNul), if_neg (by simpa using solid)]
    exact aimed

/-- Segments lead to a name when everything before the name can be walked and the name is not too
long. -/
theorem aim_eq_name_iff {tree : FileTree} {start place : Place} {segments : List String} {slash : Bool} :
    tree.aim start segments = .ok (.name place slash) ↔ ∃ before last reached,
      splitLast segments = (before, some last) ∧ (last == "." || last == "..") = false ∧
      tree.walk start before = .ok reached ∧ ¬ maxNameBytes < last.utf8ByteSize ∧ place = reached ++ [last] ∧
      slash = (segments.getLast? == some "") := by
  constructor
  · intro located
    rw [aim] at located
    split at located
    · next before cut =>
      cases walked : tree.walk start before <;> rw [walked] at located <;> cases located
    next before last cut =>
    split at located
    · cases walked : tree.walk start (before ++ [last]) <;> rw [walked] at located <;> cases located
    next ordinary =>
    cases walked : tree.walk start before with
    | error e => rw [walked] at located; cases located
    | ok reached =>
      rw [walked] at located
      dsimp only [bind, Except.bind] at located
      split at located
      · cases located
      next short =>
      cases located
      exact ⟨before, last, reached, cut, by simpa using ordinary, walked, short, rfl, rfl⟩
  · rintro ⟨before, last, reached, cut, ordinary, walked, short, rfl, rfl⟩
    simp only [aim, cut]
    rw [if_neg (by simpa using ordinary), walked]
    dsimp only [bind, Except.bind]
    rw [if_neg short]
    rfl

/-- A path leads to a name when everything before the name can be walked and the name is not too
long. -/
theorem locate_eq_name_iff {tree : FileTree} {path : String} {place : Place} {slash : Bool} :
    tree.locate path = .ok (.name place slash) ↔
      path.toList.contains '\x00' = false ∧ path.isEmpty = false ∧ ∃ segments before last reached,
        tree.approach path = .ok segments ∧ splitLast segments = (before, some last) ∧
        (last == "." || last == "..") = false ∧ tree.walk (tree.startOf path) before = .ok reached ∧
        ¬ maxNameBytes < last.utf8ByteSize ∧ place = reached ++ [last] ∧
          slash = (segments.getLast? == some "") := by
  rw [locate, follow_eq_ok_iff]
  simp only [aim_eq_name_iff, exists_and_left]

/-- A name that a path leads to lies at the place that the path means. -/
theorem placeOf_of_locate {tree : FileTree} {path : String} {place : Place} {slash : Bool}
    (located : tree.locate path = .ok (.name place slash)) : tree.placeOf path = place ∧ place ≠ [] := by
  rcases locate_eq_name_iff.1 located with
    ⟨-, -, segments, before, last, reached, approached, cut, ordinary, walked, -, rfl, -⟩
  rcases splitLast_eq_some cut with ⟨solid, blanks, whole, empty⟩
  have name : last ≠ "." ∧ last ≠ ".." := by simpa using ordinary
  refine ⟨?_, by simp⟩
  rw [placeOf, approached, Trail.all, whole, List.foldl_append, ← foldl_turn_of_walk walked, List.foldl_cons,
    foldl_turn_blanks empty, turn]
  simp [solid, name]

/-- A path with no link at its end leads to the same whether or not such a link is followed. -/
theorem arrive_of_locate {tree : FileTree} {path : String} {place : Place} {slash : Bool}
    (located : tree.locate path = .ok (.name place slash)) (free : tree.linkAt? place = none) :
    tree.arrive path = .ok (.name place slash) := by
  rcases follow_eq_ok_iff.1 located with ⟨noNul, solid, segments, approached, aimed⟩
  refine follow_eq_ok_iff.2 ⟨noNul, solid, segments, ?_, aimed⟩
  rcases aim_eq_name_iff.1 aimed with ⟨before, last, reached, cut, ordinary, walked, -, rfl, -⟩
  -- The last name of the trail is the one of the path, because nothing behind its directory is
  -- followed.
  rw [approach] at approached
  cases tried : tree.trail maxLinks (tree.startOf path) (splitLast (FilePath.segments path)).1 with
  | error others =>
    rw [tried] at approached
    cases approached
  | ok followed =>
    rw [tried] at approached
    have joined : followed ++
        (FilePath.segments path).drop (splitLast (FilePath.segments path)).1.length = segments :=
      Except.ok.inj approached
    cases ending : splitLast (FilePath.segments path) with
    | mk front own =>
      have whole := splitLast_append_drop (FilePath.segments path)
      rw [ending] at tried joined whole
      dsimp only at tried joined whole
      cases own with
      | none =>
        -- A path without a name has no name at the end of its trail.
        have nothing := (splitLast_eq_none ending).1
        rw [nothing] at tried whole joined
        cases tried.symm.trans (trail_nil tree maxLinks (tree.startOf path))
        rw [← joined, whole, ending] at cut
        cases cut
      | some name =>
        rcases splitLast_eq_some ending with ⟨named, blanks, shape, empty⟩
        rw [shape, List.drop_left] at joined
        rw [← joined, splitLast_append followed named empty] at cut
        cases cut
        rw [shape, ← joined]
        apply trail_append empty tried
        rw [← foldl_turn_of_walk walked, linkFrom?]
        have dots : ¬ (last == "" || last == "." || last == "..") = true := by
          rw [Bool.or_assoc, ordinary]
          simpa using named
        rw [if_neg dots]
        exact free

end FileTree
end Scaffold
