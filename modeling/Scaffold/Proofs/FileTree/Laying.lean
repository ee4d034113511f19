import Scaffold.Proofs.FileTree.Steps

namespace Scaffold

/-!
# Making the directories of a path

Directories are made from the first missing one down, although the system asks for the last one
first and goes up from there.  `lay` says what comes of it: it follows the names of a path, makes
what is missing, and stops at a file or at a name that is too long.
-/

namespace FilePath

/-- The segment is the name of something. -/
structure IsName (segment : String) : Prop where
  moves : leads segment = true
  notUp : segment ≠ ".."

theorem isName_iff {segment : String} : IsName segment ↔ leads segment = true ∧ segment ≠ ".." :=
  ⟨fun name => ⟨name.moves, name.notUp⟩, fun name => ⟨name.1, name.2⟩⟩

instance (segment : String) : Decidable (IsName segment) :=
  decidable_of_iff' _ isName_iff

theorem IsName.ne_here {segment : String} (name : IsName segment) : (segment == "" || segment == ".") = false := by
  have moves := name.moves
  rw [leads, Bool.not_eq_true'] at moves
  exact moves

end FilePath

namespace FileTree

open FilePath (leads steps IsName IsTidy EndsInStep)

variable {tree : FileTree}

/-- Makes the directories that are missing on the way from a place through a list of names. -/
def lay (tree : FileTree) (place : Place) : List String → Changed
  | [] => ⟨.ok (), tree⟩
  | name :: rest =>
    if maxNameBytes < name.utf8ByteSize then ⟨.error .nameTooLong, tree⟩
    else
      match tree.get? (place ++ [name]) with
      | some .directory => lay tree (place ++ [name]) rest
      | some (.file _) => ⟨.error (if rest.isEmpty then .alreadyExists else .notADirectory), tree⟩
      | none => lay (tree.put (place ++ [name]) .directory) (place ++ [name]) rest

section

variable {place : Place} {name : String} {rest : List String}

theorem lay_long (long : maxNameBytes < name.utf8ByteSize) :
    tree.lay place (name :: rest) = ⟨.error .nameTooLong, tree⟩ := by
  rw [lay, if_pos long]

theorem lay_directory (short : ¬ maxNameBytes < name.utf8ByteSize)
    (there : tree.get? (place ++ [name]) = some .directory) :
    tree.lay place (name :: rest) = tree.lay (place ++ [name]) rest := by
  rw [lay, if_neg short, there]

theorem lay_file (short : ¬ maxNameBytes < name.utf8ByteSize) {content : String}
    (there : tree.get? (place ++ [name]) = some (.file content)) :
    tree.lay place (name :: rest) = ⟨.error (if rest.isEmpty then .alreadyExists else .notADirectory), tree⟩ := by
  rw [lay, if_neg short, there]

theorem lay_free (short : ¬ maxNameBytes < name.utf8ByteSize) (free : tree.get? (place ++ [name]) = none) :
    tree.lay place (name :: rest) = (tree.put (place ++ [name]) .directory).lay (place ++ [name]) rest := by
  rw [lay, if_neg short, free]

end

theorem lay_addsDirectories (tree : FileTree) (place : Place) (names : List String) :
    tree.AddsDirectories (tree.lay place names).tree := by
  induction names generalizing tree place with
  | nil => exact .refl tree
  | cons name rest ih =>
    by_cases short : maxNameBytes < name.utf8ByteSize
    · rw [lay_long short]
      exact .refl tree
    · cases there : tree.get? (place ++ [name]) with
      | none =>
        rw [lay_free short there]
        exact (addsDirectories_put there).trans (ih _ _)
      | some entry =>
        cases entry with
        | directory =>
          rw [lay_directory short there]
          exact ih _ _
        | file content =>
          rw [lay_file short there]
          exact .refl tree

/-- What becomes of an error when there is more behind the last name. -/
def onTheWay (e : OsError) : OsError :=
  if e = .alreadyExists then .notADirectory else e

/-- The last directory is made after those before it. -/
theorem lay_concat (tree : FileTree) (place : Place) (names : List String) (last : String) :
    tree.lay place (names ++ [last]) =
      match (tree.lay place names).outcome with
      | .ok () => (tree.lay place names).tree.lay (place ++ names) [last]
      | .error e => ⟨.error (onTheWay e), (tree.lay place names).tree⟩ := by
  induction names generalizing tree place with
  | nil => simp only [List.nil_append, List.append_nil, lay]
  | cons name rest ih =>
    have further : place ++ name :: rest = place ++ [name] ++ rest := by simp
    by_cases short : maxNameBytes < name.utf8ByteSize
    · rw [List.cons_append, lay_long short, lay_long short]
      rfl
    · cases there : tree.get? (place ++ [name]) with
      | none =>
        rw [List.cons_append, lay_free short there, lay_free short there, ih, further]
      | some entry =>
        cases entry with
        | directory =>
          rw [List.cons_append, lay_directory short there, lay_directory short there, ih, further]
        | file content =>
          rw [List.cons_append, lay_file short there, lay_file short there]
          cases rest <;> rfl

/-! ## Laying and walking -/

theorem walk_leads (tree : FileTree) (place : Place) (segments : List String) :
    tree.walk place (segments.filter leads) = tree.walk place segments := by
  induction segments generalizing place with
  | nil => rfl
  | cons segment rest ih =>
    cases moves : leads segment with
    | true =>
      rw [List.filter_cons_of_pos moves, walk, walk]
      cases tree.enter place segment with
      | error e => rfl
      | ok next => exact ih next
    | false =>
      have here : (segment == "" || segment == ".") = true := by
        rw [leads, Bool.not_eq_false'] at moves
        exact moves
      rw [List.filter_cons_of_neg (by simp [moves]), walk, enter_here tree place here]
      exact ih place

/-- Only the segments that lead somewhere count for where a path ends. -/
theorem foldl_turn_leads (segments : List String) (place : Place) :
    (segments.filter leads).foldl turn place = segments.foldl turn place := by
  induction segments generalizing place with
  | nil => rfl
  | cons segment rest ih =>
    cases moves : leads segment with
    | true => rw [List.filter_cons_of_pos moves, List.foldl_cons, List.foldl_cons, ih]
    | false =>
      have here : (segment == "" || segment == ".") = true := by
        rw [leads, Bool.not_eq_false'] at moves
        exact moves
      rw [List.filter_cons_of_neg (by simp [moves]), List.foldl_cons, turn_here place here, ih]

/-- What a name leads to. -/
theorem enter_isName (tree : FileTree) (place : Place) {name : String} (named : IsName name) :
    tree.enter place name =
      if maxNameBytes < name.utf8ByteSize then .error .nameTooLong
      else
        match tree.get? (place ++ [name]) with
        | some .directory => .ok (place ++ [name])
        | some (.file _) => .error .notADirectory
        | none => .error .notFound := by
  have stays : ¬ (name == "" || name == ".") = true := by simp [named.ne_here]
  have climbs : ¬ (name == "..") = true := by simpa using named.notUp
  rcases found : tree.get? (place ++ [name]) with _ | _ | _
  all_goals rw [enter, if_neg stays, if_neg climbs, found]

section

variable {place : Place} {names : List String} (named : ∀ name ∈ names, IsName name)
include named

/-- Where one can walk, nothing has to be made. -/
theorem lay_of_walk {target : Place} (reached : tree.walk place names = .ok target) :
    tree.lay place names = ⟨.ok (), tree⟩ ∧ target = place ++ names := by
  induction names generalizing place with
  | nil =>
    cases reached
    exact ⟨rfl, (List.append_nil _).symm⟩
  | cons name rest ih =>
    obtain ⟨first, others⟩ := List.forall_mem_cons.1 named
    rw [walk, enter_isName tree place first] at reached
    split at reached
    · cases reached
    next short =>
    cases there : tree.get? (place ++ [name]) with
    | none => rw [there] at reached; cases reached
    | some entry =>
      rw [there] at reached
      cases entry with
      | file content => cases reached
      | directory =>
        obtain ⟨laid, meant⟩ := ih others reached
        rw [lay_directory short there, laid]
        exact ⟨rfl, by rw [meant, List.append_assoc]; rfl⟩

/-- A walk through names comes to a directory. -/
theorem get?_of_walk {target : Place} (reached : tree.walk place names = .ok target) :
    names = [] ∨ tree.get? target = some .directory := by
  induction names generalizing place with
  | nil => exact .inl rfl
  | cons name rest ih =>
    obtain ⟨first, others⟩ := List.forall_mem_cons.1 named
    rw [walk, enter_isName tree place first] at reached
    right
    split at reached
    · cases reached
    split at reached
    · next there =>
      rcases ih others reached with rfl | directory
      · cases reached
        exact there
      · exact directory
    · cases reached
    · cases reached

/-- One can walk through directories that have been made. -/
theorem walk_of_lay (laid : (tree.lay place names).outcome = .ok ()) :
    (tree.lay place names).tree.walk place names = .ok (place ++ names) := by
  induction names generalizing tree place with
  | nil => exact congrArg Except.ok (List.append_nil place).symm
  | cons name rest ih =>
    obtain ⟨first, others⟩ := List.forall_mem_cons.1 named
    have further : place ++ name :: rest = place ++ [name] ++ rest := by simp
    -- The first directory stays, whatever is made below it.
    have enters (below : FileTree) (there : below.get? (place ++ [name]) = some .directory)
        (short : ¬ maxNameBytes < name.utf8ByteSize)
        (made : (below.lay (place ++ [name]) rest).outcome = .ok ()) :
        (below.lay (place ++ [name]) rest).tree.walk place (name :: rest) = .ok (place ++ name :: rest) := by
      have kept := (lay_addsDirectories below (place ++ [name]) rest).directories _ there
      rw [walk, enter_isName _ place first, if_neg short, kept, further]
      exact ih others made
    by_cases short : maxNameBytes < name.utf8ByteSize
    · rw [lay_long short] at laid
      cases laid
    · cases there : tree.get? (place ++ [name]) with
      | none =>
        rw [lay_free short there] at laid ⊢
        exact enters _ (get?_put_self _ (by simp) _) short laid
      | some entry =>
        cases entry with
        | directory =>
          rw [lay_directory short there] at laid ⊢
          exact enters _ there short laid
        | file content =>
          rw [lay_file short there] at laid
          cases laid

/-- Where a walk is stopped by something, so is the making of directories, and none has been
made. -/
theorem lay_of_stopped {e : OsError} (stopped : tree.walk place names = .error e) (blocked : e ≠ .notFound) :
    ∃ met, tree.lay place names = ⟨.error met, tree⟩ ∧ onTheWay met = e := by
  induction names generalizing place with
  | nil => cases stopped
  | cons name rest ih =>
    obtain ⟨first, others⟩ := List.forall_mem_cons.1 named
    rw [walk, enter_isName tree place first] at stopped
    split at stopped
    · next long =>
      cases stopped
      exact ⟨_, lay_long long, rfl⟩
    next short =>
    cases there : tree.get? (place ++ [name]) with
    | none =>
      rw [there] at stopped
      cases stopped
      exact absurd rfl blocked
    | some entry =>
      rw [there] at stopped
      cases entry with
      | directory =>
        rw [lay_directory short there]
        exact ih others stopped
      | file content =>
        cases stopped
        refine ⟨_, lay_file short there, ?_⟩
        cases rest <;> rfl

end

/-! ## What lies below a directory -/

/-- Below the place, everything lies in a directory. -/
def IsClosedBelow (tree : FileTree) (base : Place) : Prop :=
  ∀ names name entry, names ≠ [] → tree.get? (base ++ names ++ [name]) = some entry →
    tree.get? (base ++ names) = some .directory

theorem IsClosed.below (closed : tree.IsClosed) (base : Place) : tree.IsClosedBelow base :=
  fun _ _ _ _ there => closed.parent there

variable {base : Place}

theorem IsClosedBelow.down (closed : tree.IsClosedBelow base) (names : List String) :
    tree.IsClosedBelow (base ++ names) := by
  intro more name entry some there
  rw [List.append_assoc base] at there ⊢
  exact closed (names ++ more) name entry (by simp [some]) there

theorem IsClosedBelow.above (closed : tree.IsClosedBelow base) {names : List String} (more : List String)
    (some : names ≠ []) (below : more ≠ []) {entry : Entry}
    (there : tree.get? (base ++ names ++ more) = .some entry) :
    tree.get? (base ++ names) = .some .directory := by
  induction more generalizing names with
  | nil => exact absurd rfl below
  | cons name rest ih =>
    cases rest with
    | nil => exact closed names name entry some there
    | cons next others =>
      have inner : tree.get? (base ++ (names ++ [name])) = .some .directory :=
        ih (by simp) (List.cons_ne_nil _ _) (by simpa using there)
      rw [← List.append_assoc] at inner
      exact closed names name .directory some inner

/-- Nothing lies below a place that is no directory. -/
theorem IsClosedBelow.free (closed : tree.IsClosedBelow base) {names more : List String} (some : names ≠ [])
    (below : more ≠ []) (open_ : tree.get? (base ++ names) ≠ .some .directory) :
    tree.get? (base ++ names ++ more) = none := by
  cases there : tree.get? (base ++ names ++ more) with
  | none => rfl
  | some entry => exact absurd (closed.above more some below there) open_

/-- Something is put at a place in a directory. -/
theorem IsClosedBelow.put (closed : tree.IsClosedBelow base) {names : List String} (last : String)
    (parent : names = [] ∨ tree.get? (base ++ names) = some .directory)
    (open_ : tree.get? (base ++ names ++ [last]) ≠ some .directory) (entry : Entry) :
    (tree.put (base ++ names ++ [last]) entry).IsClosedBelow base := by
  intro others name found some there
  have apart : base ++ others ≠ base ++ names ++ [last] := by
    intro same
    have reaches : others = names ++ [last] := by
      rw [List.append_assoc] at same
      exact List.append_cancel_left same
    have different : base ++ others ++ [name] ≠ base ++ names ++ [last] := by
      rw [same]
      simp
    rw [get?_put_of_ne _ different] at there
    exact open_ (same ▸ closed others name found some there)
  rw [get?_put_of_ne _ apart]
  by_cases same : base ++ others ++ [name] = base ++ names ++ [last]
  · obtain rfl : others = names := by
      rw [List.append_assoc, List.append_assoc] at same
      exact (List.append_inj' (List.append_cancel_left same) rfl).1
    exact parent.resolve_left some
  · rw [get?_put_of_ne _ same] at there
    exact closed others name found some there

theorem IsClosedBelow.lay (closed : tree.IsClosedBelow base) (front : List String)
    (here : front = [] ∨ tree.get? (base ++ front) = some .directory) (names : List String) :
    (tree.lay (base ++ front) names).tree.IsClosedBelow base := by
  induction names generalizing tree front with
  | nil => exact closed
  | cons name rest ih =>
    have further : base ++ front ++ [name] = base ++ (front ++ [name]) := List.append_assoc base front [name]
    by_cases short : maxNameBytes < name.utf8ByteSize
    · rw [lay_long short]
      exact closed
    · cases there : tree.get? (base ++ front ++ [name]) with
      | none =>
        have made := closed.put name here (by rw [there]; exact nofun) .directory
        rw [lay_free short there, further]
        exact ih (further ▸ made) (front ++ [name]) (.inr (get?_put_self _ (by simp) _))
      | some entry =>
        cases entry with
        | directory =>
          rw [lay_directory short there, further]
          exact ih closed (front ++ [name]) (.inr (further ▸ there))
        | file content =>
          rw [lay_file short there]
          exact closed

/-- Where nothing lies yet, only a name can be in the way. -/
theorem lay_of_free {place : Place} (free : ∀ more, more ≠ [] → tree.get? (place ++ more) = none)
    (names : List String) :
    (tree.lay place names).outcome = .ok () ∨ (tree.lay place names).outcome = .error .nameTooLong := by
  induction names generalizing tree place with
  | nil => exact .inl rfl
  | cons name rest ih =>
    by_cases short : maxNameBytes < name.utf8ByteSize
    · rw [lay_long short]
      exact .inr rfl
    · rw [lay_free short (free [name] (List.cons_ne_nil _ _))]
      apply ih
      intro more some
      have apart : place ++ [name] ++ more ≠ place ++ [name] := by simp [some]
      rw [get?_put_of_ne _ apart, List.append_assoc]
      exact free _ (by simp)

/-- Where a walk gets lost, no file is in the way of making the directories. -/
theorem lay_of_lost {place : Place} {names : List String} (named : ∀ name ∈ names, IsName name)
    (closed : tree.IsClosedBelow place) (lost : tree.walk place names = .error .notFound) :
    (tree.lay place names).outcome = .ok () ∨ (tree.lay place names).outcome = .error .nameTooLong := by
  induction names generalizing place with
  | nil => cases lost
  | cons name rest ih =>
    obtain ⟨first, others⟩ := List.forall_mem_cons.1 named
    rw [walk, enter_isName tree place first] at lost
    split at lost
    · cases lost
    next short =>
    cases there : tree.get? (place ++ [name]) with
    | none =>
      rw [lay_free short there]
      apply lay_of_free
      intro more some
      rw [get?_put_of_ne _ (by simp [some])]
      exact closed.free (List.cons_ne_nil _ _) some (by simp [there])
    | some entry =>
      rw [there] at lost
      cases entry with
      | file content => cases lost
      | directory =>
        rw [lay_directory short there]
        exact ih others (closed.down [name]) lost

/-! ## Paths that go down -/

/-- The path leads to a directory and from there down through a list of names, and there are no
links. -/
structure Descends (tree : FileTree) (path : String) (base : Place) (names : List String) : Prop where
  followed : ∃ before, steps path = before ++ names ∧ tree.walk (tree.startOf path) before = .ok base
  named : ∀ name ∈ names, IsName name
  unlinked : tree.links = []

variable {path : String} {names : List String} {last : String}

theorem Descends.keep {after : FileTree} (descends : tree.Descends path base names)
    (kept : tree.KeepsDirectories after) : after.Descends path base names := by
  obtain ⟨before, whole, reached⟩ := descends.followed
  refine ⟨⟨before, whole, ?_⟩, descends.named, kept.links.trans descends.unlinked⟩
  rw [startOf_congr kept.workingDirectory]
  exact kept.walk reached

theorem leads_iff {segment : String} : leads segment = true ↔ segment ≠ "" ∧ segment ≠ "." := by
  simp [leads]

theorem ne_empty_of_segments {front : List String} (ends : FilePath.segments path = front ++ [last])
    (moves : leads last = true) : path.isEmpty = false := by
  rw [String.isEmpty_eq_false_iff]
  rintro rfl
  obtain rfl : last = "" := by
    have only : [""] = front ++ [last] := ends
    rw [← List.nil_append [""]] at only
    exact (List.cons.inj (List.append_inj' only rfl).2).1.symm
  cases moves

/-- Where a path ends whose last segment is a name. -/
theorem locate_of_name (unlinked : tree.links = []) {front : List String} (noNul : '\x00' ∉ path.toList)
    (ends : FilePath.segments path = front ++ [last]) (named : IsName last) :
    tree.locate path =
      (tree.walk (tree.startOf path) front).bind fun place =>
        if maxNameBytes < last.utf8ByteSize then .error .nameTooLong else .ok (.name (place ++ [last]) false) := by
  have solid := leads_iff.1 named.moves
  have notUp := named.notUp
  rw [locate_of_unlinked unlinked, follow, if_neg (by simpa using noNul),
    if_neg (by simp [ne_empty_of_segments ends named.moves]), aim]
  rw [ends, splitLast_append front solid.1 (List.forall_mem_nil _)]
  dsimp only
  rw [if_neg (by simp [solid.2, notUp])]
  have slash : ((front ++ [last]).getLast? == some "") = false := by
    rw [List.getLast?_concat]
    simpa using solid.1
  rw [slash]
  rfl

/-- The steps of a path that ends in a name. -/
theorem exists_front_of_descends (tidy : IsTidy path) (descends : tree.Descends path base (names ++ [last])) :
    ∃ front before, FilePath.segments path = front ++ [last] ∧ front.filter leads = before ++ names ∧
      tree.walk (tree.startOf path) before = .ok base := by
  obtain ⟨before, whole, reached⟩ := descends.followed
  have some : steps path ≠ [] := by
    rw [whole]
    simp
  obtain ⟨front, segment, ends, moves⟩ := tidy.resolve_left some
  have parts : front.filter leads ++ [segment] = before ++ names ++ [last] := by
    rw [List.append_assoc, ← whole, steps, ends, List.filter_append, List.filter_cons_of_pos moves, List.filter_nil]
  obtain ⟨frontIs, lastIs⟩ := List.append_inj' parts rfl
  obtain rfl := (List.cons.inj lastIs).1
  exact ⟨front, before, ends, frontIs, reached⟩

theorem locate_of_descends (noNul : '\x00' ∉ path.toList) (tidy : IsTidy path)
    (descends : tree.Descends path base (names ++ [last])) :
    tree.locate path = (tree.walk base names).bind fun place =>
      if maxNameBytes < last.utf8ByteSize then .error .nameTooLong else .ok (.name (place ++ [last]) false) := by
  obtain ⟨front, before, ends, parts, reached⟩ := exists_front_of_descends tidy descends
  rw [locate_of_name descends.unlinked noNul ends (descends.named last (by simp)), ← walk_leads,
    parts, walk_append, reached]
  rfl

/-- The path that is left when the last name is cut off goes down through the other names. -/
theorem exists_parent_of_descends (tidy : IsTidy path) (descends : tree.Descends path base (names ++ [last])) :
    ∃ parent, FilePath.parent? path = some parent ∧ tree.Descends parent base names ∧ parent.length < path.length ∧
      IsTidy parent ∧ ∀ c ∈ parent.toList, c ∈ path.toList := by
  obtain ⟨front, before, ends, parts, reached⟩ := exists_front_of_descends tidy descends
  obtain ⟨parent, cut, above, start, rest⟩ := FilePath.exists_parent ends (descends.named last (by simp)).moves
  refine ⟨parent, cut, ⟨⟨before, above.trans parts, ?_⟩, ?_, descends.unlinked⟩, rest⟩
  · rw [startOf, start]
    exact reached
  · exact fun name member => descends.named name (List.mem_append_left _ member)

theorem filter_leads_blanks {blanks : List String} (empty : ∀ blank ∈ blanks, blank = "") :
    blanks.filter leads = [] := by
  rw [List.filter_eq_nil_iff]
  intro blank member
  rw [empty blank member]
  decide

/-- A walk that ends with a name comes to the directory of this name. -/
theorem walk_concat_name {start : Place} {front : List String} (named : IsName last)
    (reached : tree.walk start (front ++ [last]) = .ok base) :
    ∃ place, tree.walk start front = .ok place ∧ base = place ++ [last] ∧ tree.get? base = some .directory ∧
      ¬ maxNameBytes < last.utf8ByteSize := by
  rw [walk_append] at reached
  cases walked : tree.walk start front with
  | error e => rw [walked] at reached; cases reached
  | ok place =>
    rw [walked] at reached
    have only := List.forall_mem_singleton.2 named
    obtain ⟨-, rfl⟩ := lay_of_walk only reached
    have directory := (get?_of_walk only reached).resolve_left (List.cons_ne_nil _ _)
    refine ⟨place, rfl, rfl, directory, fun long => ?_⟩
    dsimp only [Except.bind] at reached
    rw [walk, enter_isName tree place named, if_pos long] at reached
    cases reached

/-- Where a path leads that can be walked to its end. -/
theorem locate_of_walk (unlinked : tree.links = []) (noNul : '\x00' ∉ path.toList) (solid : path.isEmpty = false)
    (reached : tree.walk (tree.startOf path) (FilePath.segments path) = .ok base) :
    tree.locate path = .ok (.directory base) ∨
      tree.get? base = some .directory ∧ ∃ slash, tree.locate path = .ok (.name base slash) := by
  rw [locate_of_unlinked unlinked, follow, if_neg (by simpa using noNul), if_neg (by simp [solid]), aim]
  rw [← walk_leads] at reached
  split
  · next front cut =>
    -- The path has no segment that leads anywhere.
    obtain ⟨rfl, empty⟩ := splitLast_eq_none cut
    rw [filter_leads_blanks empty] at reached
    cases reached
    exact .inl rfl
  · next front last cut =>
    obtain ⟨solid, blanks, whole, empty⟩ := splitLast_eq_some cut
    have short : (FilePath.segments path).filter leads = (front ++ [last]).filter leads := by
      rw [whole, List.append_cons, List.filter_append, filter_leads_blanks empty, List.append_nil]
    rw [short, walk_leads] at reached
    split
    · have aimed : (tree.walk (tree.startOf path) (front ++ [last])).map Target.directory =
          .ok (.directory base) := by
        rw [reached]
        rfl
      exact .inl aimed
    · next ordinary =>
      have dots : last ≠ "." ∧ last ≠ ".." := by simpa using ordinary
      obtain ⟨place, walked, rfl, there, fits⟩ :=
        walk_concat_name ⟨leads_iff.2 ⟨solid, dots.1⟩, dots.2⟩ reached
      refine .inr ⟨there, (FilePath.segments path).getLast? == some "", ?_⟩
      change (tree.walk (tree.startOf path) front).bind _ = _
      rw [walked]
      dsimp only [Except.bind]
      rw [if_neg fits]
      rfl

/-! ## Making directories, name by name -/

/-- A path that can be walked to its end leads to a directory. -/
theorem makeDirectory_of_walk (unlinked : tree.links = []) (noNul : '\x00' ∉ path.toList)
    (solid : path.isEmpty = false)
    (reached : tree.walk (tree.startOf path) (FilePath.segments path) = .ok base) :
    (tree.makeDirectory path).outcome = .error .alreadyExists ∧ tree.isDirectory path = true := by
  rw [makeDirectory, isDirectory, status, arrive_of_unlinked unlinked]
  rcases locate_of_walk unlinked noNul solid reached with located | ⟨there, slash, located⟩
  · rw [located]
    exact ⟨rfl, rfl⟩
  · rw [located]
    dsimp only [bind, Except.bind]
    rw [isTaken_of_unlinked unlinked, there]
    exact ⟨rfl, rfl⟩

/-- The last directory of a path, when those before it are there. -/
theorem ensureDirectory_of_walk (noNul : '\x00' ∉ path.toList) (tidy : IsTidy path)
    (descends : tree.Descends path base (names ++ [last])) (reached : tree.walk base names = .ok (base ++ names)) :
    tree.ensureDirectory path = tree.lay (base ++ names) [last] ∧
      (tree.makeDirectory path).outcome ≠ .error .notFound := by
  have arrived := arrive_of_unlinked descends.unlinked path
  have taken := isTaken_of_unlinked descends.unlinked (base ++ names ++ [last])
  have located := locate_of_descends noNul tidy descends
  rw [reached] at located
  dsimp only [Except.bind] at located
  by_cases long : maxNameBytes < last.utf8ByteSize
  · rw [if_pos long] at located
    constructor
    · rw [lay_long long, ensureDirectory, makeDirectory, isDirectory, status, arrived, located]
      rfl
    · rw [makeDirectory, located]
      rintro ⟨⟩
  · rw [if_neg long] at located
    cases there : tree.get? (base ++ names ++ [last]) with
    | none =>
      constructor
      · rw [lay_free long there, lay, ensureDirectory, makeDirectory, located]
        dsimp only
        rw [taken, there]
        rfl
      · rw [makeDirectory, located]
        dsimp only
        rw [taken, there]
        rintro ⟨⟩
    | some entry =>
      have blocked : tree.makeDirectory path = ⟨.error .alreadyExists, tree⟩ := by
        rw [makeDirectory, located]
        dsimp only
        rw [taken, there]
        rfl
      refine ⟨?_, by rw [blocked]; rintro ⟨⟩⟩
      have found : tree.isDirectory path = (entry == .directory) := by
        simp only [isDirectory, status, arrived, located, bind, Except.bind, there]
        cases entry <;> rfl
      rw [ensureDirectory, blocked, found]
      cases entry with
      | directory =>
        rw [lay_directory long there]
        rfl
      | file content =>
        rw [lay_file long there]
        rfl

section

variable {fuel : Nat}

theorem makeDirectoriesWithin_of_found (solid : path.isEmpty = false)
    (found : (tree.makeDirectory path).outcome ≠ .error .notFound) :
    tree.makeDirectoriesWithin (fuel + 1) path = tree.ensureDirectory path := by
  rw [makeDirectoriesWithin, if_neg (by simp [solid]), ensureDirectory]
  dsimp only
  cases outcome : (tree.makeDirectory path).outcome with
  | ok _ => rfl
  | error e =>
    dsimp only
    rw [outcome] at found
    rw [if_pos (by simpa using found)]

theorem makeDirectoriesWithin_of_lost {parent : String} (solid : path.isEmpty = false)
    (lost : (tree.makeDirectory path).outcome = .error .notFound) (cut : FilePath.parent? path = some parent) :
    tree.makeDirectoriesWithin (fuel + 1) path =
      match (tree.makeDirectoriesWithin fuel parent).outcome with
      | .ok () => (tree.makeDirectoriesWithin fuel parent).tree.ensureDirectory path
      | .error e => ⟨.error e, (tree.makeDirectoriesWithin fuel parent).tree⟩ := by
  rw [makeDirectoriesWithin, if_neg (by simp [solid])]
  dsimp only
  rw [lost]
  dsimp only
  rw [if_neg (by decide)]
  generalize FilePath.parent? path = above at cut
  subst cut
  rfl

end

/-- Nothing has to be made of a path that leads to a directory. -/
theorem makeDirectoriesWithin_of_reached (noNul : '\x00' ∉ path.toList) (descends : tree.Descends path base [])
    (fuel : Nat) : tree.makeDirectoriesWithin (fuel + 1) path = ⟨.ok (), tree⟩ := by
  cases solid : path.isEmpty with
  | true =>
    rw [makeDirectoriesWithin, solid]
    rfl
  | false =>
    obtain ⟨before, whole, reached⟩ := descends.followed
    rw [List.append_nil] at whole
    rw [← whole, steps, walk_leads] at reached
    obtain ⟨blocked, directory⟩ := makeDirectory_of_walk descends.unlinked noNul solid reached
    rw [makeDirectoriesWithin_of_found solid (by rw [blocked]; rintro ⟨⟩), ensureDirectory, blocked, directory]
    rfl

/-- No directory is made where the walk to it is stopped, and none is there. -/
theorem makeDirectory_of_stopped (noNul : '\x00' ∉ path.toList) (tidy : IsTidy path)
    (descends : tree.Descends path base (names ++ [last])) {e : OsError}
    (stopped : tree.walk base names = .error e) :
    tree.makeDirectory path = ⟨.error e, tree⟩ ∧ tree.isDirectory path = false := by
  have located := locate_of_descends noNul tidy descends
  rw [stopped] at located
  constructor
  · rw [makeDirectory, located]
    rfl
  · rw [isDirectory, status, arrive_of_unlinked descends.unlinked, located]
    rfl

/-- Making the directories of a path that goes down. -/
theorem makeDirectoriesWithin_eq_lay (closed : tree.IsClosedBelow base) (noNul : '\x00' ∉ path.toList)
    (tidy : IsTidy path) (descends : tree.Descends path base names) {fuel : Nat} (enough : path.length < fuel) :
    tree.makeDirectoriesWithin fuel path = tree.lay base names := by
  induction fuel generalizing path names with
  | zero => exact absurd enough (Nat.not_lt_zero _)
  | succ fuel ih =>
    rcases List.eq_nil_or_concat names with rfl | ⟨names, last, rfl⟩
    · exact makeDirectoriesWithin_of_reached noNul descends fuel
    · rw [List.concat_eq_append] at descends ⊢
      have named : ∀ name ∈ names, IsName name := fun name member =>
        descends.named name (List.mem_append_left _ member)
      obtain ⟨parent, cut, inner, shorter, parentTidy, chars⟩ := exists_parent_of_descends tidy descends
      have solid : path.isEmpty = false := by
        obtain ⟨front, before, ends, -⟩ := exists_front_of_descends tidy descends
        exact ne_empty_of_segments ends (descends.named last (by simp)).moves
      rw [lay_concat]
      cases walked : tree.walk base names with
      | ok target =>
        obtain ⟨laid, rfl⟩ := lay_of_walk named walked
        obtain ⟨ensured, found⟩ := ensureDirectory_of_walk noNul tidy descends walked
        rw [makeDirectoriesWithin_of_found solid found, ensured, laid]
      | error e =>
        obtain ⟨made, notDirectory⟩ := makeDirectory_of_stopped noNul tidy descends walked
        by_cases lost : e = .notFound
        · -- What is missing is made from the parent on.
          subst lost
          have laid := ih (fun member => noNul (chars _ member)) parentTidy inner (by omega)
          rw [makeDirectoriesWithin_of_lost solid (by rw [made]) cut, laid]
          cases outcome : (tree.lay base names).outcome with
          | ok _ =>
            have kept := (lay_addsDirectories tree base names).toKeepsDirectories
            exact (ensureDirectory_of_walk noNul tidy (descends.keep kept) (walk_of_lay named outcome)).1
          | error e =>
            rcases lay_of_lost named closed walked with fine | long
            · rw [fine] at outcome
              cases outcome
            · rw [long] at outcome
              cases outcome
              rfl
        · obtain ⟨met, laid, rfl⟩ := lay_of_stopped named walked lost
          rw [makeDirectoriesWithin_of_found solid (by rw [made]; simpa using lost), ensureDirectory, made, laid,
            notDirectory]
          rfl

theorem makeDirectories_eq_lay (closed : tree.IsClosedBelow base) (noNul : '\x00' ∉ path.toList)
    (tidy : IsTidy path)
    (descends : tree.Descends path base names) : tree.makeDirectories path = tree.lay base names :=
  makeDirectoriesWithin_eq_lay closed noNul tidy descends (Nat.lt_succ_self _)

end FileTree
end Scaffold
