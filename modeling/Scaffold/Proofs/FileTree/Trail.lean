import Scaffold.FileTree.Change

namespace Scaffold
namespace FileTree

/-!
# Following links

Which segments of a path are links is a matter of the links alone, so the trail of a path stays what
it is as long as they do.  Without links, the trail of a path consists of its own segments.  A path
with no link at its end leads to the same whether or not such a link would be followed.
-/

variable {tree before after : FileTree} {path last : String}
  {segments front blanks followed : List String} {place : Place}

/-! ## The last segment -/

/-- What lies behind the last segment that is not empty is empty. -/
theorem splitLast_eq_some (cut : splitLast segments = (front, some last)) :
    last ≠ "" ∧ ∃ blanks, segments = front ++ last :: blanks ∧ ∀ blank ∈ blanks, blank = "" := by
  have whole := List.takeWhile_append_dropWhile (p := String.isEmpty) (l := segments.reverse)
  rw [splitLast] at cut
  cases ending : segments.reverse.dropWhile String.isEmpty with
  | nil => rw [ending] at cut; cases cut
  | cons head rest =>
    rw [ending] at cut whole
    cases cut
    have solid := List.head_dropWhile_not String.isEmpty (l := segments.reverse) (by simp [ending])
    simp only [ending, List.head_cons] at solid
    refine ⟨fun empty => by simp [empty] at solid, (segments.reverse.takeWhile String.isEmpty).reverse, ?_, ?_⟩
    · have turned := congrArg List.reverse whole
      simpa using turned.symm
    · intro blank member
      exact String.isEmpty_iff.1 (List.all_eq_true.1 List.all_takeWhile blank (List.mem_reverse.1 member))

theorem splitLast_append (front : List String) (solid : last ≠ "") (empty : ∀ blank ∈ blanks, blank = "") :
    splitLast (front ++ last :: blanks) = (front, some last) := by
  have notEmpty : ¬ last.isEmpty = true := by simpa using solid
  have all : ∀ blank ∈ blanks.reverse, blank.isEmpty = true := by
    intro blank member
    rw [empty blank (List.mem_reverse.1 member)]
    rfl
  rw [splitLast, List.reverse_append, List.reverse_cons, List.append_assoc, List.dropWhile_append_of_pos all,
    List.singleton_append, List.dropWhile_cons_of_neg notEmpty]
  simp

theorem splitLast_eq_none (cut : splitLast segments = (front, none)) :
    front = [] ∧ ∀ segment ∈ segments, segment = "" := by
  rw [splitLast] at cut
  split at cut <;> cases cut
  next blank =>
  refine ⟨rfl, fun segment member => ?_⟩
  have whole := List.takeWhile_append_dropWhile (p := String.isEmpty) (l := segments.reverse)
  rw [blank, List.append_nil] at whole
  have first := List.mem_reverse.2 member
  rw [← whole] at first
  exact String.isEmpty_iff.1 (List.all_eq_true.1 List.all_takeWhile segment first)

/-- Nothing is lost of a path that is taken apart before its last name. -/
theorem splitLast_append_drop (segments : List String) :
    (splitLast segments).1 ++ segments.drop (splitLast segments).1.length = segments := by
  cases cut : splitLast segments with
  | mk front ending =>
    cases ending with
    | none =>
      rw [(splitLast_eq_none cut).1]
      rfl
    | some last =>
      rcases splitLast_eq_some cut with ⟨-, blanks, whole, -⟩
      rw [whole, List.drop_left]

/-! ## Trails -/

/-- The segments of a trail, also when there are too many links on it. -/
def Trail.all : Trail → List String
  | .ok segments => segments
  | .error segments => segments

theorem linkFrom?_of_unlinked (unlinked : tree.links = []) (place : Place) (segment : String) :
    tree.linkFrom? place segment = none := by
  rw [linkFrom?, linkAt?, unlinked]
  split <;> rfl

theorem trailWith_of_unlinked (unlinked : tree.links = []) (onward : Place → List String → Trail) (place : Place)
    (segments : List String) : tree.trailWith onward place segments = .ok segments := by
  induction segments generalizing place with
  | nil => rfl
  | cons segment rest ih =>
    rw [trailWith, linkFrom?_of_unlinked unlinked, ih]
    rfl

/-- Where there are no links, a trail has the segments that it was asked for. -/
theorem trail_of_unlinked (unlinked : tree.links = []) (links : Nat) (place : Place) (segments : List String) :
    tree.trail links place segments = .ok segments := by
  cases links <;> exact trailWith_of_unlinked unlinked _ place segments

theorem linkAt?_congr (same : after.links = before.links) (place : Place) :
    after.linkAt? place = before.linkAt? place := by
  rw [linkAt?, linkAt?, same]

theorem trailWith_congr (same : after.links = before.links) (onward : Place → List String → Trail) (place : Place)
    (segments : List String) : after.trailWith onward place segments = before.trailWith onward place segments := by
  induction segments generalizing place with
  | nil => rfl
  | cons segment rest ih =>
    have alike : after.linkFrom? place segment = before.linkFrom? place segment := by
      rw [linkFrom?, linkFrom?, linkAt?_congr same]
    rw [trailWith, trailWith, alike, ih]

/-- Trees with the same links have the same trails. -/
theorem trail_congr (same : after.links = before.links) (links : Nat) (place : Place) (segments : List String) :
    after.trail links place segments = before.trail links place segments := by
  induction links generalizing place segments with
  | zero => exact trailWith_congr same _ place segments
  | succ links ih =>
    have onward : after.trail links = before.trail links := funext fun place =>
      funext fun segments => ih place segments
    rw [trail, trail, onward]
    exact trailWith_congr same _ place segments

theorem trail_nil (tree : FileTree) (links : Nat) (place : Place) : tree.trail links place [] = .ok [] := by
  cases links <;> rfl

theorem trailWith_ending {onward : Place → List String → Trail} (empty : ∀ blank ∈ blanks, blank = "")
    (free : tree.linkFrom? place last = none) :
    tree.trailWith onward place (last :: blanks) = .ok (last :: blanks) := by
  have rest (here : Place) : tree.trailWith onward here blanks = .ok blanks := by
    induction blanks generalizing here with
    | nil => rfl
    | cons blank others ih =>
      rcases List.forall_mem_cons.1 empty with ⟨rfl, more⟩
      rw [trailWith, linkFrom?, if_pos (by rfl), ih more]
      rfl
  rw [trailWith, free, rest]
  rfl

/-- A last segment that is no link ends every trail that leads to it. -/
theorem trailWith_append {onward : Place → List String → Trail} (empty : ∀ blank ∈ blanks, blank = "")
    (further : ∀ {place front followed}, onward place front = .ok followed →
      tree.linkFrom? (followed.foldl turn place) last = none →
        onward place (front ++ last :: blanks) = .ok (followed ++ last :: blanks))
    (reached : tree.trailWith onward place front = .ok followed)
    (free : tree.linkFrom? (followed.foldl turn place) last = none) :
    tree.trailWith onward place (front ++ last :: blanks) = .ok (followed ++ last :: blanks) := by
  induction front generalizing place followed with
  | nil =>
    cases reached
    exact trailWith_ending empty free
  | cons segment rest ih =>
    rw [trailWith] at reached
    rw [List.cons_append, trailWith]
    cases link : tree.linkFrom? place segment with
    | some target =>
      rw [link] at reached
      dsimp only at reached ⊢
      rw [← List.append_assoc]
      exact further reached free
    | none =>
      rw [link] at reached
      dsimp only at reached ⊢
      cases behind : tree.trailWith onward (turn place segment) rest with
      | error others =>
        rw [behind] at reached
        cases reached
      | ok others =>
        rw [behind] at reached
        cases reached
        rw [ih behind free]
        rfl

theorem trail_append {links : Nat} (empty : ∀ blank ∈ blanks, blank = "")
    (reached : tree.trail links place front = .ok followed)
    (free : tree.linkFrom? (followed.foldl turn place) last = none) :
    tree.trail links place (front ++ last :: blanks) = .ok (followed ++ last :: blanks) := by
  induction links generalizing place front followed with
  | zero => exact trailWith_append empty (fun _ _ => by contradiction) reached free
  | succ links ih => exact trailWith_append empty ih reached free

/-! ## The trail of a path -/

theorem approach_of_unlinked (unlinked : tree.links = []) (path : String) :
    tree.approach path = .ok (FilePath.segments path) := by
  rw [approach, trail_of_unlinked unlinked]
  exact congrArg Except.ok (splitLast_append_drop _)

theorem startOf_congr (same : after.workingDirectory = before.workingDirectory) (path : String) :
    after.startOf path = before.startOf path := by
  rw [startOf, startOf, same]

theorem approach_congr (links : after.links = before.links)
    (workingDirectory : after.workingDirectory = before.workingDirectory) (path : String) :
    after.approach path = before.approach path := by
  rw [approach, approach, startOf_congr workingDirectory, trail_congr links]

/-- Where there are no links, a path leads where its own segments do. -/
theorem locate_of_unlinked (unlinked : tree.links = []) (path : String) :
    tree.locate path = tree.follow path (.ok (FilePath.segments path)) := by
  rw [locate, approach_of_unlinked unlinked]

theorem arrive_of_unlinked (unlinked : tree.links = []) (path : String) : tree.arrive path = tree.locate path := by
  rw [arrive, trail_of_unlinked unlinked, locate_of_unlinked unlinked]

/-- A path with a NUL character is refused, whatever its trail. -/
theorem follow_of_nul (tree : FileTree) (nul : '\x00' ∈ path.toList) (trail : Trail) :
    tree.follow path trail = .error .nulInPath := by
  rw [follow.eq_def, if_pos (by simpa using nul)]

end FileTree
end Scaffold
