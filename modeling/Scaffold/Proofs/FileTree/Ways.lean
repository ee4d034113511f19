import Scaffold.Proofs.FileTree.Laying

namespace Scaffold
namespace FileTree

/-!
# Ways through a tree

What lies at the end of a path depends on the way to it only as far as the directories on the way
are there.  Two trees share a way when they have the same on it, except for directories that only
the second one has.  Making the directories of the way then comes to the same in both.
-/

open FilePath (IsName IsTidy)

variable {tree before after : FileTree} {path : String} {base : Place} {names : List String} {last : String}

/-! ## The end of a path -/

/-- The names are short enough for a file system. -/
def AreShort (names : List String) : Prop :=
  ∀ name ∈ names, ¬ maxNameBytes < name.utf8ByteSize

/-- Where something lies, the directories above it can be walked. -/
theorem IsClosedBelow.walk (closed : tree.IsClosedBelow base) (named : ∀ name ∈ names, IsName name)
    (short : AreShort names) {entry : Entry} (there : tree.get? (base ++ names ++ [last]) = some entry) :
    tree.walk base names = .ok (base ++ names) := by
  induction names generalizing base with
  | nil => exact congrArg Except.ok (List.append_nil base).symm
  | cons name rest ih =>
    obtain ⟨first, others⟩ := List.forall_mem_cons.1 named
    obtain ⟨fits, othersFit⟩ := List.forall_mem_cons.1 short
    have further : base ++ name :: rest = base ++ [name] ++ rest := by simp
    rw [further] at there
    have directory : tree.get? (base ++ [name]) = some .directory :=
      closed.above (rest ++ [last]) (List.cons_ne_nil _ _) (by simp) (by rw [← List.append_assoc]; exact there)
    rw [FileTree.walk, enter_isName tree base first, if_neg fits, directory, further]
    exact ih (closed.down [name]) others othersFit there

theorem areShort_of_walk {place target : Place} (named : ∀ name ∈ names, IsName name)
    (reached : tree.walk place names = .ok target) : AreShort names := by
  induction names generalizing place with
  | nil => exact List.forall_mem_nil _
  | cons name rest ih =>
    obtain ⟨first, others⟩ := List.forall_mem_cons.1 named
    rw [walk, enter_isName tree place first] at reached
    split at reached
    · cases reached
    next fits =>
    refine List.forall_mem_cons.2 ⟨fits, ?_⟩
    split at reached
    · exact ih others reached
    · cases reached
    · cases reached

theorem status_of_nul (nul : '\x00' ∈ path.toList) : tree.status path = .error .nulInPath := by
  rw [status, arrive, follow_of_nul tree nul]
  rfl

section

variable (tidy : IsTidy path) (descends : tree.Descends path base (names ++ [last]))
include tidy descends

/-- What a path leads to when the way to its end can be walked. -/
theorem status_of_walk (noNul : '\x00' ∉ path.toList) (fits : ¬ maxNameBytes < last.utf8ByteSize)
    (reached : tree.walk base names = .ok (base ++ names)) :
    tree.status path =
      match tree.get? (base ++ names ++ [last]) with
      | none => .error .notFound
      | some entry => .ok entry := by
  rw [status, arrive_of_unlinked descends.unlinked, locate_of_descends noNul tidy descends, reached]
  dsimp only [Except.bind, bind]
  rw [if_neg fits]
  dsimp only
  rcases tree.get? (base ++ names ++ [last]) with _ | _ | _ <;> rfl

/-- What a path leads to lies at its end. -/
theorem found_of_status {entry : Entry} (found : tree.status path = .ok entry) :
    '\x00' ∉ path.toList ∧ AreShort (names ++ [last]) ∧ tree.walk base names = .ok (base ++ names) ∧
      tree.get? (base ++ names ++ [last]) = some entry := by
  have named : ∀ name ∈ names, IsName name := fun name member => descends.named name (List.mem_append_left _ member)
  have noNul : '\x00' ∉ path.toList := by
    intro nul
    rw [status_of_nul nul] at found
    cases found
  rw [status, arrive_of_unlinked descends.unlinked, locate_of_descends noNul tidy descends] at found
  cases walked : tree.walk base names with
  | error e =>
    rw [walked] at found
    cases found
  | ok target =>
    rcases lay_of_walk named walked with ⟨-, rfl⟩
    rw [walked] at found
    by_cases long : maxNameBytes < last.utf8ByteSize
    · simp [Except.bind, bind, long] at found
    · refine ⟨noNul, List.forall_mem_append.2
        ⟨areShort_of_walk named walked, List.forall_mem_singleton.2 long⟩, rfl, ?_⟩
      dsimp only [Except.bind, bind] at found
      rw [if_neg long] at found
      dsimp only at found
      cases there : tree.get? (base ++ names ++ [last]) with
      | none =>
        rw [there] at found
        cases found
      | some other =>
        rw [there] at found
        cases other <;> cases found <;> rfl

/-- Where the way to its end cannot be walked, a path leads nowhere. -/
theorem status_of_lost {e : OsError} (lost : tree.walk base names = .error e) :
    ∃ e, tree.status path = .error e := by
  cases found : tree.status path with
  | error e => exact ⟨e, rfl⟩
  | ok entry =>
    rw [(found_of_status tidy descends found).2.2.1] at lost
    cases lost

/-- What a path leads to that goes down: what lies at its end, if no name is too long. -/
theorem status_eq_ok_iff (closed : tree.IsClosedBelow base) {entry : Entry} :
    tree.status path = .ok entry ↔
      '\x00' ∉ path.toList ∧ AreShort (names ++ [last]) ∧ tree.get? (base ++ names ++ [last]) = some entry := by
  constructor
  · intro found
    rcases found_of_status tidy descends found with ⟨noNul, short, -, there⟩
    exact ⟨noNul, short, there⟩
  · rintro ⟨noNul, short, there⟩
    rcases List.forall_mem_append.1 short with ⟨shortNames, fits⟩
    have named : ∀ name ∈ names, IsName name := fun name member =>
      descends.named name (List.mem_append_left _ member)
    rw [status_of_walk tidy descends noNul (fits last List.mem_cons_self)
      (closed.walk named shortNames there), there]

end

/-! ## Ways that two trees share -/

/-- The second tree has on the way through the names what the first one has, and perhaps more
directories. -/
structure SharesWay (before after : FileTree) (base : Place) (names : List String) : Prop
    extends KeepsDirectories before after where
  above : ∀ front, front ≠ [] → front <+: names → after.get? (base ++ front) = before.get? (base ++ front) ∨
    before.get? (base ++ front) = none ∧ after.get? (base ++ front) = some .directory

theorem SharesWay.refl (tree : FileTree) (base : Place) (names : List String) : tree.SharesWay tree base names :=
  ⟨.refl tree, fun _ _ _ => .inl rfl⟩

theorem SharesWay.trans {middle : FileTree} (first : before.SharesWay middle base names)
    (last : middle.SharesWay after base names) : before.SharesWay after base names := by
  refine ⟨first.toKeepsDirectories.trans last.toKeepsDirectories, fun front some part => ?_⟩
  rcases first.above front some part with same | ⟨free, made⟩
  · rw [← same]
    exact last.above front some part
  · rcases last.above front some part with same | ⟨alsoFree, -⟩
    · exact .inr ⟨free, same.trans made⟩
    · rw [made] at alsoFree
      cases alsoFree

theorem SharesWay.down {name : String} (shares : before.SharesWay after base (name :: names)) :
    before.SharesWay after (base ++ [name]) names := by
  refine ⟨shares.toKeepsDirectories, fun front some part => ?_⟩
  rw [List.append_assoc]
  exact shares.above (name :: front) (List.cons_ne_nil _ _) (List.cons_prefix_cons.2 ⟨rfl, part⟩)

/-- A way that is shared below its first directory is shared as a whole. -/
theorem SharesWay.up {name : String} (shares : before.SharesWay after (base ++ [name]) names)
    (first : after.get? (base ++ [name]) = before.get? (base ++ [name])) :
    before.SharesWay after base (name :: names) := by
  refine ⟨shares.toKeepsDirectories, fun front some part => ?_⟩
  cases front with
  | nil => exact absurd rfl some
  | cons segment rest =>
    obtain ⟨rfl, inner⟩ := List.cons_prefix_cons.1 part
    by_cases alone : rest = []
    · rw [alone]
      exact .inl first
    · have below := shares.above rest alone inner
      rw [List.append_assoc] at below
      exact below

theorem KeepsDirectories.put (kept : before.KeepsDirectories after) (place : Place) :
    (before.put place .directory).KeepsDirectories (after.put place .directory) := by
  refine ⟨kept.workingDirectory, kept.links, fun other there => ?_⟩
  by_cases same : other = place
  · subst same
    by_cases root : other = []
    · rw [root, get?_root]
    · exact get?_put_self _ root _
  · rw [get?_put_of_ne _ same] at there ⊢
    exact kept.directories other there

theorem SharesWay.put (shares : before.SharesWay after base names) :
    (before.put base .directory).SharesWay (after.put base .directory) base names := by
  refine ⟨shares.toKeepsDirectories.put base, fun front some part => ?_⟩
  rw [get?_put_of_ne _ (by simp [some]), get?_put_of_ne _ (by simp [some])]
  exact shares.above front some part

/-- A directory that only the second tree had is made in the first. -/
theorem SharesWay.putFirst (shares : before.SharesWay after base names) (made : after.get? base = some .directory) :
    (before.put base .directory).SharesWay after base names := by
  refine ⟨⟨shares.workingDirectory, shares.links, fun other there => ?_⟩, fun front some part => ?_⟩
  · by_cases same : other = base
    · rw [same]
      exact made
    · rw [get?_put_of_ne _ same] at there
      exact shares.directories other there
  · rw [get?_put_of_ne _ (by simp [some])]
    exact shares.above front some part

/-- Making the directories of a shared way comes to the same in both trees, and the way stays
shared. -/
theorem SharesWay.lay (shares : before.SharesWay after base names) :
    (after.lay base names).outcome = (before.lay base names).outcome ∧
      (before.lay base names).tree.SharesWay (after.lay base names).tree base names := by
  induction names generalizing before after base with
  | nil => exact ⟨rfl, shares⟩
  | cons name rest ih =>
    by_cases short : maxNameBytes < name.utf8ByteSize
    · rw [lay_long short, lay_long short]
      exact ⟨rfl, shares⟩
    have below := shares.down
    -- The first directory is there in both trees once it has been made.
    have both {first second : FileTree} (inFirst : first.get? (base ++ [name]) = some .directory)
        (inSecond : second.get? (base ++ [name]) = some .directory)
        (way : first.SharesWay second (base ++ [name]) rest) :
        (second.lay (base ++ [name]) rest).outcome = (first.lay (base ++ [name]) rest).outcome ∧
          (first.lay (base ++ [name]) rest).tree.SharesWay (second.lay (base ++ [name]) rest).tree base
            (name :: rest) := by
      obtain ⟨outcome, inner⟩ := ih way
      refine ⟨outcome, inner.up ?_⟩
      rw [(lay_addsDirectories first _ rest).directories _ inFirst,
        (lay_addsDirectories second _ rest).directories _ inSecond]
    have here : base ++ [name] ≠ [] := by simp
    rcases shares.above [name] (List.cons_ne_nil _ _) (by simp) with same | ⟨free, made⟩
    · cases there : before.get? (base ++ [name]) with
      | none =>
        rw [there] at same
        rw [lay_free short same, lay_free short there]
        exact both (get?_put_self _ here _) (get?_put_self _ here _) below.put
      | some entry =>
        rw [there] at same
        cases entry with
        | directory =>
          rw [lay_directory short same, lay_directory short there]
          exact both there same below
        | file content =>
          rw [lay_file short same, lay_file short there]
          exact ⟨rfl, shares⟩
    · rw [lay_free short free, lay_directory short made]
      exact both (get?_put_self _ here _) made (below.putFirst made)

/-- Where nothing has to be made in the first tree, nothing has to be made in the second. -/
theorem SharesWay.get?_lay (shares : before.SharesWay after base names)
    (settled : ∀ place, (before.lay base names).tree.get? place = before.get? place) (place : Place) :
    (after.lay base names).tree.get? place = after.get? place := by
  induction names generalizing base with
  | nil => rfl
  | cons name rest ih =>
    by_cases short : maxNameBytes < name.utf8ByteSize
    · rw [lay_long short]
    have there : before.get? (base ++ [name]) ≠ none := by
      intro free
      have made := settled (base ++ [name])
      rw [lay_free short free, free] at made
      rw [(lay_addsDirectories _ _ rest).directories _ (get?_put_self _ (by simp) _)] at made
      cases made
    rcases shares.above [name] (List.cons_ne_nil _ _) (by simp) with same | ⟨free, -⟩
    · cases entry : before.get? (base ++ [name]) with
      | none => exact absurd entry there
      | some kind =>
        rw [entry] at same
        cases kind with
        | directory =>
          rw [lay_directory short same]
          apply ih shares.down
          intro place
          rw [← lay_directory short entry]
          exact settled place
        | file content => rw [lay_file short same]
    · exact absurd free there

/-- Directories that have been made are not made again. -/
theorem lay_lay (tree : FileTree) (base : Place) (names : List String) :
    (tree.lay base names).tree.lay base names = tree.lay base names := by
  induction names generalizing tree base with
  | nil => rfl
  | cons name rest ih =>
    by_cases short : maxNameBytes < name.utf8ByteSize
    · rw [lay_long short, lay_long short]
    · cases there : tree.get? (base ++ [name]) with
      | none =>
        rw [lay_free short there]
        have made := (lay_addsDirectories (tree.put (base ++ [name]) .directory)
          (base ++ [name]) rest).directories _
          (get?_put_self _ (by simp) _)
        rw [lay_directory short made]
        exact ih _ _
      | some entry =>
        cases entry with
        | directory =>
          rw [lay_directory short there]
          have kept := (lay_addsDirectories tree (base ++ [name]) rest).directories _ there
          rw [lay_directory short kept]
          exact ih _ _
        | file content =>
          rw [lay_file short there, lay_file short there]

/-! ## What is changed on a way -/

/-- The places of the directories on a way. -/
def OnWay (base : Place) (names : List String) (place : Place) : Prop :=
  ∃ front, front ≠ [] ∧ front <+: names ∧ place = base ++ front

/-- Making directories adds them on the way and nowhere else. -/
theorem get?_lay (tree : FileTree) (base : Place) (names : List String) (place : Place) :
    (tree.lay base names).tree.get? place = tree.get? place ∨
      OnWay base names place ∧ tree.get? place = none ∧
        (tree.lay base names).tree.get? place = some .directory := by
  induction names generalizing tree base with
  | nil => exact .inl rfl
  | cons name rest ih =>
    have further : OnWay (base ++ [name]) rest place → OnWay base (name :: rest) place := by
      rintro ⟨front, -, part, rfl⟩
      exact ⟨name :: front, List.cons_ne_nil _ _, List.cons_prefix_cons.2 ⟨rfl, part⟩, by simp⟩
    by_cases short : maxNameBytes < name.utf8ByteSize
    · rw [lay_long short]
      exact .inl rfl
    · cases there : tree.get? (base ++ [name]) with
      | none =>
        rw [lay_free short there]
        by_cases same : place = base ++ [name]
        · right
          refine ⟨⟨[name], List.cons_ne_nil _ _, by simp, same⟩, same ▸ there, ?_⟩
          rw [same]
          exact (lay_addsDirectories _ _ rest).directories _ (get?_put_self _ (by simp) _)
        · have inner := ih (tree.put (base ++ [name]) .directory) (base ++ [name])
          rw [get?_put_of_ne _ same] at inner
          exact inner.imp_right (And.imp_left further)
      | some entry =>
        cases entry with
        | directory =>
          rw [lay_directory short there]
          exact (ih tree (base ++ [name])).imp_right (And.imp_left further)
        | file content =>
          rw [lay_file short there]
          exact .inl rfl

/-- What is written at the end of one way leaves other ways as they were, as long as neither end is
on the other way. -/
theorem Overlays.sharesWay {others : List String}
    (overlays : before.Overlays after (OnWay base names) (base ++ others))
    {way : List String} (apart : ¬ others <+: way) : before.SharesWay after base way := by
  refine ⟨overlays.toKeepsDirectories, fun front some part => ?_⟩
  have different : base ++ front ≠ base ++ others := by
    intro same
    rw [List.append_cancel_left same] at part
    exact apart part
  exact (overlays.others _ different).imp_right And.right

/-- What is done at the end of one way, alike in two trees, leaves another way shared. -/
theorem SharesWay.aside {one two : FileTree} {way : List String} {place : Place}
    (shares : before.SharesWay after base way) (done : one.SharesWay two base names)
    (first : before.Overlays one (OnWay base names) place) (second : after.Overlays two (OnWay base names) place)
    (clear : ∀ front, front <+: way → base ++ front ≠ place) : one.SharesWay two base way := by
  refine ⟨done.toKeepsDirectories, fun front some part => ?_⟩
  by_cases common : OnWay base names (base ++ front)
  · rcases common with ⟨other, solid, inner, same⟩
    rw [List.append_cancel_left same]
    exact done.above other solid inner
  · have inFirst := (first.others _ (clear front part)).resolve_right fun made => common made.1
    have inSecond := (second.others _ (clear front part)).resolve_right fun made => common made.1
    rw [inFirst, inSecond]
    exact shares.above front some part

theorem lay_overlays (tree : FileTree) (base : Place) (names : List String) (place : Place) :
    tree.Overlays (tree.lay base names).tree (OnWay base names) place :=
  ⟨(lay_addsDirectories tree base names).toKeepsDirectories, fun other _ => get?_lay tree base names other⟩

end FileTree
end Scaffold
