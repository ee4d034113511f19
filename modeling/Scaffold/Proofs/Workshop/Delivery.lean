import Scaffold.Proofs.Job.Site
import Scaffold.Proofs.Workshop.Writing

namespace Scaffold

/-!
# Files that are put one after the other

Writing a layer puts its files one after the other, until one cannot be put.  What comes of it is
stated here as a function of the tree: which files were put, what stopped the others, and the tree
that is left.  The files have ways of their own, so each of them meets what the tree had for it at
the start.
-/

open FileTree Job
open FilePath (IsDescent Apart AreSeparate folders segments fileName)

namespace Writer

variable {writer : Writer} {options : Options} {site : Site} {tree first second : FileTree} {file : String × String}
  {path other : String}

/-! ## One file -/

/-- Something is where a file is to be put, and must not be replaced. -/
def isTaken (writer : Writer) (options : Options) (tree : FileTree) (relative : String) : Bool :=
  !options.overwriteExisting && tree.pathExists (writer.resolve relative)

/-- What comes of a file that is put where no conflict is. -/
abbrev placed (writer : Writer) (options : Options) (site : Site) (tree : FileTree) (file : String × String) :
    Except Fault Unit × FileTree :=
  (writer.deposit options file.1 file.2).result tree site.base (site.names file.1) (fileName file.1)

/-- What comes of putting a file. -/
def put (writer : Writer) (options : Options) (site : Site) (tree : FileTree) (file : String × String) :
    Except Fault Unit × FileTree :=
  if writer.isTaken options tree file.1 then (.error (.conflict file.1), tree)
  else writer.placed options site tree file

theorem put_of_taken (taken : writer.isTaken options tree file.1 = true) :
    writer.put options site tree file = (.error (.conflict file.1), tree) := by
  rw [put, if_pos taken]

theorem put_of_free (free : writer.isTaken options tree file.1 = false) :
    writer.put options site tree file = writer.placed options site tree file := by
  rw [put, if_neg (by simp [free])]

theorem perform_write (quiet : writer.Quiet options) (toolbox : Toolbox) {world : World}
    (has : world.tree.HasRoot writer.root site) (descent : IsDescent file.1) :
    (writer.write toolbox file.1 file.2 options).perform world =
      ((writer.put options site world.tree file).1.map fun _ => file.1,
        { world with tree := (writer.put options site world.tree file).2 }) := by
  rw [write_eq_deposit, perform_bind, perform_checkConflict]
  cases taken : writer.isTaken options world.tree file.1 with
  | true =>
    rw [isTaken] at taken
    rw [if_pos taken, put_of_taken taken]
    rfl
  | false =>
    rw [isTaken] at taken
    rw [if_neg (by simp [taken]), put_of_free taken]
    have ends := has.ends file.1 descent
    rcases ends.exists_parent with ⟨parent, cut, -⟩
    have directory : FilePath.parent? (writer.deposit options file.1 file.2).path =
        some (writer.deposit options file.1 file.2).directory := by
      rw [path_deposit, deposit, resolve]
      dsimp only
      rw [cut, Option.getD_some]
    rw [← path_deposit writer options file.1 file.2] at ends
    dsimp only
    rw [perform_bind, Deposit.perform_job ends directory]
    cases (writer.placed options site world.tree file).1 with
    | error fault => rfl
    | ok _ =>
      dsimp only
      rw [perform_bind, perform_postProcess quiet]
      rfl

theorem put_overlays (writer : Writer) (options : Options) (site : Site) (tree : FileTree)
    (file : String × String) :
    tree.Overlays (writer.put options site tree file).2 (OnWay site.base (site.names file.1))
      (site.place file.1) := by
  rw [put]
  split
  · exact .refl tree _ _
  · exact Deposit.result_overlays _ tree site.base (site.names file.1) (fileName file.1)

theorem put_touches (writer : Writer) (options : Options) (site : Site) (tree : FileTree) (file : String × String) :
    tree.Touches (writer.put options site tree file).2 site [file.1] :=
  (put_overlays writer options site tree file).touches List.mem_cons_self

theorem put_alike (writer : Writer) (options : Options) (site : Site)
    (apart : Apart file.1 other) (tree : FileTree) :
    tree.AlikeAt (writer.put options site tree file).2 site other := by
  apply (put_touches writer options site tree file).alike
  intro path member
  rw [List.mem_singleton.1 member]
  exact apart

theorem put_rooted (options : Options) (has : tree.HasRoot writer.root site) (descent : IsDescent file.1) :
    (writer.put options site tree file).2.HasRoot writer.root site := by
  apply has.keep (put_overlays writer options site tree file).toKeepsDirectories
  rw [put]
  split
  · exact has.closed
  · exact Deposit.result_closed has.closed (has.ends file.1 descent).named

theorem get?_put (writer : Writer) (options : Options) (site : Site) (tree : FileTree) (file : String × String) :
    (writer.put options site tree file).2.get? (site.place file.1) =
      match (writer.put options site tree file).1 with
      | .ok () => some (.file file.2)
      | .error _ => tree.get? (site.place file.1) := by
  rw [put]
  split
  · rfl
  · have there := (writer.deposit options file.1 file.2).get?_result tree site.base
      (site.names file.1) (fileName file.1)
    rw [content_deposit] at there
    exact there

/-- A file that has been put is found. -/
theorem status_put (has : tree.HasRoot writer.root site) (descent : IsDescent file.1)
    (done : (writer.put options site tree file).1 = .ok ()) :
    (writer.put options site tree file).2.status (FilePath.join writer.root file.1) = .ok (.file file.2) := by
  rw [put] at done ⊢
  split at done
  · cases done
  · next free =>
    have ends := has.ends file.1 descent
    rw [← path_deposit writer options file.1 file.2] at ends
    have found := Deposit.status_result ends done
    rw [path_deposit, content_deposit] at found
    rw [if_neg free]
    exact found

/-- Where a file has been put, nothing was in its way. -/
theorem free_of_put (done : (writer.put options site tree file).1 = .ok ()) :
    writer.isTaken options tree file.1 = false ∧
      refusal options.overwriteExisting (tree.get? (site.place file.1)) = none := by
  rw [put] at done
  split at done
  · cases done
  · next free =>
    have refused := Deposit.refusal_of_result done
    rw [overwrite_deposit] at refused
    exact ⟨by simpa using free, refused⟩

/-! ## One file in two trees -/

theorem isTaken_congr (firstHas : first.HasRoot writer.root site) (secondHas : second.HasRoot writer.root site)
    (descent : IsDescent path) (ending : second.get? (site.place path) = first.get? (site.place path)) :
    writer.isTaken options second path = writer.isTaken options first path := by
  rw [isTaken, isTaken, resolve,
    ((firstHas.ends path descent).seesAlike (secondHas.ends path descent) ending).pathExists]

/-- The second tree has for a file what the first one has, as far as it matters for putting it. -/
structure Meets (writer : Writer) (options : Options) (site : Site) (first second : FileTree) (path : String) : Prop
    extends SharesWay first second site.base (site.names path) where
  refused : refusal options.overwriteExisting (second.get? (site.place path)) =
    refusal options.overwriteExisting (first.get? (site.place path))
  taken : writer.isTaken options second path = writer.isTaken options first path

/-- A file is put in both trees, or in neither for the same reason. -/
theorem put_meets (meets : writer.Meets options site first second file.1) :
    (writer.put options site second file).1 = (writer.put options site first file).1 ∧
      (writer.put options site first file).2.SharesWay (writer.put options site second file).2 site.base
        (site.names file.1) := by
  rw [put, put, meets.taken]
  split
  · exact ⟨rfl, meets.toSharesWay⟩
  · apply Deposit.result_sharesWay _ meets.toSharesWay
    rw [overwrite_deposit]
    exact meets.refused

/-- After a file has been put in both trees, the next one meets in the second what it meets in the
first. -/
theorem Meets.step (firstHas : first.HasRoot writer.root site) (secondHas : second.HasRoot writer.root site)
    (descent : IsDescent file.1) (otherDescent : IsDescent other) (apart : Apart file.1 other)
    (meets : writer.Meets options site first second other) (here : writer.Meets options site first second file.1) :
    writer.Meets options site (writer.put options site first file).2
      (writer.put options site second file).2 other := by
  have inFirst := (put_alike writer options site apart first).ending
  have inSecond := (put_alike writer options site apart second).ending
  constructor
  case toSharesWay =>
    apply meets.toSharesWay.aside (put_meets here).2 (put_overlays writer options site first file)
      (put_overlays writer options site second file)
    intro front part same
    rw [Site.place_eq] at same
    rw [List.append_cancel_left same, Site.names, List.prefix_append_right_inj] at part
    exact apart.not_prefix_folders part
  case refused =>
    rw [Site.place, inFirst, inSecond]
    exact meets.refused
  case taken =>
    rw [isTaken_congr firstHas (put_rooted options firstHas descent) otherDescent inFirst,
      isTaken_congr secondHas (put_rooted options secondHas descent) otherDescent inSecond]
    exact meets.taken

/-- Where a file has been put, putting it again makes no directories. -/
theorem put_idle (meets : writer.Meets options site first second file.1)
    (shares : (writer.put options site first file).2.SharesWay second site.base (site.names file.1)) {place : Place}
    (different : place ≠ site.place file.1) :
    (writer.put options site second file).2.get? place = second.get? place := by
  rw [put] at shares ⊢
  rw [meets.taken]
  split
  · rfl
  · next free =>
    rw [if_neg free] at shares
    exact Deposit.result_idle shares different

/-! ## One file after the other -/

/-- What comes of files that are put one after the other: those that were put, what stopped the
others, and the tree. -/
structure Delivery where
  done : List (String × String)
  fault? : Option Fault
  tree : FileTree

/-- Puts files one after the other, until one cannot be put. -/
def deliver (writer : Writer) (options : Options) (site : Site) : List (String × String) → FileTree → Delivery
  | [], tree => ⟨[], none, tree⟩
  | file :: rest, tree =>
    match writer.put options site tree file with
    | (.error fault, after) => ⟨[], some fault, after⟩
    | (.ok (), after) =>
      let others := deliver writer options site rest after
      { others with done := file :: others.done }

variable {files rest : List (String × String)}

theorem deliver_cons_of_fault {fault : Fault} (failed : (writer.put options site tree file).1 = .error fault) :
    writer.deliver options site (file :: rest) tree = ⟨[], some fault, (writer.put options site tree file).2⟩ := by
  rw [deliver]
  cases result : writer.put options site tree file with
  | mk outcome after =>
    rw [result] at failed
    cases failed
    rfl

theorem deliver_cons_of_ok (done : (writer.put options site tree file).1 = .ok ()) :
    writer.deliver options site (file :: rest) tree =
      { writer.deliver options site rest (writer.put options site tree file).2 with
        done := file :: (writer.deliver options site rest (writer.put options site tree file).2).done } := by
  rw [deliver]
  cases result : writer.put options site tree file with
  | mk outcome after =>
    rw [result] at done
    cases done
    rfl

theorem put_outcome_cases (writer : Writer) (options : Options) (site : Site) (tree : FileTree)
    (file : String × String) :
    (∃ fault, (writer.put options site tree file).1 = .error fault) ∨
    (writer.put options site tree file).1 = .ok () := by
  cases (writer.put options site tree file).1 with
  | error fault => exact .inl ⟨fault, rfl⟩
  | ok _ => exact .inr rfl

theorem done_isPrefix (writer : Writer) (options : Options) (site : Site) (files : List (String × String))
    (tree : FileTree) : (writer.deliver options site files tree).done <+: files := by
  induction files generalizing tree with
  | nil => exact List.prefix_rfl
  | cons file rest ih =>
    rcases put_outcome_cases writer options site tree file with ⟨fault, failed⟩ | done
    · rw [deliver_cons_of_fault failed]
      exact List.nil_prefix
    · rw [deliver_cons_of_ok done]
      exact List.cons_prefix_cons.2 ⟨rfl, ih _⟩

/-- Unless something has stopped it, all files were put. -/
theorem done_of_unstopped (unstopped : (writer.deliver options site files tree).fault? = none) :
    (writer.deliver options site files tree).done = files := by
  induction files generalizing tree with
  | nil => rfl
  | cons file rest ih =>
    rcases put_outcome_cases writer options site tree file with ⟨fault, failed⟩ | done
    · rw [deliver_cons_of_fault failed] at unstopped
      cases unstopped
    · rw [deliver_cons_of_ok done] at unstopped ⊢
      exact congrArg (file :: ·) (ih unstopped)

theorem deliver_touches (writer : Writer) (options : Options) (site : Site) (files : List (String × String))
    (tree : FileTree) : tree.Touches (writer.deliver options site files tree).tree site (files.map Prod.fst) := by
  induction files generalizing tree with
  | nil => exact .refl tree site []
  | cons file rest ih =>
    have first : tree.Touches (writer.put options site tree file).2 site ((file :: rest).map Prod.fst) :=
      (put_touches writer options site tree file).mono (by simp)
    rcases put_outcome_cases writer options site tree file with ⟨fault, failed⟩ | done
    · rw [deliver_cons_of_fault failed]
      exact first
    · rw [deliver_cons_of_ok done]
      exact first.trans ((ih _).mono (List.subset_cons_self _ _))

/-- What the files come to when they have ways of their own. -/
structure Delivers (writer : Writer) (options : Options) (site : Site) (before : FileTree)
    (files : List (String × String))
    (delivery : Delivery) : Prop where
  rooted : delivery.tree.HasRoot writer.root site
  free : ∀ file ∈ delivery.done, writer.isTaken options before file.1 = false ∧
    refusal options.overwriteExisting (before.get? (site.place file.1)) = none
  found : ∀ file ∈ delivery.done, delivery.tree.status (FilePath.join writer.root file.1) = .ok (.file file.2)
  held : ∀ file ∈ delivery.done, delivery.tree.get? (site.place file.1) = some (.file file.2)
  kept : ∀ file ∈ files, file ∉ delivery.done →
    delivery.tree.get? (site.place file.1) = before.get? (site.place file.1)

theorem delivers_deliver (options : Options) (has : tree.HasRoot writer.root site)
    (separate : AreSeparate (files.map Prod.fst)) :
    writer.Delivers options site tree files (writer.deliver options site files tree) := by
  induction files generalizing tree with
  | nil => exact ⟨has, nofun, nofun, nofun, nofun⟩
  | cons file rest ih =>
    have descent := separate.descends file.1 List.mem_cons_self
    have rooted := put_rooted options has descent
    have later : ∀ other ∈ rest, Apart file.1 other.1 := fun other member =>
      separate.head other.1 (List.mem_map_of_mem member)
    have laterDescent : ∀ other ∈ rest, IsDescent other.1 := fun other member =>
      separate.descends other.1 (List.mem_cons_of_mem _ (List.mem_map_of_mem member))
    rcases put_outcome_cases writer options site tree file with ⟨fault, failed⟩ | done
    · rw [deliver_cons_of_fault failed]
      refine ⟨rooted, nofun, nofun, nofun, fun other member _ => ?_⟩
      rcases List.mem_cons.1 member with rfl | inRest
      · rw [get?_put, failed]
      · exact (put_alike writer options site (later other inRest) tree).ending
    · rw [deliver_cons_of_ok done]
      have rested := ih rooted separate.tail
      have there := get?_put writer options site tree file
      rw [done] at there
      have alike := (deliver_touches writer options site rest (writer.put options site tree file).2).alike
        file.1 fun path member => (separate.head path member).symm
      constructor
      case rooted => exact rested.rooted
      case free =>
        intro other member
        rcases List.mem_cons.1 member with rfl | inRest
        · exact free_of_put done
        · have listed := (done_isPrefix writer options site rest _).subset inRest
          have ending := (put_alike writer options site (later other listed) tree).ending
          rcases rested.free other inRest with ⟨free, clear⟩
          rw [isTaken_congr has rooted (laterDescent other listed) ending] at free
          rw [Site.place, ending] at clear
          exact ⟨free, clear⟩
      case found =>
        intro other member
        rcases List.mem_cons.1 member with rfl | inRest
        · have sees := (rooted.ends _ descent).seesAlike (rested.rooted.ends _ descent) alike.ending
          exact (sees _).2 (status_put has descent done)
        · exact rested.found other inRest
      case held =>
        intro other member
        rcases List.mem_cons.1 member with rfl | inRest
        · exact alike.ending.trans there
        · exact rested.held other inRest
      case kept =>
        intro other member outside
        rw [List.mem_cons, not_or] at outside
        have inRest := (List.mem_cons.1 member).resolve_left outside.1
        exact (rested.kept other inRest outside.2).trans
          (put_alike writer options site (later other inRest) tree).ending

/-! ## In two trees -/

/-- After the first file has been put in both trees, the others meet in the second what they meet in
the first. -/
theorem meets_rest (separate : AreSeparate ((file :: rest).map Prod.fst))
    (firstHas : first.HasRoot writer.root site)
    (secondHas : second.HasRoot writer.root site)
    (meets : ∀ other ∈ file :: rest, writer.Meets options site first second other.1) :
    (writer.put options site first file).2.HasRoot writer.root site ∧
      (writer.put options site second file).2.HasRoot writer.root site ∧
      ∀ other ∈ rest, writer.Meets options site (writer.put options site first file).2
        (writer.put options site second file).2 other.1 := by
  have descent := separate.descends file.1 List.mem_cons_self
  refine ⟨put_rooted options firstHas descent, put_rooted options secondHas descent, fun other member => ?_⟩
  have listed := List.mem_map_of_mem (f := Prod.fst) member
  exact (meets other (List.mem_cons_of_mem file member)).step firstHas secondHas descent
    (separate.tail.descends other.1 listed) (separate.head other.1 listed) (meets file List.mem_cons_self)

section

variable (separate : AreSeparate (files.map Prod.fst))
  (firstHas : first.HasRoot writer.root site) (secondHas : second.HasRoot writer.root site)
  (meets : ∀ file ∈ files, writer.Meets options site first second file.1)
include separate firstHas secondHas meets

/-- The same files are put in both trees, and the same stops the others. -/
theorem deliver_meets :
    (writer.deliver options site files second).done = (writer.deliver options site files first).done ∧
      (writer.deliver options site files second).fault? = (writer.deliver options site files first).fault? := by
  induction files generalizing first second with
  | nil => exact ⟨rfl, rfl⟩
  | cons file rest ih =>
    have same := (put_meets (meets file List.mem_cons_self)).1
    rcases put_outcome_cases writer options site first file with ⟨fault, failed⟩ | done
    · rw [deliver_cons_of_fault failed, deliver_cons_of_fault (same.trans failed)]
      exact ⟨rfl, rfl⟩
    · rw [deliver_cons_of_ok done, deliver_cons_of_ok (same.trans done)]
      rcases meets_rest separate firstHas secondHas meets with ⟨firstNext, secondNext, others⟩
      rcases ih separate.tail firstNext secondNext others with ⟨files, fault⟩
      exact ⟨congrArg (file :: ·) files, fault⟩

/-- Where the files have been delivered, delivering them again makes no directories. -/
theorem deliver_idle
    (shares : ∀ file ∈ files, (writer.deliver options site files first).tree.SharesWay second site.base
      (site.names file.1)) {place : Place} (outside : ∀ file ∈ files, place ≠ site.place file.1) :
    (writer.deliver options site files second).tree.get? place = second.get? place := by
  induction files generalizing first second with
  | nil => rfl
  | cons file rest ih =>
    have here := meets file List.mem_cons_self
    have same := (put_meets here).1
    rcases List.forall_mem_cons.1 outside with ⟨elsewhere, others⟩
    rcases put_outcome_cases writer options site first file with ⟨fault, failed⟩ | done
    · have own := shares file List.mem_cons_self
      rw [deliver_cons_of_fault failed] at own
      rw [deliver_cons_of_fault (same.trans failed)]
      exact put_idle here own elsewhere
    · rw [deliver_cons_of_ok done] at shares
      rw [deliver_cons_of_ok (same.trans done)]
      rcases List.forall_mem_cons.1 shares with ⟨own, sharesRest⟩
      have touched := (deliver_touches writer options site rest (writer.put options site first file).2).alike
        file.1 fun path member => (separate.head path member).symm
      rcases meets_rest separate firstHas secondHas meets with ⟨firstNext, secondNext, meetsRest⟩
      refine (ih separate.tail firstNext secondNext meetsRest (fun other member => ?_) others).trans
        (put_idle here (touched.toSharesWay.trans own) elsewhere)
      have apart := separate.head other.1 (List.mem_map_of_mem member)
      exact (sharesRest other member).trans (put_alike writer options site apart second).toSharesWay

end

end Writer
end Scaffold
