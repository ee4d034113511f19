import Scaffold.Proofs.Workshop.Delivery
import Scaffold.Proofs.Workshop.Rollback

namespace Scaffold

/-!
# Writing a layer once more

When a layer has been written, or has failed and been undone, writing it again meets its own traces:
the directories that it has made, and its files if they stayed.  Where files may be overwritten, the
second time comes to the same as the first and changes nothing.  Where they may not, a layer that
was written is refused at its first file, and one that has failed fails again.
-/

open FileTree Job
open FilePath (IsDescent Apart AreSeparate fileName)
open Writer (Delivery)

namespace Workshop

variable {workshop : Workshop} {options : Options} {site : Site} {tree before after : FileTree}
  {files : List (String × String)}

/-! ## The loop over the files -/

/-- The paths of the files that a stopped delivery has brought into being. -/
def broughtIn (workshop : Workshop) (tree : FileTree) (done : List (String × String)) : List String :=
  (done.map Prod.fst).filter fun path => !tree.pathExists (workshop.writer.resolve path)

/-- What comes of a loop, by the delivery of its files; `created` are those that came into being
before it. -/
def concluded (workshop : Workshop) (tree : FileTree) (created : List String) (files : List (String × String))
    (delivery : Delivery) : Except Fault (List String) × FileTree :=
  match delivery.fault? with
  | none => (.ok (files.map Prod.fst), delivery.tree)
  | some fault =>
    (.error fault, delivery.tree.strike workshop.writer.root (created ++ workshop.broughtIn tree delivery.done))

theorem concluded_of_unstopped {created : List String} {delivery : Delivery} (unstopped : delivery.fault? = none) :
    workshop.concluded tree created files delivery = (.ok (files.map Prod.fst), delivery.tree) := by
  rw [concluded, unstopped]

theorem concluded_of_fault {created : List String} {delivery : Delivery} {fault : Fault}
    (stopped : delivery.fault? = some fault) :
    workshop.concluded tree created files delivery =
      (.error fault, delivery.tree.strike workshop.writer.root
        (created ++ workshop.broughtIn tree delivery.done)) := by
  rw [concluded, stopped]

theorem perform_removeCreated (workshop : Workshop) (created : List String) (world : World) :
    (workshop.removeCreated created).perform world =
      (.ok (), { world with tree := world.tree.strike workshop.writer.root created }) :=
  rfl

/-- What came into being is seen in the same way after another file has been put. -/
theorem broughtIn_congr {done : List (String × String)}
    (same : ∀ file ∈ done, after.pathExists (workshop.writer.resolve file.1) =
      before.pathExists (workshop.writer.resolve file.1)) :
    workshop.broughtIn after done = workshop.broughtIn before done := by
  apply List.filter_congr
  rw [List.forall_mem_map]
  intro file member
  rw [same file member]

theorem append_broughtIn_cons (workshop : Workshop) (tree : FileTree) (created : List String)
    (file : String × String)
    (done : List (String × String)) :
    created ++ workshop.broughtIn tree (file :: done) =
      (if tree.pathExists (workshop.writer.resolve file.1) then created else created ++ [file.1]) ++
        workshop.broughtIn tree done := by
  rw [broughtIn, List.map_cons, List.filter_cons, broughtIn]
  cases tree.pathExists (workshop.writer.resolve file.1) <;> simp

/-- The files that come into being behind the first one are the same before and after this one has
been put. -/
theorem broughtIn_put (options : Options) {file : String × String} {rest done : List (String × String)}
    (has : tree.HasRoot workshop.writer.root site) (separate : AreSeparate ((file :: rest).map Prod.fst))
    (part : ∀ other ∈ done, other ∈ rest) :
    workshop.broughtIn (workshop.writer.put options site tree file).2 done = workshop.broughtIn tree done := by
  have rooted := Writer.put_rooted options has (separate.descends file.1 List.mem_cons_self)
  apply broughtIn_congr
  intro other member
  have listed := List.mem_map_of_mem (f := Prod.fst) (part other member)
  have down := separate.tail.descends other.1 listed
  exact ((has.ends _ down).seesAlike (rooted.ends _ down)
    (Writer.put_alike workshop.writer options site (separate.head other.1 listed) tree).ending).pathExists

theorem perform_writeFrom (quiet : workshop.writer.Quiet options) {world : World}
    (has : world.tree.HasRoot workshop.writer.root site) (separate : AreSeparate (files.map Prod.fst))
    (created : List String) :
    (workshop.writeFrom options created files).perform world =
      ((workshop.concluded world.tree created files (workshop.writer.deliver options site files world.tree)).1,
        { world with
          tree := (workshop.concluded world.tree created files
            (workshop.writer.deliver options site files world.tree)).2 }) := by
  induction files generalizing world created with
  | nil => rfl
  | cons file rest ih =>
    have descent := separate.descends file.1 List.mem_cons_self
    have rooted := Writer.put_rooted options has descent
    rw [writeFrom, perform_bind, perform_tree]
    dsimp only
    rw [perform_bind, perform_tryCatch, Writer.perform_write quiet workshop.toolbox has descent]
    rcases Writer.put_outcome_cases workshop.writer options site world.tree file with ⟨fault, failed⟩ | done
    · rw [failed, Writer.deliver_cons_of_fault failed, concluded_of_fault rfl]
      dsimp only [Except.map]
      rw [perform_bind, perform_removeCreated]
      simp [broughtIn]
      rfl
    · rw [done, Writer.deliver_cons_of_ok done]
      dsimp only [Except.map]
      rw [perform_bind, ih rooted separate.tail]
      dsimp only
      have later := broughtIn_put options has separate fun other member =>
        (Writer.done_isPrefix workshop.writer options site rest
          (workshop.writer.put options site world.tree file).2).subset member
      generalize workshop.writer.deliver options site rest
        (workshop.writer.put options site world.tree file).2 = others
        at later ⊢
      rcases others with ⟨others, stopped, reached⟩
      cases stopped with
      | none => rfl
      | some fault =>
        rw [concluded_of_fault rfl, concluded_of_fault rfl]
        dsimp only at later ⊢
        rw [later, append_broughtIn_cons]

/-- What comes of writing files. -/
abbrev written (workshop : Workshop) (options : Options) (site : Site) (tree : FileTree)
    (files : List (String × String)) : Except Fault (List String) × FileTree :=
  workshop.concluded tree [] files (workshop.writer.deliver options site files tree)

theorem mem_broughtIn {done : List (String × String)} {path : String} :
    path ∈ workshop.broughtIn tree done ↔
      (∃ file ∈ done, file.1 = path) ∧ tree.pathExists (FilePath.join workshop.writer.root path) = false := by
  rw [broughtIn, List.mem_filter, List.mem_map, Writer.resolve, Bool.not_eq_true']

theorem broughtIn_subset (workshop : Workshop) (options : Options) (site : Site) (files : List (String × String))
    (tree : FileTree) :
    workshop.broughtIn tree (workshop.writer.deliver options site files tree).done ⊆ files.map Prod.fst := by
  intro path member
  rcases mem_broughtIn.1 member with ⟨⟨file, done, rfl⟩, -⟩
  exact List.mem_map_of_mem ((Writer.done_isPrefix _ _ _ _ _).subset done)

theorem eq_of_separate (separate : AreSeparate (files.map Prod.fst)) {one other : String × String}
    (first : one ∈ files) (second : other ∈ files) (same : one.1 = other.1) : one = other :=
  List.inj_on_of_nodup_map separate.nodup first second same

/-! ## Once more -/

section

variable (has : tree.HasRoot workshop.writer.root site) (separate : AreSeparate (files.map Prod.fst))
include has separate

/-- When something has stopped the files, those that came into being are gone again. -/
theorem strikes_written {fault : Fault}
    (stopped : (workshop.writer.deliver options site files tree).fault? = some fault) :
    (workshop.writer.deliver options site files tree).tree.Strikes (workshop.written options site tree files).2
      workshop.writer.root site
      (workshop.broughtIn tree (workshop.writer.deliver options site files tree).done) := by
  have delivers := Writer.delivers_deliver options has separate
  have listed := Writer.done_isPrefix workshop.writer options site files tree
  rw [written, concluded_of_fault stopped, List.nil_append]
  apply strikes_strike delivers.rooted
  · exact separate.sublist (List.filter_sublist.trans (listed.sublist.map Prod.fst))
  · intro path member
    rcases mem_broughtIn.1 member with ⟨⟨file, done, rfl⟩, -⟩
    exact ⟨file.2, delivers.found file done⟩

/-- A file that did not come into being is left as it was delivered. -/
theorem get?_written_of_kept {fault : Fault}
    (stopped : (workshop.writer.deliver options site files tree).fault? = some fault) {file : String × String}
    (member : file ∈ files)
    (kept : file.1 ∉ workshop.broughtIn tree (workshop.writer.deliver options site files tree).done) :
    (workshop.written options site tree files).2.get? (site.place file.1) =
      (workshop.writer.deliver options site files tree).tree.get? (site.place file.1) := by
  apply (strikes_written has separate stopped).others
  intro path struck
  rcases mem_broughtIn.1 struck with ⟨⟨other, done, rfl⟩, -⟩
  have listed := (Writer.done_isPrefix _ _ _ _ _).subset done
  apply site.place_ne_of_apart
  apply separate.apart_of_ne (List.mem_map_of_mem member) (List.mem_map_of_mem listed)
  intro same
  exact kept (same ▸ struck)

theorem written_rooted : (workshop.written options site tree files).2.HasRoot workshop.writer.root site := by
  cases stopped : (workshop.writer.deliver options site files tree).fault? with
  | none =>
    rw [written, concluded_of_unstopped stopped]
    exact (Writer.delivers_deliver options has separate).rooted
  | some fault => exact (strikes_written has separate stopped).rooted

theorem written_touches (options : Options) :
    tree.Touches (workshop.written options site tree files).2 site (files.map Prod.fst) := by
  have touched := Writer.deliver_touches workshop.writer options site files tree
  cases stopped : (workshop.writer.deliver options site files tree).fault? with
  | none =>
    rw [written, concluded_of_unstopped stopped]
    exact touched
  | some fault =>
    exact touched.trans ((strikes_written has separate stopped).touches.mono
      (broughtIn_subset workshop options site files tree))

variable (afterHas : after.HasRoot workshop.writer.root site)
  (alike : ∀ file ∈ files, (workshop.written options site tree files).2.AlikeAt after site file.1)
include afterHas alike

/-- Files that were written are written again, and nothing changes. -/
theorem written_again_of_unstopped
    (unstopped : (workshop.writer.deliver options site files tree).fault? = none)
    (overwrite : options.overwriteExisting = true) :
    (workshop.written options site after files).1 = (workshop.written options site tree files).1 ∧
      after.SameEntries (workshop.written options site after files).2 := by
  have delivers := Writer.delivers_deliver options has separate
  have touched := Writer.deliver_touches workshop.writer options site files tree
  have all := Writer.done_of_unstopped unstopped
  rw [written, concluded_of_unstopped unstopped] at alike
  have held : ∀ file ∈ files, after.get? (site.place file.1) = some (.file file.2) := by
    intro file member
    exact (alike file member).ending.trans (delivers.held file (all.symm ▸ member))
  have meets : ∀ file ∈ files, workshop.writer.Meets options site tree after file.1 := by
    intro file member
    refine ⟨(touched.shares_own separate (List.mem_map_of_mem member)).trans
      (alike file member).toSharesWay, ?_, ?_⟩
    · rw [held file member, (delivers.free file (all.symm ▸ member)).2, overwrite]
      rfl
    · rw [Writer.isTaken, Writer.isTaken, overwrite]
      rfl
  rcases Writer.deliver_meets separate has afterHas meets with ⟨done, fault⟩
  have unstoppedAgain := fault.trans unstopped
  rw [written, written, concluded_of_unstopped unstopped, concluded_of_unstopped unstoppedAgain]
  have touches := Writer.deliver_touches workshop.writer options site files after
  refine ⟨rfl, touches.workingDirectory, touches.links, fun place => ?_⟩
  by_cases own : ∃ file ∈ files, place = site.place file.1
  · rcases own with ⟨file, member, rfl⟩
    rw [held file member]
    apply (Writer.delivers_deliver options afterHas separate).held file
    rw [Writer.done_of_unstopped unstoppedAgain]
    exact member
  · apply Writer.deliver_idle separate has afterHas meets
    · exact fun file member => (alike file member).toSharesWay
    · exact fun file member same => own ⟨file, member, same⟩

/-- A file that was written is in the way of the next, where none may be overwritten. -/
theorem isTaken_of_unstopped (unstopped : (workshop.writer.deliver options site files tree).fault? = none)
    (keep : options.overwriteExisting = false) {file : String × String} (member : file ∈ files) :
    workshop.writer.isTaken options after file.1 = true := by
  have delivers := Writer.delivers_deliver options has separate
  have descent := separate.descends file.1 (List.mem_map_of_mem member)
  have kept := (alike file member).ending
  rw [written, concluded_of_unstopped unstopped] at kept
  rw [← Writer.done_of_unstopped unstopped] at member
  have found := delivers.found file member
  have later := ((delivers.rooted.ends _ descent).seesAlike (afterHas.ends _ descent) kept _).2 found
  rw [Writer.isTaken, keep, Writer.resolve, pathExists, later]
  rfl

section

variable {fault : Fault} (stopped : (workshop.writer.deliver options site files tree).fault? = some fault)
include stopped

omit afterHas in
/-- What is left at the place of a file when something has stopped the files: nothing, where it came
into being; its text, where it replaced another; and what was there before, where it was not put. -/
theorem ending_cases {file : String × String} (member : file ∈ files) :
    (file ∈ (workshop.writer.deliver options site files tree).done ∧
        tree.pathExists (FilePath.join workshop.writer.root file.1) = false ∧
          after.get? (site.place file.1) = none) ∨
      (file ∈ (workshop.writer.deliver options site files tree).done ∧
        tree.pathExists (FilePath.join workshop.writer.root file.1) = true ∧
        after.get? (site.place file.1) = some (.file file.2)) ∨
      file ∉ (workshop.writer.deliver options site files tree).done ∧
        after.get? (site.place file.1) = tree.get? (site.place file.1) := by
  have delivers := Writer.delivers_deliver options has separate
  have strikes := strikes_written has separate stopped
  have listed := Writer.done_isPrefix workshop.writer options site files tree
  have ending : after.get? (site.place file.1) =
      (workshop.written options site tree files).2.get? (site.place file.1) :=
    (alike file member).ending
  by_cases created : file.1 ∈ workshop.broughtIn tree (workshop.writer.deliver options site files tree).done
  · left
    rcases mem_broughtIn.1 created with ⟨⟨other, done, same⟩, missing⟩
    obtain rfl := eq_of_separate separate (listed.subset done) member same
    exact ⟨done, missing, ending.trans (strikes.gone other.1 created)⟩
  · right
    have stays := ending.trans (get?_written_of_kept has separate stopped member created)
    by_cases done : file ∈ (workshop.writer.deliver options site files tree).done
    · left
      refine ⟨done, ?_, stays.trans (delivers.held file done)⟩
      rw [mem_broughtIn, not_and, Bool.not_eq_false] at created
      exact created ⟨file, done, rfl⟩
    · exact .inr ⟨done, stays.trans (delivers.kept file member done)⟩

/-- The files meet in the second tree what they met in the first. -/
theorem meets_of_fault : ∀ file ∈ files, workshop.writer.Meets options site tree after file.1 := by
  have delivers := Writer.delivers_deliver options has separate
  intro file member
  have descent := separate.descends file.1 (List.mem_map_of_mem member)
  have way := (written_touches has separate options).shares_own separate (List.mem_map_of_mem member)
  refine ⟨way.trans (alike file member).toSharesWay, ?_, ?_⟩
  · rcases ending_cases has separate alike stopped member with ⟨done, -, gone⟩ | ⟨done, there, held⟩ | ⟨-, same⟩
    · rw [gone, (delivers.free file done).2]
      cases options.overwriteExisting <;> rfl
    · rcases delivers.free file done with ⟨free, clear⟩
      rw [Writer.isTaken, Writer.resolve, there, Bool.and_true, Bool.not_eq_false'] at free
      rw [held, clear, free]
      rfl
    · rw [same]
  · rcases ending_cases has separate alike stopped member
      with ⟨done, missing, gone⟩ | ⟨done, there, held⟩ | ⟨-, same⟩
    · rw [Writer.isTaken, Writer.isTaken, Writer.resolve, missing, afterHas.pathExists_of_free descent gone]
    · rw [Writer.isTaken, Writer.isTaken, Writer.resolve, there, has.pathExists_of_held afterHas descent there held]
    · exact Writer.isTaken_congr has afterHas descent same

/-- What came into being and is gone comes into being again. -/
theorem broughtIn_again : workshop.broughtIn after (workshop.writer.deliver options site files tree).done =
    workshop.broughtIn tree (workshop.writer.deliver options site files tree).done := by
  have listed := Writer.done_isPrefix workshop.writer options site files tree
  apply broughtIn_congr
  intro file member
  have descent := separate.descends file.1 (List.mem_map_of_mem (listed.subset member))
  rw [Writer.resolve]
  rcases ending_cases has separate alike stopped (listed.subset member) with
    ⟨-, missing, gone⟩ | ⟨-, there, held⟩ | ⟨notDone, -⟩
  · rw [missing, afterHas.pathExists_of_free descent gone]
  · rw [there, has.pathExists_of_held afterHas descent there held]
  · exact absurd member notDone

/-- Files that something has stopped are stopped again, and nothing changes. -/
theorem written_again_of_fault :
    (workshop.written options site after files).1 = (workshop.written options site tree files).1 ∧
      after.SameEntries (workshop.written options site after files).2 := by
  have meets := meets_of_fault has separate afterHas alike stopped
  have delivers := Writer.delivers_deliver options afterHas separate
  rcases Writer.deliver_meets separate has afterHas meets with ⟨done, fault⟩
  have stoppedAgain := fault.trans stopped
  have listed := Writer.done_isPrefix workshop.writer options site files tree
  have created : workshop.broughtIn after (workshop.writer.deliver options site files after).done =
      workshop.broughtIn tree (workshop.writer.deliver options site files tree).done := by
    rw [done]
    exact broughtIn_again has separate afterHas alike stopped
  have strikes := strikes_written afterHas separate stoppedAgain
  have touches := Writer.deliver_touches workshop.writer options site files after
  refine ⟨?_, strikes.touches.workingDirectory.trans touches.workingDirectory,
    strikes.touches.links.trans touches.links, fun place => ?_⟩
  · rw [written, written, concluded_of_fault stopped, concluded_of_fault stoppedAgain]
  by_cases own : ∃ file ∈ files, place = site.place file.1
  · rcases own with ⟨file, member, rfl⟩
    have stays := get?_written_of_kept afterHas separate stoppedAgain member
    rw [created] at strikes stays
    rcases ending_cases has separate alike stopped member
      with ⟨inDone, missing, gone⟩ | ⟨inDone, there, held⟩ | ⟨notDone, -⟩
    · rw [gone]
      exact strikes.gone file.1 (mem_broughtIn.2 ⟨⟨file, inDone, rfl⟩, missing⟩)
    · rw [held, stays, delivers.held file (done ▸ inDone)]
      intro struck
      rw [(mem_broughtIn.1 struck).2] at there
      cases there
    · rw [stays, delivers.kept file member (done ▸ notDone)]
      intro struck
      rcases mem_broughtIn.1 struck with ⟨⟨other, otherDone, same⟩, -⟩
      exact notDone (eq_of_separate separate (listed.subset otherDone) member same ▸ otherDone)
  · have outside : ∀ file ∈ files, place ≠ site.place file.1 := fun file member same => own ⟨file, member, same⟩
    refine (strikes.others place fun path struck => ?_).trans ?_
    · rcases mem_broughtIn.1 struck with ⟨⟨other, otherDone, rfl⟩, -⟩
      exact outside other ((Writer.done_isPrefix _ _ _ _ _).subset otherDone)
    · apply Writer.deliver_idle separate has afterHas meets _ outside
      intro file member
      have struck := (strikes_written has separate stopped).touches.mono
        (broughtIn_subset workshop options site files tree)
      exact (struck.shares_own separate (List.mem_map_of_mem member)).trans (alike file member).toSharesWay

end

end

end Workshop
end Scaffold
