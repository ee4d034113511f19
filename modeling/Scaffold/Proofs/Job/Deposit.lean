import Scaffold.Proofs.FileTree.Alike
import Scaffold.Proofs.Job.TreeWork

namespace Scaffold

/-!
# Depositing a file

Snippets and generated files are written in the same way: the directory of the file is made, then
the file is stored.  What comes of it follows from what is on the way and at its end, so a deposit
has the same outcome in two trees that are alike there, and leaves trees that are alike again.
-/

/-- A file that is to be written, the directory that is made for it, and how the two errors are
reported. -/
structure Deposit where
  overwrite : Bool
  path : String
  content : String
  directory : String
  unmade : OsError → Fault
  unwritten : OsError → Fault

namespace Deposit

open FileTree Job

/-- Makes the directory and stores the file. -/
def job (deposit : Deposit) : Job Unit := do
  change (·.makeDirectories deposit.directory) deposit.unmade
  change (·.store deposit.overwrite deposit.path deposit.content) deposit.unwritten

/-! ## Any path

Wherever its path leads, a deposit either fails without touching a file or stores the file.
-/

/-- Storing a file on request: in the place of another, or only where there was none.  Where a file
may be replaced, a link might be, unless there are none. -/
theorem store_cases {overwrite : Bool} {tree : FileTree} (unlinked : overwrite = true → tree.links = [])
    (path content : String) :
    (∀ e, (tree.store overwrite path content).outcome = .error e →
      (tree.store overwrite path content).tree = tree) ∧
      ((tree.store overwrite path content).outcome = .ok () →
        tree.Stores (tree.store overwrite path content).tree path content ∧
        (overwrite = false → tree.contentAt? (tree.placeOf path) = none)) := by
  cases overwrite with
  | true =>
    refine ⟨fun e failed => tree_replaceFile_of_error failed, fun written => ?_⟩
    exact ⟨stores_of_replaceFile (unlinked rfl) written, fun off => by cases off⟩
  | false =>
    refine ⟨fun e failed => tree_createFile_of_error failed, fun written => ?_⟩
    exact ⟨(stores_of_createFile written).1, fun _ => (stores_of_createFile written).2⟩

/-- Where nothing may be overwritten, a file is stored only at a place that held none. -/
theorem job_cases {deposit : Deposit} {world after : World} {outcome : Except Fault Unit}
    (unlinked : deposit.overwrite = true → world.tree.links = [])
    (performed : deposit.job.perform world = (outcome, after)) :
    after.memory = world.memory ∧
      ((∃ fault, outcome = .error fault) ∧ world.tree.AddsDirectories after.tree ∨
        outcome = .ok () ∧ world.tree.Stores after.tree deposit.path deposit.content ∧
          (deposit.overwrite = false → world.tree.contentAt? (world.tree.placeOf deposit.path) = none)) := by
  have added := world.tree.makeDirectories_addsDirectories deposit.directory
  rw [job] at performed
  rcases perform_bind_cases performed with ⟨fault, made, rfl⟩ | ⟨_, middle, made, performed⟩
  · rcases perform_change_cases made with ⟨rfl, -⟩
    exact ⟨rfl, .inl ⟨⟨fault, rfl⟩, added⟩⟩
  rcases perform_change_cases made with ⟨rfl, -⟩
  generalize (world.tree.makeDirectories deposit.directory).tree = room at performed added
  have roomUnlinked : deposit.overwrite = true → room.links = [] := fun on => added.links.trans (unlinked on)
  rcases store_cases roomUnlinked deposit.path deposit.content with ⟨unchanged, stores⟩
  rcases perform_change_cases performed with ⟨rfl, ⟨e, failed, rfl⟩ | ⟨written, rfl⟩⟩
  · refine ⟨rfl, .inl ⟨⟨_, rfl⟩, ?_⟩⟩
    dsimp only
    rw [unchanged e failed]
    exact added
  · rcases stores written with ⟨stores, absent⟩
    refine ⟨rfl, .inr ⟨rfl, added.stores stores, fun off => ?_⟩⟩
    have nothing := absent off
    rw [added.placeOf, added.sameFiles] at nothing
    exact nothing

/-! ## The end of a way -/

/-- The tree in which the directories of the way have been made. -/
def way (deposit : Deposit) (tree : FileTree) (base : Place) (names : List String) : Changed :=
  tree.makeWay deposit.directory base names

/-- The file at the end of the way. -/
def file (deposit : Deposit) (tree : FileTree) (base : Place) (names : List String) (last : String) : Changed :=
  tree.storeAt deposit.overwrite deposit.path deposit.content last (base ++ names ++ [last])

/-- What comes of a deposit at the end of a way. -/
def result (deposit : Deposit) (tree : FileTree) (base : Place) (names : List String) (last : String) :
    Except Fault Unit × FileTree :=
  let way := deposit.way tree base names
  match way.outcome with
  | .error e => (.error (deposit.unmade e), way.tree)
  | .ok () =>
    let file := deposit.file way.tree base names last
    (file.outcome.mapError deposit.unwritten, file.tree)

variable {deposit : Deposit} {tree before after : FileTree} {base : Place} {names : List String} {last : String}

theorem result_of_unmade {e : OsError} (failed : (deposit.way tree base names).outcome = .error e) :
    deposit.result tree base names last = (.error (deposit.unmade e), (deposit.way tree base names).tree) := by
  rw [result, failed]

theorem result_of_made (made : (deposit.way tree base names).outcome = .ok ()) :
    deposit.result tree base names last =
      ((deposit.file (deposit.way tree base names).tree base names last).outcome.mapError deposit.unwritten,
        (deposit.file (deposit.way tree base names).tree base names last).tree) := by
  rw [result, made]

theorem perform_job {world : World} (ends : world.tree.EndsAt deposit.path base names last)
    (cut : FilePath.parent? deposit.path = some deposit.directory) :
    deposit.job.perform world =
      ((deposit.result world.tree base names last).1,
        { world with tree := (deposit.result world.tree base names last).2 }) := by
  rcases ends.exists_parent with ⟨parent, found, descends, tidy⟩
  obtain rfl : deposit.directory = parent := Option.some.inj (cut.symm.trans found)
  have same := makeDirectories_eq_makeWay ends.closed tidy descends
  rw [job, perform_bind, perform_change, same]
  cases made : (world.tree.makeWay deposit.directory base names).outcome with
  | error e =>
    rw [result_of_unmade made]
    rfl
  | ok _ =>
    have kept := (makeWay_addsDirectories world.tree deposit.directory base names).toKeepsDirectories
    have stored := store_eq_storeAt deposit.overwrite deposit.content ends.tidy (ends.descends.keep kept)
      (walk_of_makeWay ends.named made)
    rw [result_of_made made, way]
    dsimp only [Except.mapError]
    rw [perform_change]
    dsimp only
    rw [stored]
    rfl

/-! ## What changes -/

theorem result_overlays (deposit : Deposit) (tree : FileTree) (base : Place) (names : List String) (last : String) :
    tree.Overlays (deposit.result tree base names last).2 (OnWay base names) (base ++ names ++ [last]) := by
  have made := makeWay_overlays tree deposit.directory base names (base ++ names ++ [last])
  cases outcome : (deposit.way tree base names).outcome with
  | error e =>
    rw [result_of_unmade outcome]
    exact made
  | ok _ =>
    rw [result_of_made outcome]
    exact made.trans (storeAt_overlays _ _ _ _ _ _ _)

theorem result_closed (closed : tree.IsClosedBelow base) (named : ∀ name ∈ names, FilePath.IsName name) :
    (deposit.result tree base names last).2.IsClosedBelow base := by
  have made := closed.makeWay deposit.directory names
  cases outcome : (deposit.way tree base names).outcome with
  | error e =>
    rw [result_of_unmade outcome]
    exact made
  | ok _ =>
    rw [result_of_made outcome]
    apply made.storeAt
    exact get?_of_walk named (walk_of_makeWay named outcome)

/-- Trees that share the way, and refuse the file for the same reason, share it afterwards. -/
theorem result_sharesWay (deposit : Deposit) (shares : before.SharesWay after base names)
    (alike : refusal deposit.overwrite (after.get? (base ++ names ++ [last])) =
      refusal deposit.overwrite (before.get? (base ++ names ++ [last]))) :
    (deposit.result after base names last).1 = (deposit.result before base names last).1 ∧
      (deposit.result before base names last).2.SharesWay (deposit.result after base names last).2 base names := by
  rcases shares.makeWay deposit.directory with ⟨same, way⟩
  rw [← get?_makeWay_end after deposit.directory, ← get?_makeWay_end before deposit.directory] at alike
  cases outcome : (deposit.way before base names).outcome with
  | error e =>
    rw [result_of_unmade outcome, result_of_unmade (same.trans outcome)]
    exact ⟨rfl, way⟩
  | ok _ =>
    rcases way.storeAt (fun front part => ne_end_of_front part) alike deposit.path deposit.content last with
      ⟨stored, left⟩
    rw [result_of_made outcome, result_of_made (same.trans outcome)]
    exact ⟨congrArg (Except.mapError deposit.unwritten) stored, left⟩

/-- What lies at the end after a deposit: the file, or what was there before. -/
theorem get?_result (deposit : Deposit) (tree : FileTree) (base : Place) (names : List String) (last : String) :
    (deposit.result tree base names last).2.get? (base ++ names ++ [last]) =
      match (deposit.result tree base names last).1 with
      | .ok () => some (.file deposit.content)
      | .error _ => tree.get? (base ++ names ++ [last]) := by
  have unchanged := get?_makeWay_end tree deposit.directory base names last
  cases outcome : (deposit.way tree base names).outcome with
  | error e =>
    rw [result_of_unmade outcome]
    exact unchanged
  | ok _ =>
    rw [result_of_made outcome, file]
    rcases storeAt_cases deposit.overwrite (deposit.way tree base names).tree deposit.path deposit.content last
      (base ++ names ++ [last]) with ⟨e, failed⟩ | ⟨-, stored⟩
    · rw [failed]
      exact unchanged
    · rw [stored]
      exact get?_put_self _ (end_ne_nil base names last) _

/-- A file that has been deposited is found. -/
theorem status_result (ends : tree.EndsAt deposit.path base names last)
    (done : (deposit.result tree base names last).1 = .ok ()) :
    (deposit.result tree base names last).2.status deposit.path = .ok (.file deposit.content) := by
  have kept := (deposit.result_overlays tree base names last).toKeepsDirectories
  have later := ends.keep kept (result_closed ends.closed ends.named)
  have there := deposit.get?_result tree base names last
  rw [done] at there
  rw [later.status_eq_ok_iff]
  cases outcome : (deposit.way tree base names).outcome with
  | error e =>
    rw [result_of_unmade outcome] at done
    cases done
  | ok _ =>
    have short := areShort_of_walk ends.named (walk_of_makeWay ends.named outcome)
    rw [result_of_made outcome, file, storeAt] at done
    split at done
    · cases done
    next noNul =>
    split at done
    · cases done
    next fits => exact ⟨noNul, List.forall_mem_append.2 ⟨short, List.forall_mem_singleton.2 fits⟩, there⟩

/-- Elsewhere only the directories of the way may be new. -/
theorem get?_result_of_ne {place : Place} (different : place ≠ base ++ names ++ [last]) :
    (deposit.result tree base names last).2.get? place = (deposit.way tree base names).tree.get? place := by
  cases outcome : (deposit.way tree base names).outcome with
  | error e => rw [result_of_unmade outcome]
  | ok _ =>
    rw [result_of_made outcome, file]
    rcases storeAt_cases deposit.overwrite (deposit.way tree base names).tree deposit.path deposit.content last
      (base ++ names ++ [last]) with ⟨e, failed⟩ | ⟨-, stored⟩
    · rw [failed]
    · rw [stored]
      exact get?_put_of_ne _ different _

/-- A deposit that has been made found nothing that would have refused it. -/
theorem refusal_of_result (done : (deposit.result tree base names last).1 = .ok ()) :
    refusal deposit.overwrite (tree.get? (base ++ names ++ [last])) = none := by
  rw [← get?_makeWay_end tree deposit.directory]
  cases outcome : (deposit.way tree base names).outcome with
  | error e =>
    rw [result_of_unmade outcome] at done
    cases done
  | ok _ =>
    rw [result_of_made outcome, file, storeAt] at done
    split at done
    · cases done
    split at done
    · cases done
    split at done
    · cases done
    · next free => exact free

/-- The file that is stored is not on the way that has been made for it. -/
theorem way_sharesWay_result (deposit : Deposit) (tree : FileTree) (base : Place)
    (names : List String) (last : String) :
    (deposit.way tree base names).tree.SharesWay (deposit.result tree base names last).2 base names := by
  cases outcome : (deposit.way tree base names).outcome with
  | error e =>
    rw [result_of_unmade outcome]
    exact .refl _ base names
  | ok _ =>
    rw [result_of_made outcome, file]
    have stored := storeAt_overlays deposit.overwrite (deposit.way tree base names).tree
      deposit.path deposit.content last
      (OnWay base names) (base ++ names ++ [last])
    rw [List.append_assoc] at stored ⊢
    apply stored.sharesWay
    intro part
    have longer := part.length_le
    rw [List.length_append, List.length_singleton] at longer
    omega

/-- Where a deposit has been, another one makes no directories. -/
theorem result_idle (shares : (deposit.result before base names last).2.SharesWay after base names) {place : Place}
    (different : place ≠ base ++ names ++ [last]) :
    (deposit.result after base names last).2.get? place = after.get? place := by
  have again := makeWay_makeWay before deposit.directory base names
  have settled : ∀ other,
      ((deposit.way before base names).tree.makeWay deposit.directory base names).tree.get? other =
      (deposit.way before base names).tree.get? other := by
    intro other
    rw [way, again]
  rw [get?_result_of_ne different]
  exact ((deposit.way_sharesWay_result before base names last).trans shares).get?_makeWay settled place

/-- Alike trees are alike after a deposit in both. -/
theorem result_alike (deposit : Deposit) (alike : before.Alike after base names last) :
    (deposit.result after base names last).1 = (deposit.result before base names last).1 ∧
      (deposit.result before base names last).2.Alike (deposit.result after base names last).2 base names last := by
  rcases result_sharesWay deposit alike.toSharesWay (congrArg _ alike.ending) with ⟨same, shares⟩
  refine ⟨same, shares, ?_⟩
  rw [get?_result, get?_result, same, alike.ending]

/-- A deposit that has failed fails again for the same reason, and changes nothing more. -/
theorem result_again {fault : Fault} (failed : (deposit.result tree base names last).1 = .error fault) :
    deposit.result (deposit.result tree base names last).2 base names last =
      deposit.result tree base names last := by
  have again := makeWay_makeWay tree deposit.directory base names
  cases outcome : (deposit.way tree base names).outcome with
  | error e =>
    have repeated : deposit.way (deposit.way tree base names).tree base names = deposit.way tree base names := again
    rw [result_of_unmade outcome]
    dsimp only
    rw [result_of_unmade (by rw [repeated]; exact outcome), repeated]
  | ok _ =>
    have repeated : deposit.way (deposit.way tree base names).tree base names = deposit.way tree base names := again
    rw [result_of_made outcome] at failed ⊢
    rw [file] at failed ⊢
    rcases storeAt_cases deposit.overwrite (deposit.way tree base names).tree deposit.path deposit.content last
      (base ++ names ++ [last]) with ⟨e, refused⟩ | ⟨-, stored⟩
    · rw [refused]
      dsimp only
      rw [result_of_made (by rw [repeated]; exact outcome), repeated, file, refused]
    · rw [stored] at failed
      cases failed

/-- A deposit that changes nothing in one tree changes nothing in a tree that is alike. -/
theorem result_sameEntries (alike : before.Alike after base names last)
    (settled : before.SameEntries (deposit.result before base names last).2) :
    after.SameEntries (deposit.result after base names last).2 := by
  have unmade : ∀ place, (deposit.way before base names).tree.get? place = before.get? place := by
    intro place
    by_cases ending : place = base ++ names ++ [last]
    · rw [ending]
      exact get?_makeWay_end before deposit.directory base names last
    · rw [← get?_result_of_ne ending]
      exact settled.entries place
  have overlays := deposit.result_overlays after base names last
  refine ⟨overlays.workingDirectory, overlays.links, fun place => ?_⟩
  by_cases ending : place = base ++ names ++ [last]
  · rw [ending, (deposit.result_alike alike).2.ending, settled.entries, alike.ending]
  · rw [get?_result_of_ne ending]
    exact alike.toSharesWay.get?_makeWay unmade place

end Deposit
end Scaffold
