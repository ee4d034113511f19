import Scaffold.Proofs.FileTree.Growth

namespace Scaffold
namespace FileTree

/-!
# What each change does

Making directories adds directories and touches no file, also when it fails halfway.  A file that is
written, new or in the place of an old one, is found under its path afterwards, and no other file
changes, unless it takes the place of a link.  A path that leads to a file can be removed, and only
that file goes.
-/

/-! ## Directories -/

/-- The change has added directories and nothing else. -/
structure AddsDirectories (before after : FileTree) : Prop extends KeepsDirectories before after where
  sameFiles : before.SameFiles after

theorem AddsDirectories.refl (tree : FileTree) : tree.AddsDirectories tree :=
  ⟨.refl tree, .refl tree⟩

theorem AddsDirectories.trans {before middle after : FileTree} (first : before.AddsDirectories middle)
    (last : middle.AddsDirectories after) : before.AddsDirectories after :=
  ⟨first.toKeepsDirectories.trans last.toKeepsDirectories, first.sameFiles.trans last.sameFiles⟩

theorem AddsDirectories.grows {before after : FileTree} (added : before.AddsDirectories after) :
    before.Grows after :=
  added.toKeepsDirectories.grows added.sameFiles

/-- A place that holds nothing is not the root. -/
theorem ne_nil_of_get? {tree : FileTree} {place : Place} (free : tree.get? place = none) : place ≠ [] := by
  rintro rfl
  cases free

/-- What is free holds neither an entry nor a link. -/
theorem free_of_isTaken {tree : FileTree} {place : Place} (free : tree.isTaken place = false) :
    tree.get? place = none ∧ tree.linkAt? place = none := by
  rw [isTaken, Bool.or_eq_false_iff] at free
  simpa using free

/-- Without links, what is taken holds an entry. -/
theorem isTaken_of_unlinked {tree : FileTree} (unlinked : tree.links = []) (place : Place) :
    tree.isTaken place = (tree.get? place).isSome := by
  rw [isTaken, linkAt?, unlinked]
  exact Bool.or_false _

theorem addsDirectories_put {tree : FileTree} {place : Place} (free : tree.get? place = none) :
    tree.AddsDirectories (tree.put place .directory) where
  workingDirectory := rfl
  links := rfl
  directories other there := by
    by_cases same : other = place
    · rw [same, free] at there; cases there
    · rw [tree.get?_put_of_ne same]; exact there
  sameFiles other := by
    by_cases same : other = place
    · subst same
      rw [contentAt?_of_get? (.inl free), contentAt?_of_get? (.inr (tree.get?_put_self (ne_nil_of_get? free) _))]
    · exact contentAt?_congr (tree.get?_put_of_ne same _)

theorem makeDirectory_addsDirectories (tree : FileTree) (path : String) :
    tree.AddsDirectories (tree.makeDirectory path).tree := by
  rw [makeDirectory]
  split
  · exact .refl tree
  · exact .refl tree
  · next place slash located =>
    split
    · exact .refl tree
    · next free => exact addsDirectories_put (free_of_isTaken (by simpa using free)).1

theorem ensureDirectory_addsDirectories (tree : FileTree) (path : String) :
    tree.AddsDirectories (tree.ensureDirectory path).tree := by
  rw [ensureDirectory]
  split
  · exact makeDirectory_addsDirectories tree path
  · exact .refl tree

theorem makeDirectoriesWithin_addsDirectories (tree : FileTree) (fuel : Nat) (path : String) :
    tree.AddsDirectories (tree.makeDirectoriesWithin fuel path).tree := by
  induction fuel generalizing path with
  | zero => exact .refl tree
  | succ fuel ih =>
    rw [makeDirectoriesWithin]
    split
    · exact .refl tree
    · dsimp only
      split
      · exact makeDirectory_addsDirectories tree path
      · split
        · exact .refl tree
        · split
          · exact .refl tree
          · next parent _ =>
            split
            · exact (ih parent).trans (ensureDirectory_addsDirectories _ path)
            · exact ih parent

theorem makeDirectories_addsDirectories (tree : FileTree) (path : String) :
    tree.AddsDirectories (tree.makeDirectories path).tree :=
  makeDirectoriesWithin_addsDirectories tree _ path

theorem KeepsDirectories.isDirectory {before after : FileTree}
    (kept : before.KeepsDirectories after) {path : String}
    (there : before.isDirectory path = true) : after.isDirectory path = true := by
  rw [FileTree.isDirectory, status] at there ⊢
  cases arrived : before.arrive path with
  | error e => rw [arrived] at there; cases there
  | ok target =>
    rw [arrived] at there
    rw [kept.arrive arrived]
    cases target with
    | directory place => rfl
    | name place slash =>
      dsimp only [bind, Except.bind] at there ⊢
      cases entry : before.get? place with
      | none => rw [entry] at there; cases there
      | some kind =>
        rw [entry] at there
        cases kind with
        | directory => rw [kept.directories place entry]; rfl
        | file content => cases slash <;> cases there

/-- Where a directory is, nothing has to be made. -/
theorem makeDirectories_of_isDirectory {tree : FileTree} (unlinked : tree.links = []) {path : String}
    (there : tree.isDirectory path = true) : tree.makeDirectories path = ⟨.ok (), tree⟩ := by
  have blocked : tree.makeDirectory path = ⟨.error .alreadyExists, tree⟩ := by
    rw [isDirectory, status, arrive_of_unlinked unlinked] at there
    rw [makeDirectory]
    cases located : tree.locate path with
    | error e => rw [located] at there; cases there
    | ok target =>
      rw [located] at there
      cases target with
      | directory place => rfl
      | name place slash =>
        dsimp only [bind, Except.bind] at there ⊢
        cases entry : tree.get? place with
        | none => rw [entry] at there; cases there
        | some kind => rw [isTaken, entry]; rfl
  rw [makeDirectories, makeDirectoriesWithin]
  split
  · rfl
  · rw [blocked]
    dsimp only
    rw [if_pos (by decide)]

/-! ## Writing -/

/-- What a path leads to is still there when the tree has grown. -/
theorem Grows.pathExists {before after : FileTree} (grows : before.Grows after) {path : String}
    (there : before.pathExists path = true) : after.pathExists path = true := by
  rw [FileTree.pathExists, status] at there ⊢
  cases arrived : before.arrive path with
  | error e => rw [arrived] at there; cases there
  | ok target =>
    rw [arrived] at there
    rw [grows.arrive arrived]
    cases target with
    | directory place => rfl
    | name place slash =>
      dsimp only [bind, Except.bind] at there ⊢
      cases entry : before.get? place with
      | none => rw [entry] at there; cases there
      | some kind =>
        rw [entry] at there
        cases kind with
        | directory => rw [grows.directories place entry]; rfl
        | file content =>
          cases slash with
          | true => cases there
          | false =>
            have kept := grows.files place (by rw [get?_eq_file_iff.1 entry]; rfl)
            rcases Option.isSome_iff_exists.1 kept with ⟨text, holds⟩
            rw [get?_eq_file_iff.2 holds]
            rfl

/-- The change has written a file under a path and left every other file as it was, and every
link. -/
structure Stores (before after : FileTree) (path content : String) : Prop where
  grows : before.Grows after
  free : before.linkAt? (before.placeOf path) = none
  located : after.locate path = .ok (.name (before.placeOf path) false)
  content : after.contentAt? (before.placeOf path) = some content
  others : ∀ place, place ≠ before.placeOf path → after.contentAt? place = before.contentAt? place

theorem Stores.leadsToFile {before after : FileTree} {path content : String}
    (stores : before.Stores after path content) : after.LeadsToFile path := by
  have meant := stores.grows.placeOf path
  constructor
  case located => rw [meant]; exact stores.located
  case free => rw [meant, linkAt?_congr stores.grows.links]; exact stores.free
  case there => rw [meant, stores.content]; rfl

/-- What already lay under a path that was written is a file. -/
theorem Stores.contentAt?_of_pathExists {before after : FileTree} {path content : String}
    (stores : before.Stores after path content) (there : before.pathExists path = true) :
    (before.contentAt? (before.placeOf path)).isSome := by
  rw [pathExists, status] at there
  cases arrived : before.arrive path with
  | error e => rw [arrived] at there; cases there
  | ok target =>
    have later : after.arrive path = .ok (.name (before.placeOf path) false) := by
      apply arrive_of_locate stores.located
      rw [linkAt?_congr stores.grows.links]
      exact stores.free
    have same := (stores.grows.arrive arrived).symm.trans later
    cases same
    rw [arrived] at there
    dsimp only [bind, Except.bind] at there
    cases entry : before.get? (before.placeOf path) with
    | none => rw [entry] at there; cases there
    | some kind =>
      cases kind with
      | directory =>
        have kept := stores.grows.directories _ entry
        rw [get?_eq_file_iff.2 stores.content] at kept
        cases kept
      | file text => rw [get?_eq_file_iff.1 entry]; rfl

/-- Directories that were made first do not matter for what a write has done. -/
theorem AddsDirectories.stores {before middle after : FileTree} {path content : String}
    (added : before.AddsDirectories middle) (stores : middle.Stores after path content) :
    before.Stores after path content := by
  have meant := added.placeOf path
  refine ⟨added.grows.trans stores.grows, ?_, ?_, ?_, ?_⟩
  · rw [← meant, ← linkAt?_congr added.links]; exact stores.free
  · rw [← meant]; exact stores.located
  · rw [← meant]; exact stores.content
  · intro place different
    rw [← meant] at different
    exact (stores.others place different).trans (added.sameFiles place)

/-- A file that is put where no directory lies is stored. -/
theorem stores_put {tree : FileTree} {path : String} {place : Place} (content : String)
    (located : tree.locate path = .ok (.name place false)) (noLink : tree.linkAt? place = none)
    (free : tree.get? place ≠ some .directory) : tree.Stores (tree.put place (.file content)) path content := by
  rcases placeOf_of_locate located with ⟨meant, below⟩
  have grows : tree.Grows (tree.put place (.file content)) := by
    refine ⟨⟨rfl, rfl, ?_⟩, ?_⟩
    · intro other there
      by_cases same : other = place
      · exact absurd (same ▸ there) free
      · rw [tree.get?_put_of_ne same]; exact there
    · intro other there
      by_cases same : other = place
      · rw [same, tree.contentAt?_put_self below]; rfl
      · rw [contentAt?_congr (tree.get?_put_of_ne same _)]; exact there
  refine ⟨grows, ?_, ?_, ?_, ?_⟩
  · rw [meant]; exact noLink
  · rw [meant]; exact grows.locate located
  · rw [meant]; exact tree.contentAt?_put_self below content
  · intro other different
    rw [meant] at different
    exact contentAt?_congr (tree.get?_put_of_ne different _)

/-- No link is taken away where there is none. -/
theorem eraseLink_of_unlinked {tree : FileTree} (unlinked : tree.links = []) (place : Place) :
    tree.eraseLink place = tree := by
  rw [eraseLink, unlinked, List.filter_nil, ← unlinked]

theorem stores_of_replaceFile {tree : FileTree} (unlinked : tree.links = []) {path content : String}
    (written : (tree.replaceFile path content).outcome = .ok ()) :
    tree.Stores (tree.replaceFile path content).tree path content := by
  have free (place : Place) : tree.linkAt? place = none := by rw [linkAt?, unlinked]; rfl
  rw [replaceFile] at written ⊢
  cases located : tree.locate path with
  | error e => rw [located] at written; cases written
  | ok target =>
    cases target with
    | directory place => rw [located] at written; cases written
    | name place slash =>
      rw [located] at written
      dsimp only at written ⊢
      cases slash with
      | true => cases written
      | false =>
        rw [eraseLink_of_unlinked unlinked] at written ⊢
        cases entry : tree.get? place with
        | none => exact stores_put content located (free place) (by simp [entry])
        | some kind =>
          rw [entry] at written
          cases kind with
          | directory => cases written
          | file old => exact stores_put content located (free place) (by simp [entry])

/-- A file is created only where nothing lies. -/
theorem stores_of_createFile {tree : FileTree} {path content : String}
    (written : (tree.createFile path content).outcome = .ok ()) :
    tree.Stores (tree.createFile path content).tree path content ∧ tree.contentAt? (tree.placeOf path) = none := by
  rw [createFile] at written ⊢
  cases located : tree.locate path with
  | error e => rw [located] at written; cases written
  | ok target =>
    cases target with
    | directory place => rw [located] at written; cases written
    | name place slash =>
      rw [located] at written
      dsimp only at written ⊢
      cases taken : tree.isTaken place with
      | true => rw [taken] at written; cases written
      | false =>
        rw [taken] at written
        cases slash with
        | true => cases written
        | false =>
          rcases free_of_isTaken taken with ⟨nothing, noLink⟩
          refine ⟨stores_put content located noLink (by simp [nothing]), ?_⟩
          rw [(placeOf_of_locate located).1]
          exact contentAt?_of_get? (.inl nothing)

/-! ## Removing -/

theorem removeFile_of_leadsToFile {tree : FileTree} {path : String} (leads : tree.LeadsToFile path) :
    tree.removeFile path = ⟨.ok (), tree.erase (tree.placeOf path)⟩ := by
  rcases Option.isSome_iff_exists.1 leads.there with ⟨content, holds⟩
  simp [removeFile, leads.located, leads.free, get?_eq_file_iff.2 holds]

/-- Erasing the place of a file removes that file and nothing else. -/
theorem contentAt?_erase {tree : FileTree} {path : String} (leads : tree.LeadsToFile path) (place : Place) :
    (tree.erase (tree.placeOf path)).contentAt? place =
      if place = tree.placeOf path then none else tree.contentAt? place := by
  have below := (placeOf_of_locate leads.located).2
  split
  · next same => rw [same]; exact contentAt?_of_get? (.inl (tree.get?_erase_self below))
  · next different => exact contentAt?_congr (tree.get?_erase_of_ne different)

theorem keepsDirectories_erase {tree : FileTree} {path : String} (leads : tree.LeadsToFile path) :
    tree.KeepsDirectories (tree.erase (tree.placeOf path)) where
  workingDirectory := rfl
  links := rfl
  directories other there := by
    by_cases same : other = tree.placeOf path
    · rcases Option.isSome_iff_exists.1 leads.there with ⟨content, holds⟩
      rw [same, get?_eq_file_iff.2 holds] at there
      cases there
    · rw [tree.get?_erase_of_ne same]; exact there

/-- A path to another place still leads to its file. -/
theorem LeadsToFile.erase {tree : FileTree} {path other : String} (leads : tree.LeadsToFile path)
    (otherLeads : tree.LeadsToFile other) (different : tree.placeOf other ≠ tree.placeOf path) :
    (tree.erase (tree.placeOf path)).LeadsToFile other := by
  apply otherLeads.keep (keepsDirectories_erase leads)
  rw [contentAt?_erase leads, if_neg different]
  exact otherLeads.there

/-- The tree after the change has lost the files at the given places, and no others. -/
structure Loses (before after : FileTree) (places : List Place) : Prop extends KeepsDirectories before after where
  contents : ∀ place, after.contentAt? place = if place ∈ places then none else before.contentAt? place

theorem Loses.nil (tree : FileTree) : tree.Loses tree [] :=
  ⟨.refl tree, fun _ => by simp⟩

/-- One file more is lost when it is erased first. -/
theorem Loses.cons {tree after : FileTree} {path : String} {places : List Place} (leads : tree.LeadsToFile path)
    (rest : (tree.erase (tree.placeOf path)).Loses after places) :
    tree.Loses after (tree.placeOf path :: places) := by
  refine ⟨(keepsDirectories_erase leads).trans rest.toKeepsDirectories, ?_⟩
  intro place
  rw [rest.contents, contentAt?_erase leads]
  by_cases lost : place ∈ places
  · rw [if_pos lost, if_pos (List.mem_cons_of_mem _ lost)]
  · by_cases same : place = tree.placeOf path
    · rw [if_neg lost, if_pos same, if_pos (same ▸ List.mem_cons_self)]
    · rw [if_neg lost, if_neg same, if_neg (by simp [same, lost])]

/-- After the first of several files has gone, the paths to the others still lead to them. -/
theorem leadsToFile_erase_first (resolve : String → String) {tree : FileTree} {path : String} {rest : List String}
    (leads : ∀ other ∈ path :: rest, tree.LeadsToFile (resolve other))
    (own : tree.placeOf (resolve path) ∉ rest.map (fun other => tree.placeOf (resolve other))) :
    ∀ other ∈ rest, (tree.erase (tree.placeOf (resolve path))).LeadsToFile (resolve other) := by
  intro other member
  apply (leads path List.mem_cons_self).erase (leads other (List.mem_cons_of_mem path member))
  exact fun same => own (List.mem_map.2 ⟨other, member, same⟩)

/-- Removing files one after the other, when each path leads to a file of its own. -/
theorem loses_foldl_removeFile (resolve : String → String) {tree : FileTree} {paths : List String}
    (leads : ∀ path ∈ paths, tree.LeadsToFile (resolve path))
    (distinct : (paths.map (fun path => tree.placeOf (resolve path))).Nodup) :
    tree.Loses (paths.foldl (fun tree path => (tree.removeFile (resolve path)).tree) tree)
      (paths.map (fun path => tree.placeOf (resolve path))) := by
  induction paths generalizing tree with
  | nil => exact .nil tree
  | cons path rest ih =>
    rcases List.nodup_cons.1 distinct with ⟨own, others⟩
    have first := leads path List.mem_cons_self
    have meant : rest.map (fun other => (tree.erase (tree.placeOf (resolve path))).placeOf (resolve other)) =
        rest.map (fun other => tree.placeOf (resolve other)) :=
      List.map_congr_left fun other _ => (keepsDirectories_erase first).placeOf (resolve other)
    have loses := ih (leadsToFile_erase_first resolve leads own)
    rw [meant] at loses
    rw [List.foldl_cons, removeFile_of_leadsToFile first]
    exact .cons first (loses others)

end FileTree
end Scaffold
