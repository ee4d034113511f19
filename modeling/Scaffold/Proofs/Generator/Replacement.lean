import Scaffold.Proofs.Generator.Addition
import Scaffold.Proofs.Layer.Paths

namespace Scaffold

open Job

/-!
# What a generation replaces

When files may be overwritten, a generation still keeps to the paths of its own layers: only the
files under them change, and under every path that it reports there is a file at the end.  A layer
that fails takes back what it has created, which lies under its own paths, so that the files of the
layers before it stay.  All of this needs a tree without links: a link that is replaced by a file
may be one through which an earlier layer has gone.
-/

namespace FilePath

open FileTree (leads_iff)

theorem names_of_descent {path : String} (descent : IsDescent path) : names path = segments path := by
  rw [names, List.filter_eq_self]
  intro segment member
  exact bne_iff_ne.2 (leads_iff.1 (descent.named segment member).moves).1

theorem IsDescent.isPlain {path : String} (descent : IsDescent path) : IsPlain path :=
  ⟨descent.relative, fun segment member =>
    ⟨(leads_iff.1 (descent.named segment member).moves).2, (descent.named segment member).notUp⟩⟩

/-- A path that leads down from name to name leads below any root. -/
theorem IsDescent.placeOf {path : String} (descent : IsDescent path) {tree : FileTree} (unlinked : tree.links = [])
    (root : String) : tree.placeOf (join root path) = tree.placeOf root ++ segments path := by
  rw [FileTree.placeOf_join_plain unlinked root descent.isPlain, names_of_descent descent]

theorem AreSeparate.nodup_placesBelow {paths : List String} (separate : AreSeparate paths) {tree : FileTree}
    (unlinked : tree.links = []) (root : String) : (tree.placesBelow root paths).Nodup := by
  rw [FileTree.placesBelow, List.Nodup, List.pairwise_map]
  apply separate.apart.imp_of_mem
  intro one other first second apart same
  rw [(separate.descends one first).placeOf unlinked, (separate.descends other second).placeOf unlinked] at same
  exact apart.1 (List.append_cancel_left same ▸ List.prefix_rfl)

end FilePath

namespace FileTree

variable {before middle after : FileTree} {root : String} {own more files others : List String}

/-- Only files under the paths `own` have changed, and under those of `files` there is one now. -/
structure Replaces (before after : FileTree) (root : String) (own files : List String) : Prop
    extends KeepsDirectories before after where
  held : ∀ path ∈ files, after.LeadsToFile (FilePath.join root path)
  others : ∀ place, place ∉ before.placesBelow root own → after.contentAt? place = before.contentAt? place

theorem Replaces.refl (tree : FileTree) (root : String) (own : List String) : tree.Replaces tree root own [] :=
  ⟨.refl tree, fun _ member => absurd member List.not_mem_nil, fun _ _ => rfl⟩

/-- Replacements under different paths follow one another without getting into each other's way. -/
theorem Replaces.append (first : before.Replaces middle root own files)
    (second : middle.Replaces after root more others)
    (inside : files ⊆ own) (distinct : (before.placesBelow root (own ++ more)).Nodup) :
    before.Replaces after root (own ++ more) (files ++ others) where
  toKeepsDirectories := first.toKeepsDirectories.trans second.toKeepsDirectories
  held path member := by
    rcases List.mem_append.1 member with earlier | later
    · have leads := first.held path earlier
      refine leads.keep second.toKeepsDirectories ?_
      rw [second.others]
      · exact leads.there
      rw [first.placesBelow, first.placeOf]
      rw [placesBelow_append, List.nodup_append] at distinct
      intro taken
      exact distinct.2.2 _ (List.mem_map.2 ⟨path, inside earlier, rfl⟩) _ taken rfl
    · exact second.held path later
  others place outside := by
    rw [placesBelow_append, List.mem_append, not_or] at outside
    rw [second.others place (by rw [first.placesBelow]; exact outside.2), first.others place outside.1]

end FileTree

namespace Writer

/-- A file that was written is reported under the path that was asked for. -/
theorem write_eq_ok {writer : Writer} {toolbox : Toolbox} {options : Options} {relative content path : String}
    {world after : World}
    (performed : (writer.write toolbox relative content options).perform world = (.ok path, after)) :
    path = relative := by
  rw [write] at performed
  rcases perform_bind_cases performed with ⟨_, -, failed⟩ | ⟨_, _, -, performed⟩
  · cases failed
  dsimp only at performed
  rcases perform_bind_cases performed with ⟨_, -, failed⟩ | ⟨_, _, -, performed⟩
  · cases failed
  rcases perform_bind_cases performed with ⟨_, -, failed⟩ | ⟨_, _, -, performed⟩
  · cases failed
  rcases perform_bind_cases performed with ⟨_, -, failed⟩ | ⟨_, _, -, performed⟩
  · cases failed
  cases performed
  rfl

end Writer

namespace Workshop

variable {workshop : Workshop} {options : Options} {world after : World}

/-- The loop reports the paths of its files in their order. -/
theorem writeFrom_eq_ok {created paths : List String} {texts : List (String × String)}
    (performed : (workshop.writeFrom options created texts).perform world = (.ok paths, after)) :
    paths = texts.map Prod.fst := by
  induction texts generalizing world created paths with
  | nil =>
    cases performed
    rfl
  | cons file rest ih =>
    rcases file with ⟨path, text⟩
    rw [writeFrom, perform_bind, perform_tree] at performed
    dsimp only at performed
    rcases perform_bind_cases performed with ⟨_, -, failed⟩ | ⟨written, middle, writing, continuing⟩
    · cases failed
    rcases perform_bind_cases continuing with ⟨_, -, failed⟩ | ⟨others, last, rested, ending⟩
    · cases failed
    cases ending
    rcases perform_tryCatch_cases writing with ⟨value, stored, succeeded⟩ | ⟨cause, reached, -, handled⟩
    · cases succeeded
      rw [List.map_cons, Writer.write_eq_ok stored, ih rested]
    · rcases perform_bind_cases handled with ⟨_, -, failed⟩ | ⟨_, _, -, failed⟩ <;> cases failed

theorem renderAndWrite_eq_ok {data : Json.Value} {targets : List Target} {paths : List String}
    (performed : (workshop.renderAndWrite options data targets).perform world = (.ok paths, after)) :
    paths = targets.map fun target => target.output.path := by
  rcases renderAndWrite_cases performed with ⟨⟨fault, failed⟩, -⟩ | ⟨texts, _, listed, -, writing⟩
  · cases failed
  · rw [writeFrom_eq_ok writing, listed]

/-- Writing a layer changes no file but its own, and succeeds only with all of them in place. -/
theorem renderAndWrite_replaces {data : Json.Value} {targets : List Target} {outcome : Except Fault (List String)}
    (quiet : workshop.writer.Quiet options) (unlinked : world.tree.links = [])
    (distinct : (world.tree.placesBelow workshop.writer.root (targets.map fun target => target.output.path)).Nodup)
    (performed : (workshop.renderAndWrite options data targets).perform world = (outcome, after)) :
    world.tree.Replaces after.tree workshop.writer.root (targets.map fun target => target.output.path)
      (filesOf outcome) := by
  rcases renderAndWrite_cases performed with ⟨⟨fault, rfl⟩, draws, rfl⟩ | ⟨texts, draws, listed, -, writing⟩
  · exact .refl _ _ _
  rw [← listed] at distinct ⊢
  have start : workshop.Progress options world.tree ({ world with draws } : World).tree [] [] := .start _ _ _
  have meant := @placesBelow_root workshop world.tree
  rcases writeFrom_cases quiet (fun _ => unlinked) start (fun _ => meant texts ▸ distinct) writing with
    ⟨rfl, created, progress⟩ | ⟨⟨fault, rfl⟩, written, middle, created, part, progress, loses⟩
  · refine ⟨progress.grows.toKeepsDirectories, ?_, fun place outside =>
      progress.others place (meant texts ▸ outside)⟩
    intro path member
    rcases List.mem_map.1 member with ⟨file, inside, rfl⟩
    exact (progress.held file inside).1
  · refine ⟨progress.grows.toKeepsDirectories.trans loses.toKeepsDirectories, fun _ member =>
      absurd member List.not_mem_nil, fun place outside => ?_⟩
    rw [meant texts] at outside
    exact progress.contentAt?_unwritten loses fun inside => outside ((part.map _).subset inside)

end Workshop

namespace Layer

variable {layer : Layer} {workshop : Workshop} {request : Request} {world after : World}

theorem paths_map_outputs (layer : Layer) (names : Names) (directory : String) :
    (((layer.outputs names).map fun output => ({ output, directory } : Target)).map
      fun target => target.output.path) = layer.paths names :=
  List.map_map

/-- A layer that was written reports its paths. -/
theorem generate_eq_ok {files : List String}
    (performed : (layer.generate workshop request).perform world = (.ok files, after)) :
    files = layer.paths (Names.ofRequest request) := by
  rcases generate_cases performed with ⟨⟨fault, failed⟩, -⟩ | ⟨data, directory, writing⟩
  · cases failed
  · rw [Workshop.renderAndWrite_eq_ok writing, paths_map_outputs]

theorem generate_replaces (named : IsFileName (Names.ofRequest request).snake)
    {outcome : Except Fault (List String)}
    (quiet : workshop.writer.Quiet request.options) (unlinked : world.tree.links = [])
    (performed : (layer.generate workshop request).perform world = (outcome, after)) :
    world.tree.Replaces after.tree workshop.writer.root (layer.paths (Names.ofRequest request))
      (filesOf outcome) := by
  rcases generate_cases performed with ⟨⟨fault, rfl⟩, rfl⟩ | ⟨data, directory, writing⟩
  · exact .refl _ _ _
  · have distinct := (separate_paths named layer).nodup_placesBelow unlinked workshop.writer.root
    rw [← layer.paths_map_outputs _ directory] at distinct ⊢
    exact Workshop.renderAndWrite_replaces quiet unlinked distinct writing

end Layer

namespace Generator

variable {generator : Generator}

/-- A stage that has written files is the one of a layer, and has written the files of that
layer. -/
theorem writeFiles_eq_ok (builtin : generator.registry.IsBuiltin) {request : Request} {component : Component}
    {world : World} {files : List String}
    (done : ((generator.writeFiles request component).perform world).1 = .ok files) :
    ∃ layer, component = .ofLayer layer ∧ files = layer.paths (Names.ofRequest request) := by
  rcases writeFiles_cases builtin request component with ⟨fault, -, same⟩ | ⟨layer, rfl, same⟩
  · rw [same] at done
    cases done
  · rw [same] at done
    exact ⟨layer, rfl, Layer.generate_eq_ok (Prod.ext done rfl)⟩

theorem filesOf_writeFiles_subset (builtin : generator.registry.IsBuiltin) (request : Request) (layer : Layer)
    (world : World) :
    filesOf ((generator.writeFiles request (.ofLayer layer)).perform world).1 ⊆
      layer.paths (Names.ofRequest request) := by
  cases outcome : ((generator.writeFiles request (.ofLayer layer)).perform world).1 with
  | error fault => exact List.nil_subset _
  | ok files =>
    rcases writeFiles_eq_ok builtin outcome with ⟨_, kind, written⟩
    cases kind
    exact written ▸ List.Subset.refl _

/-- The layers that were written have given all their files, and without any error all of them were
written. -/
theorem harvestLayers_written (builtin : generator.registry.IsBuiltin) (request : Request) (layers : List Layer)
    (harvest : Harvest) (world : World) :
    let result := (generator.harvestLayers request harvest layers).run world
    ∃ written, written.Sublist layers ∧
      result.1.files = harvest.files ++ written.flatMap (fun layer => layer.paths (Names.ofRequest request)) ∧
      (result.1.errors = [] → written = layers ∧ harvest.errors = []) := by
  induction layers generalizing harvest world with
  | nil => exact ⟨[], .refl _, (List.append_nil _).symm, fun silent => ⟨rfl, silent⟩⟩
  | cons layer rest ih =>
    rw [run_harvestLayers_cons]
    dsimp only
    have work := writeFiles_treeWork builtin (request.forComponent (.ofLayer layer)) (.ofLayer layer)
    cases outcome :
        ((generator.writeFiles (request.forComponent (.ofLayer layer)) (.ofLayer layer)).perform world).1 with
    | ok files =>
      obtain ⟨_, kind, rfl⟩ := writeFiles_eq_ok builtin outcome
      cases kind
      obtain ⟨written, part, gathered, complete⟩ := ih (harvest.gather (.ofLayer layer) (.ok _)) _
      refine ⟨layer :: written, part.cons_cons layer, ?_, fun silent => ?_⟩
      · rw [List.flatMap_cons, ← List.append_assoc]
        exact gathered
      · obtain ⟨all, before⟩ := complete silent
        exact ⟨congrArg (layer :: ·) all, before⟩
    | error fault =>
      obtain ⟨written, part, gathered, complete⟩ := ih (harvest.gather (.ofLayer layer) (.error fault)) _
      refine ⟨written, part.cons layer, gathered, fun silent => ?_⟩
      -- A layer that fails has an error.
      have none := (List.append_eq_nil_iff.1 (complete silent).2).2
      exact absurd (List.map_eq_nil_iff.1 none) (messages_ne_nil (work.fault world fault outcome))

section

variable (builtin : generator.registry.IsBuiltin) {request : Request}
  (named : IsFileName (Names.ofRequest request).snake)
  (quiet : generator.workshop.writer.Quiet request.options)
include builtin named quiet

theorem writeFiles_replaces (layer : Layer) {world : World} (unlinked : world.tree.links = []) :
    let performed := (generator.writeFiles request (.ofLayer layer)).perform world
    world.tree.Replaces performed.2.tree generator.workshop.writer.root (layer.paths (Names.ofRequest request))
      (filesOf performed.1) := by
  rcases writeFiles_cases builtin request (.ofLayer layer) with ⟨fault, -, same⟩ | ⟨other, kind, same⟩
  · rw [same]
    exact .refl _ _ _
  · cases kind
    rw [same]
    exact Layer.generate_replaces named quiet unlinked rfl

/-- The layers replace their files one after the other. -/
theorem harvestLayers_replaces (layers : List Layer) (harvest : Harvest) {world : World}
    (unlinked : world.tree.links = []) (distinct : (world.tree.placesBelow generator.workshop.writer.root
      (layers.flatMap fun layer => layer.paths (Names.ofRequest request))).Nodup) :
    let result := (generator.harvestLayers request harvest layers).run world
    ∃ files, result.1.files = harvest.files ++ files ∧
      world.tree.Replaces result.2.tree generator.workshop.writer.root
        (layers.flatMap fun layer => layer.paths (Names.ofRequest request)) files := by
  let own (layers : List Layer) := layers.flatMap fun layer => layer.paths (Names.ofRequest request)
  let relates (layers : List Layer) (before after : FileTree) (files : List String) : Prop :=
    before.links = [] → (before.placesBelow generator.workshop.writer.root (own layers)).Nodup →
      before.Replaces after generator.workshop.writer.root (own layers) files
  have step : ∀ (layer : Layer) (rest : List Layer) (world : World) (after : FileTree) (files : List String),
      let performed := (generator.writeFiles (request.forComponent (.ofLayer layer)) (.ofLayer layer)).perform world
      relates rest performed.2.tree after files →
        relates (layer :: rest) world.tree after (filesOf performed.1 ++ files) := by
    intro layer rest world after files performed later unlinked distinct
    let single := request.forComponent (.ofLayer layer)
    have replaces := @writeFiles_replaces generator builtin single named quiet layer world unlinked
    have inside := filesOf_writeFiles_subset builtin single layer world
    have whole : own (layer :: rest) = layer.paths (Names.ofRequest request) ++ own rest := List.flatMap_cons
    rw [whole] at distinct ⊢
    refine replaces.append (later (replaces.links.trans unlinked) ?_) inside distinct
    rw [replaces.placesBelow]
    rw [FileTree.placesBelow_append] at distinct
    exact distinct.of_append_right
  obtain ⟨files, gathered, related⟩ := generator.harvestLayers_relates request relates
    (fun tree _ _ => .refl tree _ []) step layers harvest world
  exact ⟨files, gathered, related unlinked distinct⟩

section

variable {world : World} (careful : request.options.overwriteExisting = true → world.tree.links = [])
include careful

/-- What a layer reports is there, unless a file may have taken the place of a link. -/
theorem held_writeFiles (layer : Layer) :
    let performed := (generator.writeFiles request (.ofLayer layer)).perform world
    ∀ path ∈ filesOf performed.1,
      performed.2.tree.LeadsToFile (FilePath.join generator.workshop.writer.root path) := by
  cases overwrite : request.options.overwriteExisting with
  | false => exact (writeFiles_adds builtin quiet overwrite (.ofLayer layer) world).held
  | true => exact (writeFiles_replaces builtin named quiet layer (careful overwrite)).held

/-- What all layers report is there as well. -/
theorem held_harvestLayers :
    let result := (generator.harvestLayers request {} Layer.all).run world
    ∀ path ∈ result.1.files, result.2.tree.LeadsToFile (FilePath.join generator.workshop.writer.root path) := by
  intro result path member
  cases overwrite : request.options.overwriteExisting with
  | false =>
    obtain ⟨files, gathered, adds⟩ := harvestLayers_adds builtin quiet overwrite Layer.all {} world
    rw [gathered] at member
    exact adds.held path member
  | true =>
    have unlinked := careful overwrite
    have distinct := (Layer.separate_allPaths named).nodup_placesBelow unlinked generator.workshop.writer.root
    obtain ⟨files, gathered, replaces⟩ := harvestLayers_replaces builtin named quiet Layer.all {} unlinked distinct
    rw [gathered] at member
    exact replaces.held path member

end

end

end Generator
end Scaffold
