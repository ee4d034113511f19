import Scaffold.Proofs.Job.Aside
import Scaffold.Proofs.Layer.Paths
import Scaffold.Proofs.Workshop.Composition
import Scaffold.Toolbox.LineEditor

namespace Scaffold

open Job

/-!
# Layers that are written aside of a file

A layer reads its templates and writes its outputs.  When none of their paths meets a file, and no
tool that is run on the outputs takes notice of the file, then writing the layer comes to the same
whether or not the file is there.
-/

variable {start : FileTree} {place : Place} {text : String}

namespace Writer

/-- The commands that the options ask for. -/
def commands (writer : Writer) (options : Options) : List (List String) :=
  ((if options.formatCode then [writer.formatter] else []) ++
    (if options.optimizeImports then [writer.importOptimizer] else [])).filter (fun command => !command.isEmpty)

/-- The tools that are run on a path take no notice of the file and leave it as it is. -/
def ToolsOverlook (writer : Writer) (toolbox : Toolbox) (options : Options) (start : FileTree) (place : Place)
    (text path : String) : Prop :=
  ∀ command ∈ writer.commands options, ∀ full bare, start.Carries place text full bare →
    start.Carries place text (toolbox (command ++ [path]) full) (toolbox (command ++ [path]) bare)

/-- The line editor changes no other file than the one that it is given. -/
theorem edit_carries {full bare : FileTree} {path : String} (carries : start.Carries place text full bare)
    (avoids : start.Avoids path place) (script : String) :
    start.Carries place text (LineEditor.edit script path full) (LineEditor.edit script path bare) := by
  rw [LineEditor.edit, LineEditor.edit, carries.read_aside avoids]
  cases LineEditor.Instruction.parse? script.toList with
  | none => exact carries
  | some instruction =>
    cases full.read path with
    | ok content => exact (carries.replaceFile avoids _).tree
    | error e => exact carries

/-- Whatever the line editor is asked for, it takes no notice of a file that the path avoids. -/
theorem toolsOverlook_lineEditor (writer : Writer) (options : Options) {path : String}
    (avoids : start.Avoids path place) :
    writer.ToolsOverlook .lineEditor options start place text path := by
  intro command _ full bare carries
  have own (front : List String) {script path' : String} (whole : command ++ [path] = front ++ [path']) :
      start.Carries place text (LineEditor.edit script path' full) (LineEditor.edit script path' bare) := by
    cases (List.append_inj' whole rfl).2
    exact edit_carries carries avoids script
  simp only [Toolbox.lineEditor.eq_def]
  split
  · next script path' whole => exact own ["sed", "-i", script] whole
  · next script path' whole => exact own ["sed", "-i", "-e", script] whole
  · exact carries

/-- A file can be written aside of another one: its path avoids the place, and so do the tools that
are run on it. -/
structure WritesAside (writer : Writer) (toolbox : Toolbox) (options : Options) (start : FileTree) (place : Place)
    (text relative : String) : Prop where
  below : FilePath.isAbsolute relative = false
  avoids : start.Avoids (writer.resolve relative) place
  tools : writer.ToolsOverlook toolbox options start place text (writer.resolve relative)

variable {writer : Writer} {toolbox : Toolbox} {options : Options} {relative path : String}

theorem overlooks_checkConflict (avoids : start.Avoids (writer.resolve relative) place) :
    Overlooks start place text (writer.checkConflict relative options) := by
  refine .look (fun full bare carries => ?_) fun tree => ?_
  · rw [carries.pathExists avoids]
  · split
    · exact .throw _
    · exact .pure ()

theorem overlooks_runTool {command : List String} (overlook : command ≠ [] → ∀ full bare,
    start.Carries place text full bare →
      start.Carries place text (toolbox (command ++ [path]) full) (toolbox (command ++ [path]) bare)) :
    Overlooks start place text (runTool toolbox command path) := by
  rw [runTool]
  split
  · exact .pure ()
  · next some => exact .modifyTree (overlook (by simpa using some))

theorem overlooks_postProcess (tools : writer.ToolsOverlook toolbox options start place text path) :
    Overlooks start place text (writer.postProcess toolbox path options) := by
  have formatted : options.formatCode = true → Overlooks start place text (runTool toolbox writer.formatter path) :=
    fun asked => overlooks_runTool fun some => tools _ (by simp [commands, asked, some])
  have optimized : Overlooks start place text (if options.optimizeImports = true
      then runTool toolbox writer.importOptimizer path else pure ()) := by
    split
    · next asked => exact overlooks_runTool fun some => tools _ (by simp [commands, asked, some])
    · exact .pure ()
  rw [postProcess]
  split
  · dsimp only
    split
    · next asked => exact .bind (formatted asked) fun _ => optimized
    · exact optimized
  · exact .pure ()

theorem overlooks_write (aside : writer.WritesAside toolbox options start place text relative) (content : String) :
    Overlooks start place text (writer.write toolbox relative content options) := by
  have avoids := aside.avoids
  have above : start.Avoids ((FilePath.parent? (writer.resolve relative)).getD writer.root) place := by
    cases cut : FilePath.parent? (writer.resolve relative) with
    | none => exact avoids.of_join aside.below
    | some parent => exact avoids.parent cut
  refine .bind (overlooks_checkConflict avoids) fun _ => .bind (.change _ fun full bare carries => ?_) fun _ =>
    .bind (.change _ fun full bare carries => ?_) fun _ =>
      .bind (overlooks_postProcess aside.tools) fun _ => .pure _
  · exact carries.makeDirectories above
  · split
    · exact carries.replaceFile avoids content
    · exact carries.createFile avoids content

end Writer

namespace Template

variable {directory fallback name : String}

theorem overlooks_homeOf (first : start.Avoids (fileIn directory name) place)
    (second : start.Avoids (fileIn fallback name) place) :
    Overlooks start place text (homeOf directory fallback name) := by
  refine .look (fun full bare carries => ?_) fun tree => ?_
  · rw [carries.pathExists first, carries.pathExists second]
  · split
    · exact .pure _
    · split
      · exact .pure _
      · exact .throw _

end Template

namespace Workshop

variable {workshop : Workshop} {options : Options}

/-- The file can be written aside of another one. -/
abbrev WritesAside (workshop : Workshop) (options : Options) (start : FileTree) (place : Place)
    (text relative : String) :
    Prop :=
  workshop.writer.WritesAside workshop.toolbox options start place text relative

theorem overlooks_checkConflicts {targets : List Target}
    (aside : ∀ target ∈ targets, workshop.WritesAside options start place text target.output.path) :
    Overlooks start place text (workshop.checkConflicts options targets) := by
  induction targets with
  | nil => exact .pure ()
  | cons target rest ih =>
    obtain ⟨first, others⟩ := List.forall_mem_cons.1 aside
    exact .bind (Writer.overlooks_checkConflict first.avoids) fun _ => ih others

theorem overlooks_renderAll (engine : Template.Engine) (data : Json.Value) {targets : List Target}
    (aside : ∀ target ∈ targets, start.Avoids (Template.fileIn target.directory target.output.template) place) :
    Overlooks start place text (renderAll engine data [] targets) := by
  intro full bare beside
  rw [perform_renderAll, perform_renderAll, beside.draws,
    drafts_congr engine data [] _ fun target member => beside.tree.read_aside (aside target member)]
  exact ⟨rfl, beside.tree, rfl⟩

theorem overlooks_removeCreated {created : List String}
    (aside : ∀ path ∈ created, start.Avoids (workshop.writer.resolve path) place) :
    Overlooks start place text (workshop.removeCreated created) := by
  refine Overlooks.modifyTree (f := fun tree =>
    created.foldl (fun tree path => (tree.removeFile (workshop.writer.resolve path)).tree) tree)
      fun full bare carries => ?_
  induction created generalizing full bare with
  | nil => exact carries
  | cons path rest ih =>
    obtain ⟨first, others⟩ := List.forall_mem_cons.1 aside
    exact ih others _ _ (carries.removeFile first).tree

theorem overlooks_writeFrom {created : List String} {texts : List (String × String)}
    (former : ∀ path ∈ created, start.Avoids (workshop.writer.resolve path) place)
    (aside : ∀ file ∈ texts, workshop.WritesAside options start place text file.1) :
    Overlooks start place text (workshop.writeFrom options created texts) := by
  induction texts generalizing created with
  | nil => exact .pure []
  | cons file rest ih =>
    obtain ⟨first, others⟩ := List.forall_mem_cons.1 aside
    have guarded : Overlooks start place text (tryCatch
        (workshop.writer.write workshop.toolbox file.1 file.2 options)
        (fun fault => do workshop.removeCreated created; throw fault)) :=
      .tryCatch (Writer.overlooks_write first _) fun fault =>
        .bind (overlooks_removeCreated former) fun _ => .throw fault
    refine .look (fun full bare carries => ?_) fun tree => .bind guarded fun _ =>
      .bind (ih ?_ others) fun _ => .pure _
    · rw [carries.pathExists first.avoids]
    · split
      · exact former
      · exact List.forall_mem_append.2 ⟨former, List.forall_mem_singleton.2 first.avoids⟩

theorem overlooks_renderAndWrite (data : Json.Value) {targets : List Target}
    (outputs : ∀ target ∈ targets, workshop.WritesAside options start place text target.output.path)
    (templates : ∀ target ∈ targets, start.Avoids (Template.fileIn target.directory target.output.template) place) :
    Overlooks start place text (workshop.renderAndWrite options data targets) := by
  refine .bind (overlooks_checkConflicts outputs) fun _ =>
    (overlooks_renderAll workshop.engine data templates).bind_of fun texts before after rendered =>
      overlooks_writeFrom (List.forall_mem_nil _) fun file member => ?_
  rw [perform_renderAll] at rendered
  have paths := paths_of_drafts (Prod.mk.inj rendered).1
  have listed := List.mem_map_of_mem (f := Prod.fst) member
  rw [paths] at listed
  obtain ⟨target, wanted, same⟩ := List.mem_map.1 listed
  rw [← same]
  exact outputs target wanted

end Workshop

namespace Layer

variable {layer : Layer} {workshop : Workshop} {request : Request}

/-- The directories from which the templates of a layer may be taken. -/
def templateDirectories (layer : Layer) (workshop : Workshop) : List String :=
  match layer with
  | model => [workshop.templates, workshop.bundled]
  | _ => [workshop.templates]

/-- All that a layer reads and writes for a request lies aside of the file, and the tools take no
notice of it. -/
structure WorksAside (layer : Layer) (workshop : Workshop) (request : Request) (start : FileTree) (place : Place)
    (text : String) : Prop where
  outputs : ∀ output ∈ layer.outputs (Names.ofRequest request),
    start.Avoids (workshop.writer.resolve output.path) place
  templates : ∀ directory ∈ layer.templateDirectories workshop, ∀ output ∈ layer.outputs (Names.ofRequest request),
    start.Avoids (Template.fileIn directory output.template) place
  tools : ∀ output ∈ layer.outputs (Names.ofRequest request),
    workshop.writer.ToolsOverlook workshop.toolbox request.options start place text
      (workshop.writer.resolve output.path)

theorem WorksAside.forComponent (aside : layer.WorksAside workshop request start place text)
    (component : Component) :
    layer.WorksAside workshop (request.forComponent component) start place text :=
  ⟨aside.outputs, aside.templates, aside.tools⟩

theorem exists_output_model (names : Names) : ∃ output ∈ model.outputs names, output.template = "model.go" := by
  simp [outputs]

theorem overlooks_templateHome (aside : layer.WorksAside workshop request start place text) :
    Overlooks start place text (layer.templateHome workshop) := by
  cases layer with
  | model =>
    obtain ⟨output, listed, name⟩ := exists_output_model (Names.ofRequest request)
    have own := aside.templates workshop.templates List.mem_cons_self output listed
    have bundled := aside.templates workshop.bundled (List.mem_cons_of_mem _ List.mem_cons_self) output listed
    rw [name] at own bundled
    exact Template.overlooks_homeOf own bundled
  | _ => exact .pure _

/-- The home of the templates is one of the directories. -/
theorem templateHome_mem {directory : String} {before after : World}
    (found : (layer.templateHome workshop).perform before = (.ok directory, after)) :
    directory ∈ layer.templateDirectories workshop := by
  cases layer with
  | model =>
    rw [templateHome, Template.homeOf, perform_bind, perform_tree] at found
    dsimp only at found
    split at found
    · cases found
      exact List.mem_cons_self
    · split at found
      · cases found
        exact List.mem_cons_of_mem _ List.mem_cons_self
      · cases found
  | _ =>
    cases found
    exact List.mem_cons_self

/-- Writing a layer comes to the same whether or not the file is there. -/
theorem overlooks_generate (aside : layer.WorksAside workshop request start place text) :
    Overlooks start place text (layer.generate workshop request) := by
  refine (overlooks_templateHome aside).bind_of fun directory before after found => ?_
  have home := templateHome_mem found
  apply Workshop.overlooks_renderAndWrite
  · intro target member
    obtain ⟨output, listed, rfl⟩ := List.mem_map.1 member
    have path : output.path ∈ allPaths (Names.ofRequest request) :=
      (layer.paths_sublist _).subset (List.mem_map_of_mem listed)
    exact ⟨isAbsolute_allPaths _ path, aside.outputs output listed, aside.tools output listed⟩
  · intro target member
    obtain ⟨output, listed, rfl⟩ := List.mem_map.1 member
    exact aside.templates directory home output listed

end Layer
end Scaffold
