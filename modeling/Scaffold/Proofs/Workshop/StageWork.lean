import Scaffold.Proofs.Workshop.Rendering
import Scaffold.Registry.Basic

namespace Scaffold

open Job

/-!
# Stages work on the tree alone

Writing a layer asks nothing but the tree and the random numbers what to do, whatever the tools make
of the files and the engine of the templates.  A stage therefore does the same after other records
have been made, and its faults are each reported as one line.
-/

namespace Writer

variable {writer : Writer} {options : Options}

theorem checkConflict_treeWork (relative : String) : TreeWork (writer.checkConflict relative options) := by
  refine .bind .tree fun tree => ?_
  split
  · exact .throw rfl
  · exact .pure ()

theorem runTool_treeWork (toolbox : Toolbox) (command : List String) (path : String) :
    TreeWork (runTool toolbox command path) := by
  rw [runTool]
  split
  · exact .pure ()
  · exact .modifyTree _

theorem postProcess_treeWork (toolbox : Toolbox) (path : String) :
    TreeWork (writer.postProcess toolbox path options) := by
  have optimized : TreeWork (if options.optimizeImports = true then runTool toolbox writer.importOptimizer path
      else pure ()) := by
    split
    · exact runTool_treeWork toolbox _ path
    · exact .pure ()
  rw [postProcess]
  split
  · dsimp only
    split
    · exact .bind (runTool_treeWork toolbox _ path) fun _ => optimized
    · exact optimized
  · exact .pure ()

/-- Writing works on the tree alone, whatever the tools make of it. -/
theorem write_treeWork (toolbox : Toolbox) (relative content : String) :
    TreeWork (writer.write toolbox relative content options) := by
  refine .bind (checkConflict_treeWork relative) fun _ => .bind (.change _ fun e => rfl) fun _ =>
    .bind (.change _ fun e => ?_) fun _ => .bind (postProcess_treeWork toolbox _) fun _ => .pure _
  split <;> rfl

end Writer

namespace Template

theorem source_treeWork (directory name : String) : TreeWork (source directory name) := by
  refine .bind .tree fun tree => ?_
  split
  · exact .throw rfl
  · exact .pure _

namespace Engine

theorem load_treeWork (engine : Engine) (held : Sources) (directory name : String) :
    TreeWork (engine.load held directory name) :=
  .bind (source_treeWork directory name) fun _ =>
    .bind (.ofExcept fun _ failed => isValidation_of_mapError failed) fun _ => .pure _

theorem print_treeWork (engine : Engine) (held : Sources) (name : String) (data : Json.Value) :
    TreeWork (engine.print held name data) :=
  .drawing fun _ _ failed => isValidation_of_mapError failed

end Engine
end Template

namespace Workshop

variable {workshop : Workshop} {options : Options}

theorem checkConflicts_treeWork (targets : List Target) : TreeWork (workshop.checkConflicts options targets) := by
  induction targets with
  | nil => exact .pure ()
  | cons target rest ih => exact .bind (Writer.checkConflict_treeWork _) fun _ => ih

theorem renderAll_treeWork (engine : Template.Engine) (data : Json.Value) (held : Template.Sources)
    (targets : List Target) : TreeWork (renderAll engine data held targets) := by
  induction targets generalizing held with
  | nil => exact .pure []
  | cons target rest ih =>
    exact .bind (engine.load_treeWork _ _ _) fun _ => .bind (engine.print_treeWork _ _ _) fun _ =>
      .bind (ih _) fun _ => .pure _

theorem removeCreated_treeWork (created : List String) : TreeWork (workshop.removeCreated created) :=
  .modifyTree fun tree =>
    created.foldl (fun tree path => (tree.removeFile (workshop.writer.resolve path)).tree) tree

theorem writeFrom_treeWork (created : List String) (texts : List (String × String)) :
    TreeWork (workshop.writeFrom options created texts) := by
  induction texts generalizing created with
  | nil => exact .pure []
  | cons file rest ih =>
    have guarded : TreeWork (tryCatch (workshop.writer.write workshop.toolbox file.1 file.2 options)
        (fun fault => do workshop.removeCreated created; throw fault)) :=
      .tryCatch (Writer.write_treeWork _ _ _) fun _ plain =>
        .bind (removeCreated_treeWork created) fun _ => .throw plain
    exact .bind .tree fun _ => .bind guarded fun _ => .bind (ih _) fun _ => .pure _

theorem renderAndWrite_treeWork (data : Json.Value) (targets : List Target) :
    TreeWork (workshop.renderAndWrite options data targets) :=
  .bind (checkConflicts_treeWork targets) fun _ => .bind (renderAll_treeWork _ data _ targets) fun _ =>
    writeFrom_treeWork _ _

end Workshop

namespace Layer

theorem templateHome_treeWork (layer : Layer) (workshop : Workshop) : TreeWork (layer.templateHome workshop) := by
  cases layer with
  | model =>
    refine .bind .tree fun tree => ?_
    split
    · exact .pure _
    · split
      · exact .pure _
      · exact .throw rfl
  | _ => exact .pure _

theorem generate_treeWork (layer : Layer) (workshop : Workshop) (request : Request) :
    TreeWork (layer.generate workshop request) :=
  .bind (templateHome_treeWork layer workshop) fun _ => Workshop.renderAndWrite_treeWork _ _

end Layer

/-! ## Built-in stages -/

namespace Registry

/-- Each stage of the registry is the built-in one of its kind.  Stages may be missing. -/
def IsBuiltin (registry : Registry) : Prop :=
  ∀ kind stage, registry.stage? kind = some stage → stage = Stage.ofKind kind

theorem empty_isBuiltin : empty.IsBuiltin := by
  intro kind stage found
  rw [stage?_empty] at found
  cases found

theorem IsBuiltin.register {registry : Registry} (builtin : registry.IsBuiltin) (kind : Kind) :
    (registry.register (Stage.ofKind kind)).IsBuiltin := by
  have own : (Stage.ofKind kind).component = .one kind := by
    cases kind <;> rfl
  intro other stage found
  by_cases same : other = kind
  · subst same
    rw [registry.stage?_register_self own] at found
    exact (Option.some.inj found).symm
  · have apart : (Stage.ofKind kind).component ≠ .one other := by
      rw [own]
      exact fun equal => same (Component.one.inj equal).symm
    rw [registry.stage?_register_of_ne apart] at found
    exact builtin other stage found

/-- Whichever of the built-in stages are registered, and in whatever order. -/
theorem IsBuiltin.registerAll {registry : Registry} (builtin : registry.IsBuiltin) (kinds : List Kind) :
    (registry.registerAll (kinds.map Stage.ofKind)).IsBuiltin := by
  induction kinds generalizing registry with
  | nil => exact builtin
  | cons kind rest ih => exact ih (builtin.register kind)

/-- A built-in stage that was found is the one of the component that was asked for. -/
theorem IsBuiltin.of_get {registry : Registry} (builtin : registry.IsBuiltin)
    {component : Component} {stage : Stage}
    (found : registry.get component = .ok stage) : ∃ kind, component = .one kind ∧ stage = Stage.ofKind kind := by
  obtain ⟨kind, rfl, there⟩ := get_eq_ok_iff.1 found
  exact ⟨kind, rfl, builtin kind stage there⟩

theorem isValidation_of_get {registry : Registry} {component : Component} {fault : Fault}
    (lacking : registry.get component = .error fault) : fault.isValidation = false := by
  rw [(get_eq_error_iff.1 lacking).1]
  rfl

theorem standard_isBuiltin : standard.IsBuiltin :=
  empty_isBuiltin.registerAll Kind.all

end Registry
end Scaffold
