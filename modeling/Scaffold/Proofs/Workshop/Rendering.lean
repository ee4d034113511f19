import Scaffold.Proofs.Job.TreeWork
import Scaffold.Workshop

namespace Scaffold

open Job

/-!
# What is rendered

The texts of targets follow from the sources that the tree holds under the paths of their templates,
and from the random numbers that the templates are given.  Rendering changes nothing but how many of
these have been taken.

Nothing is asked of the engine for this.  A set of templates is *steady* when no text depends on
random numbers; what comes of it then follows from the tree alone.
-/

namespace Template.Engine

variable {engine : Engine} {held sources : Sources} {directory name : String} {tree : FileTree}
  {files : List String}

/-- What is said of a template is reported as one line. -/
theorem isValidation_of_mapError {α : Type} {said : Except String α} {fault : Fault}
    (failed : said.mapError (Fault.render name) = .error fault) : fault.isValidation = false := by
  cases said <;> cases failed
  rfl

/-! ## Loading and rendering one template -/

/-- What is held after a template was asked for, by the answer to reading it. -/
def received (engine : Engine) (held : Sources) (directory name : String) :
    Except OsError String → Except Fault Sources
  | .error e => .error (.render name ("cannot read template '" ++ fileIn directory name ++ "': " ++ e.message))
  | .ok source => ((engine.accept ((name, source) :: held)).mapError (.render name)).map fun _ =>
    (name, source) :: held

theorem received_eq_ok {answer : Except OsError String}
    (received : engine.received held directory name answer = .ok sources) :
    ∃ source, answer = .ok source ∧ sources = (name, source) :: held ∧ engine.accept sources = .ok () := by
  cases answer with
  | error e => cases received
  | ok source =>
    rw [Engine.received] at received
    cases accepted : engine.accept ((name, source) :: held) with
    | error said =>
      rw [accepted] at received
      cases received
    | ok _ =>
      rw [accepted] at received
      cases received
      exact ⟨source, rfl, rfl, accepted⟩

theorem perform_load (engine : Engine) (held : Sources) (directory name : String) (world : World) :
    (engine.load held directory name).perform world =
      (engine.received held directory name (world.tree.read (fileIn directory name)), world) := by
  rw [load, source, perform_bind, perform_bind, perform_tree]
  dsimp only
  cases world.tree.read (fileIn directory name) with
  | error e => rfl
  | ok text =>
    have given : (pure text : Job String).perform world = (.ok text, world) := rfl
    dsimp only
    rw [given]
    dsimp only
    rw [perform_bind, perform_ofExcept, received]
    cases engine.accept ((name, text) :: held) <;> rfl

theorem perform_print (engine : Engine) (held : Sources) (name : String) (data : Json.Value) (world : World) :
    (engine.print held name data).perform world =
      ((engine.render held name data world.draws).1.mapError (.render name),
        { world with draws := (engine.render held name data world.draws).2 }) :=
  perform_drawing _ _

/-- Through the standard engine, a template is loaded and rendered by itself. -/
theorem perform_standard (held : Sources) (directory name : String) (data : Json.Value) (world : World) :
    (standard.load held directory name >>= fun sources => standard.print sources name data).perform world =
      (Template.load directory name >>= fun template =>
        Job.ofExcept (template.render name data)).perform world := by
  rw [perform_bind, perform_load, perform_bind, Template.load, perform_bind, source, perform_bind, perform_tree]
  dsimp only
  cases world.tree.read (fileIn directory name) with
  | error e => rfl
  | ok text =>
    have given : (pure text : Job String).perform world = (.ok text, world) := rfl
    dsimp only
    rw [given]
    dsimp only
    rw [perform_ofExcept, parseAs, received]
    cases read : readAs name text with
    | error said =>
      have refused : standard.accept ((name, text) :: held) = .error said := congrArg (Except.map _) read
      rw [refused]
      rfl
    | ok template =>
      have accepted : standard.accept ((name, text) :: held) = .ok () := congrArg (Except.map _) read
      rw [accepted]
      change (standard.print ((name, text) :: held) name data).perform world =
        (Job.ofExcept (template.render name data)).perform world
      have printed : standard.render ((name, text) :: held) name data world.draws =
          (template.print name data, world.draws) := by
        have found : List.lookup name ((name, text) :: held) = some text := List.lookup_cons_self
        dsimp only [standard]
        rw [found]
        dsimp only
        rw [read]
        rfl
      rw [perform_print, perform_ofExcept, printed, Template.render]

/-! ## Steady templates -/

/-- No text of the templates in the given files depends on random numbers. -/
def IsSteady (engine : Engine) (tree : FileTree) (files : List String) : Prop :=
  ∀ held : Sources, (∀ entry ∈ held, ∃ path ∈ files, tree.read path = .ok entry.2) →
    ∀ name data first second, (engine.render held name data first).1 = (engine.render held name data second).1

theorem standard_isSteady (tree : FileTree) (files : List String) : standard.IsSteady tree files := by
  intro held known name data first second
  rw [standard]
  dsimp only
  split <;> rfl

/-- What a later tree holds of the files, the earlier one has held. -/
theorem IsSteady.mono {earlier : FileTree} (steady : engine.IsSteady earlier files)
    (kept : ∀ path ∈ files, ∀ source, tree.read path = .ok source → earlier.read path = .ok source) :
    engine.IsSteady tree files := by
  intro held known
  apply steady
  intro entry member
  rcases known entry member with ⟨path, listed, read⟩
  exact ⟨path, listed, kept path listed entry.2 read⟩

end Template.Engine

/-- The text of a target: what its template, read from the tree, renders to, whatever other
templates of the tree are held besides, and whatever random numbers it is given. -/
def Target.Renders (target : Target) (engine : Template.Engine) (tree : FileTree)
    (data : Json.Value) (text : String) :
    Prop :=
  ∃ source held draws, tree.read (Template.fileIn target.directory target.output.template) = .ok source ∧
    (∀ entry ∈ held, ∃ directory, tree.read (Template.fileIn directory entry.1) = .ok entry.2) ∧
    engine.accept ((target.output.template, source) :: held) = .ok () ∧
    (engine.render ((target.output.template, source) :: held) target.output.template data draws).1 = .ok text

namespace Workshop

variable {engine : Template.Engine} {data : Json.Value} {tree after : FileTree} {held sources : Template.Sources}
  {targets rest : List Target} {target : Target} {draws : Nat} {answer : Target → Except OsError String}

/-! ## The texts of targets -/

/-- The answer to reading the template of a target. -/
abbrev templateOf (tree : FileTree) (target : Target) : Except OsError String :=
  tree.read (Template.fileIn target.directory target.output.template)

/-- The text of each target, with its path, by the answers to reading the templates, and how many
random numbers have been taken after that. -/
def drafts (engine : Template.Engine) (data : Json.Value) (answer : Target → Except OsError String) :
    Template.Sources → Nat → List Target → Except Fault (List (String × String)) × Nat
  | _, draws, [] => (.ok [], draws)
  | held, draws, target :: rest =>
    match engine.received held target.directory target.output.template (answer target) with
    | .error fault => (.error fault, draws)
    | .ok sources =>
      let printed := engine.render sources target.output.template data draws
      match printed.1 with
      | .error said => (.error (.render target.output.template said), printed.2)
      | .ok text =>
        let others := drafts engine data answer sources printed.2 rest
        (others.1.map ((target.output.path, text) :: ·), others.2)

theorem drafts_of_refused {fault : Fault}
    (refused : engine.received held target.directory target.output.template (answer target) = .error fault) :
    drafts engine data answer held draws (target :: rest) = (.error fault, draws) := by
  rw [drafts, refused]

section

variable (received : engine.received held target.directory target.output.template (answer target) =
  .ok sources)
include received

theorem drafts_of_failed {said : String}
    (failed : (engine.render sources target.output.template data draws).1 = .error said) :
    drafts engine data answer held draws (target :: rest) =
      (.error (.render target.output.template said),
        (engine.render sources target.output.template data draws).2) := by
  rw [drafts, received]
  dsimp only
  rw [failed]

theorem drafts_of_rendered {text : String}
    (rendered : (engine.render sources target.output.template data draws).1 = .ok text) :
    drafts engine data answer held draws (target :: rest) =
      let others := drafts engine data answer sources
        (engine.render sources target.output.template data draws).2 rest
      (others.1.map ((target.output.path, text) :: ·), others.2) := by
  rw [drafts, received]
  dsimp only
  rw [rendered]

end

theorem perform_renderAll (engine : Template.Engine) (data : Json.Value) (held : Template.Sources)
    (targets : List Target) (world : World) :
    (renderAll engine data held targets).perform world =
      let drafted := drafts engine data (templateOf world.tree) held world.draws targets
      (drafted.1, { world with draws := drafted.2 }) := by
  induction targets generalizing held world with
  | nil => rfl
  | cons target rest ih =>
    rw [renderAll, perform_bind, Template.Engine.perform_load]
    cases received : engine.received held target.directory target.output.template
      (templateOf world.tree target) with
    | error fault => rw [drafts_of_refused received]
    | ok sources =>
      dsimp only
      rw [perform_bind, Template.Engine.perform_print]
      cases printed : (engine.render sources target.output.template data world.draws).1 with
      | error said => rw [drafts_of_failed received printed]; rfl
      | ok text =>
        rw [drafts_of_rendered received printed]
        dsimp only [Except.mapError]
        rw [perform_bind, ih]
        dsimp only
        cases (drafts engine data (templateOf world.tree) sources
          (engine.render sources target.output.template data world.draws).2 rest).1 <;> rfl

theorem drafts_congr (engine : Template.Engine) (data : Json.Value) (held : Template.Sources) (draws : Nat)
    (same : ∀ target ∈ targets, templateOf after target = templateOf tree target) :
    drafts engine data (templateOf after) held draws targets =
      drafts engine data (templateOf tree) held draws targets := by
  induction targets generalizing held draws with
  | nil => rfl
  | cons target rest ih =>
    rcases List.forall_mem_cons.1 same with ⟨first, others⟩
    rw [drafts, drafts, first]
    simp only [ih _ _ others]

/-- A draft has the paths of its targets in their order, and for each of them its text. -/
theorem drafts_eq_ok {files : List (String × String)}
    (known : ∀ entry ∈ held, ∃ directory, tree.read (Template.fileIn directory entry.1) = .ok entry.2)
    (drafted : (drafts engine data (templateOf tree) held draws targets).1 = .ok files) :
    files.map Prod.fst = targets.map (fun target => target.output.path) ∧
      ∀ target ∈ targets, ∃ text, (target.output.path, text) ∈ files ∧ target.Renders engine tree data text := by
  induction targets generalizing held draws files with
  | nil =>
    cases drafted
    exact ⟨rfl, nofun⟩
  | cons target rest ih =>
    cases received : engine.received held target.directory target.output.template (templateOf tree target) with
    | error fault =>
      rw [drafts_of_refused received] at drafted
      cases drafted
    | ok sources =>
      rcases Template.Engine.received_eq_ok received with ⟨source, read, rfl, accepted⟩
      cases printed : (engine.render ((target.output.template, source) :: held)
        target.output.template data draws).1 with
      | error said =>
        rw [drafts_of_failed received printed] at drafted
        cases drafted
      | ok text =>
        rw [drafts_of_rendered received printed] at drafted
        dsimp only at drafted
        cases rested : (drafts engine data (templateOf tree) ((target.output.template, source) :: held)
            (engine.render ((target.output.template, source) :: held)
              target.output.template data draws).2 rest).1 with
        | error fault =>
          rw [rested] at drafted
          cases drafted
        | ok others =>
          rw [rested] at drafted
          cases drafted
          have knownNow : ∀ entry ∈ (target.output.template, source) :: held,
              ∃ directory, tree.read (Template.fileIn directory entry.1) = .ok entry.2 :=
            List.forall_mem_cons.2 ⟨⟨target.directory, read⟩, known⟩
          rcases ih knownNow rested with ⟨paths, each⟩
          refine ⟨by rw [List.map_cons, List.map_cons, paths], List.forall_mem_cons.2 ⟨?_, ?_⟩⟩
          · exact ⟨text, List.mem_cons_self, source, held, draws, read, known, accepted, printed⟩
          · intro other later
            rcases each other later with ⟨otherText, listed, renders⟩
            exact ⟨otherText, List.mem_cons_of_mem _ listed, renders⟩

theorem paths_of_drafts {files : List (String × String)}
    (drafted : (drafts engine data (templateOf tree) [] draws targets).1 = .ok files) :
    files.map Prod.fst = targets.map fun target => target.output.path :=
  (drafts_eq_ok (List.forall_mem_nil _) drafted).1

/-- A template that cannot be read leaves nothing to be put. -/
theorem drafts_of_unread (engine : Template.Engine) (data : Json.Value) (held : Template.Sources) (draws : Nat)
    (rest : List Target) {e : OsError} (unread : templateOf tree target = .error e) :
    ∃ fault, (drafts engine data (templateOf tree) held draws (target :: rest)).1 = .error fault := by
  have refused : ∃ fault, engine.received held target.directory target.output.template (templateOf tree target) =
      .error fault := by
    rw [unread]
    exact ⟨_, rfl⟩
  rcases refused with ⟨fault, refused⟩
  rw [drafts_of_refused refused]
  exact ⟨fault, rfl⟩

/-- The texts of steady templates are the same, whatever random numbers they are given. -/
theorem drafts_of_isSteady {files : List String} (steady : engine.IsSteady tree files)
    (listed : ∀ target ∈ targets, Template.fileIn target.directory target.output.template ∈ files)
    (known : ∀ entry ∈ held, ∃ path ∈ files, tree.read path = .ok entry.2) (first second : Nat) :
    (drafts engine data (templateOf tree) held first targets).1 =
    (drafts engine data (templateOf tree) held second targets).1 := by
  induction targets generalizing held first second with
  | nil => rfl
  | cons target rest ih =>
    rcases List.forall_mem_cons.1 listed with ⟨own, others⟩
    cases received : engine.received held target.directory target.output.template (templateOf tree target) with
    | error fault => rw [drafts_of_refused received, drafts_of_refused received]
    | ok sources =>
      rcases Template.Engine.received_eq_ok received with ⟨source, read, rfl, -⟩
      have knownNow : ∀ entry ∈ (target.output.template, source) :: held, ∃ path ∈ files,
          tree.read path = .ok entry.2 :=
        List.forall_mem_cons.2 ⟨⟨_, own, read⟩, known⟩
      have same := steady _ knownNow target.output.template data first second
      cases printed : (engine.render ((target.output.template, source) :: held)
        target.output.template data second).1 with
      | error said => rw [drafts_of_failed received (same.trans printed), drafts_of_failed received printed]
      | ok text =>
        rw [drafts_of_rendered received (same.trans printed), drafts_of_rendered received printed]
        dsimp only
        rw [ih others knownNow]

end Workshop
end Scaffold
