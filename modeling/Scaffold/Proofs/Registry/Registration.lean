import Scaffold.Registry.Basic

namespace Scaffold

/-!
# What a registry answers

Registering stages one after the other leaves for each kind the stage that came last, wherever the
stages for other kinds, for everything or for unknown components stand among them.  A component that
is no kind has no stage, whatever is registered.

A stage gives out its work only when it says that it can do it.  The two kinds of work are asked for
in the same way, so that one statement about an answer covers both.
-/

/-- The stage is the last one in the list that is for the component. -/
def Stage.IsLastFor (component : Component) (stages : List Stage) (stage : Stage) : Prop :=
  ∃ earlier later, stages = earlier ++ stage :: later ∧ stage.component = component ∧
    ∀ other ∈ later, other.component ≠ component

namespace Stage

variable {component : Component} {stage : Stage}

theorem exists_isLastFor {stages : List Stage} (some : ∃ stage ∈ stages, stage.component = component) :
    ∃ stage : Stage, stage.IsLastFor component stages := by
  induction stages with
  | nil =>
    obtain ⟨stage, listed, -⟩ := some
    cases listed
  | cons first rest ih =>
    by_cases later : ∃ stage ∈ rest, stage.component = component
    · obtain ⟨stage, earlier, behind, rfl, last⟩ := ih later
      exact ⟨stage, first :: earlier, behind, rfl, last⟩
    · obtain ⟨stage, listed, meant⟩ := some
      have others : ∀ other ∈ rest, other.component ≠ component := fun other member same =>
        later ⟨other, member, same⟩
      rcases List.mem_cons.1 listed with rfl | listed
      · exact ⟨stage, [], rest, rfl, meant, others⟩
      · exact absurd meant (others stage listed)

/-! ## What a stage can do -/

theorem fileWork_eq_ok_iff {run : FileWork} :
    stage.fileWork = .ok run ↔ stage.work = .files run ∧ stage.capabilities.writesFiles = true := by
  rw [fileWork]
  cases stage.work with
  | files work => cases stage.capabilities.writesFiles <;> simp
  | snippets work => simp

theorem snippetWork_eq_ok_iff {run : SnippetWork} :
    stage.snippetWork = .ok run ↔ stage.work = .snippets run ∧ stage.capabilities.emitsSnippets = true := by
  rw [snippetWork]
  cases stage.work with
  | files work => simp
  | snippets work => cases stage.capabilities.emitsSnippets <;> simp

end Stage

namespace Registry

variable {component : Component} {kind : Kind} {stage : Stage}

theorem registerAll_cons (registry : Registry) (first : Stage) (stages : List Stage) :
    registry.registerAll (first :: stages) = (registry.register first).registerAll stages :=
  rfl

/-- Stages for other components leave the stage of a kind alone. -/
theorem stage?_registerAll_of_ne (registry : Registry) {stages : List Stage}
    (others : ∀ other ∈ stages, other.component ≠ .one kind) :
    (registry.registerAll stages).stage? kind = registry.stage? kind := by
  induction stages generalizing registry with
  | nil => rfl
  | cons first rest ih =>
    rcases List.forall_mem_cons.1 others with ⟨here, later⟩
    rw [registerAll_cons, ih _ later, stage?_register_of_ne registry here]

/-- The stage that was registered last for a kind is the stage of that kind. -/
theorem stage?_registerAll_of_isLastFor (registry : Registry) {stages : List Stage}
    (last : stage.IsLastFor (.one kind) stages) : (registry.registerAll stages).stage? kind = some stage := by
  obtain ⟨earlier, later, rfl, meant, others⟩ := last
  rw [registerAll, List.foldl_append, List.foldl_cons, ← registerAll, ← registerAll,
    stage?_registerAll_of_ne _ others, stage?_register_self _ meant]

theorem stage?_registerAll_empty {stages : List Stage} :
    (empty.registerAll stages).stage? kind = some stage ↔ stage.IsLastFor (.one kind) stages := by
  refine ⟨fun found => ?_, stage?_registerAll_of_isLastFor empty⟩
  by_cases listed : ∃ stage ∈ stages, stage.component = .one kind
  · obtain ⟨last, isLast⟩ := Stage.exists_isLastFor listed
    rw [stage?_registerAll_of_isLastFor empty isLast] at found
    exact Option.some.inj found ▸ isLast
  · rw [stage?_registerAll_of_ne empty fun other member same => listed ⟨other, member, same⟩, stage?_empty] at found
    cases found

/-! ## The answer for a component -/

/-- A registry is a map in which the last entry wins: for a kind it answers with the stage that was
registered last for it, and for every other component, or where no stage was registered, it names
the component that it does not support.  A stage does file work exactly when it has such work and
says so, and likewise for snippets. -/
theorem get_registerAll (stages : List Stage) (component : Component) :
    (∀ stage, (empty.registerAll stages).get component = .ok stage ↔
        (∃ kind, component = .one kind) ∧ stage.IsLastFor component stages) ∧
      (∀ fault, (empty.registerAll stages).get component = .error fault ↔
        fault = .unsupported component.name "generation" ∧
          ¬ ((∃ kind, component = .one kind) ∧ ∃ stage ∈ stages, stage.component = component)) ∧
      (∀ (stage : Stage) run,
        stage.fileWork = .ok run ↔ stage.work = .files run ∧ stage.capabilities.writesFiles = true) ∧
      (∀ (stage : Stage) run,
        stage.snippetWork = .ok run ↔ stage.work = .snippets run ∧ stage.capabilities.emitsSnippets = true) := by
  have answered (stage : Stage) : (empty.registerAll stages).get component = .ok stage ↔
      (∃ kind, component = .one kind) ∧ stage.IsLastFor component stages := by
    rw [get_eq_ok_iff]
    constructor
    · rintro ⟨kind, rfl, found⟩
      exact ⟨⟨kind, rfl⟩, stage?_registerAll_empty.1 found⟩
    · rintro ⟨⟨kind, rfl⟩, last⟩
      exact ⟨kind, rfl, stage?_registerAll_empty.2 last⟩
  refine ⟨answered, fun fault => ?_, fun stage run => Stage.fileWork_eq_ok_iff, fun stage run =>
    Stage.snippetWork_eq_ok_iff⟩
  rw [get_eq_error_iff, and_congr_right_iff]
  rintro -
  simp only [Ne, answered]
  constructor
  · rintro none ⟨concrete, listed⟩
    obtain ⟨stage, last⟩ := Stage.exists_isLastFor listed
    exact none stage ⟨concrete, last⟩
  · rintro none stage ⟨concrete, earlier, later, whole, meant, -⟩
    exact none ⟨concrete, stage, by simp [whole], meant⟩

end Registry

end Scaffold
