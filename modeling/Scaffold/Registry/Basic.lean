import Scaffold.Registry.Stage

namespace Scaffold

/-!
# The registry of stages

A registry has one slot for each kind, which is empty or holds a stage.  A stage that is registered
later takes the place of an earlier one in the slot of its component.

Slots are read in one place (`slot`) and written in another (`slotMut`).  The lemmas after them say
that both name the same slot for every component and that writing one slot leaves the others alone;
above them a registry is a map from kinds to stages (`stage?`).
-/

/-- The stages that are at hand, each in the slot of its kind. -/
structure Registry where
  model : Option Stage := none
  repository : Option Stage := none
  service : Option Stage := none
  handler : Option Stage := none
  routes : Option Stage := none
  wire : Option Stage := none
  migration : Option Stage := none
  permission : Option Stage := none
  frontendApi : Option Stage := none
  frontendPage : Option Stage := none
  frontendForm : Option Stage := none
  frontendRoute : Option Stage := none

namespace Registry

/-- The registry without stages. -/
def empty : Registry := {}

/-- What the slot of a component holds.  There is no slot for everything or for an unknown
component. -/
def slot (registry : Registry) : Component → Option Stage
  | .one (.layer .model) => registry.model
  | .one (.layer .repository) => registry.repository
  | .one (.layer .service) => registry.service
  | .one (.layer .handler) => registry.handler
  | .one (.snippet .routes) => registry.routes
  | .one (.snippet .wire) => registry.wire
  | .one (.snippet .migration) => registry.migration
  | .one (.snippet .permission) => registry.permission
  | .one (.snippet .frontendApi) => registry.frontendApi
  | .one (.snippet .frontendPage) => registry.frontendPage
  | .one (.snippet .frontendForm) => registry.frontendForm
  | .one (.snippet .frontendRoute) => registry.frontendRoute
  | .all | .unknown _ => none

/-- The slot of a component as a place to write to: the registry that comes of putting something
there. -/
def slotMut (registry : Registry) : Component → Option (Option Stage → Registry)
  | .one (.layer .model) => some fun content => { registry with model := content }
  | .one (.layer .repository) => some fun content => { registry with repository := content }
  | .one (.layer .service) => some fun content => { registry with service := content }
  | .one (.layer .handler) => some fun content => { registry with handler := content }
  | .one (.snippet .routes) => some fun content => { registry with routes := content }
  | .one (.snippet .wire) => some fun content => { registry with wire := content }
  | .one (.snippet .migration) => some fun content => { registry with migration := content }
  | .one (.snippet .permission) => some fun content => { registry with permission := content }
  | .one (.snippet .frontendApi) => some fun content => { registry with frontendApi := content }
  | .one (.snippet .frontendPage) => some fun content => { registry with frontendPage := content }
  | .one (.snippet .frontendForm) => some fun content => { registry with frontendForm := content }
  | .one (.snippet .frontendRoute) => some fun content => { registry with frontendRoute := content }
  | .all | .unknown _ => none

/-- Puts a stage into the slot of its component.  A stage whose component has no slot is dropped. -/
def register (registry : Registry) (stage : Stage) : Registry :=
  match registry.slotMut stage.component with
  | some put => put (some stage)
  | none => registry

/-- The registry with a list of stages added in their order. -/
def registerAll (registry : Registry) (stages : List Stage) : Registry :=
  stages.foldl register registry

/-- The registry of the built-in stages. -/
def standard : Registry :=
  empty.registerAll (Kind.all.map Stage.ofKind)

/-- The stage of a component. -/
def get (registry : Registry) (component : Component) : Except Fault Stage :=
  match registry.slot component with
  | some stage => .ok stage
  | none => .error (Stage.lacks component "generation")

/-! ## Reading and writing slots -/

variable {component other : Component} {put : Option Stage → Registry}

@[simp] theorem slot_empty (component : Component) : empty.slot component = none := by
  unfold slot
  split <;> rfl

/-- A component has a slot to write to exactly when it is a kind. -/
theorem slotMut_eq_none_iff (registry : Registry) :
    registry.slotMut component = none ↔ ∀ kind, component ≠ .one kind := by
  cases component with
  | one kind => rcases kind with (_ | _) | (_ | _) <;> simp [slotMut]
  | all => simp [slotMut]
  | unknown raw => simp [slotMut]

/-- What is put into the slot of a component is read from it. -/
theorem slot_put_self {registry : Registry} (written : registry.slotMut component = some put)
    (content : Option Stage) : (put content).slot component = content := by
  unfold slotMut at written
  split at written <;> cases written <;> rfl

/-- Putting something into the slot of a component leaves the slots of all others alone. -/
theorem slot_put_of_ne {registry : Registry} (written : registry.slotMut component = some put)
    (different : other ≠ component) (content : Option Stage) : (put content).slot other = registry.slot other := by
  unfold slotMut at written
  split at written <;> cases written <;> (unfold slot; split <;> first | rfl | exact absurd rfl different)

/-! ## The registry as a map -/

/-- The stage of a kind. -/
def stage? (registry : Registry) (kind : Kind) : Option Stage :=
  registry.slot (.one kind)

@[simp] theorem stage?_empty (kind : Kind) : empty.stage? kind = none :=
  slot_empty _

/-- A stage that is registered for a kind is the stage of that kind. -/
theorem stage?_register_self (registry : Registry) {stage : Stage} {kind : Kind}
    (meant : stage.component = .one kind) :
    (registry.register stage).stage? kind = some stage := by
  unfold register
  split
  · rename_i put written
    rw [meant] at written
    exact slot_put_self written (some stage)
  · rename_i none
    exact absurd meant ((slotMut_eq_none_iff registry).1 none kind)

/-- Registering a stage leaves the stages of other kinds as they were. -/
theorem stage?_register_of_ne (registry : Registry) {stage : Stage} {kind : Kind}
    (other : stage.component ≠ .one kind) :
    (registry.register stage).stage? kind = registry.stage? kind := by
  unfold register
  split
  · rename_i put written
    exact slot_put_of_ne written (Ne.symm other) (some stage)
  · rfl

/-! ## The answer for a component -/

theorem get_eq_ok_iff {registry : Registry} {stage : Stage} :
    registry.get component = .ok stage ↔ ∃ kind, component = .one kind ∧ registry.stage? kind = some stage := by
  cases component with
  | one kind => cases found : registry.slot (.one kind) <;> simp [get, stage?, found]
  | all => simp [get, slot]
  | unknown raw => simp [get, slot]

theorem get_eq_error_iff {registry : Registry} {fault : Fault} :
    registry.get component = .error fault ↔
      fault = .unsupported component.name "generation" ∧ ∀ stage, registry.get component ≠ .ok stage := by
  unfold get
  split
  · simp
  · simp [Stage.lacks, eq_comm]

end Registry
end Scaffold
