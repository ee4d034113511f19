import Scaffold.Proofs.Template.Declarations
import Scaffold.Proofs.Template.GoCode

namespace Scaffold
namespace Template
namespace Bundled

open GoCode

/-!
# Where the templates print remarks

Two blueprints that differ in free texts only are rendered side by side.  An outline is followed
from its beginning to its end, with a footing for what is known of the code that both sides have
printed so far.  Most variables are the same on both sides.  A free text may only be met within a
remark, or as a remark of its own at the end of a line.

Whether an outline can be followed to its end does not depend on the blueprints, so it is decided
once for each template.
-/

/-- Where a variable is met: in the file, or in the listing of one field. -/
inductive Level
  | file | field
  deriving DecidableEq

/-- The variables that are the same on both sides, each with modes that its value begins and ends
in.  Those of texts that are printed as they were given count only for the lexer, which relies on
them. -/
def shared (lexical : Bool) : Level → List (Path × List Mode)
  | .file => [
    (["generated_at"], [.remark]), (["package_name"], [.code]), (["has_time_field"], []),
    (["module_name"], if lexical then [.quoted] else []),
    (["names", "model"], [.code, .remark]), (["names", "repository"], [.code, .remark]),
    (["names", "service"], [.code, .remark]), (["names", "handler"], [.code, .remark]),
    (["names", "create_request"], [.code, .remark]), (["names", "update_request"], [.code, .remark]),
    (["names", "list_request"], [.code, .remark]), (["names", "response"], [.code, .remark]),
    (["names", "namespace_dir"], [.quoted]), (["names", "table"], []), (["names", "repository_impl"], []),
    (["names", "service_impl"], []), (["names", "route_path"], []), (["names", "api_base"], [])]
  | .field => [
    (["f", "name"], [.code]), (["f", "go_type"], if lexical then [.code] else []),
    (["f", "json_key"], if lexical then [.raw] else []), (["f", "storage_tag"], if lexical then [.raw] else []),
    (["f", "validation_rule"], if lexical then [.raw] else [])]

variable {lexical : Bool} {remarks : List Path} {level : Level}

/-! ## Following an outline -/

/-- Whether the outline opens a remark and stays in its line. -/
def opensRemark (remarks : List Path) : List Outline → Bool
  | [.text opening, .value path, .text closing] =>
    opening.toList == Scan.opening ++ [' '] && path ∈ remarks && closing.toList.isEmpty
  | _ => false

/-- The footing behind a variable. -/
def passValue (lexical : Bool) (remarks : List Path) (level : Level) (before : Footing) (path : Path) :
    Option Footing :=
  if path ∈ remarks then
    if before.below (.same [.remark] true) then some (.same [.remark] false) else none
  else
    match before, (shared lexical level).lookup path with
    | .same modes _, some kept =>
      some (.same (if modes.all kept.contains then modes else Footing.spread lexical modes) true)
    | _, _ => none

/-- The footings that a loop is tried on. -/
def loopFootings (lexical : Bool) : List Footing :=
  [.parted, .same (Footing.spread lexical [.code]) true]

mutual

/-- The footing behind a part of an outline, if it can be followed. -/
def followPart (lexical : Bool) (remarks : List Path) (level : Level) (before : Footing) : Outline → Option Footing
  | .text s => before.read lexical s.toList
  | .value path => passValue lexical remarks level before path
  | .option path inside =>
    if path ∈ remarks then
      if opensRemark remarks inside && before.below (.same [.code, .remark] false) then some .parted else none
    else if ((shared lexical level).lookup path).isSome then
      (follow lexical remarks level before inside).bind before.join
    else none
  | .loop name path body =>
    if level = .file ∧ name = "f" ∧ path = ["fields"] then
      (loopFootings lexical).find? fun footing =>
        before.below footing && (follow lexical remarks .field footing body).any fun after => after.below footing
    else none

/-- The footing behind an outline, if it can be followed. -/
def follow (lexical : Bool) (remarks : List Path) (level : Level) (before : Footing) : List Outline → Option Footing
  | [] => some before
  | part :: rest => (followPart lexical remarks level before part).bind fun after =>
    follow lexical remarks level after rest

end

/-! ## The outlines of the bundled templates -/

/-- The free texts in the model: the comments as they were given. -/
def modelRemarks : List Path :=
  [["names", "display"], ["f", "comment"]]

/-- The free texts in the types of a handler: the comments are cleaned. -/
def typesRemarks : List Path :=
  [["names", "display"], ["f", "clean_comment"]]

/-- The free text in the repository and in the service. -/
def displayRemark : List Path :=
  [["names", "display"]]

/-- An outline that can be followed from the beginning of a file. -/
def IsFollowed (lexical : Bool) (remarks : List Path) (outline : List Outline) : Prop :=
  (follow lexical remarks .file (.same [.code] false) outline).isSome = true

theorem isFollowed_model (lexical : Bool) :
    IsFollowed lexical modelRemarks (modelHead ++ modelStruct ++ modelTail) := by
  simp only [IsFollowed, modelHead, modelStruct, modelMember, modelTail, listing, List.cons_append,
    List.nil_append, follow, followPart, opensRemark, toList_literal]
  cases lexical <;> decide +kernel

theorem isFollowed_types (lexical : Bool) : IsFollowed lexical typesRemarks typesOutline := by
  simp only [IsFollowed, typesOutline, typesHead, createStruct, updateStruct, listStruct,
    responseStruct, responseMember, requestMember, memberComment, listing, List.cons_append,
    List.nil_append, String.toList_append, follow, followPart, opensRemark, toList_literal]
  cases lexical <;> decide +kernel

set_option maxRecDepth 8000 in
theorem isFollowed_repository (lexical : Bool) : IsFollowed lexical displayRemark repositoryOutline := by
  simp only [IsFollowed, repositoryOutline, List.cons_append, List.nil_append, String.toList_append,
    follow, followPart, toList_literal]
  cases lexical <;> decide +kernel

set_option maxRecDepth 8000 in
theorem isFollowed_service (lexical : Bool) : IsFollowed lexical displayRemark serviceOutline := by
  simp only [IsFollowed, serviceOutline, List.cons_append, List.nil_append, String.toList_append,
    follow, followPart, toList_literal]
  cases lexical <;> decide +kernel

set_option maxRecDepth 8000 in
/-- The handler has no free texts. -/
theorem isFollowed_handler (lexical : Bool) : IsFollowed lexical [] handlerOutline := by
  simp only [IsFollowed, handlerOutline, handlerHead, createdEntity, handlerMiddle, updatedEntity,
    handlerLate, conversion, handlerTail, assignment, listing, List.cons_append, List.nil_append,
    String.toList_append, follow, followPart, toList_literal]
  cases lexical <;> decide +kernel

/-! ## Two blueprints side by side -/

section

variable {b other : Blueprint} {related : FieldView → FieldView → Prop}

/-- The loops that two renderings are within at one place: none, or that over the fields, at related
ones. -/
inductive Meets (related : FieldView → FieldView → Prop) : Level → List LoopState → List LoopState → Prop
  | file : Meets related .file [] []
  | field {state twin : LoopState} {view opposite : FieldView} (pair : related view opposite)
    (named : state.name = "f")
    (also : twin.name = "f") (shown : state.value = view.encode) (facing : twin.value = opposite.encode) :
    Meets related .field [state] [twin]

/-- A variable that has one value on both sides, whose text begins and ends in each of some
modes. -/
structure IsCommon (lexical : Bool) (kept : List Mode) (own opposite : Option Json.Value) : Prop where
  same : own = opposite
  keeps : ∀ found, own = some found → ∀ mode ∈ kept, mode.behind lexical (valueText found) = mode

/-- What two blueprints have to agree on so that their renderings can be followed side by side. -/
structure Twins (lexical : Bool) (remarks : List Path) (related : FieldView → FieldView → Prop)
    (b other : Blueprint) :
    Prop where
  common : ∀ level loops others, Meets related level loops others → ∀ entry ∈ shared lexical level,
    IsCommon lexical entry.2 (lookup loops b.encode entry.1) (lookup others other.encode entry.1)
  unbroken : ∀ level loops others, Meets related level loops others → ∀ path ∈ remarks, ∀ found,
    lookup loops b.encode path = some found ∨ lookup others other.encode path = some found → '\n' ∉ valueText found
  fields : List.Forall₂ related b.fields other.fields

variable {loops others : List LoopState} {before after : Footing}

theorem mem_shared {path : Path} {kept : List Mode} (known : (shared lexical level).lookup path = some kept) :
    (path, kept) ∈ shared lexical level := by
  obtain ⟨before, after, split, -⟩ := List.lookup_eq_some_iff.1 known
  rw [split]
  exact List.mem_append_right before List.mem_cons_self

/-! ### Renderings -/

/-- Texts that are rendered one after the other. -/
theorem exists_of_append {first second : Except Failure (List Char)} {text : List Char}
    (shown : (do
      let early ← first
      let late ← second
      return early ++ late) = .ok text) :
    ∃ early late, first = .ok early ∧ second = .ok late ∧ text = early ++ late := by
  cases first with
  | error failure => cases shown
  | ok early =>
    cases second with
    | error failure => cases shown
    | ok late => exact ⟨early, late, rfl, rfl, (Except.ok.inj shown).symm⟩

theorem exists_of_render_cons {data : Json.Value} {part : Outline} {rest : List Outline} {text : List Char}
    (shown : renderNodes loops data (Outline.nodes (part :: rest)) = .ok text) : ∃ early late,
      renderNode loops data part.node = .ok early ∧ renderNodes loops data (Outline.nodes rest) = .ok late ∧
        text = early ++ late := by
  rw [Outline.nodes, renderNodes] at shown
  exact exists_of_append shown

theorem exists_of_render_value {data : Json.Value} {path : Path} {text : List Char}
    (shown : renderNode loops data (Outline.value path).node = .ok text) :
    ∃ found, lookup loops data path = some found ∧ text = valueText found := by
  rw [Outline.node, renderNode, evalExpr, evalPipeline, variablePipeline, evalTerm] at shown
  cases found : lookup loops data path with
  | none =>
    rw [found] at shown
    cases shown
  | some value =>
    rw [found] at shown
    exact ⟨value, rfl, (Except.ok.inj shown).symm⟩

theorem render_option_cases {data : Json.Value} {path : Path} {inside : List Outline} {text : List Char}
    (shown : renderNode loops data (Outline.option path inside).node = .ok text) :
    if (lookup loops data path).any isTruthy then
      renderNodes loops data (Outline.nodes inside) = .ok text
    else text = [] := by
  rw [Outline.node, renderNode, renderBranches, Outline.holds_variable] at shown
  cases truth : (lookup loops data path).any isTruthy with
  | true =>
    rw [truth] at shown
    rw [if_pos rfl]
    cases inner : renderNodes loops data (Outline.nodes inside) with
    | error failure =>
      rw [inner] at shown
      cases shown
    | ok early =>
      rw [inner] at shown
      exact shown
  | false =>
    rw [truth, renderBranches] at shown
    rw [if_neg Bool.false_ne_true]
    simp only [bind, Except.bind, Bool.false_eq_true, if_false, renderNodes, Except.ok.injEq] at shown
    exact shown.symm

theorem exists_of_renderEach_cons {render : LoopState → Except Failure (List Char)} {state : LoopState}
    {rest : List LoopState} {text : List Char} (shown : renderEach render (state :: rest) = .ok text) :
    ∃ early late, render state = .ok early ∧ renderEach render rest = .ok late ∧ text = early ++ late := by
  rw [renderEach] at shown
  exact exists_of_append shown

theorem render_loop_eq {data : Json.Value} {name : String} {path : Path} {body : List Outline}
    {items : List Json.Value}
    (found : lookup loops data path = some (.array items)) :
    renderNode loops data (Outline.loop name path body).node =
      renderEach (fun state => renderNodes (state :: loops) data (Outline.nodes body))
        (loopStates name 0 (items.map fun item => (none, item))) := by
  rw [Outline.node, renderNode]
  simp only [listBinding, variablePipeline, evalPipeline, evalTerm, found, bind, Except.bind, List.foldlM_nil, pure,
    Except.pure, loopItems, Option.isSome_none, Bool.false_eq_true, if_false]
  cases items with
  | nil => rfl
  | cons item rest => rfl

/-! ### Parts of an outline -/

theorem isRemark_of_render {data : Json.Value} {inside : List Outline} {text : List Char}
    (opens : opensRemark remarks inside = true)
    (unbroken : ∀ path ∈ remarks, ∀ found, lookup loops data path = some found → '\n' ∉ valueText found)
    (shown : renderNodes loops data (Outline.nodes inside) = .ok text) : Footing.IsRemark text := by
  unfold opensRemark at opens
  split at opens
  · next opening path closing =>
    simp only [Bool.and_eq_true, beq_iff_eq, decide_eq_true_eq, List.isEmpty_iff] at opens
    obtain ⟨⟨begins, free⟩, ends⟩ := opens
    rw [Outline.render_text, Outline.render_value] at shown
    cases found : lookup loops data path with
    | none =>
      rw [found] at shown
      cases shown
    | some value =>
      rw [found, Outline.render_text, Outline.render_nil, begins, ends] at shown
      simp only [Outline.map_ok, List.append_nil, Except.ok.injEq, List.append_assoc] at shown
      refine .inr ⟨' ' :: valueText value, ?_, shown.symm⟩
      rw [List.mem_cons, not_or]
      exact ⟨by decide, unbroken path free value found⟩
  · cases opens

/-- What is printed for a text that may be missing is a remark, or nothing. -/
theorem isRemark_of_option {data : Json.Value} {path : Path} {inside : List Outline} {text : List Char}
    (opens : opensRemark remarks inside = true)
    (unbroken : ∀ path ∈ remarks, ∀ found, lookup loops data path = some found → '\n' ∉ valueText found)
    (shown : renderNode loops data (Outline.option path inside).node = .ok text) : Footing.IsRemark text := by
  have printed := render_option_cases shown
  split at printed
  · exact isRemark_of_render opens unbroken printed
  · exact .inl printed

theorem leads_of_passValue (twins : Twins lexical remarks related b other)
    (meets : Meets related level loops others)
    {path : Path} {text twin : List Char}
    (passed : passValue lexical remarks level before path = some after)
    (shown : renderNode loops b.encode (Outline.value path).node = .ok text)
    (facing : renderNode others other.encode (Outline.value path).node = .ok twin) :
    Footing.Leads lexical before after text twin := by
  obtain ⟨found, own, rfl⟩ := exists_of_render_value shown
  obtain ⟨value, opposite, rfl⟩ := exists_of_render_value facing
  unfold passValue at passed
  split at passed
  · next free =>
    split at passed
    · next within =>
      obtain rfl := Option.some.inj passed
      have unbroken := twins.unbroken _ _ _ meets path free
      exact (Footing.leads_remark true (unbroken found (.inl own))
        (unbroken value (.inr opposite))).of_below within rfl
    · cases passed
  · split at passed
    · next modes loose kept known =>
      obtain ⟨same, keeps⟩ := twins.common _ _ _ meets _ (mem_shared known)
      rw [own, opposite, Option.some_inj] at same
      obtain rfl := same
      obtain rfl := Option.some.inj passed
      split
      · next all =>
        rw [List.all_eq_true] at all
        exact Footing.leads_kept loose fun mode listed =>
          keeps found own mode (List.contains_iff_mem.1 (all mode listed))
      · exact Footing.leads_spread modes loose _
    · cases passed

/-- A footing that one round of a loop leads back to holds after the loop. -/
theorem leads_each (twins : Twins lexical remarks related b other) {body : List Outline} {footing : Footing}
    (round : ∀ state twin, Meets related .field [state] [twin] → ∀ text opposite,
      renderNodes [state] b.encode (Outline.nodes body) = .ok text →
      renderNodes [twin] other.encode (Outline.nodes body) = .ok opposite →
        Footing.Leads lexical footing footing text opposite) (index : Nat) {text opposite : List Char}
    (shown : renderEach (fun state => renderNodes [state] b.encode (Outline.nodes body))
      (loopStates "f" index ((b.fields.map FieldView.encode).map fun item => (none, item))) = .ok text)
    (facing : renderEach (fun state => renderNodes [state] other.encode (Outline.nodes body))
      (loopStates "f" index ((other.fields.map FieldView.encode).map fun item => (none, item))) = .ok opposite) :
    Footing.Leads lexical footing footing text opposite := by
  have pairs := twins.fields
  revert shown facing
  generalize b.fields = views, other.fields = opposites at pairs
  induction pairs generalizing index text opposite with
  | nil =>
    intro shown facing
    obtain rfl := Except.ok.inj shown
    obtain rfl := Except.ok.inj facing
    exact .refl footing
  | @cons view against views opposites pair _ ih =>
    intro shown facing
    obtain ⟨first, more, early, late, rfl⟩ := exists_of_renderEach_cons shown
    obtain ⟨second, further, before, after, rfl⟩ := exists_of_renderEach_cons facing
    have one := round _ _ (.field pair rfl rfl rfl rfl) first second early before
    exact one.append (ih (index + 1) late after)

mutual

theorem leads_of_followPart (twins : Twins lexical remarks related b other) (part : Outline) {level : Level}
    {loops others : List LoopState} (meets : Meets related level loops others) {before after : Footing}
    (followed : followPart lexical remarks level before part = some after) {text twin : List Char}
    (shown : renderNode loops b.encode part.node = .ok text)
    (facing : renderNode others other.encode part.node = .ok twin) :
    Footing.Leads lexical before after text twin := by
  cases part with
  | text s =>
    rw [Outline.node, renderNode] at shown facing
    obtain rfl := Except.ok.inj shown
    obtain rfl := Except.ok.inj facing
    exact Footing.leads_of_read followed
  | value path => exact leads_of_passValue twins meets followed shown facing
  | option path inside =>
    rw [followPart] at followed
    split at followed
    · split at followed
      · next ready =>
        rw [Bool.and_eq_true] at ready
        obtain rfl := Option.some.inj followed
        have unbroken := twins.unbroken _ _ _ meets
        have first := isRemark_of_option ready.1 (fun path free found known =>
          unbroken path free found (.inl known)) shown
        have second := isRemark_of_option ready.1 (fun path free found known =>
          unbroken path free found (.inr known)) facing
        exact (Footing.leads_parted first second).of_below ready.2 rfl
      · cases followed
    · split at followed
      · next known =>
        have own := render_option_cases shown
        have opposite := render_option_cases facing
        obtain ⟨kept, known⟩ := Option.isSome_iff_exists.1 known
        obtain ⟨between, passed, joined⟩ := Option.bind_eq_some_iff.1 followed
        obtain ⟨skips, takes⟩ := Footing.below_join joined
        rw [← (twins.common _ _ _ meets _ (mem_shared known)).same] at opposite
        split at own
        · next truth =>
          rw [if_pos truth] at opposite
          exact (leads_of_follow twins inside meets passed own opposite).of_below before.below_refl takes
        · next truth =>
          rw [if_neg truth] at opposite
          rw [own, opposite]
          exact (Footing.Leads.refl before).of_below before.below_refl skips
      · cases followed
  | loop name path body =>
    rw [followPart] at followed
    split at followed
    · next fits =>
      obtain ⟨rfl, rfl, rfl⟩ := fits
      cases meets with
      | file =>
        have found := List.find?_some followed
        rw [Bool.and_eq_true, Option.any_eq_true] at found
        obtain ⟨starts, last, passed, ends⟩ := found
        have fields (b : Blueprint) :
            lookup [] b.encode ["fields"] = some (.array (b.fields.map FieldView.encode)) := rfl
        rw [render_loop_eq (fields b)] at shown
        rw [render_loop_eq (fields other)] at facing
        have rounds := leads_each twins (fun state twin inner text opposite shown facing =>
          (leads_of_follow twins body inner passed shown facing).of_below after.below_refl ends) 0 shown facing
        exact rounds.of_below starts after.below_refl
    · cases followed

/-- Outlines that can be followed are rendered with the same code on both sides. -/
theorem leads_of_follow (twins : Twins lexical remarks related b other) (outline : List Outline) {level : Level}
    {loops others : List LoopState} (meets : Meets related level loops others) {before after : Footing}
    (followed : follow lexical remarks level before outline = some after) {text twin : List Char}
    (shown : renderNodes loops b.encode (Outline.nodes outline) = .ok text)
    (facing : renderNodes others other.encode (Outline.nodes outline) = .ok twin) :
    Footing.Leads lexical before after text twin := by
  cases outline with
  | nil =>
    rw [Outline.render_nil] at shown facing
    obtain rfl := Except.ok.inj shown
    obtain rfl := Except.ok.inj facing
    obtain rfl := Option.some.inj followed
    exact .refl before
  | cons part rest =>
    rw [follow] at followed
    obtain ⟨between, passed, later⟩ := Option.bind_eq_some_iff.1 followed
    obtain ⟨early, late, first, second, rfl⟩ := exists_of_render_cons shown
    obtain ⟨front, back, third, fourth, rfl⟩ := exists_of_render_cons facing
    have head := leads_of_followPart twins part meets passed first third
    exact head.append (leads_of_follow twins rest meets later second fourth)

end

/-- The code of two files is the same, if their outline can be followed. -/
theorem codeOf_eq_of_isFollowed (twins : Twins lexical remarks related b other) {outline : List Outline}
    (followed : IsFollowed lexical remarks outline)
    {text twin : List Char} (shown : renderNodes [] b.encode (Outline.nodes outline) = .ok text)
    (facing : renderNodes [] other.encode (Outline.nodes outline) = .ok twin) :
    codeOf lexical (String.ofList text) = codeOf lexical (String.ofList twin) := by
  obtain ⟨after, followed⟩ := Option.isSome_iff_exists.1 followed
  exact (leads_of_follow twins outline .file followed shown facing).codeOf_eq

end
end Bundled
end Template
end Scaffold
