import Scaffold.Proofs.Text.Pieces
import Scaffold.Template.Render
import Scaffold.Text.Search

namespace Scaffold
namespace Template

/-!
# Outlines of templates

Most templates do no more than print variables, leave out what belongs to a variable that counts as
false, and repeat a part for each item of a list.  The outline of such a template says which text
stands where, once the hyphens of the tags have taken their white space away.

A template is read in two steps, from characters to tokens and from tokens to a tree.  The second
step is undone by spelling the outline as tokens again, whatever the template is.  So it is enough
to compare tokens in order to know the tree that a given template is read as.
-/

deriving instance DecidableEq for Term, Pipeline, Expr, Binding, Tag, Token

/-- A part of a template.  Between neighbouring tags stands an empty text. -/
inductive Outline where
  | text (s : String)
  | value (path : Path)
  /-- What stands inside, when the variable counts as true. -/
  | option (path : Path) (inside : List Outline)
  /-- The body once for each item of the list. -/
  | loop (name : String) (path : Path) (body : List Outline)

/-- The pipeline that consists of a variable. -/
def variablePipeline (path : Path) : Pipeline :=
  ⟨.path path, []⟩

/-- The head of a loop over a list. -/
def listBinding (name : String) (path : Path) : Binding :=
  ⟨none, name, variablePipeline path⟩

namespace Outline

mutual

/-- The node of a part. -/
def node : Outline → Node
  | .text s => .text s.toList
  | .value path => .print (.pipeline (variablePipeline path))
  | .option path inside => .choose [(.pipeline (variablePipeline path), nodes inside)] []
  | .loop name path body => .each (listBinding name path) (nodes body) []

/-- The nodes of an outline. -/
def nodes : List Outline → List Node
  | [] => []
  | part :: rest => node part :: nodes rest

end

mutual

/-- The tokens of a part, with no hyphens in the tags. -/
def spellPart : Outline → List Token
  | .text s => [.text s.toList]
  | .value path => [.tag false false (.print (.pipeline (variablePipeline path)))]
  | .option path inside =>
    .tag false false (.ifTag (.pipeline (variablePipeline path))) :: (spell inside ++ [.tag false false .endIf])
  | .loop name path body =>
    .tag false false (.forTag (listBinding name path)) :: (spell body ++ [.tag false false .endFor])

/-- The tokens of an outline. -/
def spell : List Outline → List Token
  | [] => []
  | part :: rest => spellPart part ++ spell rest

end

/-! ## Reading -/

mutual

theorem matchTags_spellPart (part : Outline) (stack : List Open) (before : List Node) (rest : List Token) :
    matchTags stack before (spellPart part ++ rest) = matchTags stack (node part :: before) rest := by
  cases part with
  | text s => rfl
  | value path => rfl
  | option path inside =>
    rw [spellPart, List.cons_append, matchTags, List.append_assoc, matchTags_spell inside, List.append_nil,
      List.singleton_append, matchTags, List.nil_append, List.reverse_reverse, node]
  | loop name path body =>
    rw [spellPart, List.cons_append, matchTags, List.append_assoc, matchTags_spell body, List.append_nil,
      List.singleton_append, matchTags, List.reverse_reverse, node]

/-- Matching the tags of an outline gives its nodes. -/
theorem matchTags_spell (outline : List Outline) (stack : List Open) (before : List Node) (rest : List Token) :
    matchTags stack before (spell outline ++ rest) = matchTags stack ((nodes outline).reverse ++ before) rest := by
  cases outline with
  | nil => rfl
  | cons part others =>
    rw [spell, List.append_assoc, matchTags_spellPart part, matchTags_spell others, nodes, List.reverse_cons,
      List.append_assoc, List.singleton_append]

end

end Outline

/-- The token without the hyphens of its tag. -/
def Token.bare : Token → Token
  | .text cs => .text cs
  | .tag _ _ kind => .tag false false kind

/-- Hyphens do not matter once the white space is gone. -/
theorem matchTags_bare (stack : List Open) (before : List Node) (tokens : List Token) :
    matchTags stack before (tokens.map Token.bare) = matchTags stack before tokens := by
  fun_induction matchTags stack before tokens <;> simp_all [Token.bare, matchTags]

/-- A template whose tokens spell an outline is read as the nodes of this outline. -/
theorem parse?_of_spell {source : String} {outline : List Outline}
    (spelled : (tokens? source).map (List.map Token.bare) = some (Outline.spell outline)) :
    parse? source = some ⟨Outline.nodes outline⟩ := by
  obtain ⟨tokens, read, bare⟩ := Option.map_eq_some_iff.1 spelled
  have matched := Outline.matchTags_spell outline [] [] []
  rw [List.append_nil, List.append_nil, ← bare, matchTags_bare] at matched
  simp [parse?, read, matched, matchTags]

/-- The characters of a text that is given as a literal. -/
theorem toList_literal (cs : List Char) : String.toList (no_index (String.ofList cs)) = cs :=
  String.toList_ofList

theorem toList_block (lines : List String) :
    (Text.block lines).toList = lines.flatMap (fun line => line.toList ++ ['\n']) := by
  induction lines with
  | nil => rfl
  | cons line rest ih =>
    rw [List.flatMap_cons, ← ih, Text.block, Text.block, List.map_cons, String.join_cons, String.toList_append,
      String.toList_append]
    rfl

/-! ## Rendering -/

namespace Outline

variable {loops : List LoopState} {data : Json.Value}

@[simp] theorem map_ok {α β : Type} (f : α → β) (a : α) : (Except.ok a : Except Failure α).map f = .ok (f a) := rfl

@[simp] theorem ite_ok {α : Type} (c : Prop) [Decidable c] (a b : α) :
    (if c then .ok a else .ok b : Except Failure α) = .ok (if c then a else b) := by
  split <;> rfl

@[simp] theorem render_nil : renderNodes loops data (nodes []) = .ok [] := by
  rw [nodes, renderNodes]

@[simp] theorem render_text (s : String) (rest : List Outline) :
    renderNodes loops data (nodes (.text s :: rest)) =
      (renderNodes loops data (nodes rest)).map (s.toList ++ ·) := by
  rw [nodes, node, renderNodes, renderNode]
  cases renderNodes loops data (nodes rest) <;> rfl

theorem nodes_append (first second : List Outline) : nodes (first ++ second) = nodes first ++ nodes second := by
  induction first with
  | nil => rfl
  | cons part rest ih => rw [List.cons_append, nodes, nodes, ih, List.cons_append]

theorem renderNodes_append {first second : List Node} {early late : List Char}
    (before : renderNodes loops data first = .ok early) (after : renderNodes loops data second = .ok late) :
    renderNodes loops data (first ++ second) = .ok (early ++ late) := by
  induction first generalizing early with
  | nil =>
    obtain rfl : [] = early := by simpa [renderNodes] using before
    exact after
  | cons first rest ih =>
    rw [renderNodes] at before
    cases shown : renderNode loops data first with
    | error failure =>
      rw [shown] at before
      cases before
    | ok text =>
      cases others : renderNodes loops data rest with
      | error failure =>
        rw [shown, others] at before
        cases before
      | ok tail =>
        rw [shown, others] at before
        obtain rfl : text ++ tail = early := Except.ok.inj before
        rw [List.cons_append, renderNodes, shown, ih others, List.append_assoc]
        rfl

/-- Outlines that follow one another are rendered one after the other. -/
theorem render_append {first second : List Outline} {early late : List Char}
    (before : renderNodes loops data (nodes first) = .ok early)
    (after : renderNodes loops data (nodes second) = .ok late) :
    renderNodes loops data (nodes (first ++ second)) = .ok (early ++ late) := by
  rw [nodes_append]
  exact renderNodes_append before after

/-- A variable is printed as its value. -/
@[simp] theorem render_value (path : Path) (rest : List Outline) :
    renderNodes loops data (nodes (.value path :: rest)) =
      match lookup loops data path with
      | some found => (renderNodes loops data (nodes rest)).map (valueText found ++ ·)
      | none => .error (.missing path) := by
  rw [nodes, node, renderNodes, renderNode, evalExpr, evalPipeline, variablePipeline, evalTerm]
  cases lookup loops data path with
  | none => rfl
  | some found => cases renderNodes loops data (nodes rest) <;> rfl

theorem holds_variable (path : Path) :
    holds loops data (.pipeline (variablePipeline path)) = .ok ((lookup loops data path).any isTruthy) := by
  rw [holds, pipelineHolds, evalPipeline, variablePipeline, evalTerm]
  cases lookup loops data path <;> rfl

/-- What belongs to a variable is left out where the variable counts as false. -/
@[simp] theorem render_option (path : Path) (inside rest : List Outline) :
    renderNodes loops data (nodes (.option path inside :: rest)) =
      match if (lookup loops data path).any isTruthy then renderNodes loops data (nodes inside) else .ok [] with
      | .ok shown => (renderNodes loops data (nodes rest)).map (shown ++ ·)
      | .error failure => .error failure := by
  rw [nodes, node, renderNodes, renderNode, renderBranches, holds_variable]
  cases truth : (lookup loops data path).any isTruthy with
  | true =>
    cases renderNodes loops data (nodes inside) with
    | error failure => rfl
    | ok shown => cases renderNodes loops data (nodes rest) <;> rfl
  | false =>
    rw [renderBranches]
    cases renderNodes loops data (nodes rest) <;>
      simp [renderNodes, bind, Except.bind, pure, Except.pure, Except.map]

variable {α : Type} {name : String} {body : List Outline} {valueOf : α → Json.Value} {textOf : α → List Char}

/-- The body of a loop is rendered once for each item, with the item under its name. -/
theorem renderEach_items {items : List α}
    (each : ∀ item ∈ items, ∀ state : LoopState, state.key? = none → state.name = name →
      state.value = valueOf item → renderNodes (state :: loops) data (nodes body) =
        .ok (textOf item)) (index : Nat) :
    renderEach (fun state => renderNodes (state :: loops) data (nodes body))
      (loopStates name index (items.map fun item => (none, valueOf item))) = .ok (items.flatMap textOf) := by
  induction items generalizing index with
  | nil => rfl
  | cons item rest ih =>
    have first := each item List.mem_cons_self
    have others := ih (fun later member => each later (List.mem_cons_of_mem item member)) (index + 1)
    rw [List.map_cons, loopStates, renderEach, first _ rfl rfl rfl, others]
    rfl

theorem render_loop {path : Path} {items : List α}
    (found : lookup loops data path = some (.array (items.map valueOf)))
    (each : ∀ item ∈ items, ∀ state : LoopState, state.key? = none → state.name = name →
      state.value = valueOf item → renderNodes (state :: loops) data (nodes body) = .ok (textOf item))
    (rest : List Outline) :
    renderNodes loops data (nodes (.loop name path body :: rest)) =
      (renderNodes loops data (nodes rest)).map (items.flatMap textOf ++ ·) := by
  have joined := renderEach_items each 0
  rw [nodes, node, renderNodes, renderNode]
  simp only [listBinding, variablePipeline, evalPipeline, evalTerm, found, bind, Except.bind,
    List.foldlM_nil, pure, Except.pure, loopItems, Option.isSome_none, Bool.false_eq_true, if_false,
    List.map_map, Function.comp_def, joined]
  cases items with
  | nil => cases renderNodes loops data (nodes rest) <;> simp [renderNodes, Except.map]
  | cons item others => cases renderNodes loops data (nodes rest) <;> simp [Except.map]

end Outline

end Template
end Scaffold
