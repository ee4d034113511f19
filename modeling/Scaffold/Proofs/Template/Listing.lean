import Scaffold.Blueprint.Basic
import Scaffold.Proofs.Template.GoFiles

namespace Scaffold

/-!
# Listings in rendered templates

What stands around a listing is cut at the line feeds next to it: a listing is a run of whole lines,
one for its name, those of its opening, one for each field in their order, and one that closes it.
-/

namespace Template

@[simp] theorem valueText_string (s : String) : valueText (.string s) = s.toList := rfl

@[simp] theorem isTruthy_string (s : String) : isTruthy (.string s) = !s.isEmpty := rfl

@[simp] theorem lookup_nil (data : Json.Value) (path : Path) : lookup [] data path = descend data path := rfl

namespace Bundled

open Text (feeds feeds_cons feeds_append)

variable {b : Blueprint}

/-- What a loop over the fields knows of a member of its field. -/
theorem lookup_member {state : LoopState} {view : FieldView} (named : state.name = "f")
    (shown : state.value = view.encode) (data : Json.Value) (key : String) :
    lookup [state] data ["f", key] = (descend view.encode [key]).or (descend data ["f", key]) := by
  simp only [lookup, List.findSome?_cons, LoopState.find?, named, shown]
  cases descend view.encode [key] <;> rfl

/-- Blocks of rows stand in the text, each between line feeds and behind the one before it. -/
inductive Shows : List (List String) → List Char → Prop
  | done (text : List Char) : Shows [] text
  | next (before : List Char) (block : List String) {blocks : List (List String)} {after : List Char}
      (rest : Shows blocks after) :
      Shows (block :: blocks) (before ++ feeds (block.map String.toList) ++ '\n' :: after)

theorem Shows.behind {blocks : List (List String)} {text : List Char} (shows : Shows blocks text)
    (before : List Char) :
    Shows blocks (before ++ text) := by
  cases shows with
  | done _ => exact .done _
  | next early block rest =>
    rw [← List.append_assoc, ← List.append_assoc]
    exact .next (before ++ early) block rest

theorem Shows.tail {block : List String} {blocks : List (List String)} {text : List Char}
    (shows : Shows (block :: blocks) text) : Shows blocks text := by
  cases shows with
  | next before block rest =>
    rw [List.append_cons]
    exact rest.behind _

theorem Shows.head {block : List String} {blocks : List (List String)} {text : List Char}
    (shows : Shows (block :: blocks) text) : Shows [block] text := by
  cases shows with
  | next before block rest => exact .next before block (.done _)

/-- The outline is rendered as a text with these blocks of rows. -/
def Displays (b : Blueprint) (outline : List Outline) (blocks : List (List String)) : Prop :=
  ∃ text, renderNodes [] b.encode (Outline.nodes outline) = .ok text ∧ Shows blocks text

theorem displays_nil (b : Blueprint) : Displays b [] [] :=
  ⟨[], Outline.render_nil, .done []⟩

theorem Displays.behind {outline others : List Outline} {blocks : List (List String)} {early : List Char}
    (before : renderNodes [] b.encode (Outline.nodes outline) = .ok early) (displays : Displays b others blocks) :
    Displays b (outline ++ others) blocks := by
  obtain ⟨text, rendered, shows⟩ := displays
  exact ⟨early ++ text, Outline.render_append before rendered, shows.behind early⟩

/-- A listing is rendered as a block: a row that ends in its name, those of its opening, one for
each field, and the closing one. -/
theorem displays_listing (start head : String) (extra : List String) (closing : String)
    {before named opening after value : String} {member rest : List Outline} {line : FieldView → String}
    {blocks : List (List String)}
    (found : descend b.encode ["names", named] = some (.string value))
    (begins : '\n' :: start.toList <:+ before.toList)
    (opens : opening.toList = head.toList ++ feeds (extra.map String.toList))
    (lineOf : ∀ view ∈ b.fields, ∀ state : LoopState, state.key? = none → state.name = "f" →
      state.value = view.encode → renderNodes [state] b.encode (Outline.nodes member) =
        .ok ('\n' :: (line view).toList))
    (ends : '\n' :: closing.toList ++ ['\n'] <+: after.toList) (follows : Displays b rest blocks) :
    Displays b (listing before named opening member after ++ rest)
      (((start ++ value ++ head) :: extra ++ b.fields.map line ++ [closing]) :: blocks) := by
  obtain ⟨later, rendered, shows⟩ := follows
  obtain ⟨early, begins⟩ := begins
  obtain ⟨late, ends⟩ := ends
  have fields : lookup [] b.encode ["fields"] = some (.array (b.fields.map FieldView.encode)) := rfl
  have members : feeds ((b.fields.map line).map String.toList) =
      b.fields.flatMap fun view => '\n' :: (line view).toList := by
    rw [feeds, List.map_map, List.flatMap_map]
    rfl
  refine ⟨_, ?_, .next early _ (shows.behind late)⟩
  simp only [listing, List.cons_append, List.nil_append, Outline.render_text, Outline.render_value,
    lookup_nil, found, Outline.render_loop fields lineOf, rendered, Outline.map_ok,
    valueText_string, ← begins, opens, ← ends, List.map_cons, List.map_append, List.map_nil,
    String.toList_append, feeds_cons, feeds_append, members, List.append_assoc]
  rfl

/-! ## Lines of a text -/

/-- The lines of a text. -/
def linesOf (text : String) : List String :=
  (Text.pieces (· == '\n') text.toList).map String.ofList

/-- Blocks stand in the lines, each behind the one before it. -/
inductive InOrder : List (List String) → List String → Prop
  | done (lines : List String) : InOrder [] lines
  | next (before block : List String) {blocks : List (List String)} {after : List String}
    (rest : InOrder blocks after) :
      InOrder (block :: blocks) (before ++ block ++ after)

theorem Shows.inOrder {blocks : List (List String)} {text : List Char} (shows : Shows blocks text)
    (unbroken : ∀ block ∈ blocks, ∀ line ∈ block, '\n' ∉ line.toList) :
    InOrder blocks (linesOf (String.ofList text)) := by
  induction shows with
  | done _ => exact .done _
  | next before block rest ih =>
    have rows : ∀ row ∈ block.map String.toList, '\n' ∉ row := by
      intro row member
      obtain ⟨line, listed, rfl⟩ := List.mem_map.1 member
      exact unbroken block List.mem_cons_self line listed
    have others := ih (fun later member => unbroken later (List.mem_cons_of_mem block member))
    rw [linesOf, String.toList_ofList] at others ⊢
    rw [Text.pieces_feeds rows, List.map_append, List.map_append, List.map_map]
    have same : block.map (String.ofList ∘ String.toList) = block := by simp [Function.comp_def]
    rw [same]
    exact .next _ block others

/-! ## Templates as a whole -/

/-- The text that the source of a template gives for a blueprint. -/
def rendered (name source : String) (blueprint : Blueprint) : Except Fault String := do
  let template ← parseAs name source
  template.render name blueprint.encode

theorem render_object {entries : List (String × Json.Value)} {nodes : List Node} {text : List Char} (name : String)
    (shown : renderNodes [] (.object entries) nodes = .ok text) :
    render ⟨nodes⟩ name (.object entries) = .ok (String.ofList text) := by
  rw [render, print]
  dsimp only
  rw [shown]
  rfl

theorem rendered_eq_ok {source : String} {outline : List Outline} {text : List Char} (name : String)
    (parsed : parse? source = some ⟨Outline.nodes outline⟩)
    (shown : renderNodes [] b.encode (Outline.nodes outline) = .ok text) :
    rendered name source b = .ok (String.ofList text) := by
  have read : parseAs name source = .ok ⟨Outline.nodes outline⟩ := by
    rw [parseAs, readAs, parsed]
    rfl
  rw [rendered, read]
  exact render_object name shown

theorem exists_rendered {source : String} {outline : List Outline} {blocks : List (List String)} (name : String)
    (parsed : parse? source = some ⟨Outline.nodes outline⟩) (displays : Displays b outline blocks)
    (unbroken : ∀ block ∈ blocks, ∀ line ∈ block, '\n' ∉ line.toList) :
    ∃ text, rendered name source b = .ok text ∧ InOrder blocks (linesOf text) := by
  obtain ⟨text, shown, shows⟩ := displays
  exact ⟨String.ofList text, rendered_eq_ok name parsed shown, shows.inOrder unbroken⟩

end Bundled
end Template
end Scaffold
