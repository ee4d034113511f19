import Scaffold.Proofs.Template.Listing

namespace Scaffold
namespace Template

/-!
# The members of generated types

The struct of a model, those of the requests and the response of its handler, and the code that
copies between them list the same fields: one line each, in the order of the request, under the same
identifier and with the same Go type.
-/

namespace Bundled

/-! ## The lines of a field -/

/-- What is shown of a text, unless the text is empty. -/
def whenGiven (s shown : String) : String :=
  if s.isEmpty then "" else shown

theorem toList_whenGiven (s shown : String) :
    (whenGiven s shown).toList = if (!s.isEmpty) = true then shown.toList else [] := by
  rw [whenGiven]
  cases s.isEmpty <;> rfl

/-- What every line that declares a field begins with. -/
def declaration (view : FieldView) : String :=
  "\t" ++ view.name ++ " " ++ view.goType ++ " \x60"

/-- The line of a field in the struct of the model. -/
def modelLine (view : FieldView) : String :=
  declaration view ++ whenGiven view.storageTag ("gorm:\"" ++ view.storageTag ++ "\" ")
    ++ "json:\"" ++ view.jsonKey ++ "\"\x60" ++ whenGiven view.comment (" // " ++ view.comment)

/-- The line of a field in the response. -/
def responseLine (view : FieldView) : String :=
  declaration view ++ "json:\"" ++ view.jsonKey ++ "\"\x60"

/-- The line of a field in the body of an update. -/
def updateLine (view : FieldView) : String :=
  declaration view ++ "json:\"" ++ view.jsonKey ++ "\""
    ++ whenGiven view.validationRule (" binding:\"" ++ view.validationRule ++ "\"") ++ "\x60"

/-- The line of a field in the body of a create call. -/
def createLine (view : FieldView) : String :=
  updateLine view ++ whenGiven view.cleanComment (" // " ++ view.cleanComment)

/-- The line that copies a field. -/
def assignmentLine (source : String) (view : FieldView) : String :=
  "\t\t" ++ view.name ++ source ++ view.name ++ ","

section

variable {view : FieldView} {state : LoopState} {data : Json.Value}

theorem render_modelMember (named : state.name = "f") (shown : state.value = view.encode) :
    renderNodes [state] data (Outline.nodes modelMember) = .ok ('\n' :: (modelLine view).toList) := by
  simp only [modelMember, lookup_member named shown, FieldView.encode, descend, List.lookup_cons,
    String.reduceBEq, Option.some_or, Option.any_some, Outline.render_text, Outline.render_value,
    Outline.render_option, Outline.render_nil, Outline.map_ok, Outline.ite_ok, valueText_string,
    isTruthy_string]
  simp only [modelLine, declaration, String.toList_append, toList_whenGiven, toList_literal, List.append_assoc,
    List.cons_append, List.nil_append, List.append_nil]

theorem render_responseMember (named : state.name = "f") (shown : state.value = view.encode) :
    renderNodes [state] data (Outline.nodes responseMember) = .ok ('\n' :: (responseLine view).toList) := by
  simp only [responseMember, lookup_member named shown, FieldView.encode, descend, List.lookup_cons,
    String.reduceBEq, Option.some_or, Outline.render_text, Outline.render_value, Outline.render_nil,
    Outline.map_ok, valueText_string]
  simp only [responseLine, declaration, String.toList_append, toList_literal, List.append_assoc, List.cons_append,
    List.nil_append, List.append_nil]

theorem render_requestMember (named : state.name = "f") (shown : state.value = view.encode) :
    renderNodes [state] data (Outline.nodes requestMember) = .ok ('\n' :: (updateLine view).toList) := by
  simp only [requestMember, lookup_member named shown, FieldView.encode, descend, List.lookup_cons,
    String.reduceBEq, Option.some_or, Option.any_some, Outline.render_text, Outline.render_value,
    Outline.render_option, Outline.render_nil, Outline.map_ok, Outline.ite_ok, valueText_string,
    isTruthy_string]
  simp only [updateLine, declaration, String.toList_append, toList_whenGiven, toList_literal, List.append_assoc,
    List.cons_append, List.nil_append, List.append_nil]

theorem render_memberComment (named : state.name = "f") (shown : state.value = view.encode) :
    renderNodes [state] data (Outline.nodes memberComment) =
      .ok (whenGiven view.cleanComment (" // " ++ view.cleanComment)).toList := by
  simp only [memberComment, lookup_member named shown, FieldView.encode, descend, List.lookup_cons,
    String.reduceBEq, Option.some_or, Option.any_some, Outline.render_text, Outline.render_value,
    Outline.render_option, Outline.render_nil, Outline.map_ok, Outline.ite_ok, valueText_string,
    isTruthy_string]
  simp only [String.toList_append, toList_whenGiven, toList_literal, List.cons_append,
    List.nil_append, List.append_nil]

theorem render_createMember (named : state.name = "f") (shown : state.value = view.encode) :
    renderNodes [state] data (Outline.nodes (requestMember ++ memberComment)) =
      .ok ('\n' :: (createLine view).toList) := by
  rw [Outline.render_append (render_requestMember named shown) (render_memberComment named shown), createLine,
    String.toList_append, List.cons_append]

theorem render_assignment (source : String) (named : state.name = "f") (shown : state.value = view.encode) :
    renderNodes [state] data (Outline.nodes (assignment source)) =
      .ok ('\n' :: (assignmentLine source view).toList) := by
  simp only [assignment, lookup_member named shown, FieldView.encode, descend, List.lookup_cons, String.reduceBEq,
    Option.some_or, Outline.render_text, Outline.render_value, Outline.render_nil, Outline.map_ok, valueText_string]
  simp only [assignmentLine, String.toList_append, toList_literal, List.append_assoc,
    List.cons_append, List.nil_append, List.append_nil]

end

/-! ## What stands around the listings -/

section

variable {b : Blueprint}

/-- Outside its listings a template prints no more than the blueprint has. -/
theorem exists_text_around (b : Blueprint) (outline : List Outline)
    (around : outline ∈ [modelHead, modelTail, typesHead, [.value ["names", "update_request"]],
      listStruct, handlerHead, handlerMiddle, handlerLate, handlerTail]) :
    ∃ text, renderNodes [] b.encode (Outline.nodes outline) = .ok text := by
  simp only [List.mem_cons, List.not_mem_nil, or_false] at around
  rcases around with rfl | rfl | rfl | rfl | rfl | rfl | rfl | rfl | rfl
  all_goals
    simp only [modelHead, modelTail, typesHead, listStruct, handlerHead, handlerMiddle, handlerLate,
      handlerTail, lookup_nil, Blueprint.encode, Names.encode, descend, List.lookup_cons,
      String.reduceBEq, Outline.render_text, Outline.render_value, Outline.render_option,
      Outline.render_nil, Outline.map_ok, Outline.ite_ok, Except.ok.injEq, exists_eq']

end

/-! ## The listings -/

/-- The lines of a struct. -/
def structLines (name : String) (opening members : List String) : List String :=
  ("type " ++ name ++ " struct \x7b") :: opening ++ members ++ ["\x7d"]

/-- The lines that fill an entity from a request. -/
def entityLines (model : String) (views : List FieldView) : List String :=
  ("\tentity := &models." ++ model ++ "\x7b") :: [] ++ views.map (assignmentLine ": req.") ++ ["\t\x7d"]

/-- The lines that fill a response from an entity. -/
def conversionLines (response : String) (views : List FieldView) : List String :=
  ("\treturn types." ++ response ++ "\x7b") :: ["\t\tID: entity.ID,"] ++ views.map (assignmentLine ": entity.")
    ++ ["\t\x7d"]

section

variable {b : Blueprint} {rest : List Outline} {blocks : List (List String)}

theorem displays_modelStruct (follows : Displays b rest blocks) :
    Displays b (modelStruct ++ rest)
      (structLines b.names.model ["\ttypes.BaseModel"] (b.fields.map modelLine) :: blocks) := by
  refine displays_listing "type " " struct \x7b" ["\ttypes.BaseModel"] "\x7d"
    rfl ?_ ?_ (fun view _ state _ => render_modelMember) ?_ follows
  all_goals
    simp only [toList_literal, List.map_cons, List.map_nil]
    decide

theorem displays_createStruct (follows : Displays b rest blocks) :
    Displays b (createStruct ++ rest)
      (structLines b.names.createRequest [] (b.fields.map createLine) :: blocks) := by
  refine displays_listing "type " " struct \x7b" [] "\x7d" rfl ?_ ?_
    (fun view _ state _ => render_createMember) ?_ follows
  all_goals
    simp only [toList_literal, List.map_nil]
    decide

theorem displays_updateStruct (follows : Displays b rest blocks) :
    Displays b (updateStruct ++ rest)
      (structLines b.names.updateRequest [] (b.fields.map updateLine) :: blocks) := by
  refine displays_listing "type " " struct \x7b" [] "\x7d" rfl ?_ ?_
    (fun view _ state _ => render_requestMember) ?_ follows
  all_goals
    simp only [toList_literal, List.map_nil]
    decide

theorem displays_responseStruct (follows : Displays b rest blocks) :
    Displays b (responseStruct ++ rest) (structLines b.names.response ["\tID uint \x60json:\"id\"\x60"]
      (b.fields.map responseLine) :: blocks) := by
  refine displays_listing "type " " struct \x7b" ["\tID uint \x60json:\"id\"\x60"]
    "\x7d" rfl ?_ ?_ (fun view _ state _ => render_responseMember) ?_ follows
  all_goals
    simp only [toList_literal, List.map_cons, List.map_nil]
    decide

theorem displays_createdEntity (follows : Displays b rest blocks) :
    Displays b (createdEntity ++ rest) (entityLines b.names.model b.fields :: blocks) := by
  refine displays_listing "\tentity := &models." "\x7b" [] "\t\x7d" rfl
    ?_ ?_ (fun view _ state _ => render_assignment _) ?_ follows
  all_goals
    simp only [toList_literal, List.map_nil]
    decide +kernel

theorem displays_updatedEntity (follows : Displays b rest blocks) :
    Displays b (updatedEntity ++ rest) (entityLines b.names.model b.fields :: blocks) := by
  refine displays_listing "\tentity := &models." "\x7b" [] "\t\x7d" rfl
    ?_ ?_ (fun view _ state _ => render_assignment _) ?_ follows
  all_goals
    simp only [toList_literal, List.map_nil]
    decide +kernel

theorem displays_conversion (follows : Displays b rest blocks) :
    Displays b (conversion ++ rest) (conversionLines b.names.response b.fields :: blocks) := by
  refine displays_listing "\treturn types." "\x7b" ["\t\tID: entity.ID,"]
    "\t\x7d" rfl ?_ ?_ (fun view _ state _ => render_assignment _) ?_ follows
  all_goals
    simp only [toList_literal, List.map_cons, List.map_nil]
    decide

end

/-! ## The templates -/

theorem displays_model (b : Blueprint) :
    Displays b (modelHead ++ modelStruct ++ modelTail)
      [structLines b.names.model ["\ttypes.BaseModel"] (b.fields.map modelLine)] := by
  obtain ⟨head, headShown⟩ := exists_text_around b modelHead (by simp)
  obtain ⟨tail, tailShown⟩ := exists_text_around b modelTail (by simp)
  rw [List.append_assoc]
  exact .behind headShown (displays_modelStruct ⟨tail, tailShown, .done tail⟩)

/-- The structs of the requests and of the response, behind the head of their file. -/
theorem displays_typesStructs (b : Blueprint) :
    Displays b
      (createStruct ++
        (.value ["names", "update_request"] :: updateStruct ++ (listStruct ++ responseStruct)))
      [structLines b.names.createRequest [] (b.fields.map createLine),
        structLines b.names.updateRequest [] (b.fields.map updateLine),
        structLines b.names.response ["\tID uint \x60json:\"id\"\x60"] (b.fields.map responseLine)] := by
  obtain ⟨name, nameShown⟩ := exists_text_around b [.value ["names", "update_request"]] (by simp)
  obtain ⟨list, listShown⟩ := exists_text_around b listStruct (by simp)
  have response := displays_responseStruct (displays_nil b)
  have update := displays_updateStruct (.behind listShown response)
  have create := displays_createStruct (.behind nameShown update)
  rw [List.append_nil] at create
  exact create

theorem displays_types (b : Blueprint) :
    Displays b typesOutline [
      structLines b.names.createRequest [] (b.fields.map createLine),
      structLines b.names.updateRequest [] (b.fields.map updateLine),
      structLines b.names.response ["\tID uint \x60json:\"id\"\x60"] (b.fields.map responseLine)] := by
  obtain ⟨head, headShown⟩ := exists_text_around b typesHead (by simp)
  rw [typesOutline, List.append_assoc, List.append_assoc, List.append_assoc]
  exact .behind headShown (displays_typesStructs b)

theorem displays_handler (b : Blueprint) :
    Displays b handlerOutline [entityLines b.names.model b.fields, entityLines b.names.model b.fields,
      conversionLines b.names.response b.fields] := by
  obtain ⟨head, headShown⟩ := exists_text_around b handlerHead (by simp)
  obtain ⟨middle, middleShown⟩ := exists_text_around b handlerMiddle (by simp)
  obtain ⟨late, lateShown⟩ := exists_text_around b handlerLate (by simp)
  obtain ⟨tail, tailShown⟩ := exists_text_around b handlerTail (by simp)
  have converted := displays_conversion ⟨tail, tailShown, .done tail⟩
  have updated := displays_updatedEntity (.behind lateShown converted)
  have created := displays_createdEntity (.behind middleShown updated)
  rw [handlerOutline, List.append_assoc, List.append_assoc, List.append_assoc, List.append_assoc, List.append_assoc]
  exact .behind headShown created

end Bundled
end Template
end Scaffold
