import Scaffold.Proofs.Naming.Kebab
import Scaffold.Proofs.Template.Members
import Scaffold.Proofs.Validation.Acceptance

namespace Scaffold
namespace Template
namespace Bundled

/-!
# Agreement of the generated files

The struct of a model, the bodies of the requests and the response of its handler, and the code that
copies between them list the same fields: one line each, in the order of the request, under the same
identifier and with the same Go type.

A text of the user that is printed as it is may hold a line feed, and would then take up two lines.
Identifiers hold none, and texts that are cleaned, trimmed or respelt hold none that was not there
before.
-/

/-- The texts of a field that are printed stay within one line. -/
structure IsPlain (field : Field) : Prop where
  logicalType : '\n' ∉ field.logicalType.toList
  storageTag : '\n' ∉ field.storageTag.toList
  serializationTag : '\n' ∉ field.serializationTag.toList
  validationRule : '\n' ∉ field.validationRule.toList
  comment : '\n' ∉ field.comment.toList

/-- What the templates print of a field stays within one line. -/
structure IsUnbroken (view : FieldView) : Prop where
  name : '\n' ∉ view.name.toList
  goType : '\n' ∉ view.goType.toList
  jsonKey : '\n' ∉ view.jsonKey.toList
  storageTag : '\n' ∉ view.storageTag.toList
  validationRule : '\n' ∉ view.validationRule.toList
  comment : '\n' ∉ view.comment.toList
  cleanComment : '\n' ∉ view.cleanComment.toList

theorem lineFeed_not_mem_trimmed {s : String} (plain : '\n' ∉ s.toList) : '\n' ∉ (Text.trimmed s).toList := by
  rw [Text.trimmed, String.toList_ofList]
  exact fun member => plain (Text.mem_of_mem_trim member)

theorem lineFeed_not_mem_serializationKey {field : Field} (identifier : Naming.isIdentifier field.name = true)
    (plain : '\n' ∉ field.serializationTag.toList) : '\n' ∉ field.serializationKey.toList := by
  rw [Field.serializationKey]
  split
  · rw [Naming.snakeCase, String.toList_ofList]
    exact Naming.not_mem_snake Text.isSign_lineFeed (Naming.not_mem_of_isIdentifier Text.isSign_lineFeed identifier)
  · exact lineFeed_not_mem_trimmed plain

theorem isUnbroken_ofField {field : Field} (identifier : Naming.isIdentifier field.name = true)
    (plain : IsPlain field) :
    IsUnbroken (FieldView.ofField field) := by
  have name : '\n' ∉ (Naming.sanitize field.name).toList := by
    rw [Naming.sanitize, String.toList_ofList]
    exact Naming.not_mem_sanitizeChars (by decide) (Naming.not_mem_of_isIdentifier Text.isSign_lineFeed identifier)
  have cleanComment : '\n' ∉ (Naming.cleanComment field.comment).toList := by
    rw [Naming.cleanComment, String.toList_ofList]
    exact fun member => plain.comment (Naming.mem_of_mem_cleanChars member)
  have goType := FieldType.lineFeed_not_mem_goType plain.logicalType
  have jsonKey := lineFeed_not_mem_serializationKey identifier plain.serializationTag
  have storageTag := lineFeed_not_mem_trimmed plain.storageTag
  have validationRule := lineFeed_not_mem_trimmed plain.validationRule
  unfold FieldView.ofField
  constructor <;> dsimp only
  · exact name
  · exact goType
  · exact jsonKey
  · exact storageTag
  · exact validationRule
  · exact plain.comment
  · exact cleanComment

/-! ## The lines of a field -/

theorem lineFeed_not_mem_append {s t : String} (first : '\n' ∉ s.toList) (second : '\n' ∉ t.toList) :
    '\n' ∉ (s ++ t).toList := by
  rw [String.toList_append, List.mem_append, not_or]
  exact ⟨first, second⟩

theorem lineFeed_not_mem_whenGiven {s t : String} (shown : '\n' ∉ t.toList) : '\n' ∉ (whenGiven s t).toList := by
  rw [whenGiven]
  split
  · decide
  · exact shown

section

variable {view : FieldView} (unbroken : IsUnbroken view)
include unbroken

theorem lineFeed_not_mem_declaration : '\n' ∉ (declaration view).toList := by
  have name := unbroken.name
  have goType := unbroken.goType
  simp [declaration, name, goType]

theorem lineFeed_not_mem_modelLine : '\n' ∉ (modelLine view).toList := by
  have declared := lineFeed_not_mem_declaration unbroken
  have tag : '\n' ∉ (whenGiven view.storageTag ("gorm:\"" ++ view.storageTag ++ "\" ")).toList :=
    lineFeed_not_mem_whenGiven (by simp [unbroken.storageTag])
  have comment : '\n' ∉ (whenGiven view.comment (" // " ++ view.comment)).toList :=
    lineFeed_not_mem_whenGiven (by simp [unbroken.comment])
  simp [modelLine, declared, tag, comment, unbroken.jsonKey]

theorem lineFeed_not_mem_responseLine : '\n' ∉ (responseLine view).toList := by
  have declared := lineFeed_not_mem_declaration unbroken
  simp [responseLine, declared, unbroken.jsonKey]

theorem lineFeed_not_mem_updateLine : '\n' ∉ (updateLine view).toList := by
  have declared := lineFeed_not_mem_declaration unbroken
  have rule : '\n' ∉ (whenGiven view.validationRule (" binding:\"" ++ view.validationRule ++ "\"")).toList :=
    lineFeed_not_mem_whenGiven (by simp [unbroken.validationRule])
  simp [updateLine, declared, rule, unbroken.jsonKey]

theorem lineFeed_not_mem_createLine : '\n' ∉ (createLine view).toList := by
  have updated := lineFeed_not_mem_updateLine unbroken
  have comment : '\n' ∉ (whenGiven view.cleanComment (" // " ++ view.cleanComment)).toList :=
    lineFeed_not_mem_whenGiven (by simp [unbroken.cleanComment])
  simp [createLine, updated, comment]

theorem lineFeed_not_mem_assignmentLine {source : String} (plain : '\n' ∉ source.toList) :
    '\n' ∉ (assignmentLine source view).toList := by
  simp [assignmentLine, plain, unbroken.name]

end

/-! ## The files -/

theorem unbroken_structLines {name : String} {opening members : List String} (named : '\n' ∉ name.toList)
    (opens : ∀ line ∈ opening, '\n' ∉ line.toList) (lists : ∀ line ∈ members, '\n' ∉ line.toList) :
    ∀ line ∈ structLines name opening members, '\n' ∉ line.toList := by
  have first : '\n' ∉ ("type " ++ name ++ " struct \x7b").toList := by simp [named]
  have last : '\n' ∉ "\x7d".toList := by decide
  simp only [structLines, List.cons_append, List.forall_mem_cons, List.forall_mem_append, List.not_mem_nil,
    false_imp_iff, implies_true, and_true]
  exact ⟨first, ⟨opens, lists⟩, last⟩

theorem unbroken_entityLines {model : String} {views : List FieldView} (named : '\n' ∉ model.toList)
    (lists : ∀ view ∈ views, IsUnbroken view) : ∀ line ∈ entityLines model views, '\n' ∉ line.toList := by
  have first : '\n' ∉ ("\tentity := &models." ++ model ++ "\x7b").toList := by simp [named]
  have last : '\n' ∉ "\t\x7d".toList := by decide
  simp only [entityLines, List.cons_append, List.nil_append, List.forall_mem_cons, List.forall_mem_append,
    List.forall_mem_map, List.not_mem_nil, false_imp_iff, implies_true, and_true]
  exact ⟨first, fun view member => lineFeed_not_mem_assignmentLine (lists view member) (by decide), last⟩

theorem unbroken_conversionLines {response : String} {views : List FieldView} (named : '\n' ∉ response.toList)
    (lists : ∀ view ∈ views, IsUnbroken view) : ∀ line ∈ conversionLines response views, '\n' ∉ line.toList := by
  have first : '\n' ∉ ("\treturn types." ++ response ++ "\x7b").toList := by simp [named]
  have second : '\n' ∉ "\t\tID: entity.ID,".toList := by decide
  have last : '\n' ∉ "\t\x7d".toList := by decide
  simp only [conversionLines, List.cons_append, List.nil_append, List.forall_mem_cons, List.forall_mem_append,
    List.forall_mem_map, List.not_mem_nil, false_imp_iff, implies_true, and_true]
  exact ⟨first, second, fun view member => lineFeed_not_mem_assignmentLine (lists view member) (by decide), last⟩

section

variable {b : Blueprint} (named : '\n' ∉ b.names.model.toList) (views : ∀ view ∈ b.fields, IsUnbroken view)
include named views

/-- The struct of the model has one line for each field. -/
theorem exists_modelText : ∃ text, rendered "model.go" model b = .ok text ∧
    InOrder [structLines b.names.model ["\ttypes.BaseModel"] (b.fields.map modelLine)] (linesOf text) := by
  refine exists_rendered "model.go" parse?_model (displays_model b) ?_
  rw [List.forall_mem_singleton]
  exact unbroken_structLines named (by decide)
    (List.forall_mem_map.2 fun view member => lineFeed_not_mem_modelLine (views view member))

/-- The structs of the requests and of the response have one line for each field. -/
theorem exists_typesText (create : b.names.createRequest = b.names.model ++ "CreateRequest")
    (update : b.names.updateRequest = b.names.model ++ "UpdateRequest")
    (response : b.names.response = b.names.model ++ "Response") :
    ∃ text, rendered "handler_types.go" handlerTypes b = .ok text ∧ InOrder [
      structLines (b.names.model ++ "CreateRequest") [] (b.fields.map createLine),
      structLines (b.names.model ++ "UpdateRequest") [] (b.fields.map updateLine),
      structLines (b.names.model ++ "Response") ["\tID uint \x60json:\"id\"\x60"] (b.fields.map responseLine)]
      (linesOf text) := by
  rw [← create, ← update, ← response]
  refine exists_rendered "handler_types.go" parse?_handlerTypes (displays_types b) ?_
  rw [List.forall_mem_cons, List.forall_mem_cons, List.forall_mem_singleton]
  refine ⟨unbroken_structLines ?_ (by decide) ?_, unbroken_structLines ?_ (by decide) ?_,
    unbroken_structLines ?_ (by decide) ?_⟩
  · rw [create]
    exact lineFeed_not_mem_append named (by decide)
  · exact List.forall_mem_map.2 fun view member => lineFeed_not_mem_createLine (views view member)
  · rw [update]
    exact lineFeed_not_mem_append named (by decide)
  · exact List.forall_mem_map.2 fun view member => lineFeed_not_mem_updateLine (views view member)
  · rw [response]
    exact lineFeed_not_mem_append named (by decide)
  · exact List.forall_mem_map.2 fun view member => lineFeed_not_mem_responseLine (views view member)

/-- The handler fills two entities and a response with one assignment for each field. -/
theorem exists_handlerText (response : b.names.response = b.names.model ++ "Response") :
    ∃ text, rendered "handler.go" handler b = .ok text ∧ InOrder [
      entityLines b.names.model b.fields, entityLines b.names.model b.fields,
      conversionLines (b.names.model ++ "Response") b.fields] (linesOf text) := by
  rw [← response]
  refine exists_rendered "handler.go" parse?_handler (displays_handler b) ?_
  rw [List.forall_mem_cons, List.forall_mem_cons, List.forall_mem_singleton]
  refine ⟨unbroken_entityLines named views, unbroken_entityLines named views, unbroken_conversionLines ?_ views⟩
  rw [response]
  exact lineFeed_not_mem_append named (by decide)

end

/-! ## The fields of a request -/

/-- One line for each field: it begins with the exported identifier and the Go type of the field. -/
def DeclaresEach (fields : List Field) (lines : List String) : Prop :=
  ∃ rest : Field → String, lines = fields.map fun field =>
    "\t" ++ Naming.sanitize field.name ++ " " ++ (FieldType.goType field.logicalType).target ++
      " \x60" ++ rest field

/-- One line for each field: it copies the member of `source` with the exported identifier of the
field to the member with the same identifier. -/
def copiesEach (source : String) (fields : List Field) : List String :=
  fields.map fun field =>
    "\t\t" ++ Naming.sanitize field.name ++ ": " ++ source ++ "." ++ Naming.sanitize field.name ++ ","

theorem declaration_ofField (field : Field) : declaration (FieldView.ofField field) =
    "\t" ++ Naming.sanitize field.name ++ " " ++ (FieldType.goType field.logicalType).target ++ " \x60" := by
  simp only [declaration, FieldView.ofField]

theorem declaresEach_of_declaration {fields : List Field} {line rest : FieldView → String}
    (declares : ∀ view, line view = declaration view ++ rest view) :
    DeclaresEach fields ((fields.map FieldView.ofField).map line) := by
  refine ⟨fun field => rest (FieldView.ofField field), ?_⟩
  rw [List.map_map]
  refine List.map_congr_left fun field _ => ?_
  rw [Function.comp_apply, declares, declaration_ofField]

/-- Every line that declares a field begins with its identifier and its type. -/
theorem declaresEach_lines (fields : List Field) {line : FieldView → String}
    (known : line ∈ [modelLine, createLine, updateLine, responseLine]) :
    DeclaresEach fields ((fields.map FieldView.ofField).map line) := by
  simp only [List.mem_cons, List.not_mem_nil, or_false] at known
  rcases known with rfl | rfl | rfl | rfl
  · exact declaresEach_of_declaration (fun view => by simp only [modelLine, String.append_assoc]; rfl)
  · exact declaresEach_of_declaration (fun view => by simp only [createLine, updateLine, String.append_assoc]; rfl)
  · exact declaresEach_of_declaration (fun view => by simp only [updateLine, String.append_assoc]; rfl)
  · exact declaresEach_of_declaration (fun view => by simp only [responseLine, String.append_assoc]; rfl)

theorem map_assignmentLine (source : String) (fields : List Field) :
    (fields.map FieldView.ofField).map (assignmentLine (": " ++ source ++ ".")) = copiesEach source fields := by
  rw [List.map_map]
  refine List.map_congr_left fun field _ => ?_
  simp only [Function.comp_apply, assignmentLine, FieldView.ofField, String.append_assoc]

theorem entityLines_ofField (model : String) (fields : List Field) :
    entityLines model (fields.map FieldView.ofField) =
      ["\tentity := &models." ++ model ++ "\x7b"] ++ copiesEach "req" fields ++ ["\t\x7d"] := by
  rw [entityLines, show ": req." = ": " ++ "req" ++ "." by decide, map_assignmentLine]

theorem conversionLines_ofField (response : String) (fields : List Field) :
    conversionLines response (fields.map FieldView.ofField) =
      ["\treturn types." ++ response ++ "\x7b", "\t\tID: entity.ID,"] ++
        copiesEach "entity" fields ++ ["\t\x7d"] := by
  rw [conversionLines, show ": entity." = ": " ++ "entity" ++ "." by decide, map_assignmentLine]

/-- The files of an accepted request agree on its fields: the structs declare one member for each
field, in their order, with one identifier and one type, and the assignments copy each of them
once. -/
theorem generated_members_agree {request : Request} (moduleName : String) (now : Instant) (component : Component)
    (accepted : Validation.check request = []) (plain : ∀ field ∈ request.fields, IsPlain field) :
    ∃ modelText typesText handlerText,
      rendered "model.go" model (Blueprint.build moduleName now request component) = .ok modelText ∧
      rendered "handler_types.go" handlerTypes (Blueprint.build moduleName now request component) = .ok typesText ∧
      rendered "handler.go" handler (Blueprint.build moduleName now request component) = .ok handlerText ∧
      ∃ inModel inCreate inUpdate inResponse,
        (∀ lines ∈ [inModel, inCreate, inUpdate, inResponse], DeclaresEach request.fields lines) ∧
        InOrder [
          ["type " ++ request.modelName ++ " struct \x7b", "\ttypes.BaseModel"] ++ inModel ++ ["\x7d"]]
          (linesOf modelText) ∧
        InOrder [
          ["type " ++ (request.modelName ++ "CreateRequest") ++ " struct \x7b"] ++ inCreate ++ ["\x7d"],
          ["type " ++ (request.modelName ++ "UpdateRequest") ++ " struct \x7b"] ++ inUpdate ++ ["\x7d"],
          ["type " ++ (request.modelName ++ "Response") ++ " struct \x7b", "\tID uint \x60json:\"id\"\x60"]
            ++ inResponse ++ ["\x7d"]]
          (linesOf typesText) ∧
        InOrder [
          ["\tentity := &models." ++ request.modelName ++ "\x7b"] ++ copiesEach "req" request.fields ++ ["\t\x7d"],
          ["\tentity := &models." ++ request.modelName ++ "\x7b"] ++ copiesEach "req" request.fields ++ ["\t\x7d"],
          ["\treturn types." ++ (request.modelName ++ "Response") ++ "\x7b", "\t\tID: entity.ID,"]
            ++ copiesEach "entity" request.fields ++ ["\t\x7d"]]
          (linesOf handlerText) := by
  have proper := Validation.check_eq_nil.1 accepted
  have named : '\n' ∉ request.modelName.toList :=
    Naming.not_mem_of_isIdentifier Text.isSign_lineFeed proper.modelName.identifier
  have views : ∀ view ∈ request.fields.map FieldView.ofField, IsUnbroken view :=
    List.forall_mem_map.2 fun field member =>
      isUnbroken_ofField (proper.fields field member).identifier (plain field member)
  obtain ⟨modelText, modelShown, inModelText⟩ :=
    exists_modelText (b := Blueprint.build moduleName now request component) named views
  obtain ⟨typesText, typesShown, inTypesText⟩ :=
    exists_typesText (b := Blueprint.build moduleName now request component) named views rfl rfl rfl
  obtain ⟨handlerText, handlerShown, inHandlerText⟩ :=
    exists_handlerText (b := Blueprint.build moduleName now request component) named views rfl
  refine ⟨modelText, typesText, handlerText, modelShown, typesShown, handlerShown, _, _, _, _, ?_,
    inModelText, inTypesText, ?_⟩
  · simp only [List.forall_mem_cons, List.not_mem_nil, false_imp_iff, implies_true, and_true]
    exact ⟨declaresEach_lines _ (by simp), declaresEach_lines _ (by simp), declaresEach_lines _ (by simp),
      declaresEach_lines _ (by simp)⟩
  · rw [← entityLines_ofField, ← conversionLines_ofField]
    exact inHandlerText

/-- An invoice with a commented field and one with tags and a rule. -/
def invoiceRequest : Request where
  component := .all
  modelName := "Invoice"
  fields := [
    { name := "total_due", logicalType := "decimal", comment := "Gross *total*" },
    { name := "paidAt", logicalType := "time.Time", storageTag := "index", serializationTag := "paid",
      validationRule := "required" }]

theorem generated_members_agree_invoice :
    Validation.check invoiceRequest = [] ∧ (∀ field ∈ invoiceRequest.fields, IsPlain field) ∧
      ∃ text lines,
        rendered "model.go" model
          (Blueprint.build "shop" default invoiceRequest (.one (.layer .model))) = .ok text ∧
        DeclaresEach invoiceRequest.fields lines ∧
        InOrder [["type Invoice struct \x7b", "\ttypes.BaseModel"] ++ lines ++ ["\x7d"]] (linesOf text) := by
  have accepted : Validation.check invoiceRequest = [] := by decide +kernel
  have plain : ∀ field ∈ invoiceRequest.fields, IsPlain field := by
    rw [invoiceRequest, List.forall_mem_cons, List.forall_mem_singleton]
    constructor <;> constructor <;> decide
  obtain ⟨text, _, _, shown, _, _, lines, _, _, _, declares, inText, _⟩ :=
    generated_members_agree "shop" default (.one (.layer .model)) accepted plain
  exact ⟨accepted, plain, text, lines, shown, declares lines List.mem_cons_self, inText⟩

end Bundled
end Template
end Scaffold
