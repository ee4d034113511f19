import Scaffold.Proofs.Naming.Words
import Scaffold.Proofs.Snippet.WireNames

namespace Scaffold

/-!
# Names of the members in the generated types

The struct of a response has a member for each field behind the number of the record, and the
interface of a stored model has a property for each field between the number and the two times.
Acceptance keeps the identifiers of the fields apart from each other, but not from these fixed
members, and not the properties of names whose first characters have one small letter.
-/

/-! ## The name in a row -/

/-- What stands in a row behind its indentation and before the first `mark`. -/
def declaredName (indentation : Nat) (mark : Char) (row : String) : String :=
  String.ofList ((row.toList.drop indentation).takeWhile (· != mark))

theorem declaredName_eq {row name : String} {mark : Char} (indentation rest : List Char)
    (absent : mark ∉ name.toList)
    (whole : row.toList = indentation ++ (name.toList ++ mark :: rest)) :
    declaredName indentation.length mark row = name := by
  have plain : ∀ c ∈ name.toList, (c != mark) = true := by
    intro c member
    exact bne_iff_ne.2 fun same => absent (same ▸ member)
  rw [declaredName, whole, List.drop_left, List.takeWhile_append_of_pos plain, List.takeWhile_cons_of_neg (by simp),
    List.append_nil, String.ofList_toList]

/-- The member that a row of a struct declares. -/
def structMember : String → String :=
  declaredName 1 ' '

/-- The property that a row of an interface declares. -/
def interfaceProperty : String → String :=
  declaredName 2 ':'

namespace Field

variable {field other : Field}

theorem sanitize_lacks (proper : Validation.IsProper field) {mark : Char} (sign : Text.IsSign mark)
    (low : mark.toNat < 65) : mark ∉ (Naming.sanitize field.name).toList := by
  rw [Naming.sanitize, String.toList_ofList]
  exact Naming.not_mem_sanitizeChars low (Naming.not_mem_of_isIdentifier sign proper.identifier)

theorem structMember_responseLine (proper : Validation.IsProper field) :
    structMember (Template.Bundled.responseLine (FieldView.ofField field)) = Naming.sanitize field.name := by
  have spaceless : ' ' ∉ (Naming.sanitize field.name).toList :=
    sanitize_lacks proper ⟨by decide, by decide⟩ (by decide)
  let view := FieldView.ofField field
  refine declaredName_eq ['\t']
    (view.goType ++ " \x60" ++ "json:\"" ++ view.jsonKey ++ "\"\x60").toList spaceless ?_
  simp [Template.Bundled.responseLine, Template.Bundled.declaration, view, FieldView.ofField]

theorem interfaceProperty_infoRow (proper : Validation.IsProper field) :
    interfaceProperty (Snippets.infoRow (FieldView.ofField field)) = field.propertyName := by
  have sign : Text.IsSign ':' := ⟨by decide, by decide⟩
  have pointless : ':' ∉ field.propertyName.toList :=
    Naming.not_mem_lowerCamelCase sign (sanitize_lacks proper sign (by decide))
  let view := FieldView.ofField field
  refine declaredName_eq [' ', ' '] (" " ++ view.tsType ++ Snippets.trailingComment view).toList pointless ?_
  simp [Snippets.infoRow, view, FieldView.ofField, propertyName]

/-- A field whose name begins with a character of ASCII. -/
def BeginsInAscii (field : Field) : Prop :=
  (field.name.toList.head?.all fun c => c.toNat < 128) = true

instance (field : Field) : Decidable field.BeginsInAscii :=
  inferInstanceAs (Decidable (_ = true))

theorem sanitize_eq_of_propertyName_eq (proper : Validation.IsProper field)
    (otherProper : Validation.IsProper other)
    (ascii : field.BeginsInAscii) (otherAscii : other.BeginsInAscii)
    (same : field.propertyName = other.propertyName) :
    Naming.sanitize field.name = Naming.sanitize other.name := by
  rw [← String.toList_inj, toList_propertyName proper, toList_propertyName otherProper] at same
  rw [Naming.sanitize, Naming.sanitize, Naming.sanitizeChars_of_isIdentifier proper.identifier proper.notReserved,
    Naming.sanitizeChars_of_isIdentifier otherProper.identifier otherProper.notReserved]
  rw [BeginsInAscii] at ascii otherAscii
  rcases exists_cons_of_isProper proper with ⟨c, rest, letters⟩
  rcases exists_cons_of_isProper otherProper with ⟨d, more, otherLetters⟩
  rw [letters] at same ascii ⊢
  rw [otherLetters] at same otherAscii ⊢
  rw [Naming.upperFirst_eq_of_property_eq (of_decide_eq_true ascii) (of_decide_eq_true otherAscii) same]

end Field

/-! ## The members of a request's types -/

namespace Request

variable {request : Request}

/-- The members of the struct of a response: the number of the record and one for each field. -/
def responseMembers (request : Request) : List String :=
  "ID" :: request.fields.map fun field => Naming.sanitize field.name

/-- The properties that the interface of a stored model has whatever its fields are. -/
def fixedProperties : List String :=
  ["id", "created_at", "updated_at"]

/-- The properties of the interface of a stored model. -/
def infoProperties (request : Request) : List String :=
  "id" :: request.fields.map Field.propertyName ++ ["created_at", "updated_at"]

theorem responseMembers_nodup_iff (accepted : Validation.check request = []) :
    request.responseMembers.Nodup ↔ ∀ field ∈ request.fields, Naming.sanitize field.name ≠ "ID" := by
  rw [responseMembers, List.nodup_cons, and_iff_left (Validation.check_eq_nil.1 accepted).distinct]
  simp

theorem infoProperties_nodup_iff : request.infoProperties.Nodup ↔
    (request.fields.map Field.propertyName).Nodup ∧
    ∀ field ∈ request.fields, field.propertyName ∉ fixedProperties := by
  have apart : (fixedProperties ++ request.fields.map Field.propertyName).Nodup ↔
      (request.fields.map Field.propertyName).Nodup ∧
        ∀ field ∈ request.fields, field.propertyName ∉ fixedProperties := by
    have fixed : fixedProperties.Nodup := by decide
    rw [List.nodup_append', and_iff_right fixed, List.disjoint_right, List.forall_mem_map]
  rw [← apart]
  apply List.Perm.nodup_iff
  exact List.Perm.cons "id" List.perm_append_comm

theorem propertyNames_nodup (accepted : Validation.check request = [])
    (ascii : ∀ field ∈ request.fields, field.BeginsInAscii) : (request.fields.map Field.propertyName).Nodup := by
  have proper := Validation.check_eq_nil.1 accepted
  have distinct := proper.distinct
  rw [List.Nodup, List.pairwise_map] at distinct ⊢
  apply distinct.imp_of_mem
  intro field other first second apart same
  exact apart (Field.sanitize_eq_of_propertyName_eq (proper.fields field first) (proper.fields other second)
    (ascii field first) (ascii other second) same)

end Request

/-! ## What the generated types show -/

open Template.Bundled

/-- The types of an accepted request have the members that its fields call for.  Those of the struct
are pairwise different exactly when no field is exported as the number of the record, and those of
the interface when no field has a fixed property and no two have the same; two fields whose names
begin in ASCII never have. -/
theorem generated_members {request : Request} (moduleName : String) (now : Instant)
    (accepted : Validation.check request = []) :
    ∃ snippet typesText members properties,
      SnippetKind.frontendApi.produce
        (Blueprint.build moduleName now request (.ofSnippet .frontendApi)) = [snippet] ∧
      rendered "handler_types.go" Template.Bundled.handlerTypes
        (Blueprint.build moduleName now request (.one (.layer .handler))) = .ok typesText ∧
      Shows [structLines (request.modelName ++ "Response") [] members] typesText.toList ∧
      Shows [Snippets.interfaceRows (request.modelName ++ "Info") [] properties []] snippet.content.toList ∧
      members.map structMember = request.responseMembers ∧
      properties.map interfaceProperty = request.infoProperties ∧
      ((members.map structMember).Nodup ↔ ∀ field ∈ request.fields, Naming.sanitize field.name ≠ "ID") ∧
      ((properties.map interfaceProperty).Nodup ↔ (request.fields.map Field.propertyName).Nodup ∧
        ∀ field ∈ request.fields, field.propertyName ∉ Request.fixedProperties) ∧
      ((∀ field ∈ request.fields, field.BeginsInAscii) → (request.fields.map Field.propertyName).Nodup) := by
  have proper := (Validation.check_eq_nil.1 accepted).fields
  obtain ⟨snippet, produced, inClient⟩ :=
    Snippets.exists_client (Blueprint.build moduleName now request (.ofSnippet .frontendApi))
  obtain ⟨text, shown, inTypes⟩ := displays_types (Blueprint.build moduleName now request (.one (.layer .handler)))
  let views := request.fields.map FieldView.ofField
  let members := "\tID uint \x60json:\"id\"\x60" :: views.map responseLine
  let properties := "  id: number" :: views.map Snippets.infoRow ++ ["  created_at: string", "  updated_at: string"]
  have membersNamed : members.map structMember = request.responseMembers := by
    have number : structMember "\tID uint \x60json:\"id\"\x60" = "ID" := by decide +kernel
    rw [Request.responseMembers, List.map_cons, number, List.map_map, List.map_map]
    have named := List.map_congr_left fun field member => Field.structMember_responseLine (proper field member)
    exact congrArg (List.cons "ID") named
  have propertiesNamed : properties.map interfaceProperty = request.infoProperties := by
    have number : interfaceProperty "  id: number" = "id" := by decide +kernel
    have times : ["  created_at: string", "  updated_at: string"].map interfaceProperty =
        ["created_at", "updated_at"] := by
      decide +kernel
    have named := List.map_congr_left fun field member => Field.interfaceProperty_infoRow (proper field member)
    rw [Request.infoProperties, List.map_append, List.map_cons, number, times, List.map_map, List.map_map]
    exact congrArg (fun names => "id" :: names ++ ["created_at", "updated_at"]) named
  refine ⟨snippet, String.ofList text, members, properties, produced,
    rendered_eq_ok _ parse?_handlerTypes shown, ?_, ?_, membersNamed, propertiesNamed,
    membersNamed ▸ Request.responseMembers_nodup_iff accepted,
    propertiesNamed ▸ Request.infoProperties_nodup_iff, Request.propertyNames_nodup accepted⟩
  · rw [String.toList_ofList]
    exact inTypes.tail.tail
  · have own := inClient.head
    rw [Snippets.interfaceRows] at own ⊢
    simp only [properties, List.append_nil, List.nil_append, List.append_assoc, List.cons_append] at own ⊢
    exact own

/-- The types of a bill have no member twice. -/
theorem generated_members_bill : Validation.check billRequest = [] ∧
    ∃ snippet typesText members properties,
      SnippetKind.frontendApi.produce
        (Blueprint.build "shop" default billRequest (.ofSnippet .frontendApi)) = [snippet] ∧
      rendered "handler_types.go" Template.Bundled.handlerTypes
        (Blueprint.build "shop" default billRequest (.one (.layer .handler))) = .ok typesText ∧
      Shows [structLines "BillResponse" [] members] typesText.toList ∧
      Shows [Snippets.interfaceRows "BillInfo" [] properties []] snippet.content.toList ∧
      (members.map structMember).Nodup ∧ (properties.map interfaceProperty).Nodup := by
  have accepted : Validation.check billRequest = [] := by decide
  obtain ⟨snippet, text, members, properties, produced, shown, inTypes, inClient, -, -, membersApart,
    propertiesApart, plain⟩ :=
    generated_members "shop" default accepted
  refine ⟨accepted, snippet, text, members, properties, produced, shown, inTypes, inClient, membersApart.2 ?_,
    propertiesApart.2 ⟨plain ?_, ?_⟩⟩
  all_goals decide +kernel

/-- An order with one field that is exported as the number of the record, and one that has its
property. -/
def identifiedOrder : Request where
  component := .one (.layer .handler)
  modelName := "Order"
  fields := [{ name := "ID", logicalType := "string" }, { name := "id", logicalType := "string" }]

/-- Acceptance does not keep the fields apart from the fixed members. -/
theorem not_generated_members_nodup : Validation.check identifiedOrder = [] ∧
    ∃ snippet typesText,
      SnippetKind.frontendApi.produce
        (Blueprint.build "shop" default identifiedOrder (.ofSnippet .frontendApi)) = [snippet] ∧
      rendered "handler_types.go" Template.Bundled.handlerTypes
        (Blueprint.build "shop" default identifiedOrder (.one (.layer .handler))) = .ok typesText ∧
      Shows [["type OrderResponse struct \x7b", "\tID uint \x60json:\"id\"\x60", "\tID string \x60json:\"id\"\x60",
        "\tId string \x60json:\"id\"\x60", "\x7d"]] typesText.toList ∧
      Shows [["export interface OrderInfo \x7b", "  id: number", "  iD: string", "  id: string",
        "  created_at: string",
        "  updated_at: string", "\x7d"]] snippet.content.toList ∧
      ¬ identifiedOrder.responseMembers.Nodup ∧ ¬ identifiedOrder.infoProperties.Nodup := by
  obtain ⟨snippet, produced, inClient⟩ :=
    Snippets.exists_client (Blueprint.build "shop" default identifiedOrder (.ofSnippet .frontendApi))
  obtain ⟨text, shown, inTypes⟩ :=
    displays_types (Blueprint.build "shop" default identifiedOrder (.one (.layer .handler)))
  rw [← String.toList_ofList (l := text)] at inTypes
  refine ⟨by decide, snippet, String.ofList text, produced, rendered_eq_ok _ parse?_handlerTypes shown, ?_, ?_,
    by decide +kernel, by decide +kernel⟩
  · convert inTypes.tail.tail using 1
    decide +kernel
  · convert inClient.head using 1
    decide +kernel

end Scaffold
