import Scaffold.Proofs.Naming.PropertyName
import Scaffold.Proofs.Request.Keys
import Scaffold.Proofs.Template.Agreement
import Scaffold.Registry.Stage

namespace Scaffold

/-!
# Names of the fields in the client and on the wire

The client names a field by a property in camel case, the structs of the handler by its key.  Both
list the fields in the order of the request.  The two names of a field are the same when its tag is
the property, or when it has no tag and its name has one spelling in both cases.
-/

namespace Field

/-- The name of the property that stands for a field in the client. -/
def propertyName (field : Field) : String :=
  Naming.lowerCamelCase (Naming.sanitize field.name)

/-- A field whose name has no ASCII capital behind its first character. -/
def IsCapless (field : Field) : Prop :=
  ∀ c ∈ field.name.toList.tail, Naming.isCapital c = false

/-- A field whose key is the name of its property. -/
inductive SpeaksAlike (field : Field) : Prop
  /-- The tag is the property. -/
  | tagged (given : ¬ field.IsUntagged) (same : Text.trimmed field.serializationTag = field.propertyName)
  /-- The name has one spelling in camel case and in snake case. -/
  | untagged (absent : field.IsUntagged) (capless : field.IsCapless)
      (lower : Text.lower field.name = field.propertyName)

variable {field : Field}

theorem exists_cons_of_isProper (proper : Validation.IsProper field) : ∃ c rest, field.name.toList = c :: rest :=
  List.exists_cons_of_ne_nil (Validation.toList_ne_nil_of_isIdentifier proper.identifier)

theorem toList_propertyName (proper : Validation.IsProper field) :
    field.propertyName.toList = Naming.property field.name.toList := by
  rw [propertyName, Naming.lowerCamelCase, Naming.sanitize, String.toList_ofList, String.toList_ofList,
    Naming.sanitizeChars_of_isIdentifier proper.identifier proper.notReserved, Naming.property]

theorem serializationKey_of_tagged (tagged : ¬ field.IsUntagged) :
    field.serializationKey = Text.trimmed field.serializationTag :=
  if_neg tagged

theorem propertyName_eq_snakeCase_iff (proper : Validation.IsProper field) :
    field.propertyName = Naming.snakeCase field.name ↔
      field.IsCapless ∧ Text.lower field.name = field.propertyName := by
  have property := toList_propertyName proper
  rw [← String.toList_inj, ← String.toList_inj, Naming.snakeCase, Text.lower, String.toList_ofList,
    String.toList_ofList, IsCapless, property]
  rcases exists_cons_of_isProper proper with ⟨c, rest, letters⟩
  rw [letters, Naming.property_eq_snake_iff, List.tail_cons, @eq_comm _ (Text.lowerChars _)]

/-- When the client and the structs give a field one name. -/
theorem propertyName_eq_serializationKey_iff (proper : Validation.IsProper field) :
    field.propertyName = field.serializationKey ↔ field.SpeaksAlike := by
  by_cases absent : field.IsUntagged
  · rw [serializationKey_of_isUntagged absent, propertyName_eq_snakeCase_iff proper]
    constructor
    · rintro ⟨capless, lower⟩
      exact .untagged absent capless lower
    · rintro (⟨given, -⟩ | ⟨-, capless, lower⟩)
      · exact absurd absent given
      · exact ⟨capless, lower⟩
  · rw [serializationKey_of_tagged absent]
    constructor
    · exact fun same => .tagged absent same.symm
    · rintro (⟨-, same⟩ | ⟨untagged, -, -⟩)
      · exact same.symm
      · exact absurd untagged absent

theorem propertyName_eq_serializationKey_iff_of_ascii (proper : Validation.IsProper field)
    (absent : field.IsUntagged)
    (ascii : ∀ c ∈ field.name.toList, c.toNat < 128) :
    field.propertyName = field.serializationKey ↔ field.IsCapless := by
  rw [serializationKey_of_isUntagged absent, ← String.toList_inj, toList_propertyName proper, Naming.snakeCase,
    String.toList_ofList, IsCapless]
  rcases exists_cons_of_isProper proper with ⟨c, rest, letters⟩
  rw [letters] at ascii ⊢
  exact Naming.property_eq_snake_iff_of_ascii ascii

end Field

/-! ## The interfaces of the client -/

namespace Snippets

open Template.Bundled (Shows)
open Text (feeds)

theorem toList_block_feeds (lines : List String) :
    '\n' :: (block lines).toList = feeds (lines.map String.toList) ++ ['\n'] := by
  rw [Template.toList_block]
  induction lines with
  | nil => rfl
  | cons line rest ih =>
    rw [List.map_cons, Text.feeds_cons, List.append_assoc, ← ih, List.flatMap_cons]
    simp

/-- Lines behind a line feed are a block of rows. -/
theorem shows_block {lines : List String} {blocks : List (List String)} {after : List Char} (early : List Char)
    (shows : Shows blocks after) : Shows (lines :: blocks) (early ++ '\n' :: ((block lines).toList ++ after)) := by
  have rows : early ++ '\n' :: ((block lines).toList ++ after) =
      early ++ feeds (lines.map String.toList) ++ '\n' :: after := by
    rw [← List.cons_append, toList_block_feeds]
    simp
  rw [rows]
  exact .next early lines shows

theorem exists_block_feed {lines : List String} (some : lines ≠ []) :
    ∃ text, (block lines).toList = text ++ ['\n'] := by
  rcases List.eq_nil_or_concat lines with empty | ⟨others, last, rfl⟩
  · exact absurd empty some
  · refine ⟨others.flatMap (fun line => line.toList ++ ['\n']) ++ last.toList, ?_⟩
    simp [Template.toList_block]

theorem toList_block_blank (lines : List String) :
    (block (lines ++ [""])).toList = (block lines).toList ++ ['\n'] := by
  simp [Template.toList_block]

/-- The rows of an interface. -/
def interfaceRows (name : String) (opening members closing : List String) : List String :=
  ["export interface " ++ name ++ " \x7b"] ++ opening ++ members ++ closing ++ ["\x7d"]

/-- The row of a field in the interface of a stored model. -/
def infoRow (view : FieldView) : String :=
  "  " ++ view.tsName ++ ": " ++ view.tsType ++ trailingComment view

/-- The row of a field in the interface of a call's body. -/
def bodyRow (mark : String) (view : FieldView) : String :=
  "  " ++ view.tsName ++ mark ++ ": " ++ view.tsType

variable (b : Blueprint)

theorem infoInterface_eq : infoInterface b = block (interfaceRows (b.names.model ++ "Info") ["  id: number"]
    (b.fields.map infoRow) ["  created_at: string", "  updated_at: string"] ++ [""]) := by
  have opening : "export interface " ++ b.names.model ++ "Info \x7b" =
      "export interface " ++ (b.names.model ++ "Info") ++ " \x7b" := by
    simp [String.append_assoc]
  simp only [infoInterface, interfaceRows, opening, List.append_assoc, List.cons_append, List.nil_append]
  rfl

theorem bodyInterface_eq (suffix mark : String) : bodyInterface b suffix mark =
    block (interfaceRows (b.names.model ++ suffix) [] (b.fields.map (bodyRow mark)) [] ++ [""]) := by
  have opening : "export interface " ++ b.names.model ++ suffix ++ " \x7b" =
      "export interface " ++ (b.names.model ++ suffix) ++ " \x7b" := by
    simp only [String.append_assoc]
  simp only [bodyInterface, interfaceRows, opening, List.append_assoc, List.cons_append, List.nil_append]
  rfl

/-- The client has the interfaces of a model with one row for each field. -/
theorem exists_client : ∃ snippet, frontendApi b = [snippet] ∧ Shows [
    interfaceRows (b.names.model ++ "Info") ["  id: number"] (b.fields.map infoRow)
      ["  created_at: string", "  updated_at: string"],
    interfaceRows (b.names.model ++ "CreateRequest") [] (b.fields.map (bodyRow "")) [],
    interfaceRows (b.names.model ++ "UpdateRequest") [] (b.fields.map (bodyRow "?")) []]
      snippet.content.toList := by
  refine ⟨_, rfl, ?_⟩
  obtain ⟨head, headText⟩ := exists_block_feed
    (List.cons_ne_nil "import request from '@/utils/http'" ["", "/** " ++ b.names.display ++ " */"])
  obtain ⟨paging, pagingText⟩ : ∃ text, (pagingInterfaces b.names.model).toList = text ++ ['\n'] :=
    exists_block_feed (List.cons_ne_nil _ _)
  simp only [Placement.toSnippet, String.toList_append, infoInterface_eq, bodyInterface_eq,
    toList_block_blank, headText, pagingText, List.append_assoc, List.cons_append, List.nil_append]
  exact shows_block head (shows_block ('\n' :: paging) (shows_block [] (.done _)))

end Snippets

/-! ## The two sides of a request -/

open Template.Bundled

/-- One row for each field: it begins with the property of the field and `mark`. -/
def DeclaresProperties (mark : String) (fields : List Field) (rows : List String) : Prop :=
  ∃ rest : Field → String, rows = fields.map fun field => "  " ++ field.propertyName ++ mark ++ ": " ++ rest field

/-- One row for each field: the tag behind its identifier and its type begins with its key. -/
def TagsKeys (fields : List Field) (rows : List String) : Prop :=
  ∃ rest : Field → String, rows = fields.map fun field =>
    "\t" ++ Naming.sanitize field.name ++ " " ++ (FieldType.goType field.logicalType).target ++ " \x60json:\""
      ++ field.serializationKey ++ "\"" ++ rest field

section

variable {fields : List Field} {line : FieldView → String} (rest : FieldView → String)

theorem declaresProperties_of_row {mark : String}
    (declares : ∀ view : FieldView, line view = "  " ++ view.tsName ++ mark ++ ": " ++ rest view) :
    DeclaresProperties mark fields ((fields.map FieldView.ofField).map line) := by
  refine ⟨fun field => rest (FieldView.ofField field), ?_⟩
  rw [List.map_map]
  refine List.map_congr_left fun field _ => ?_
  rw [Function.comp_apply, declares]
  rfl

theorem tagsKeys_of_declaration
    (tags : ∀ view : FieldView, line view = declaration view ++ "json:\"" ++ view.jsonKey ++ "\"" ++ rest view) :
    TagsKeys fields ((fields.map FieldView.ofField).map line) := by
  refine ⟨fun field => rest (FieldView.ofField field), ?_⟩
  rw [List.map_map]
  refine List.map_congr_left fun field _ => ?_
  rw [Function.comp_apply, tags, declaration_ofField]
  simp [FieldView.ofField, String.append_assoc]

theorem tagsKeys_lines (fields : List Field) {line : FieldView → String}
    (known : line ∈ [createLine, updateLine, responseLine]) :
    TagsKeys fields ((fields.map FieldView.ofField).map line) := by
  let rule (view : FieldView) :=
    whenGiven view.validationRule (" binding:\"" ++ view.validationRule ++ "\"") ++ "\x60"
  simp only [List.mem_cons, List.not_mem_nil, or_false] at known
  rcases known with rfl | rfl | rfl
  · refine tagsKeys_of_declaration (fun view =>
      rule view ++ whenGiven view.cleanComment (" // " ++ view.cleanComment)) ?_
    exact fun view => by simp only [rule, createLine, updateLine, String.append_assoc]
  · refine tagsKeys_of_declaration rule ?_
    exact fun view => by simp only [rule, updateLine, String.append_assoc]
  · refine tagsKeys_of_declaration (fun _ => "\x60") ?_
    intro view
    rw [responseLine, show "\"\x60" = "\"" ++ "\x60" by decide, ← String.append_assoc]

end

/-- The client and the structs of an accepted request list the same fields in the same order, the
client under their properties and the structs under their keys.  The two names of a field are one
exactly when it speaks alike in both, which an untagged field with a name in ASCII does when the
name has no capital behind its first character. -/
theorem client_and_structs {request : Request} (moduleName : String) (now : Instant)
    (accepted : Validation.check request = []) :
    ∃ snippet typesText inInfo inCreate inUpdate keysCreate keysUpdate keysResponse,
      SnippetKind.frontendApi.produce
        (Blueprint.build moduleName now request (.ofSnippet .frontendApi)) = [snippet] ∧
      rendered "handler_types.go" Template.Bundled.handlerTypes
        (Blueprint.build moduleName now request (.one (.layer .handler))) = .ok typesText ∧
      (DeclaresProperties "" request.fields inInfo ∧ DeclaresProperties "" request.fields inCreate ∧
        DeclaresProperties "?" request.fields inUpdate) ∧
      (∀ rows ∈ [keysCreate, keysUpdate, keysResponse], TagsKeys request.fields rows) ∧
      Shows [
        Snippets.interfaceRows (request.modelName ++ "Info") ["  id: number"] inInfo
          ["  created_at: string", "  updated_at: string"],
        Snippets.interfaceRows (request.modelName ++ "CreateRequest") [] inCreate [],
        Snippets.interfaceRows (request.modelName ++ "UpdateRequest") [] inUpdate []] snippet.content.toList ∧
      Shows [
        structLines (request.modelName ++ "CreateRequest") [] keysCreate,
        structLines (request.modelName ++ "UpdateRequest") [] keysUpdate,
        structLines (request.modelName ++ "Response") ["\tID uint \x60json:\"id\"\x60"] keysResponse]
          typesText.toList ∧
      ∀ field ∈ request.fields, (field.propertyName = field.serializationKey ↔ field.SpeaksAlike) ∧
        (field.IsUntagged → (∀ c ∈ field.name.toList, c.toNat < 128) →
          (field.propertyName = field.serializationKey ↔ field.IsCapless)) := by
  have proper := (Validation.check_eq_nil.1 accepted).fields
  obtain ⟨snippet, produced, inClient⟩ :=
    Snippets.exists_client (Blueprint.build moduleName now request (.ofSnippet .frontendApi))
  obtain ⟨text, shown, inTypes⟩ := displays_types (Blueprint.build moduleName now request (.one (.layer .handler)))
  rw [← String.toList_ofList (l := text)] at inTypes
  let views := request.fields.map FieldView.ofField
  refine ⟨snippet, String.ofList text, views.map Snippets.infoRow, views.map (Snippets.bodyRow ""),
    views.map (Snippets.bodyRow "?"), views.map createLine, views.map updateLine, views.map responseLine, produced,
    rendered_eq_ok _ parse?_handlerTypes shown, ⟨?_, ?_, ?_⟩, ?_, inClient, inTypes, fun field member =>
      ⟨Field.propertyName_eq_serializationKey_iff (proper field member),
        Field.propertyName_eq_serializationKey_iff_of_ascii (proper field member)⟩⟩
  · refine declaresProperties_of_row (fun view => view.tsType ++ Snippets.trailingComment view) fun view => ?_
    simp only [Snippets.infoRow, String.append_empty, String.append_assoc]
  · exact declaresProperties_of_row FieldView.tsType fun view => rfl
  · exact declaresProperties_of_row FieldView.tsType fun view => rfl
  · simp only [List.forall_mem_cons, List.not_mem_nil, false_imp_iff, implies_true, and_true]
    exact ⟨tagsKeys_lines _ (by simp), tagsKeys_lines _ (by simp), tagsKeys_lines _ (by simp)⟩

/-- A bill with a field that is named by one small word, one with the property as its tag, and one
with two names. -/
def billRequest : Request where
  component := .all
  modelName := "Bill"
  fields := [
    { name := "total", logicalType := "decimal" },
    { name := "paidAt", logicalType := "date", serializationTag := " paidAt " },
    { name := "productCode", logicalType := "string" }]

theorem client_and_structs_bill : Validation.check billRequest = [] ∧
    ∃ snippet inInfo inCreate inUpdate,
      SnippetKind.frontendApi.produce
        (Blueprint.build "shop" default billRequest (.ofSnippet .frontendApi)) = [snippet] ∧
      DeclaresProperties "" billRequest.fields inInfo ∧
      Shows [
        Snippets.interfaceRows "BillInfo" ["  id: number"] inInfo ["  created_at: string", "  updated_at: string"],
        Snippets.interfaceRows "BillCreateRequest" [] inCreate [],
        Snippets.interfaceRows "BillUpdateRequest" [] inUpdate []] snippet.content.toList := by
  have accepted : Validation.check billRequest = [] := by decide
  obtain ⟨snippet, _, inInfo, inCreate, inUpdate, _, _, _, produced, _, ⟨properties, _⟩, _, inClient, _⟩ :=
    client_and_structs "shop" default accepted
  exact ⟨accepted, snippet, inInfo, inCreate, inUpdate, produced, properties, inClient⟩

/-- The two sides of an accepted request need not agree: a name of two words is one property and
another key. -/
theorem not_client_and_structs_agree : Validation.check billRequest = [] ∧
    ∃ snippet typesText,
      SnippetKind.frontendApi.produce
        (Blueprint.build "shop" default billRequest (.ofSnippet .frontendApi)) = [snippet] ∧
      rendered "handler_types.go" Template.Bundled.handlerTypes
        (Blueprint.build "shop" default billRequest (.one (.layer .handler))) = .ok typesText ∧
      Shows [
        ["export interface BillInfo \x7b", "  id: number", "  total: number", "  paidAt: string",
          "  productCode: string",
          "  created_at: string", "  updated_at: string", "\x7d"],
        ["export interface BillCreateRequest \x7b", "  total: number", "  paidAt: string",
          "  productCode: string", "\x7d"],
        ["export interface BillUpdateRequest \x7b", "  total?: number", "  paidAt?: string",
          "  productCode?: string", "\x7d"]]
        snippet.content.toList ∧
      Shows [
        ["type BillCreateRequest struct \x7b", "\tTotal float64 \x60json:\"total\"\x60",
          "\tPaidAt *time.Time \x60json:\"paidAt\"\x60",
            "\tProductCode string \x60json:\"product_code\"\x60", "\x7d"],
        ["type BillUpdateRequest struct \x7b", "\tTotal float64 \x60json:\"total\"\x60",
          "\tPaidAt *time.Time \x60json:\"paidAt\"\x60",
            "\tProductCode string \x60json:\"product_code\"\x60", "\x7d"],
        ["type BillResponse struct \x7b", "\tID uint \x60json:\"id\"\x60", "\tTotal float64 \x60json:\"total\"\x60",
          "\tPaidAt *time.Time \x60json:\"paidAt\"\x60",
            "\tProductCode string \x60json:\"product_code\"\x60", "\x7d"]]
        typesText.toList := by
  obtain ⟨snippet, produced, inClient⟩ :=
    Snippets.exists_client (Blueprint.build "shop" default billRequest (.ofSnippet .frontendApi))
  obtain ⟨text, shown, inTypes⟩ :=
    displays_types (Blueprint.build "shop" default billRequest (.one (.layer .handler)))
  rw [← String.toList_ofList (l := text)] at inTypes
  refine ⟨by decide, snippet, String.ofList text, produced, rendered_eq_ok _ parse?_handlerTypes shown, ?_, ?_⟩
  · convert inClient using 1
    decide +kernel
  · convert inTypes using 1
    decide +kernel

end Scaffold
