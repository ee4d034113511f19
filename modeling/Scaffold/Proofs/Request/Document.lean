import Scaffold.Proofs.Json.RoundTrip
import Scaffold.Proofs.Json.Row
import Scaffold.Request

namespace Scaffold

open Json

/-!
# Requests that are read back

The document of a request is decoded to the request again, whatever its texts say.  The component
stands in the document under its name only, so it has to be one that some name stands for: `unknown
"model"` would come back as the layer.
-/

/-- A text that may be absent is read back, from its value or from null. -/
theorem Json.decode_optional (text : Option String) :
    Decode.optional Decode.string (.ofValue (.optional text)) = .ok text := by
  cases text <;> rfl

namespace Field

/-- The members of the document of a field, as they are read. -/
def members (field : Field) : List (String × Reading) :=
  [("name", .string field.name), ("logicalType", .string field.logicalType),
    ("storageTag", .string field.storageTag),
    ("serializationTag", .string field.serializationTag), ("validationRule", .string field.validationRule),
    ("comment", .string field.comment)]

theorem takes_members (field : Field) : layout.Takes field.members :=
  .cons (.cons (.cons (.cons (.cons (.cons Layout.takes_nil rfl rfl rfl) rfl rfl rfl) rfl rfl rfl) rfl rfl rfl)
    rfl rfl rfl) rfl rfl rfl

theorem decode_encode (field : Field) : decode (.ofValue field.encode) = .ok field := by
  have taken : layout.row (.object field.members none) = .ok field.members :=
    Layout.row_of_keys field.takes_members rfl (by decide)
  have document : Reading.ofValue field.encode = .object field.members none := rfl
  rw [document, decode, taken]
  rfl

theorem isExact_encode (field : Field) : IsExact field.encode :=
  ⟨trivial, trivial, trivial, trivial, trivial, trivial, trivial⟩

end Field

namespace Options

/-- The members of the document of the options, as they are read. -/
def members (options : Options) : List (String × Reading) :=
  [("overwriteExisting", .bool options.overwriteExisting), ("formatCode", .bool options.formatCode),
    ("optimizeImports", .bool options.optimizeImports)]

theorem takes_members (options : Options) : layout.Takes options.members :=
  .cons (.cons (.cons Layout.takes_nil rfl rfl rfl) rfl rfl rfl) rfl rfl rfl

theorem decode_encode (options : Options) : decode (.ofValue options.encode) = .ok options := by
  have taken : layout.row (.object options.members none) = .ok options.members :=
    Layout.row_of_keys options.takes_members rfl (by decide)
  have document : Reading.ofValue options.encode = .object options.members none := rfl
  rw [document, decode, taken]
  rfl

theorem isExact_encode (options : Options) : IsExact options.encode :=
  ⟨trivial, trivial, trivial, trivial⟩

end Options

namespace Component

/-- The name of a component that has one is read as that component. -/
theorem ofName_name_of_mem : ∀ entry ∈ spellings, ofName entry.2.name = entry.2 := by
  decide +kernel

/-- What a name stands for is read back from the name that it is known under. -/
theorem ofName_name (raw : String) : ofName (ofName raw).name = ofName raw := by
  cases found : spellings.lookup (canonical raw) with
  | none =>
    have kept : ofName raw = .unknown raw := by rw [ofName, found]; rfl
    rw [kept, name, kept]
  | some component =>
    have known : ofName raw = component := by rw [ofName, found]; rfl
    have listed : (canonical raw, component) ∈ spellings := by
      obtain ⟨before, after, split, -⟩ := List.lookup_eq_some_iff.1 found
      rw [split]
      exact List.mem_append_right before List.mem_cons_self
    rw [known]
    exact ofName_name_of_mem (canonical raw, component) listed

end Component

namespace Request

variable {request : Request}

/-- The members of the document of a request, as they are read. -/
def members (request : Request) : List (String × Reading) :=
  [("componentType", .string request.component.name), ("modelName", .string request.modelName),
    ("displayName", .ofValue (.optional request.displayName)),
    ("fields", .array (request.fields.map fun field => .ofValue field.encode) none),
    ("tableName", .ofValue (.optional request.tableName)), ("packagePath", .string request.packagePath),
    ("options", .ofValue request.options.encode)]

theorem ofValue_encode (request : Request) : Reading.ofValue request.encode = .object request.members none := by
  simp only [encode, members, Reading.ofValue, Reading.ofMembers, ofItems_eq_map, List.map_map]
  rfl

theorem decode_fields (fields : List Field) :
    Decode.list Field.decode (.array (fields.map fun field => .ofValue field.encode) none) = .ok fields := by
  have each : Decode.items Field.decode (fields.map fun field => .ofValue field.encode) = .ok (fields.map id) :=
    Decode.items_map fun field _ => field.decode_encode
  rw [Decode.list, each, List.map_id]
  rfl

theorem takes_members (request : Request) : layout.Takes request.members := by
  have display := (Column.check_of_decode (decode_optional request.displayName) "displayName"
    ["model_name_cn", "display_name"]).2
  have fields := (Column.check_of_decode (decode_fields request.fields) "fields" []).2
  have table := (Column.check_of_decode (decode_optional request.tableName) "tableName" ["table_name"]).2
  have options := (Column.check_of_decode request.options.decode_encode "options" []).2
  exact .cons (.cons (.cons
    (.cons (.cons (.cons (.cons Layout.takes_nil rfl rfl options) rfl rfl rfl) rfl rfl table)
    rfl rfl fields) rfl rfl display) rfl rfl rfl) rfl rfl rfl

/-- The document of a request whose component has a name is decoded to the request. -/
theorem decode_encode (named : Component.ofName request.component.name = request.component) :
    decode (.ofValue request.encode) = .ok request := by
  have taken : layout.row (.object request.members none) = .ok request.members :=
    Layout.row_of_keys request.takes_members rfl (by decide)
  have component : Row.get request.members "componentType" Component.decode (.unknown "") =
      .ok request.component := by
    rw [Row.get_of_lookup rfl]
    exact congrArg Except.ok named
  have display : Row.get request.members "displayName" (Decode.optional Decode.string) none =
      .ok request.displayName := by
    rw [Row.get_of_lookup rfl, decode_optional]
  have fields : Row.get request.members "fields" (Decode.list Field.decode) [] = .ok request.fields := by
    rw [Row.get_of_lookup rfl, decode_fields]
  have table : Row.get request.members "tableName" (Decode.optional Decode.string) none =
      .ok request.tableName := by
    rw [Row.get_of_lookup rfl, decode_optional]
  have options : Row.get request.members "options" Options.decode {} = .ok request.options := by
    rw [Row.get_of_lookup rfl, Options.decode_encode]
  rw [ofValue_encode, decode, taken]
  dsimp only [bind, Except.bind]
  rw [component, display, fields, table, options]
  rfl

theorem isExact_encode (request : Request) : IsExact request.encode := by
  have optional (text : Option String) : IsExact (.optional text) := by cases text <;> trivial
  have fields : AllExact (request.fields.map Field.encode) := allExact_map fun field _ => field.isExact_encode
  exact ⟨trivial, trivial, optional _, fields, optional _, trivial, request.options.isExact_encode, trivial⟩

end Request
end Scaffold
