import Scaffold.Proofs.Json.Spelling
import Scaffold.Proofs.Request.Document

namespace Scaffold

open Json

/-!
# Requests that are spelled otherwise

A request may be written with its keys in any order and in any of their spellings, with further keys
that mean nothing, or as the array of its values; and so may its fields and its options.  Each step
from one of these documents to another leaves the request that is decoded the same, so any number of
steps does.

A document that gives a column of the request, of a field or of the options twice is refused,
whatever the two spellings are.
-/

/-- What is decoded from a list stays when one item is rewritten in a way that its decoder does not
notice. -/
theorem Json.Decode.items_rewrite {α : Type} {decode : Decoder α} {item other : Reading}
    {before after : List Reading}
    {values : List α} (agrees : ∀ value, decode item = .ok value → decode other = .ok value)
    (decoded : items decode (before ++ item :: after) = .ok values) :
    items decode (before ++ other :: after) = .ok values := by
  induction before generalizing values with
  | nil =>
    rw [List.nil_append, items, bind_eq_ok] at decoded ⊢
    exact decoded.imp fun value rest => rest.imp_left (agrees value)
  | cons first rest ih =>
    rw [List.cons_append, items, bind_eq_ok] at decoded ⊢
    refine decoded.imp fun value both => both.imp_right fun others => ?_
    rw [bind_eq_ok] at others ⊢
    exact others.imp fun values both => both.imp_left ih

theorem Json.Decode.exists_of_mem_items {α : Type} {decode : Decoder α} {readings : List Reading} {values : List α}
    (decoded : items decode readings = .ok values) {reading : Reading} (member : reading ∈ readings) :
    ∃ value, decode reading = .ok value := by
  induction readings generalizing values with
  | nil => cases member
  | cons first rest ih =>
    rw [items, bind_eq_ok] at decoded
    obtain ⟨value, own, others⟩ := decoded
    rw [bind_eq_ok] at others
    obtain ⟨values, later, -⟩ := others
    rcases List.mem_cons.1 member with rfl | listed
    · exact ⟨value, own⟩
    · exact ih later listed

theorem Json.Decode.list_eq_ok {α : Type} {decode : Decoder α} {readings : List Reading} {flaw : Option Flaw}
    {values : List α} : list decode (.array readings flaw) = .ok values ↔
      items decode readings = .ok values ∧ flaw = none := by
  rw [list, bind_eq_ok]
  cases flaw with
  | none =>
    constructor
    · rintro ⟨found, decoded, same⟩
      cases same
      exact ⟨decoded, rfl⟩
    · rintro ⟨decoded, -⟩
      exact ⟨values, decoded, rfl⟩
  | some flaw =>
    constructor
    · rintro ⟨_, _, absurd⟩
      cases absurd
    · rintro ⟨_, absurd⟩
      cases absurd

/-- A column takes a value exactly when the value is decoded. -/
theorem Json.exists_of_check {α : Type} {decode : Decoder α} {reading : Reading} :
    ((decode reading).map fun _ => ()) = .ok () ↔ ∃ value, decode reading = .ok value := by
  cases decode reading with
  | error fault => exact ⟨nofun, nofun⟩
  | ok value => exact ⟨fun _ => ⟨value, rfl⟩, fun _ => rfl⟩

/-! ## Fields -/

namespace Field

/-- What stands for the columns of a field that are left out. -/
def blank : Row :=
  ({ name := "", logicalType := "" } : Field).members

/-- One way to write a field otherwise. -/
abbrev Rewrites : Reading → Reading → Prop :=
  layout.Rewrites blank fun _ _ _ => False

theorem supports : layout.Supports blank fun _ _ _ => False where
  named := by decide
  stands := by
    simp only [layout, List.forall_mem_cons, List.not_mem_nil, false_imp_iff, implies_true, and_true]
    exact ⟨nofun, nofun, fun _ => ⟨_, rfl, rfl⟩, fun _ => ⟨_, rfl, rfl⟩, fun _ => ⟨_, rfl, rfl⟩,
      fun _ => ⟨_, rfl, rfl⟩⟩
  keeps := fun _ _ _ _ => False.elim

theorem decode_eq_ok {reading : Reading} {field : Field} : decode reading = .ok field ↔
    ∃ row, layout.row reading = .ok row ∧ row.get "name" Decode.string "" = .ok field.name ∧
      row.get "logicalType" Decode.string "" = .ok field.logicalType ∧
      row.get "storageTag" Decode.string "" = .ok field.storageTag ∧
      row.get "serializationTag" Decode.string "" = .ok field.serializationTag ∧
      row.get "validationRule" Decode.string "" = .ok field.validationRule ∧
      row.get "comment" Decode.string "" = .ok field.comment := by
  simp only [decode, bind_eq_ok]
  constructor
  · rintro ⟨row, taken, name, hasName, type, hasType, storage, hasStorage, key, hasKey, rule, hasRule,
      comment, hasComment, same⟩
    cases same
    exact ⟨row, taken, hasName, hasType, hasStorage, hasKey, hasRule, hasComment⟩
  · rintro ⟨row, taken, hasName, hasType, hasStorage, hasKey, hasRule, hasComment⟩
    exact ⟨row, taken, _, hasName, _, hasType, _, hasStorage, _, hasKey, _, hasRule, _, hasComment, rfl⟩

theorem decode_of_rewrites {reading other : Reading} (rewrites : Rewrites reading other) {field : Field}
    (decoded : decode reading = .ok field) : decode other = .ok field := by
  obtain ⟨row, taken, name, type, storage, key, rule, comment⟩ := decode_eq_ok.1 decoded
  obtain ⟨after, found, follows⟩ := Layout.row_of_rewrites supports rewrites taken
  have keeps (column : String) (listed : column ∈ layout.columns.map Column.name) {value : String}
      (stands : ∀ reading, blank.lookup column = some reading → Decode.string reading = .ok "")
      (had : row.get column Decode.string "" = .ok value) : after.get column Decode.string "" = .ok value :=
    (follows column listed).get (fun _ _ => False.elim) stands had
  refine decode_eq_ok.2 ⟨after, found, keeps _ (by decide) ?_ name, keeps _ (by decide) ?_ type,
    keeps _ (by decide) ?_ storage, keeps _ (by decide) ?_ key, keeps _ (by decide) ?_ rule,
    keeps _ (by decide) ?_ comment⟩
  all_goals
    rintro _ ⟨⟩
    rfl

end Field

/-! ## Options -/

namespace Options

/-- What stands for the columns of the options that are left out. -/
def blank : Row :=
  ({} : Options).members

/-- One way to write the options otherwise. -/
abbrev Rewrites : Reading → Reading → Prop :=
  layout.Rewrites blank fun _ _ _ => False

theorem supports : layout.Supports blank fun _ _ _ => False where
  named := by decide
  stands := by
    simp only [layout, List.forall_mem_cons, List.not_mem_nil, false_imp_iff, implies_true, and_true]
    exact ⟨fun _ => ⟨_, rfl, rfl⟩, fun _ => ⟨_, rfl, rfl⟩, fun _ => ⟨_, rfl, rfl⟩⟩
  keeps := fun _ _ _ _ => False.elim

theorem decode_eq_ok {reading : Reading} {options : Options} : decode reading = .ok options ↔
    ∃ row, layout.row reading = .ok row ∧
      row.get "overwriteExisting" Decode.bool false = .ok options.overwriteExisting ∧
      row.get "formatCode" Decode.bool true = .ok options.formatCode ∧
      row.get "optimizeImports" Decode.bool true = .ok options.optimizeImports := by
  simp only [decode, bind_eq_ok]
  constructor
  · rintro ⟨row, taken, overwrite, hasOverwrite, format, hasFormat, optimize, hasOptimize, same⟩
    cases same
    exact ⟨row, taken, hasOverwrite, hasFormat, hasOptimize⟩
  · rintro ⟨row, taken, hasOverwrite, hasFormat, hasOptimize⟩
    exact ⟨row, taken, _, hasOverwrite, _, hasFormat, _, hasOptimize, rfl⟩

theorem decode_of_rewrites {reading other : Reading} (rewrites : Rewrites reading other) {options : Options}
    (decoded : decode reading = .ok options) : decode other = .ok options := by
  obtain ⟨row, taken, overwrite, format, optimize⟩ := decode_eq_ok.1 decoded
  obtain ⟨after, found, follows⟩ := Layout.row_of_rewrites supports rewrites taken
  have keeps (column : String) (listed : column ∈ layout.columns.map Column.name) {default value : Bool}
      (stands : ∀ reading, blank.lookup column = some reading → Decode.bool reading = .ok default)
      (had : row.get column Decode.bool default = .ok value) : after.get column Decode.bool default = .ok value :=
    (follows column listed).get (fun _ _ => False.elim) stands had
  refine decode_eq_ok.2 ⟨after, found, keeps _ (by decide) ?_ overwrite, keeps _ (by decide) ?_ format,
    keeps _ (by decide) ?_ optimize⟩
  all_goals
    rintro _ ⟨⟩
    rfl

end Options

/-! ## Requests -/

namespace Request

/-- What stands for the columns of a request that are left out. -/
def blank : Row :=
  ({ component := .unknown "", modelName := "" } : Request).members

/-- How a value within a request may be rewritten: one of the fields, or the options. -/
inductive Within (name : String) : Reading → Reading → Prop
  | field (column : name = "fields") (before after : List Reading) {item other : Reading}
    (rewritten : Field.Rewrites item other) :
    Within name (.array (before ++ item :: after) none) (.array (before ++ other :: after) none)
  | options (column : name = "options") {value other : Reading} (rewritten : Options.Rewrites value other) :
    Within name value other

/-- One way to write a request otherwise. -/
abbrev Rewrites : Reading → Reading → Prop :=
  layout.Rewrites blank Within

/-- The other values of a request are texts, which have one form only. -/
theorem not_within {name : String} (aside : name ∉ ["fields", "options"]) (value other : Reading) :
    ¬ Within name value other := by
  rintro (⟨rfl⟩ | ⟨rfl⟩) <;> exact aside (by decide)

theorem decode_fields_of_within {value other : Reading} (within : Within "fields" value other) {fields : List Field}
    (decoded : Decode.list Field.decode value = .ok fields) : Decode.list Field.decode other = .ok fields := by
  cases within with
  | options column => exact absurd column (by decide)
  | field column before after rewritten =>
    rw [Decode.list_eq_ok] at decoded ⊢
    exact decoded.imp_left (Decode.items_rewrite fun _ => Field.decode_of_rewrites rewritten)

theorem decode_options_of_within {value other : Reading} (within : Within "options" value other) {options : Options}
    (decoded : Options.decode value = .ok options) : Options.decode other = .ok options := by
  cases within with
  | field column => exact absurd column (by decide)
  | options column rewritten => exact Options.decode_of_rewrites rewritten decoded

theorem supports : layout.Supports blank Within where
  named := by decide
  stands := by
    simp only [layout, List.forall_mem_cons, List.not_mem_nil, false_imp_iff, implies_true, and_true]
    exact ⟨nofun, nofun, fun _ => ⟨_, rfl, rfl⟩, fun _ => ⟨_, rfl, rfl⟩, fun _ => ⟨_, rfl, rfl⟩,
      fun _ => ⟨_, rfl, rfl⟩, fun _ => ⟨_, rfl, rfl⟩⟩
  keeps := by
    simp only [layout, List.forall_mem_cons, List.not_mem_nil, false_imp_iff, implies_true, and_true]
    have plain {column : Column} (aside : column.name ∉ ["fields", "options"]) (value other : Reading)
        (within : Within column.name value other) (_ : column.check value = .ok ()) : column.check other = .ok () :=
      absurd within (not_within aside value other)
    refine ⟨plain (by decide), plain (by decide), plain (by decide), fun value other within =>
      ?_, plain (by decide), plain (by decide), fun value other within => ?_⟩
    · simp only [Column.defaulted, exists_of_check]
      exact Exists.imp fun _ => decode_fields_of_within within
    · simp only [Column.defaulted, exists_of_check]
      exact Exists.imp fun _ => decode_options_of_within within

theorem decode_eq_ok {reading : Reading} {request : Request} : decode reading = .ok request ↔
    ∃ row, layout.row reading = .ok row ∧
      row.get "componentType" Component.decode (.unknown "") = .ok request.component ∧
      row.get "modelName" Decode.string "" = .ok request.modelName ∧
      row.get "displayName" (Decode.optional Decode.string) none = .ok request.displayName ∧
      row.get "fields" (Decode.list Field.decode) [] = .ok request.fields ∧
      row.get "tableName" (Decode.optional Decode.string) none = .ok request.tableName ∧
      row.get "packagePath" Decode.string "" = .ok request.packagePath ∧
      row.get "options" Options.decode {} = .ok request.options := by
  simp only [decode, bind_eq_ok]
  constructor
  · rintro ⟨row, taken, component, hasComponent, model, hasModel, display, hasDisplay, fields,
      hasFields, table, hasTable, path, hasPath, options, hasOptions, same⟩
    cases same
    exact ⟨row, taken, hasComponent, hasModel, hasDisplay, hasFields, hasTable, hasPath, hasOptions⟩
  · rintro ⟨row, taken, hasComponent, hasModel, hasDisplay, hasFields, hasTable, hasPath, hasOptions⟩
    exact ⟨row, taken, _, hasComponent, _, hasModel, _, hasDisplay, _, hasFields, _, hasTable, _, hasPath, _,
      hasOptions, rfl⟩

/-- One step does not change the request. -/
theorem decode_of_rewrites {reading other : Reading} (rewrites : Rewrites reading other) {request : Request}
    (decoded : decode reading = .ok request) : decode other = .ok request := by
  obtain ⟨row, taken, component, model, display, fields, table, path, options⟩ := decode_eq_ok.1 decoded
  obtain ⟨after, found, follows⟩ := Layout.row_of_rewrites supports rewrites taken
  have plain {α : Type} (column : String) (listed : column ∈ layout.columns.map Column.name)
      (aside : column ∉ ["fields", "options"]) {decode : Decoder α} {default value : α}
      (stands : ∀ reading, blank.lookup column = some reading → decode reading = .ok default)
      (had : row.get column decode default = .ok value) : after.get column decode default = .ok value :=
    (follows column listed).get (fun _ _ within => absurd within (not_within aside _ _)) stands had
  refine decode_eq_ok.2 ⟨after, found, ?_, ?_, ?_, ?_, ?_, ?_, ?_⟩
  · exact plain _ (by decide) (by decide) (by rintro _ ⟨⟩; rfl) component
  · exact plain _ (by decide) (by decide) (by rintro _ ⟨⟩; rfl) model
  · exact plain _ (by decide) (by decide) (by rintro _ ⟨⟩; rfl) display
  · exact (follows "fields" (by decide)).get (fun _ _ within _ => decode_fields_of_within within)
      (by rintro _ ⟨⟩; rfl) fields
  · exact plain _ (by decide) (by decide) (by rintro _ ⟨⟩; rfl) table
  · exact plain _ (by decide) (by decide) (by rintro _ ⟨⟩; rfl) path
  · exact (follows "options" (by decide)).get (fun _ _ within _ => decode_options_of_within within)
      (by rintro _ ⟨⟩; rfl)
      options

/-- Any number of steps does not change the request. -/
theorem decode_of_rewritten {reading other : Reading} (rewritten : Relation.ReflTransGen Rewrites reading other)
    {request : Request} (decoded : decode reading = .ok request) : decode other = .ok request := by
  induction rewritten with
  | refl => exact decoded
  | tail _ last ih => exact decode_of_rewrites last ih

/-! ## One column twice -/

/-- Two keys of one object name the same column: in the request itself, in one of its fields, or in
its options. -/
inductive Clashes : Reading → Prop
  | own {members : List (String × Reading)} (flaw : Option Flaw) (repeats : layout.Repeats members) :
    Clashes (.object members flaw)
  | field {members inner : List (String × Reading)} {items : List Reading} {key : String}
      (flaw listFlaw innerFlaw : Option Flaw)
      (known : (layout.column? key).map Column.name = some "fields")
      (listed : (key, .array items listFlaw) ∈ members)
      (member : .object inner innerFlaw ∈ items) (repeats : Field.layout.Repeats inner) :
      Clashes (.object members flaw)
  | options {members inner : List (String × Reading)} {key : String} (flaw innerFlaw : Option Flaw)
      (known : (layout.column? key).map Column.name = some "options")
      (listed : (key, .object inner innerFlaw) ∈ members)
      (repeats : Options.layout.Repeats inner) : Clashes (.object members flaw)

/-- The value under a key of the fields or of the options is decoded with the request. -/
theorem exists_of_suits {key : String} {value : Reading} (suits : layout.Suits (key, value)) :
    ((layout.column? key).map Column.name = some "fields" → ∃ fields, Decode.list Field.decode value = .ok fields) ∧
      ((layout.column? key).map Column.name = some "options" → ∃ options, Options.decode value = .ok options) := by
  cases known : layout.column? key with
  | none => exact ⟨nofun, nofun⟩
  | some column =>
    rw [Layout.suits_of_known known] at suits
    have member := Layout.mem_columns_of_column? known
    rw [Option.map_some, Option.some_inj, Option.some_inj]
    simp only [layout, List.mem_cons, List.not_mem_nil, or_false] at member
    rcases member with rfl | rfl | rfl | rfl | rfl | rfl | rfl
    all_goals first
      | exact ⟨fun _ => exists_of_check.1 suits, nofun⟩
      | exact ⟨nofun, fun _ => exists_of_check.1 suits⟩
      | exact ⟨nofun, nofun⟩

theorem decode_of_clashes {reading : Reading} (clashes : Clashes reading) (request : Request) :
    decode reading ≠ .ok request := by
  intro decoded
  obtain ⟨row, taken, -⟩ := decode_eq_ok.1 decoded
  cases clashes with
  | own flaw repeats => exact Layout.row_of_repeats repeats flaw taken
  | field flaw listFlaw innerFlaw known listed member repeats =>
    obtain ⟨fields, all⟩ := (exists_of_suits (Layout.suits_of_row taken _ listed)).1 known
    obtain ⟨field, one⟩ := Decode.exists_of_mem_items (Decode.list_eq_ok.1 all).1 member
    obtain ⟨inner, own, -⟩ := Field.decode_eq_ok.1 one
    exact Layout.row_of_repeats repeats innerFlaw own
  | options flaw innerFlaw known listed repeats =>
    obtain ⟨options, all⟩ := (exists_of_suits (Layout.suits_of_row taken _ listed)).2 known
    obtain ⟨inner, own, -⟩ := Options.decode_eq_ok.1 all
    exact Layout.row_of_repeats repeats innerFlaw own

/-! ## Documents and texts -/

theorem parse_eq_ok {text : String} {request : Request} :
    parse text = .ok request ↔ decode (read text).reading = .ok request ∧ (read text).trailing = false := by
  rw [parse, decodeText]
  dsimp only [bind, Except.bind]
  cases decode (read text).reading with
  | error fault =>
    constructor
    · intro absurd
      cases absurd
    · rintro ⟨absurd, -⟩
      cases absurd
  | ok value => cases (read text).trailing <;> simp

/-- A document, or a text that holds it, is decoded to the same request however it is spelled, and
to none when it gives one column twice. -/
theorem decode_spelling {reading : Reading} {request : Request} :
    (decode reading = .ok request →
      ∀ other, Relation.ReflTransGen Rewrites reading other → decode other = .ok request) ∧
    (Clashes reading → decode reading ≠ .ok request) ∧
    ∀ text, (read text).reading = reading →
      (parse text = .ok request → ∀ other, Relation.ReflTransGen Rewrites reading (read other).reading →
        (read other).trailing = false → parse other = .ok request) ∧
      (Clashes reading → parse text ≠ .ok request) := by
  refine ⟨fun decoded other rewritten => decode_of_rewritten rewritten decoded,
    fun clashes => decode_of_clashes clashes request, ?_⟩
  rintro text rfl
  refine ⟨fun parsed other rewritten whole => ?_, fun clashes parsed => ?_⟩
  · exact parse_eq_ok.2 ⟨decode_of_rewritten rewritten (parse_eq_ok.1 parsed).1, whole⟩
  · exact decode_of_clashes clashes request (parse_eq_ok.1 parsed).1

/-- A request in legacy spelling. -/
def legacyDocument : Value :=
  .object [("component_type", .string "model"), ("model_name", .string "Product"),
    ("fields", .array [.object
      [("name", .string "Name"), ("type", .string "string"), ("gorm_tag", .string "size:100")]])]

/-- The same request with its keys in another order and spelling, a key of no meaning, and its field
as an array. -/
def modernDocument : Value :=
  .object [("modelName", .string "Product"), ("note", .null),
    ("fields", .array [.array
      [.string "Name", .string "string", .string "size:100", .string "", .string "", .string ""]]),
    ("componentType", .string "model")]

/-- The same request once more, with the type of its field given in two spellings. -/
def doubledDocument : Value :=
  .object [("component_type", .string "model"), ("model_name", .string "Product"),
    ("fields", .array [.object
      [("type", .string "string"), ("name", .string "Name"), ("logicalType", .string "string")]])]

theorem rewritten_legacyDocument :
    Relation.ReflTransGen Rewrites (.ofValue legacyDocument) (.ofValue modernDocument) :=
  .head (.inside [("component_type", .string "model"), ("model_name", .string "Product")] [] rfl
      (.field rfl [] [] (.enumerate _)))
    (.head (.respell [] _ _ (by rfl : _ = some _) (by rfl : layout.column? "componentType" = _))
      (.head (.respell [_] _ _ (by rfl : _ = some _) (by rfl : layout.column? "modelName" = _))
        (.head (.reorder (List.perm_append_comm : ([_] ++ [_, _]).Perm _))
          (.single (.extend [_] [_, _] (by rfl : layout.column? "note" = none) rfl)))))

theorem clashes_doubledDocument : Clashes (.ofValue doubledDocument) :=
  .field none none none (by rfl) (.tail _ (.tail _ (.head _))) (.head _)
    ⟨[], "type", _, [("name", _)], "logicalType", _, [], _, rfl, rfl, rfl⟩

theorem decode_spelling_legacyDocument :
    (∃ request, parse legacyDocument.compactText = .ok request ∧ parse modernDocument.compactText = .ok request ∧
      request.fields = [{ name := "Name", logicalType := "string", storageTag := "size:100" }]) ∧
    ∀ request, parse doubledDocument.compactText ≠ .ok request := by
  have legacy : read legacyDocument.compactText = ⟨.ofValue legacyDocument, false⟩ :=
    read_compactText (by simp [legacyDocument, IsExact, AllExact, AllMembersExact])
  have modern : read modernDocument.compactText = ⟨.ofValue modernDocument, false⟩ :=
    read_compactText (by simp [modernDocument, IsExact, AllExact, AllMembersExact])
  have doubled : read doubledDocument.compactText = ⟨.ofValue doubledDocument, false⟩ :=
    read_compactText (by simp [doubledDocument, IsExact, AllExact, AllMembersExact])
  have parsed : parse legacyDocument.compactText = .ok
      { component := .ofName "model", modelName := "Product",
        fields := [{ name := "Name", logicalType := "string", storageTag := "size:100" }] } := by
    rw [parse_eq_ok, legacy]
    exact ⟨by rfl, rfl⟩
  refine ⟨⟨_, parsed, ?_, rfl⟩, fun request => ?_⟩
  · refine (decode_spelling.2.2 _ rfl).1 parsed _ ?_ ?_
    · rw [legacy, modern]
      exact rewritten_legacyDocument
    · rw [modern]
  · refine (decode_spelling.2.2 _ rfl).2 ?_
    rw [doubled]
    exact clashes_doubledDocument

end Request
end Scaffold
