import Scaffold.History.Document
import Scaffold.Proofs.Instant.RoundTrip
import Scaffold.Proofs.Json.RoundTrip
import Scaffold.Proofs.Json.Row

namespace Scaffold

open Json

/-!
# Histories that are read back

The document of a history is decoded to the history again, and so is its text.  The only condition
is on the times of the records, which are written with a year of four digits and without leap
seconds.
-/

theorem Json.decode_zuluText {t : Instant} (plain : t.IsPlain) : Decode.instant (.string t.zuluText) = .ok t := by
  unfold Decode.instant
  simp only [Instant.parse?_zuluText plain]

namespace Record

variable {record : Record}

/-- The members of the document of a record, as they are read. -/
def members (record : Record) : List (String × Reading) :=
  [("moduleName", .string record.moduleName), ("generatedAt", .string record.generatedAt.zuluText),
    ("components", .ofValue (.strings record.components)), ("modelName", .string record.modelName),
    ("tableName", .string record.tableName), ("packagePath", .string record.packagePath),
    ("generatedBy", .string record.generatedBy), ("generatedFiles", .ofValue (.strings record.generatedFiles))]

theorem ofValue_encode (record : Record) : Reading.ofValue record.encode = .object record.members none :=
  rfl

theorem takes_members (plain : record.generatedAt.IsPlain) : layout.Takes record.members := by
  have instant := (Column.check_of_decode (decode_zuluText plain) "generatedAt" []).1
  have components := (Column.check_of_decode (decode_strings record.components) "components" []).1
  have files := (Column.check_of_decode (decode_strings record.generatedFiles) "generatedFiles" []).2
  exact .cons (.cons (.cons
    (.cons (.cons (.cons (.cons (.cons Layout.takes_nil rfl rfl files) rfl rfl rfl) rfl rfl rfl)
    rfl rfl rfl) rfl rfl rfl) rfl rfl components) rfl rfl instant) rfl rfl rfl

theorem decode_encode (plain : record.generatedAt.IsPlain) : decode (.ofValue record.encode) = .ok record := by
  have taken : layout.row (.object record.members none) = .ok record.members :=
    Layout.row_of_keys (takes_members plain) rfl (by decide)
  have generatedAt : Row.get record.members "generatedAt" Decode.instant default = .ok record.generatedAt := by
    rw [Row.get_of_lookup rfl, decode_zuluText plain]
  have components : Row.get record.members "components" (Decode.list Decode.string) [] = .ok record.components := by
    rw [Row.get_of_lookup rfl, decode_strings]
  have generatedFiles : Row.get record.members "generatedFiles" (Decode.list Decode.string) [] =
      .ok record.generatedFiles := by
    rw [Row.get_of_lookup rfl, decode_strings]
  rw [ofValue_encode, decode, taken]
  dsimp only [bind, Except.bind]
  rw [generatedAt, components, generatedFiles]
  rfl

theorem isExact_encode (record : Record) : IsExact record.encode :=
  ⟨trivial, trivial, isExact_strings _, trivial, trivial, trivial, trivial, isExact_strings _, trivial⟩

end Record

namespace History

variable {history : History}

/-- The times of the records can be written without a sign and without leap seconds. -/
def HasPlainTimes (history : History) : Prop :=
  ∀ record ∈ history.records, record.generatedAt.IsPlain

/-- The members of the document of a history, as they are read. -/
def members (history : History) : List (String × Reading) :=
  [("version", .string history.version),
    ("history", .array (history.records.map (fun record => .ofValue record.encode)) none)]

theorem ofValue_encode (history : History) : Reading.ofValue history.encode = .object history.members none := by
  rw [encode, Reading.ofValue, Reading.ofMembers, Reading.ofMembers, Reading.ofMembers, Reading.ofValue,
    Reading.ofValue, ofItems_eq_map, List.map_map]
  rfl

theorem decode_encode (plain : history.HasPlainTimes) : decode (.ofValue history.encode) = .ok history := by
  have each : Decode.items Record.decode (history.records.map (fun record => .ofValue record.encode)) =
      .ok (history.records.map id) :=
    Decode.items_map (fun record member => Record.decode_encode (plain record member))
  have records : Decode.list Record.decode
      (.array (history.records.map (fun record => .ofValue record.encode)) none) = .ok history.records := by
    rw [Decode.list, each, List.map_id]
    rfl
  have known : layout.Takes history.members :=
    .cons (.cons Layout.takes_nil rfl rfl (Column.check_of_decode records "history" []).2) rfl rfl rfl
  have taken : layout.row (.object history.members none) = .ok history.members :=
    Layout.row_of_keys known rfl (by decide)
  have recordsRead : Row.get history.members "history" (Decode.list Record.decode) [] = .ok history.records := by
    rw [Row.get_of_lookup rfl, records]
  rw [ofValue_encode, decode, taken]
  dsimp only [bind, Except.bind]
  rw [recordsRead]
  rfl

theorem isExact_encode (history : History) : IsExact history.encode := by
  have records : AllExact (history.records.map Record.encode) :=
    allExact_map fun record _ => record.isExact_encode
  exact ⟨trivial, records, trivial⟩

/-- A history is read back from its text. -/
theorem parse_text (plain : history.HasPlainTimes) : parse history.text = .ok history := by
  rw [parse, text, (decodeText_text decode history.isExact_encode).1, decode_encode plain]

end History
end Scaffold
