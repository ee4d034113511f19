import Mathlib.Data.List.Nodup
import Scaffold.Validation

namespace Scaffold
namespace Validation

/-!
# The rules behind a check

A check of a request goes through its fields with a ledger in hand.  The rules of this module need
no ledger: whether one of them is broken is said by the request alone, for a field by the field and
those before it.  The check reports the error of every broken rule, in the order of the rules.

The ledger skips fields without a name and fields with a repeated name.  It loses nothing by that: a
repeated name adds neither a name nor an exported identifier, and fields without a name are compared
with nothing.
-/

/-- One thing that a request is checked for: whether it is amiss, and what is said about it then. -/
structure Rule where
  broken : Bool
  error : FieldError

/-- The errors of the broken rules. -/
def report (rules : List Rule) : FieldErrors :=
  (rules.filter Rule.broken).map Rule.error

@[simp] theorem report_nil : report [] = [] := rfl

@[simp] theorem report_cons (rule : Rule) (rest : List Rule) :
    report (rule :: rest) = (if rule.broken then [rule.error] else []) ++ report rest := by
  cases broken : rule.broken <;> simp [report, broken]

@[simp] theorem report_append (first second : List Rule) :
    report (first ++ second) = report first ++ report second := by
  simp [report]

theorem mem_report {error : FieldError} {rules : List Rule} :
    error ∈ report rules ↔ ∃ rule ∈ rules, rule.broken = true ∧ rule.error = error := by
  simp [report, and_assoc]

theorem report_eq_nil {rules : List Rule} : report rules = [] ↔ ∀ rule ∈ rules, rule.broken = false := by
  simp [report]

/-- The rules, where they apply. -/
def onlyIf (applies : Bool) (rules : List Rule) : List Rule :=
  rules.map fun rule => { rule with broken := applies && rule.broken }

@[simp] theorem report_onlyIf (applies : Bool) (rules : List Rule) :
    report (onlyIf applies rules) = if applies then report rules else [] := by
  cases applies <;> simp [onlyIf, report]

/-! ## The rules -/

/-- The rules for a component. -/
def componentRules (component : Component) : List Rule :=
  [⟨!component.isKnown, ⟨"componentType", "unknown component type '" ++ component.name ++ "'"⟩⟩]

/-- The rules for the spelling of a name. -/
def spellingRules (field name : String) : List Rule := [
  ⟨!Naming.isIdentifier name, ⟨field, "'" ++ name ++ "' is not a valid identifier"⟩⟩,
  ⟨Naming.isReserved name, ⟨field, "'" ++ name ++ "' is a reserved word"⟩⟩]

/-- The rules for a model name. -/
def modelNameRules (name : String) : List Rule :=
  ⟨name.isEmpty, ⟨"modelName", "must not be empty"⟩⟩ ::
    onlyIf (!name.isEmpty)
      (⟨maxModelNameLength < name.length, ⟨"modelName", "must be at most 50 characters"⟩⟩ ::
        (spellingRules "modelName" name ++
          [⟨!name.toList.head?.any Naming.isCapital, ⟨"modelName", "must start with an uppercase letter"⟩⟩]))

/-- The rules for the number of fields. -/
def countRules (fields : List Field) : List Rule := [
  ⟨fields.isEmpty, ⟨"fields", "at least one field is required"⟩⟩,
  ⟨maxFields < fields.length, ⟨"fields", "at most 50 fields are allowed"⟩⟩]

/-- What errors about the name of a field are listed under. -/
def nameKey (index : Nat) : String :=
  "fields[" ++ toString index ++ "].name"

/-- What errors about the logical type of a field are listed under. -/
def typeKey (index : Nat) : String :=
  "fields[" ++ toString index ++ "].logicalType"

/-- The error of a field that has the name of an earlier one. -/
def repeatedName (index : Nat) (name : String) : FieldError :=
  ⟨nameKey index, "duplicate field name '" ++ name ++ "'"⟩

/-- The error of a field whose name becomes the exported identifier of the field at `first`. -/
def alikeName (index : Nat) (name : String) (first : Nat) : FieldError :=
  ⟨nameKey index, "'" ++ name ++ "' renders as '" ++ Naming.sanitize name ++ "', same as fields["
    ++ toString first ++ "]"⟩

/-- Whether the field has a name, and the exported identifier. -/
def exportsAs (identifier : String) (field : Field) : Bool :=
  !field.name.isEmpty && Naming.sanitize field.name == identifier

/-- Whether one of the fields has the name. -/
def isTaken (earlier : List Field) (name : String) : Bool :=
  earlier.any fun other => other.name == name

/-- The rules for the name of a field, given the fields before it. -/
def nameRules (earlier : List Field) (name : String) : List Rule :=
  let index := earlier.length
  ⟨name.isEmpty, ⟨nameKey index, "must not be empty"⟩⟩ ::
    onlyIf (!name.isEmpty)
      (spellingRules (nameKey index) name ++ [⟨isTaken earlier name, repeatedName index name⟩] ++
        onlyIf (!isTaken earlier name)
          (match earlier.findIdx? (exportsAs (Naming.sanitize name)) with
          | some first => [⟨true, alikeName index name first⟩]
          | none => []))

/-- The rules for a field, given the fields before it. -/
def fieldRules (earlier : List Field) (field : Field) : List Rule :=
  nameRules earlier field.name ++
    [⟨Text.blank field.logicalType, ⟨typeKey earlier.length, "must not be empty"⟩⟩]

/-- The rules for fields that follow earlier ones. -/
def fieldRulesFrom (earlier : List Field) : List Field → List Rule
  | [] => []
  | field :: rest => fieldRules earlier field ++ fieldRulesFrom (earlier ++ [field]) rest

/-- The rules for a table name. -/
def tableRules (name : String) : List Rule :=
  onlyIf (!name.isEmpty) [
    ⟨maxTableNameLength < name.utf8ByteSize, ⟨"tableName", "must be at most 64 characters"⟩⟩,
    ⟨!name.toList.all isTableChar, ⟨"tableName", "may only contain lowercase letters, digits and underscores"⟩⟩]

/-- The rules for a request, in the order in which it is checked. -/
def rules (request : Request) : List Rule :=
  componentRules request.component ++ modelNameRules request.modelName ++ countRules request.fields ++
    fieldRulesFrom [] request.fields ++ (request.tableName.map tableRules).getD []

/-! ## What the ledger knows -/

/-- The ledger answers as the earlier fields do. -/
structure Tracks (earlier : List Field) (ledger : Ledger) : Prop where
  names : ∀ name, name ≠ "" → ledger.names.contains name = isTaken earlier name
  identifiers : ∀ identifier, ledger.identifiers.lookup identifier = earlier.findIdx? (exportsAs identifier)

theorem tracks_nil : Tracks [] {} where
  names := fun _ _ => rfl
  identifiers := fun _ => rfl

theorem exportsAs_sanitize {field : Field} (named : field.name ≠ "") :
    exportsAs (Naming.sanitize field.name) field = true := by
  simp [exportsAs, named]

/-- A field whose exported identifier some earlier field has is no first one. -/
theorem findIdx?_append_of_known {earlier : List Field} {field : Field}
    (known : field.name = "" ∨ earlier.findIdx? (exportsAs (Naming.sanitize field.name)) ≠ none)
    (identifier : String) :
    (earlier ++ [field]).findIdx? (exportsAs identifier) = earlier.findIdx? (exportsAs identifier) := by
  rw [List.findIdx?_append]
  by_cases same : exportsAs identifier field = true
  · obtain ⟨named, rfl⟩ : field.name ≠ "" ∧ Naming.sanitize field.name = identifier := by
      simpa [exportsAs] using same
    rcases known with unnamed | known
    · exact absurd unnamed named
    · obtain ⟨first, found⟩ := Option.ne_none_iff_exists'.1 known
      rw [found]
      rfl
  · simp [same]

theorem isTaken_append (earlier : List Field) (field : Field) (name : String) :
    isTaken (earlier ++ [field]) name = (isTaken earlier name || field.name == name) := by
  simp [isTaken]

theorem findIdx?_ne_none_of_isTaken {earlier : List Field} {name : String} (named : name ≠ "")
    (taken : isTaken earlier name = true) : earlier.findIdx? (exportsAs (Naming.sanitize name)) ≠ none := by
  obtain ⟨other, member, rfl⟩ : ∃ other ∈ earlier, other.name = name := by simpa [isTaken] using taken
  intro absent
  have differs := List.findIdx?_eq_none_iff.1 absent other member
  rw [exportsAs_sanitize named] at differs
  exact Bool.noConfusion differs

theorem Tracks.append_of_unnamed {earlier : List Field} {ledger : Ledger}
    (tracks : Tracks earlier ledger) {field : Field}
    (unnamed : field.name = "") : Tracks (earlier ++ [field]) ledger where
  names := fun name named => by
    rw [isTaken_append, tracks.names name named, unnamed]
    simp [Ne.symm named]
  identifiers := fun identifier => by
    rw [findIdx?_append_of_known (.inl unnamed), tracks.identifiers]

theorem Tracks.append_of_taken {earlier : List Field} {ledger : Ledger}
    (tracks : Tracks earlier ledger) {field : Field}
    (named : field.name ≠ "") (taken : isTaken earlier field.name = true) : Tracks (earlier ++ [field]) ledger where
  names := fun name _ => by
    rw [isTaken_append, tracks.names name ‹_›]
    by_cases same : field.name = name
    · simp [← same, taken]
    · simp [same]
  identifiers := fun identifier => by
    rw [findIdx?_append_of_known (.inr (findIdx?_ne_none_of_isTaken named taken)), tracks.identifiers]

theorem Tracks.contains_append {earlier : List Field} {ledger : Ledger}
    (tracks : Tracks earlier ledger) (field : Field)
    {name : String} (named : name ≠ "") :
    (ledger.names ++ [field.name]).contains name = isTaken (earlier ++ [field]) name := by
  rw [isTaken_append, ← tracks.names name named, List.contains_append, List.contains_cons, List.contains_nil,
    Bool.or_false, BEq.comm]

theorem Tracks.append_of_alike {earlier : List Field} {ledger : Ledger}
    (tracks : Tracks earlier ledger) {field : Field}
    (alike : earlier.findIdx? (exportsAs (Naming.sanitize field.name)) ≠ none) :
    Tracks (earlier ++ [field]) { ledger with names := ledger.names ++ [field.name] } where
  names := fun _ named => tracks.contains_append field named
  identifiers := fun identifier => by
    rw [findIdx?_append_of_known (.inr alike)]
    exact tracks.identifiers identifier

/-- Looking up finds the first entry, so an entry may be added even when its identifier is known. -/
theorem Tracks.append_entry {earlier : List Field} {ledger : Ledger}
    (tracks : Tracks earlier ledger) {field : Field}
    (named : field.name ≠ "") :
    Tracks (earlier ++ [field]) ⟨ledger.names ++ [field.name],
      ledger.identifiers ++ [(Naming.sanitize field.name, earlier.length)]⟩ where
  names := fun _ named => tracks.contains_append field named
  identifiers := fun identifier => by
    rw [List.lookup_append, List.findIdx?_append, tracks.identifiers]
    congr 1
    by_cases same : Naming.sanitize field.name = identifier
    · simp [exportsAs, named, same]
    · have differs : (identifier == Naming.sanitize field.name) = false := by simpa using Ne.symm same
      simp [exportsAs, same, List.lookup_cons, differs]

/-! ## A check reports the broken rules -/

theorem report_spellingRules (field name : String) :
    report (spellingRules field name) = checkSpelling field name := by
  simp [spellingRules, checkSpelling, problem]

theorem report_componentRules (component : Component) :
    report (componentRules component) = checkComponent component := by
  simp [componentRules, checkComponent, problem]

theorem report_modelNameRules (name : String) : report (modelNameRules name) = checkModelName name := by
  cases empty : name.isEmpty <;>
    simp [modelNameRules, checkModelName, problem, empty, report_spellingRules]

theorem report_tableRules (name : String) :
    report (tableRules name) = if name.isEmpty then [] else checkTableName name := by
  cases empty : name.isEmpty <;> simp [tableRules, checkTableName, problem, empty]

/-- The name of one field: what is reported, and that the ledger keeps up. -/
theorem checkFieldName_spec {earlier : List Field} {ledger : Ledger}
    (tracks : Tracks earlier ledger) (field : Field) :
    (checkFieldName ledger earlier.length field.name).1 = report (nameRules earlier field.name) ∧
      Tracks (earlier ++ [field]) (checkFieldName ledger earlier.length field.name).2 := by
  by_cases unnamed : field.name = ""
  · simp [checkFieldName, nameRules, unnamed, nameKey, tracks.append_of_unnamed unnamed]
  have named : field.name.isEmpty = false := by simpa using unnamed
  have known := tracks.names field.name unnamed
  have look := tracks.identifiers (Naming.sanitize field.name)
  simp only [checkFieldName, nameRules, named, known, look, report_cons, report_append, report_onlyIf, report_nil,
    report_spellingRules, Bool.not_false, if_true, Bool.false_eq_true, if_false, List.nil_append, List.append_nil]
  cases taken : isTaken earlier field.name with
  | true => exact ⟨by simp [repeatedName, nameKey], tracks.append_of_taken unnamed taken⟩
  | false =>
    cases alike : earlier.findIdx? (exportsAs (Naming.sanitize field.name)) with
    | some first => exact ⟨by simp [alikeName, nameKey],
      tracks.append_of_alike (by rw [alike]; exact Option.some_ne_none _)⟩
    | none => exact ⟨by simp [nameKey], tracks.append_entry unnamed⟩

theorem checkFieldsFrom_eq {earlier : List Field} {ledger : Ledger} (tracks : Tracks earlier ledger)
    (fields : List Field) :
    checkFieldsFrom ledger earlier.length fields = report (fieldRulesFrom earlier fields) := by
  induction fields generalizing earlier ledger with
  | nil => rfl
  | cons field rest ih =>
    obtain ⟨reported, tracks⟩ := checkFieldName_spec tracks field
    have later := ih tracks
    rw [List.length_append, List.length_singleton] at later
    simp only [checkFieldsFrom, reported, later, fieldRulesFrom, fieldRules, checkFieldType, problem, report_append,
      report_cons, report_nil, List.append_nil, typeKey]

theorem report_fields (fields : List Field) :
    report (countRules fields) ++ report (fieldRulesFrom [] fields) = checkFields fields := by
  cases fields with
  | nil => rfl
  | cons field rest =>
    rw [← checkFieldsFrom_eq tracks_nil]
    simp [countRules, checkFields, problem]

/-- All that is amiss is reported, and nothing else, in the order of the rules. -/
theorem check_eq_report (request : Request) : check request = report (rules request) := by
  rw [rules, report_append, report_append, report_append, report_append, report_componentRules,
    report_modelNameRules, check, ← report_fields]
  simp only [List.append_assoc, List.append_cancel_left_eq]
  cases request.tableName with
  | none => rfl
  | some name => exact (report_tableRules name).symm

end Validation
end Scaffold
