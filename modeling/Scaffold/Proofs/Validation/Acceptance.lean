import Scaffold.Proofs.Validation.Reports

namespace Scaffold
namespace Validation

/-!
# What a check accepts

A request is accepted exactly when it is in order: its component is known, its model name and table
name are well formed, and its fields have names, types and pairwise different exported identifiers.
One that is not in order is told everything that is amiss.
-/

/-- A model name that is in order. -/
structure IsModelName (name : String) : Prop where
  notEmpty : 1 ≤ name.length
  notLong : name.length ≤ 50
  identifier : Naming.isIdentifier name = true
  notReserved : name ∉ Naming.reservedWords
  capital : ∃ c rest, name.toList = c :: rest ∧ 'A' ≤ c ∧ c ≤ 'Z'

/-- A field that is in order, taken by itself. -/
structure IsProper (field : Field) : Prop where
  identifier : Naming.isIdentifier field.name = true
  notReserved : field.name ∉ Naming.reservedWords
  typed : ∃ c ∈ field.logicalType.toList, Text.isBlank c = false

/-- A table name that is in order. -/
structure IsTableName (name : String) : Prop where
  notLong : name.utf8ByteSize ≤ 64
  plain : ∀ c ∈ name.toList, ('a' ≤ c ∧ c ≤ 'z') ∨ ('0' ≤ c ∧ c ≤ '9') ∨ c = '_'

/-- A request that is in order. -/
structure IsAcceptable (request : Request) : Prop where
  component : ∀ raw, request.component ≠ .unknown raw
  modelName : IsModelName request.modelName
  someFields : 1 ≤ request.fields.length
  notManyFields : request.fields.length ≤ 50
  fields : ∀ field ∈ request.fields, IsProper field
  distinct : (request.fields.map fun field => Naming.sanitize field.name).Nodup
  tableName : ∀ name, request.tableName = some name → name = "" ∨ IsTableName name

/-! ## One section at a time -/

theorem ne_empty_of_isIdentifier {name : String} (identifier : Naming.isIdentifier name = true) : name ≠ "" := by
  rintro rfl
  exact Bool.noConfusion identifier

theorem toList_ne_nil_of_isIdentifier {name : String} (identifier : Naming.isIdentifier name = true) :
    name.toList ≠ [] :=
  mt String.toList_eq_nil_iff.1 (ne_empty_of_isIdentifier identifier)

@[simp] theorem problem_eq_nil {condition : Bool} {field message : String} :
    problem condition field message = [] ↔ condition = false := by
  cases condition <;> simp [problem]

theorem checkSpelling_eq_nil {field name : String} :
    checkSpelling field name = [] ↔ Naming.isIdentifier name = true ∧ name ∉ Naming.reservedWords := by
  simp [checkSpelling, Naming.isReserved]

theorem checkComponent_eq_nil {component : Component} :
    checkComponent component = [] ↔ ∀ raw, component ≠ .unknown raw := by
  cases component <;> simp [checkComponent, Component.isKnown]

theorem beginsCapital_iff {name : String} :
    name.toList.head?.any Naming.isCapital = true ↔ ∃ c rest, name.toList = c :: rest ∧ 'A' ≤ c ∧ c ≤ 'Z' := by
  cases name.toList <;> simp [Naming.isCapital]

theorem checkModelName_eq_nil {name : String} : checkModelName name = [] ↔ IsModelName name := by
  by_cases unnamed : name = ""
  · subst unnamed
    exact ⟨fun clean => absurd clean (List.cons_ne_nil _ _), fun proper => absurd proper.notEmpty (by decide)⟩
  have notEmpty : 1 ≤ name.length := Nat.pos_of_ne_zero (mt String.length_eq_zero_iff.1 unnamed)
  have opened : name.isEmpty = false := by simpa using unnamed
  rw [checkModelName, opened, if_neg Bool.false_ne_true, List.append_eq_nil_iff,
    List.append_eq_nil_iff, checkSpelling_eq_nil, problem_eq_nil, problem_eq_nil,
    Bool.not_eq_false', beginsCapital_iff, decide_eq_false_iff_not, Nat.not_lt]
  constructor
  · rintro ⟨⟨notLong, identifier, notReserved⟩, capital⟩
    exact ⟨notEmpty, notLong, identifier, notReserved, capital⟩
  · intro proper
    exact ⟨⟨proper.notLong, proper.identifier, proper.notReserved⟩, proper.capital⟩

theorem isTableChar_iff {c : Char} :
    isTableChar c = true ↔ ('a' ≤ c ∧ c ≤ 'z') ∨ ('0' ≤ c ∧ c ≤ '9') ∨ c = '_' := by
  simp [isTableChar, Naming.isSmall, Char.isDigit, Char.le_def, or_assoc]

theorem checkTableName_eq_nil {name : String} : checkTableName name = [] ↔ IsTableName name := by
  have sections : checkTableName name = [] ↔
      name.utf8ByteSize ≤ 64 ∧ ∀ c ∈ name.toList, isTableChar c = true := by
    rw [checkTableName, List.append_eq_nil_iff, problem_eq_nil, problem_eq_nil, decide_eq_false_iff_not, Nat.not_lt,
      Bool.not_eq_false', List.all_eq_true]
    exact Iff.rfl
  rw [sections]
  constructor
  · rintro ⟨notLong, plain⟩
    exact ⟨notLong, fun c member => isTableChar_iff.1 (plain c member)⟩
  · intro proper
    exact ⟨proper.notLong, fun c member => isTableChar_iff.2 (proper.plain c member)⟩

/-! ## The fields -/

theorem report_nameRules_eq_nil {earlier : List Field} {name : String} :
    report (nameRules earlier name) = [] ↔
      (Naming.isIdentifier name = true ∧ name ∉ Naming.reservedWords) ∧
        ∀ other ∈ earlier, exportsAs (Naming.sanitize name) other = false := by
  by_cases unnamed : name = ""
  · subst unnamed
    exact ⟨fun clean => absurd clean (List.cons_ne_nil _ _), fun proper =>
      absurd rfl (ne_empty_of_isIdentifier proper.1.1)⟩
  have opened : name.isEmpty = false := by simpa using unnamed
  simp only [nameRules, opened, report_cons, report_append, report_onlyIf, report_nil, report_spellingRules,
    Bool.not_false, if_true, Bool.false_eq_true, if_false, List.nil_append, List.append_nil, List.append_eq_nil_iff,
    checkSpelling_eq_nil]
  cases found : earlier.findIdx? (exportsAs (Naming.sanitize name)) with
  | none =>
    have apart := List.findIdx?_eq_none_iff.1 found
    have free : isTaken earlier name = false := by
      rw [← Bool.not_eq_true]
      exact fun taken => findIdx?_ne_none_of_isTaken unnamed taken found
    rw [and_iff_left apart]
    simp [free]
  | some first =>
    have known : ¬ ∀ other ∈ earlier, exportsAs (Naming.sanitize name) other = false := by
      intro apart
      rw [List.findIdx?_eq_none_iff.2 apart] at found
      exact Option.some_ne_none _ found.symm
    cases isTaken earlier name <;> simp [known]

theorem report_fieldRules_eq_nil {earlier : List Field} {field : Field} :
    report (fieldRules earlier field) = [] ↔
      IsProper field ∧ ∀ other ∈ earlier, exportsAs (Naming.sanitize field.name) other = false := by
  have typed : Text.blank field.logicalType = false ↔ ∃ c ∈ field.logicalType.toList, Text.isBlank c = false := by
    simp [Text.blank]
  have untyped (error : FieldError) : report [⟨Text.blank field.logicalType, error⟩] = [] ↔
      Text.blank field.logicalType = false := by
    cases Text.blank field.logicalType <;> simp
  rw [fieldRules, report_append, List.append_eq_nil_iff, report_nameRules_eq_nil, untyped, typed]
  constructor
  · rintro ⟨⟨⟨identifier, notReserved⟩, apart⟩, typed⟩
    exact ⟨⟨identifier, notReserved, typed⟩, apart⟩
  · rintro ⟨proper, apart⟩
    exact ⟨⟨⟨proper.identifier, proper.notReserved⟩, apart⟩, proper.typed⟩

theorem report_fieldRulesFrom_eq_nil_iff {fields : List Field} :
    report (fieldRulesFrom [] fields) = [] ↔
      ∀ index field, fields[index]? = some field → report (fieldRules (fields.take index) field) = [] := by
  simp only [report_eq_nil, mem_fieldRulesFrom, List.nil_append]
  constructor
  · intro clean index field there rule member
    exact clean rule ⟨index, field, there, member⟩
  · rintro clean rule ⟨index, field, there, member⟩
    exact clean index field there rule member

/-- Among proper fields, no field has the exported identifier of an earlier one. -/
theorem report_fields_eq_nil {fields : List Field} :
    report (fieldRulesFrom [] fields) = [] ↔
      (∀ field ∈ fields, IsProper field) ∧ (fields.map fun field => Naming.sanitize field.name).Nodup := by
  simp only [report_fieldRulesFrom_eq_nil_iff, report_fieldRules_eq_nil]
  constructor
  · intro clean
    have proper : ∀ field ∈ fields, IsProper field := by
      intro field member
      obtain ⟨index, there⟩ := List.mem_iff_getElem?.1 member
      exact (clean index field there).1
    refine ⟨proper, ?_⟩
    rw [List.Nodup, List.pairwise_map, List.pairwise_iff_getElem]
    intro first second firstInside secondInside before same
    have apart := (clean second fields[second] (List.getElem?_eq_getElem secondInside)).2 fields[first]
      (List.mem_take_iff_getElem.2 ⟨first, by omega, rfl⟩)
    have named := ne_empty_of_isIdentifier (proper fields[first] (List.getElem_mem firstInside)).identifier
    rw [← same, exportsAs_sanitize named] at apart
    exact Bool.noConfusion apart
  · rintro ⟨proper, distinct⟩ index field there
    refine ⟨proper field (List.mem_of_getElem? there), ?_⟩
    intro other member
    obtain ⟨inside, rfl⟩ := List.getElem?_eq_some_iff.1 there
    obtain ⟨earlier, before, rfl⟩ := List.mem_take_iff_getElem.1 member
    rw [List.Nodup, List.pairwise_map, List.pairwise_iff_getElem] at distinct
    have apart := distinct earlier index (by omega) inside (by omega)
    simp [exportsAs, apart]

theorem checkFields_eq_nil {fields : List Field} :
    checkFields fields = [] ↔
      1 ≤ fields.length ∧ fields.length ≤ 50 ∧ (∀ field ∈ fields, IsProper field) ∧
        (fields.map fun field => Naming.sanitize field.name).Nodup := by
  have counted : report (countRules fields) = [] ↔ 1 ≤ fields.length ∧ fields.length ≤ 50 := by
    rw [report_eq_nil, countRules, List.forall_mem_cons, List.forall_mem_singleton,
      decide_eq_false_iff_not, Nat.not_lt, List.isEmpty_eq_false_iff, ← List.length_pos_iff]
    exact Iff.rfl
  rw [← report_fields, List.append_eq_nil_iff, report_fields_eq_nil, counted, and_assoc]

/-- A request without errors is one that is in order. -/
theorem check_eq_nil {request : Request} : check request = [] ↔ IsAcceptable request := by
  have table : report ((request.tableName.map tableRules).getD []) = [] ↔
      ∀ name, request.tableName = some name → name = "" ∨ IsTableName name := by
    cases request.tableName with
    | none => simp
    | some name => by_cases unnamed : name = "" <;> simp [report_tableRules, unnamed, checkTableName_eq_nil]
  rw [check_eq_report, rules, List.append_assoc (componentRules _ ++ _), report_append,
    report_append, report_append, report_append, report_componentRules, report_modelNameRules,
    report_fields, List.append_eq_nil_iff, List.append_eq_nil_iff, List.append_eq_nil_iff,
    checkComponent_eq_nil, checkModelName_eq_nil, checkFields_eq_nil, table]
  constructor
  · rintro ⟨⟨⟨component, modelName⟩, someFields, notManyFields, fields, distinct⟩, tableName⟩
    exact ⟨component, modelName, someFields, notManyFields, fields, distinct, tableName⟩
  · intro proper
    exact ⟨⟨⟨proper.component, proper.modelName⟩, proper.someFields, proper.notManyFields, proper.fields,
      proper.distinct⟩, proper.tableName⟩

/-- Checking a request finds nothing exactly when it is in order, and otherwise reports the broken
rules in their order; the field at an index is told of a repeated name, and of the first field with
its exported identifier, exactly when there is one. -/
theorem check_exact (request : Request) :
    (check request = [] ↔ IsAcceptable request) ∧
      check request = report (rules request) ∧
      ∀ index : Fin request.fields.length,
        (repeatedName index request.fields[index].name ∈ check request ↔
          request.fields[index].name ≠ "" ∧
            ∃ earlier < index.val, HasName request.fields earlier request.fields[index].name) ∧
        ∀ first, alikeName index request.fields[index].name first ∈ check request ↔
          request.fields[index].name ≠ "" ∧
            (∀ earlier < index.val, ¬ HasName request.fields earlier request.fields[index].name) ∧
            first < index.val ∧ Exports request.fields first (Naming.sanitize request.fields[index].name) ∧
            ∀ earlier < first, ¬ Exports request.fields earlier (Naming.sanitize request.fields[index].name) := by
  refine ⟨check_eq_nil, check_eq_report request, fun index => ⟨?_, fun first => ?_⟩⟩
  all_goals
    have there : request.fields[index.val]? = some request.fields[index] := List.getElem?_eq_getElem index.isLt
    have size := length_take_of_getElem? there
  · have own := repeatedName_mem_nameRules (request.fields.take index) request.fields[index].name
    rw [size] at own
    rw [mem_check_of_nameKey there rfl, own, isTaken_take]
  · have own := alikeName_mem_nameRules (request.fields.take index) request.fields[index].name first
    rw [size] at own
    rw [mem_check_of_nameKey there rfl, own, findIdx?_take, ← Bool.not_eq_true, isTaken_take]
    simp only [not_exists, not_and]

end Validation
end Scaffold
