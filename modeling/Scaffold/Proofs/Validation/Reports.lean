import Scaffold.Proofs.Decimal.Digits
import Scaffold.Proofs.Validation.Rules

namespace Scaffold
namespace Validation

/-!
# What is reported about a name

Each rule lists its error under the part of the request that it is about, so what is listed under
the name of a field comes from the rules of that field.  Whatever else is amiss, a field is told of
the name that it repeats, and otherwise of the first field whose exported identifier it has.
-/

/-! ## The part that a rule is about -/

theorem field_of_spellingRules {rule : Rule} {field name : String} (member : rule ∈ spellingRules field name) :
    rule.error.field = field := by
  simp only [spellingRules, List.mem_cons, List.not_mem_nil, or_false] at member
  rcases member with rfl | rfl <;> rfl

theorem field_of_onlyIf {applies : Bool} {listed : List Rule} {field : String}
    (about : ∀ rule ∈ listed, rule.error.field = field) :
    ∀ rule ∈ onlyIf applies listed, rule.error.field = field := by
  intro rule member
  obtain ⟨base, listed, rfl⟩ := List.mem_map.1 member
  exact about base listed

theorem field_of_componentRules (component : Component) {rule : Rule} (member : rule ∈ componentRules component) :
    rule.error.field = "componentType" := by
  obtain rfl := List.mem_singleton.1 member
  rfl

theorem field_of_modelNameRules (name : String) {rule : Rule} (member : rule ∈ modelNameRules name) :
    rule.error.field = "modelName" := by
  rcases List.mem_cons.1 member with rfl | member
  · rfl
  · refine field_of_onlyIf ?_ rule member
    simp only [List.forall_mem_cons, List.forall_mem_append, List.not_mem_nil, false_imp_iff,
      implies_true, and_true, true_and]
    exact fun _ => field_of_spellingRules

theorem field_of_countRules (fields : List Field) {rule : Rule} (member : rule ∈ countRules fields) :
    rule.error.field = "fields" := by
  simp only [countRules, List.mem_cons, List.not_mem_nil, or_false] at member
  rcases member with rfl | rfl <;> rfl

theorem field_of_tableRules (name : String) {rule : Rule} (member : rule ∈ tableRules name) :
    rule.error.field = "tableName" := by
  refine field_of_onlyIf ?_ rule member
  simp only [List.forall_mem_cons, List.not_mem_nil, false_imp_iff, implies_true, and_true]

theorem field_of_nameRules {rule : Rule} {earlier : List Field} {name : String}
    (member : rule ∈ nameRules earlier name) : rule.error.field = nameKey earlier.length := by
  rcases List.mem_cons.1 member with rfl | member
  · rfl
  refine field_of_onlyIf ?_ rule member
  simp only [List.forall_mem_append, List.forall_mem_cons, List.not_mem_nil, false_imp_iff, implies_true, and_true]
  refine ⟨⟨fun _ => field_of_spellingRules, rfl⟩, field_of_onlyIf ?_⟩
  intro rule member
  split at member
  · obtain rfl := List.mem_singleton.1 member
    rfl
  · exact absurd member List.not_mem_nil

/-! ## The keys of the fields -/

theorem nameKey_inj {first second : Nat} (same : nameKey first = nameKey second) : first = second := by
  simp only [nameKey, String.append_left_inj, String.append_right_inj] at same
  exact Decimal.eq_of_repr_eq same

theorem nameKey_ne_typeKey (first second : Nat) : nameKey first ≠ typeKey second := by
  intro same
  have ending := congrArg (fun key => key.toList.reverse.take 2) same
  simp [nameKey, typeKey] at ending

theorem nameKey_ne_fields (index : Nat) : nameKey index ≠ "fields" := by
  intro same
  have size := congrArg (fun key => key.toList.length) same
  simp [nameKey] at size

/-- No key of a field begins with another letter. -/
theorem nameKey_ne_of_head {key : String} (begins : key.toList.head? ≠ some 'f') (index : Nat) :
    nameKey index ≠ key := by
  rintro rfl
  simp [nameKey] at begins

/-! ## The rules of the fields -/

theorem length_take_of_getElem? {fields : List Field} {index : Nat} {field : Field}
    (there : fields[index]? = some field) : (fields.take index).length = index := by
  obtain ⟨inside, -⟩ := List.getElem?_eq_some_iff.1 there
  exact List.length_take_of_le (Nat.le_of_lt inside)

theorem mem_fieldRulesFrom {rule : Rule} {earlier fields : List Field} :
    rule ∈ fieldRulesFrom earlier fields ↔
      ∃ index field, fields[index]? = some field ∧ rule ∈ fieldRules (earlier ++ fields.take index) field := by
  induction fields generalizing earlier with
  | nil => simp [fieldRulesFrom]
  | cons first rest ih =>
    rw [fieldRulesFrom, List.mem_append, ih]
    constructor
    · rintro (member | ⟨index, field, there, member⟩)
      · exact ⟨0, first, rfl, by simpa using member⟩
      · exact ⟨index + 1, field, there, by simpa using member⟩
    · rintro ⟨index, field, there, member⟩
      cases index with
      | zero =>
        obtain rfl : first = field := Option.some.inj there
        exact .inl (by simpa using member)
      | succ index => exact .inr ⟨index, field, there, by simpa using member⟩

/-- The errors listed for the name of a field are those of its own rules. -/
theorem mem_check_of_nameKey {request : Request} {index : Nat} {field : Field}
    (there : request.fields[index]? = some field) {error : FieldError} (about : error.field = nameKey index) :
    error ∈ check request ↔ error ∈ report (nameRules (request.fields.take index) field.name) := by
  have aside {listed : List Rule} {part : String} (parts : ∀ rule ∈ listed, rule.error.field = part)
      (differs : nameKey index ≠ part) : error ∉ report listed := by
    intro reported
    obtain ⟨rule, member, -, rfl⟩ := mem_report.1 reported
    exact differs (about.symm.trans (parts rule member))
  have component := aside (fun _ => field_of_componentRules request.component)
    (nameKey_ne_of_head (by decide) index)
  have modelName := aside (fun _ => field_of_modelNameRules request.modelName)
    (nameKey_ne_of_head (by decide) index)
  have count := aside (fun _ => field_of_countRules request.fields) (nameKey_ne_fields index)
  have table : error ∉ report ((request.tableName.map tableRules).getD []) := by
    cases request.tableName with
    | none => exact List.not_mem_nil
    | some name =>
      exact aside (fun _ => field_of_tableRules name) (nameKey_ne_of_head (by decide) index)
  simp only [check_eq_report, rules, report_append, List.mem_append, component, modelName, count, table, false_or,
    or_false]
  constructor
  · intro reported
    obtain ⟨rule, listed, broken, rfl⟩ := mem_report.1 reported
    obtain ⟨other, otherField, otherThere, ofField⟩ := mem_fieldRulesFrom.1 listed
    rw [List.nil_append] at ofField
    rcases List.mem_append.1 ofField with member | member
    · have key := field_of_nameRules member
      rw [length_take_of_getElem? otherThere, about] at key
      obtain rfl := nameKey_inj key
      obtain rfl : field = otherField := Option.some.inj (there.symm.trans otherThere)
      exact mem_report.2 ⟨rule, member, broken, rfl⟩
    · obtain rfl := List.mem_singleton.1 member
      exact absurd about.symm (nameKey_ne_typeKey _ _)
  · intro reported
    obtain ⟨rule, member, broken, rfl⟩ := mem_report.1 reported
    exact mem_report.2 ⟨rule,
      mem_fieldRulesFrom.2 ⟨index, field, there, List.mem_append_left _ member⟩, broken, rfl⟩

/-! ## Repeated and similar names -/

/-- What a message begins with tells apart the errors about one name. -/
theorem message_ne_of_head {first second : FieldError}
    (differs : first.message.toList.head? ≠ second.message.toList.head?) : first ≠ second := by
  rintro rfl
  exact differs rfl

theorem repeatedName_not_mem_spelling (index : Nat) (name : String) :
    repeatedName index name ∉ report (spellingRules (nameKey index) name) := by
  intro reported
  obtain ⟨rule, listed, -, same⟩ := mem_report.1 reported
  simp only [spellingRules, List.mem_cons, List.not_mem_nil, or_false] at listed
  rcases listed with rfl | rfl
  all_goals exact message_ne_of_head (by simp [repeatedName]) same

/-- After the name itself, the message about a similar one goes on in its own way. -/
theorem alikeName_not_mem_spelling (index : Nat) (name : String) (first : Nat) :
    alikeName index name first ∉ report (spellingRules (nameKey index) name) := by
  intro reported
  obtain ⟨rule, listed, -, same⟩ := mem_report.1 reported
  have goesOn := congrArg (fun error => error.message.toList.drop (name.toList.length + 1)) same
  simp only [spellingRules, List.mem_cons, List.not_mem_nil, or_false] at listed
  rcases listed with rfl | rfl
  all_goals simp [alikeName] at goesOn

theorem alikeName_inj {index first second : Nat} {name : String}
    (same : alikeName index name first = alikeName index name second) : first = second := by
  simp only [alikeName, FieldError.mk.injEq, true_and, String.append_left_inj, String.append_right_inj] at same
  exact Decimal.eq_of_repr_eq same

/-- Only the rule against it reports a repeated name. -/
theorem repeatedName_mem_nameRules (earlier : List Field) (name : String) :
    repeatedName earlier.length name ∈ report (nameRules earlier name) ↔ name ≠ "" ∧
      isTaken earlier name = true := by
  have notEmpty : repeatedName earlier.length name ≠ ⟨nameKey earlier.length, "must not be empty"⟩ :=
    message_ne_of_head (by simp [repeatedName])
  have notAlike (first : Nat) : repeatedName earlier.length name ≠ alikeName earlier.length name first :=
    message_ne_of_head (by simp [repeatedName, alikeName])
  have notSpelling := repeatedName_not_mem_spelling earlier.length name
  rw [nameRules]
  cases unnamed : name.isEmpty with
  | true =>
    obtain rfl := String.isEmpty_iff.1 unnamed
    simp [notEmpty]
  | false =>
    have named : name ≠ "" := by simpa using unnamed
    cases taken : isTaken earlier name with
    | true => simp [named]
    | false => split <;> simp [notSpelling, notAlike]

/-- Only the rule against it reports a similar name, and only where the name is not a repeated
one. -/
theorem alikeName_mem_nameRules (earlier : List Field) (name : String) (first : Nat) :
    alikeName earlier.length name first ∈ report (nameRules earlier name) ↔
      name ≠ "" ∧ isTaken earlier name = false ∧
        earlier.findIdx? (exportsAs (Naming.sanitize name)) = some first := by
  have notEmpty : alikeName earlier.length name first ≠ ⟨nameKey earlier.length, "must not be empty"⟩ :=
    message_ne_of_head (by simp [alikeName])
  have notRepeated : alikeName earlier.length name first ≠ repeatedName earlier.length name :=
    message_ne_of_head (by simp [repeatedName, alikeName])
  have notSpelling := alikeName_not_mem_spelling earlier.length name first
  rw [nameRules]
  cases unnamed : name.isEmpty with
  | true =>
    obtain rfl := String.isEmpty_iff.1 unnamed
    simp [notEmpty]
  | false =>
    have named : name ≠ "" := by simpa using unnamed
    cases taken : isTaken earlier name with
    | true => simp [notSpelling, notRepeated]
    | false =>
      cases found : earlier.findIdx? (exportsAs (Naming.sanitize name)) with
      | none => simp [notSpelling]
      | some known =>
        have same : alikeName earlier.length name first = alikeName earlier.length name known ↔ known = first :=
          ⟨fun same => (alikeName_inj same).symm, fun same => by rw [same]⟩
        simp [notSpelling, named, same]

/-- The field at the index has the name. -/
def HasName (fields : List Field) (index : Nat) (name : String) : Prop :=
  ∃ field, fields[index]? = some field ∧ field.name = name

/-- The field at the index has a name, and this becomes the exported identifier. -/
def Exports (fields : List Field) (index : Nat) (identifier : String) : Prop :=
  ∃ field, fields[index]? = some field ∧ field.name ≠ "" ∧ Naming.sanitize field.name = identifier

theorem isTaken_take {fields : List Field} {index : Nat} {name : String} :
    isTaken (fields.take index) name = true ↔ ∃ earlier < index, HasName fields earlier name := by
  simp only [isTaken, List.any_eq_true, beq_iff_eq, List.mem_take_iff_getElem, HasName]
  constructor
  · rintro ⟨other, ⟨earlier, inside, rfl⟩, same⟩
    exact ⟨earlier, by omega, _, List.getElem?_eq_getElem (by omega), same⟩
  · rintro ⟨earlier, before, other, there, same⟩
    obtain ⟨inside, rfl⟩ := List.getElem?_eq_some_iff.1 there
    exact ⟨_, ⟨earlier, by omega, rfl⟩, same⟩

theorem exports_iff {fields : List Field} {index : Nat} (inside : index < fields.length) {identifier : String} :
    Exports fields index identifier ↔ exportsAs identifier fields[index] = true := by
  simp [Exports, exportsAs, List.getElem?_eq_getElem inside]

theorem findIdx?_take {fields : List Field} {index : Nat} {identifier : String} {first : Nat} :
    (fields.take index).findIdx? (exportsAs identifier) = some first ↔
      first < index ∧ Exports fields first identifier ∧ ∀ earlier < first, ¬ Exports fields earlier identifier := by
  rw [List.findIdx?_eq_some_iff_getElem]
  constructor
  · rintro ⟨inside, holds, least⟩
    rw [List.length_take] at inside
    refine ⟨by omega, (exports_iff (by omega)).2 (by simpa using holds), ?_⟩
    intro earlier before found
    exact least earlier before (by simpa using (exports_iff (by omega)).1 found)
  · rintro ⟨before, found, least⟩
    obtain ⟨field, there, -⟩ := id found
    obtain ⟨inside, -⟩ := List.getElem?_eq_some_iff.1 there
    refine ⟨by rw [List.length_take]; omega, by simpa using (exports_iff inside).1 found, ?_⟩
    intro earlier smaller holds
    exact least earlier smaller ((exports_iff (by omega)).2 (by simpa using holds))

end Validation
end Scaffold
