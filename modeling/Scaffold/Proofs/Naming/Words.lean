import Scaffold.Blueprint.FieldView
import Scaffold.Proofs.Naming.FileName
import Scaffold.Proofs.Naming.Plural

namespace Scaffold

/-!
# Names inside longer words

Other names are made from the name of a model by respelling it and by putting words around it.  None
of them has a sign, such as a quotation mark or a line feed, and one that an identifier is put
together from is an identifier again.
-/

namespace Naming

theorem continuesIdentifier_of_begins {c : Char} (begins : beginsIdentifier c = true) :
    continuesIdentifier c = true := by
  rw [beginsIdentifier, Bool.or_eq_true] at begins
  rw [continuesIdentifier, Text.isAlphanumeric, Bool.or_eq_true, Bool.or_eq_true]
  exact begins.imp_left .inl

theorem continuesIdentifier_of_mem {name : String} (identifier : isIdentifier name = true) {c : Char}
    (member : c ∈ name.toList) : continuesIdentifier c = true := by
  rw [isIdentifier] at identifier
  cases letters : name.toList with
  | nil => exact absurd (letters ▸ member) List.not_mem_nil
  | cons d rest =>
    rw [letters, spellsIdentifier, Bool.and_eq_true, List.all_eq_true] at identifier
    rw [letters] at member
    rcases List.mem_cons.1 member with rfl | member
    · exact continuesIdentifier_of_begins identifier.1
    · exact identifier.2 c member

theorem all_continuesIdentifier {name : String} (identifier : isIdentifier name = true) :
    name.toList.all continuesIdentifier = true :=
  List.all_eq_true.2 fun _ => continuesIdentifier_of_mem identifier

theorem isIdentifier_append {first second : String} (identifier : isIdentifier first = true)
    (solid : second.toList.all continuesIdentifier = true) : isIdentifier (first ++ second) = true := by
  rw [isIdentifier] at identifier ⊢
  cases letters : first.toList with
  | nil =>
    rw [letters] at identifier
    exact absurd identifier Bool.false_ne_true
  | cons c rest =>
    rw [letters, spellsIdentifier, Bool.and_eq_true] at identifier
    rw [String.toList_append, letters, List.cons_append, spellsIdentifier, List.all_append, Bool.and_eq_true,
      Bool.and_eq_true]
    exact ⟨identifier.1, identifier.2, solid⟩

/-! ## Signs -/

section

variable {mark : Char} (sign : Text.IsSign mark)
include sign

theorem not_mem_lowerCamelCase {name : String} (absent : mark ∉ name.toList) :
    mark ∉ (lowerCamelCase name).toList := by
  rw [lowerCamelCase, String.toList_ofList]
  cases letters : name.toList with
  | nil => exact List.not_mem_nil
  | cons c rest =>
    rw [letters, List.mem_cons, not_or] at absent
    rw [lowerFirst, List.mem_append, not_or]
    exact ⟨Text.not_mem_lowerChar sign (Ne.symm absent.1), absent.2⟩

theorem not_mem_plural {name : String} (absent : mark ∉ name.toList) : mark ∉ (plural name).toList := by
  have lower : mark ∉ Text.lowerChars name.toList := Text.not_mem_lowerAfter sign [] absent
  rw [plural, String.toList_ofList]
  by_cases unnamed : name.toList = []
  · rw [unnamed]
    exact List.not_mem_nil
  · intro member
    rcases (replacesEnding_pluralChars unnamed).mem_or_isSmall member with kept | small
    · exact lower kept
    · have high : 97 ≤ mark.toNat := by
        rw [isSmall, Bool.and_eq_true, decide_eq_true_eq, Char.le_def, UInt32.le_iff_toNat_le] at small
        exact small.1
      exact absurd sign.low (Nat.not_lt.2 high)

end

theorem lineFeed_not_mem_displayLabel {comment name : String} (unbroken : '\n' ∉ comment.toList)
    (named : '\n' ∉ name.toList) : '\n' ∉ (displayLabel comment name).toList := by
  rw [displayLabel]
  split
  · exact named
  · rw [String.toList_ofList]
    intro member
    have ending := mem_of_mem_foldl (fun _ _ inside => Text.mem_of_mem_dropSuffix inside)
      (Text.mem_of_mem_trim member)
    exact unbroken ((List.takeWhile_prefix _).subset (Text.mem_of_mem_trim ending))

end Naming

/-! ## The names of a model -/

namespace Names

/-- The character is in none of the names that come from the name of a model. -/
structure Lacks (mark : Char) (names : Names) : Prop where
  model : mark ∉ names.model.toList
  lowerCamel : mark ∉ names.lowerCamel.toList
  kebab : mark ∉ names.kebab.toList
  permissionRoot : mark ∉ names.permissionRoot.toList
  table : mark ∉ names.table.toList

theorem not_mem_of_isTableName {mark : Char} (sign : Text.IsSign mark) {name : String}
    (proper : Validation.IsTableName name) : mark ∉ name.toList := by
  have low := sign.low
  intro member
  rcases proper.plain mark member with ⟨above, -⟩ | ⟨above, below⟩ | same
  · rw [Char.le_def, UInt32.le_iff_toNat_le] at above
    exact absurd (Nat.lt_of_le_of_lt above low) (by decide)
  · have digit : mark.isAlphanum = true := by
      rw [Char.isAlphanum, Char.isDigit, Bool.or_eq_true, Bool.and_eq_true, decide_eq_true_eq, decide_eq_true_eq]
      exact .inr ⟨above, below⟩
    exact Bool.false_ne_true (sign.foreign.1.symm.trans digit)
  · exact sign.foreign.2 same

variable {mark : Char} {request : Request}

theorem not_mem_resolvedTableName (accepted : Validation.check request = []) (sign : Text.IsSign mark) :
    mark ∉ request.resolvedTableName.toList := by
  have proper := Validation.check_eq_nil.1 accepted
  have model := Naming.not_mem_of_isIdentifier sign proper.modelName.identifier
  rw [Request.resolvedTableName]
  cases given : Request.given? request.tableName with
  | none => exact Naming.not_mem_plural sign (Naming.not_mem_snakeCase sign model)
  | some name =>
    rw [Request.given?, Option.filter_eq_some_iff, Option.map_eq_some_iff] at given
    obtain ⟨⟨raw, written, rfl⟩, some⟩ := given
    rw [Option.getD_some, Text.trimmed, String.toList_ofList]
    refine fun member => ?_
    rcases proper.tableName raw written with rfl | table
    · exact absurd some (by decide)
    · exact not_mem_of_isTableName sign table (Text.mem_of_mem_trim member)

/-- The names of an accepted model have no signs but the hyphen. -/
theorem lacks_ofRequest (accepted : Validation.check request = []) (sign : Text.IsSign mark) (other : mark ≠ '-') :
    (ofRequest request).Lacks mark := by
  have proper := (Validation.check_eq_nil.1 accepted).modelName
  have model := Naming.not_mem_of_isIdentifier sign proper.identifier
  constructor
  · exact model
  · exact Naming.not_mem_lowerCamelCase sign model
  · exact Naming.not_mem_kebabCase sign other model
  · exact Naming.not_mem_snakeCase sign model
  · exact not_mem_resolvedTableName accepted sign

end Names

/-! ## The names of a field -/

namespace FieldView

/-- The texts of a field in the pages of the client stay within one line. -/
structure IsOneLine (view : FieldView) : Prop where
  tsName : '\n' ∉ view.tsName.toList
  label : '\n' ∉ view.label.toList

theorem isOneLine_ofField {field : Field} (identifier : Naming.isIdentifier field.name = true)
    (comment : '\n' ∉ field.comment.toList) : (ofField field).IsOneLine := by
  have name : '\n' ∉ (Naming.sanitize field.name).toList := by
    rw [Naming.sanitize, String.toList_ofList]
    exact Naming.not_mem_sanitizeChars (by decide) (Naming.not_mem_of_isIdentifier Text.isSign_lineFeed identifier)
  have cleanComment : '\n' ∉ (Naming.cleanComment field.comment).toList := by
    rw [Naming.cleanComment, String.toList_ofList]
    exact fun member => comment (Naming.mem_of_mem_cleanChars member)
  have tsName := Naming.not_mem_lowerCamelCase Text.isSign_lineFeed name
  have label := Naming.lineFeed_not_mem_displayLabel cleanComment name
  unfold ofField
  constructor <;> dsimp only
  · exact tsName
  · exact label

end FieldView
end Scaffold
