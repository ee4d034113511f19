import Scaffold.Blueprint.FieldView
import Scaffold.Proofs.FieldType.Mention
import Scaffold.Proofs.Text.Trimming

namespace Scaffold
namespace FieldType

/-!
# Go types stand for themselves

A logical type is read more than once: for the Go type, for the type of the client and for the
question whether the field is a flag.  All readings go through the Go type, and it does not matter
whether they are given the logical type or the Go type that it becomes.  The reason is that the Go
types which come up are of two kinds, those that keywords stand for and those that are written out,
and a type of either kind becomes itself.
-/

variable {logical target : String}

/-- The Go types that keywords stand for. -/
def keywordTargets : List String :=
  ["*time.Time", "float64", "float32", "bool", "string"] ++ integerTypes

/-- A Go type that a logical type can become. -/
inductive IsTarget (target : String) : Prop where
  | keyword (known : target ∈ keywordTargets)
  | writtenOut (written : isWrittenOut target = true) (trimmed : Text.trimmed target = target)

theorem trimmed_trimmed (s : String) : Text.trimmed (Text.trimmed s) = Text.trimmed s := by
  rw [Text.trimmed, Text.trimmed, String.toList_ofList, Text.trim_trim]

theorem isWrittenOut_trimmed (logical : String) : isWrittenOut (Text.trimmed logical) = isWrittenOut logical := by
  rw [isWrittenOut, isWrittenOut, trimmed_trimmed]

theorem target_of_isWrittenOut (written : isWrittenOut logical = true) :
    (goType logical).target = Text.trimmed logical := by
  rw [isWrittenOut] at written
  rw [goType, if_pos written]

theorem target_of_not_isWrittenOut (given : isWrittenOut logical = false) :
    (goType logical).target = keyword (Text.lower (Text.trimmed logical)) := by
  rw [isWrittenOut] at given
  rw [goType, if_neg (by rw [given]; exact Bool.false_ne_true)]

theorem isTarget_goType (logical : String) : IsTarget (goType logical).target := by
  cases written : isWrittenOut logical with
  | true =>
    rw [target_of_isWrittenOut written]
    exact .writtenOut ((isWrittenOut_trimmed logical).trans written) (trimmed_trimmed logical)
  | false =>
    rw [target_of_not_isWrittenOut written]
    exact .keyword (keyword_mem _)

theorem IsTarget.target_eq (isTarget : IsTarget target) : (goType target).target = target := by
  cases isTarget with
  | keyword known =>
    have table : ∀ known ∈ keywordTargets, (goType known).target = known := by decide
    exact table target known
  | writtenOut written trimmed => rw [target_of_isWrittenOut written, trimmed]

/-- The Go types that logical types become are those that become themselves. -/
theorem target_eq_self_iff : (goType target).target = target ↔ IsTarget target :=
  ⟨fun same => same ▸ isTarget_goType target, IsTarget.target_eq⟩

/-- The flag of a Go type is read off the type itself. -/
theorem goType_eq_of_target_eq {other : String} (same : (goType other).target = (goType logical).target) :
    goType other = goType logical := by
  have flag : (goType other).temporal = (goType logical).temporal := by
    rw [temporal_eq_mentionsTime, temporal_eq_mentionsTime, same]
  cases one : goType other
  cases two : goType logical
  rw [one, two] at same flag
  rw [GoType.mk.injEq]
  exact ⟨same, flag⟩

theorem goType_target (logical : String) : goType (goType logical).target = goType logical :=
  goType_eq_of_target_eq (isTarget_goType logical).target_eq

theorem typeScript_target (logical : String) : typeScript (goType logical).target = typeScript logical := by
  rw [typeScript, goType_target, typeScript]

theorem isStatus_target (name logical : String) :
    isStatus name (goType logical).target = isStatus name logical := by
  rw [isStatus, goType_target, isStatus]

/-- A field that is declared with its Go type is shown as before, except for the type that it is
declared with. -/
theorem ofField_target (field : Field) :
    FieldView.ofField { field with logicalType := (goType field.logicalType).target } =
      { FieldView.ofField field with logicalType := (goType field.logicalType).target } := by
  simp only [FieldView.ofField, goType_target, typeScript_target, isStatus_target, Field.serializationKey]

/-- Reading the Go type of a logical type gives the same as reading the logical type, for each of
the readings; the Go types are exactly the types of which this reading changes nothing.  So two
logical types with one Go type are read alike, and a field that is declared with its Go type is
shown alike. -/
theorem goType_projection (name logical : String) (field : Field) :
    goType (goType logical).target = goType logical ∧
      typeScript logical = typeScript (goType logical).target ∧
      isStatus name logical = isStatus name (goType logical).target ∧
      ((goType logical).target = logical ↔ IsTarget logical) ∧
      (∀ other, (goType other).target = (goType logical).target →
        goType other = goType logical ∧ typeScript other = typeScript logical ∧
          isStatus name other = isStatus name logical) ∧
      FieldView.ofField { field with logicalType := (goType field.logicalType).target } =
        { FieldView.ofField field with logicalType := (goType field.logicalType).target } := by
  refine ⟨goType_target logical, (typeScript_target logical).symm, (isStatus_target name logical).symm,
    target_eq_self_iff, ?_, ofField_target field⟩
  intro other same
  refine ⟨goType_eq_of_target_eq same, ?_, ?_⟩
  · rw [← typeScript_target other, same, typeScript_target]
  · rw [← isStatus_target name other, same, isStatus_target]

/-- White space and capitals do not matter for a keyword. -/
theorem goType_projection_flag :
    (goType " Int8 ").target = (goType "int8").target ∧ typeScript " Int8 " = "number" ∧
    isStatus "State" " Int8 " = true ∧
      (FieldView.ofField { name := "State", logicalType := " Int8 " }).goType = "int8" := by
  have same : (goType " Int8 ").target = (goType "int8").target := by decide
  obtain ⟨-, -, -, -, alike, -⟩ := goType_projection "State" "int8" { name := "State", logicalType := " Int8 " }
  obtain ⟨-, client, flag⟩ := alike " Int8 " same
  refine ⟨same, ?_, ?_, by decide⟩
  · rw [client]
    decide
  · rw [flag]
    decide

end FieldType
end Scaffold
