import Scaffold.FieldType
import Scaffold.Naming.Identifier
import Scaffold.Proofs.Text.Occurrence

namespace Scaffold
namespace FieldType

/-!
# Packages that a Go type mentions

A type mentions a package where the package's name stands before a point and is not the end of a
longer name.  Whether a file has to import the package `time` is decided by a search for `time.Time`
instead.  The two agree on every type that is given by a keyword; on a type that is written out in
Go they differ both ways, since `time.Duration` mentions the package without that type and
`mytime.Time` has it as a part of another name.
-/

/-! ## Mentions -/

/-- A character that belongs to the same name, or to the same chain of names, as what follows it. -/
def joinsName (c : Char) : Bool :=
  Naming.continuesIdentifier c || c == '.'

/-- Whether `needle` occurs at a place that no joining character comes before; `joined` tells of the
character before the text. -/
def occursFree (needle : List Char) : Bool → List Char → Bool
  | _, [] => false
  | joined, c :: rest => (!joined && needle.isPrefixOf (c :: rest)) || occursFree needle (joinsName c) rest

/-- Whether a Go type mentions a package. -/
def mentionsPackage (package target : String) : Bool :=
  occursFree (package ++ ".").toList false target.toList

theorem occursFree_iff {needle : List Char} (solid : needle ≠ []) {joined : Bool} {cs : List Char} :
    occursFree needle joined cs = true ↔ ∃ before after, cs = before ++ needle ++ after ∧
      ((before.getLast?.map joinsName).getD joined) = false := by
  induction cs generalizing joined with
  | nil =>
    refine ⟨fun found => absurd found Bool.false_ne_true, ?_⟩
    rintro ⟨before, after, same, -⟩
    have empty := List.append_eq_nil_iff.1 same.symm
    exact absurd (List.append_eq_nil_iff.1 empty.1).2 solid
  | cons c rest ih =>
    rw [occursFree, Bool.or_eq_true, Bool.and_eq_true, Bool.not_eq_true', ih, List.isPrefixOf_iff_prefix]
    constructor
    · rintro (⟨free, after, same⟩ | ⟨before, after, rfl, free⟩)
      · exact ⟨[], after, same.symm, free⟩
      · refine ⟨c :: before, after, rfl, ?_⟩
        cases before with
        | nil => exact free
        | cons d others => simpa [List.getLast?_cons] using free
    · rintro ⟨before, after, same, free⟩
      cases before with
      | nil => exact .inl ⟨free, after, same.symm⟩
      | cons d others =>
        obtain ⟨rfl, behind⟩ := List.cons.inj same
        refine .inr ⟨others, after, behind, ?_⟩
        cases others with
        | nil => exact free
        | cons e more => simpa [List.getLast?_cons] using free

/-- A package is mentioned where its name and a point stand behind no letter, digit, underscore or
point. -/
theorem mentionsPackage_iff {package target : String} : mentionsPackage package target = true ↔
    ∃ before after, target.toList = before ++ (package ++ ".").toList ++ after ∧
      ∀ c, before.getLast? = some c → joinsName c = false := by
  have solid : (package ++ ".").toList ≠ [] := by simp
  rw [mentionsPackage, occursFree_iff solid]
  refine exists₂_congr fun before after => and_congr_right fun _ => ?_
  cases before.getLast? <;> simp

/-! ## The flag of a type -/

/-- Whether a logical type is taken for a type of Go and stands for itself. -/
def isWrittenOut (logical : String) : Bool :=
  let name := Text.trimmed logical
  name.toList.contains '*' || name.toList.contains '.'

/-- The types that a keyword can stand for. -/
theorem keyword_mem (name : String) :
    keyword name ∈ ["*time.Time", "float64", "float32", "bool", "string"] ++ integerTypes := by
  unfold keyword
  split
  · simp
  split
  · simp
  split
  · simp
  split
  · simp
  split
  · next integer => exact List.mem_append_right _ (List.contains_iff_mem.1 integer)
  · simp

theorem mentionsTime_keyword (name : String) :
    mentionsTime (keyword name) = mentionsPackage "time" (keyword name) := by
  have table : ∀ target ∈ ["*time.Time", "float64", "float32", "bool", "string"] ++ integerTypes,
      mentionsTime target = mentionsPackage "time" target := by decide
  exact table _ (keyword_mem name)

theorem temporal_eq_mentionsTime (logical : String) :
    (goType logical).temporal = mentionsTime (goType logical).target := by
  rw [goType]
  split <;> dsimp only

/-- The flag of a type that is given by a keyword is exact. -/
theorem temporal_eq_mentionsPackage {logical : String} (given : isWrittenOut logical = false) :
    (goType logical).temporal = mentionsPackage "time" (goType logical).target := by
  have keyed : (goType logical).target = keyword (Text.lower (Text.trimmed logical)) := by
    rw [isWrittenOut] at given
    rw [goType, if_neg (by rw [given]; exact Bool.false_ne_true)]
  rw [temporal_eq_mentionsTime, keyed, mentionsTime_keyword]

/-- A type on which the search for `time.Time` finds the package `time` exactly where it is
mentioned. -/
def IsTelling (logical : String) : Prop :=
  isWrittenOut logical = true → mentionsTime (goType logical).target =
    mentionsPackage "time" (goType logical).target

instance (logical : String) : Decidable (IsTelling logical) :=
  inferInstanceAs (Decidable (_ → _))

theorem IsTelling.temporal_eq {logical : String} (telling : IsTelling logical) :
    (goType logical).temporal = mentionsPackage "time" (goType logical).target := by
  cases written : isWrittenOut logical with
  | false => exact temporal_eq_mentionsPackage written
  | true => rw [temporal_eq_mentionsTime, telling written]

end FieldType
end Scaffold
