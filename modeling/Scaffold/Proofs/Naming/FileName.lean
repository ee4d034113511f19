import Scaffold.Blueprint.Names
import Scaffold.Proofs.FileTree.Laying
import Scaffold.Proofs.Naming.Kebab
import Scaffold.Proofs.Validation.Acceptance

namespace Scaffold

/-!
# Names in paths

A text without slashes is one segment of a path, and a path that is put together from such texts is
taken apart into them again.  The spellings of an accepted model name are texts of this kind, and
can be names of files and directories.
-/

namespace FilePath

theorem segments_of_unbroken {name : String} (unbroken : '/' ∉ name.toList) : segments name = [name] := by
  have whole : Text.pieces (· == '/') name.toList = [name.toList] := by
    apply Text.pieces_of_unbroken
    exact Text.beq_eq_false_of_not_mem unbroken
  rw [segments, whole, List.map_singleton, String.ofList_toList]

theorem segments_intercalate {names : List String} (some : names ≠ [])
    (unbroken : ∀ name ∈ names, '/' ∉ name.toList) :
    segments ("/".intercalate names) = names := by
  induction names with
  | nil => exact absurd rfl some
  | cons name rest ih =>
    rcases List.forall_mem_cons.1 unbroken with ⟨first, others⟩
    cases rest with
    | nil => rw [String.intercalate_singleton, segments_of_unbroken first]
    | cons next more =>
      rw [String.intercalate_cons_cons, segments_append_slash, segments_of_unbroken first,
        ih (List.cons_ne_nil _ _) others]
      rfl

end FilePath

/-- The text can be a name in a path. -/
structure IsFileName (s : String) : Prop where
  name : FilePath.IsName s
  unbroken : '/' ∉ s.toList

theorem isFileName_of_signs {s : String} (some : s ≠ "") (point : '.' ∉ s.toList) (slash : '/' ∉ s.toList) :
    IsFileName s := by
  refine ⟨⟨FileTree.leads_iff.2 ⟨some, ?_⟩, ?_⟩, slash⟩
  · rintro rfl
    exact point (by decide)
  · rintro rfl
    exact point (by decide)

theorem IsFileName.append {s : String} (name : IsFileName s) {ending : String} (long : 2 ≤ ending.length)
    (slash : '/' ∉ ending.toList) : IsFileName (s ++ ending) := by
  have first : s ≠ "" := (FileTree.leads_iff.1 name.name.moves).1
  have longer : 2 < (s ++ ending).length := by
    have some : 0 < s.length := Nat.pos_of_ne_zero (mt String.length_eq_zero_iff.1 first)
    rw [String.length_append]
    omega
  have different : ∀ short : String, short.length ≤ 2 → s ++ ending ≠ short := by
    rintro short fits rfl
    exact absurd longer (Nat.not_lt.2 fits)
  refine ⟨⟨FileTree.leads_iff.2 ⟨different "" (by decide), different "." (by decide)⟩,
    different ".." (by decide)⟩, ?_⟩
  rw [String.toList_append, List.mem_append, not_or]
  exact ⟨name.unbroken, slash⟩

/-! ## The names of a model -/

namespace Names

theorem isSign_point : Text.IsSign '.' :=
  ⟨by decide, by decide⟩

theorem isSign_slash : Text.IsSign '/' :=
  ⟨by decide, by decide⟩

variable {request : Request} (accepted : Validation.check request = [])
include accepted

theorem isFileName_snake : IsFileName (ofRequest request).snake := by
  have proper := (Validation.check_eq_nil.1 accepted).modelName
  apply isFileName_of_signs
  · exact Naming.snakeCase_ne_empty (Validation.ne_empty_of_isIdentifier proper.identifier)
  · exact Naming.not_mem_snakeCase isSign_point (Naming.not_mem_of_isIdentifier isSign_point proper.identifier)
  · exact Naming.not_mem_snakeCase isSign_slash (Naming.not_mem_of_isIdentifier isSign_slash proper.identifier)

theorem isFileName_kebab : IsFileName (ofRequest request).kebab := by
  have proper := (Validation.check_eq_nil.1 accepted).modelName
  apply isFileName_of_signs
  · exact Naming.kebabCase_ne_empty (Validation.ne_empty_of_isIdentifier proper.identifier)
  · exact Naming.not_mem_kebabCase isSign_point (by decide)
      (Naming.not_mem_of_isIdentifier isSign_point proper.identifier)
  · exact Naming.not_mem_kebabCase isSign_slash (by decide)
      (Naming.not_mem_of_isIdentifier isSign_slash proper.identifier)

end Names
end Scaffold
