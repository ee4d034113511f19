import Scaffold.Proofs.Naming.Passes

namespace Scaffold

/-!
# Names in snake case and in kebab case

A name that is respelt in snake case or kebab case is still a name: it is not empty, and it has no
point and no slash that was not there before.
-/

namespace Text

theorem lowerChar_ne_nil (c : Char) : lowerChar c ≠ [] := by
  rw [lowerChar]
  split
  · exact List.cons_ne_nil _ _
  · exact reaches_lower.mapCase_ne_nil

theorem lowerAfter_ne_nil {seen cs : List Char} (some : cs ≠ []) : lowerAfter seen cs ≠ [] := by
  rcases List.exists_cons_of_ne_nil some with ⟨c, rest, rfl⟩
  rw [lowerAfter]
  apply List.append_ne_nil_of_left_ne_nil
  split
  · split <;> exact List.cons_ne_nil _ _
  · exact lowerChar_ne_nil c

theorem lowerChars_ne_nil {cs : List Char} (some : cs ≠ []) : lowerChars cs ≠ [] :=
  lowerAfter_ne_nil some

end Text

namespace Naming

theorem spreadAt_ne_nil {meets : List Char → Bool} {cs : List Char} (some : cs ≠ []) : spreadAt meets cs ≠ [] := by
  obtain ⟨c, rest, rfl⟩ := List.exists_cons_of_ne_nil some
  exact List.cons_ne_nil _ _

theorem snake_ne_nil {cs : List Char} (some : cs ≠ []) : snake cs ≠ [] := by
  rw [snake_eq_spreadAt]
  exact Text.lowerChars_ne_nil (spreadAt_ne_nil some)

/-- The words of a name have the characters of the name, with underscores between them. -/
theorem mem_of_mem_spreadAt {meets : List Char → Bool} {cs : List Char} {c : Char}
    (member : c ∈ spreadAt meets cs) :
    c ∈ cs ∨ c = '_' := by
  induction cs with
  | nil => exact .inl member
  | cons d rest ih =>
    rw [spreadAt, List.mem_cons, List.mem_append] at member
    rcases member with rfl | gap | later
    · exact .inl List.mem_cons_self
    · split at gap
      · exact .inr (List.mem_singleton.1 gap)
      · cases gap
    · exact (ih later).imp_left (List.mem_cons_of_mem d)

theorem not_mem_snake {mark : Char} {cs : List Char} (sign : Text.IsSign mark) (absent : mark ∉ cs) :
    mark ∉ snake cs := by
  rw [snake_eq_spreadAt]
  refine Text.not_mem_lowerAfter sign [] fun member => ?_
  rcases mem_of_mem_spreadAt member with inside | same
  · exact absent inside
  · exact sign.foreign.2 same

theorem not_mem_snakeCase {mark : Char} (sign : Text.IsSign mark) {name : String} (absent : mark ∉ name.toList) :
    mark ∉ (snakeCase name).toList := by
  rw [snakeCase, String.toList_ofList]
  exact not_mem_snake sign absent

theorem snakeCase_ne_empty {name : String} (some : name ≠ "") : snakeCase name ≠ "" := by
  have letters : name.toList ≠ [] := mt String.toList_eq_nil_iff.1 some
  intro empty
  have chars := congrArg String.toList empty
  rw [snakeCase, String.toList_ofList] at chars
  exact snake_ne_nil letters chars

theorem not_mem_kebabCase {mark : Char} (sign : Text.IsSign mark) (other : mark ≠ '-') {name : String}
    (absent : mark ∉ name.toList) : mark ∉ (kebabCase name).toList := by
  rw [kebabCase, String.toList_ofList, kebab]
  intro member
  rcases List.mem_map.1 member with ⟨c, inside, same⟩
  split at same
  · exact other same.symm
  · exact not_mem_snake sign absent (same ▸ inside)

theorem kebabCase_ne_empty {name : String} (some : name ≠ "") : kebabCase name ≠ "" := by
  have letters : name.toList ≠ [] := mt String.toList_eq_nil_iff.1 some
  have solid : kebab name.toList ≠ [] := by
    rw [kebab, Ne, List.map_eq_nil_iff]
    exact snake_ne_nil letters
  intro empty
  have chars := congrArg String.toList empty
  rw [kebabCase, String.toList_ofList] at chars
  exact solid chars

end Naming
end Scaffold
