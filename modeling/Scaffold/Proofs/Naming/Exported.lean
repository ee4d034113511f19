import Scaffold.Proofs.Naming.PropertyName
import Scaffold.Proofs.Text.CaseTables

namespace Scaffold
namespace Naming

/-!
# Exported identifiers

Any text stands for an exported identifier.  What is kept of the text is an identifier already, and
it is no keyword once its first character is a capital, because every keyword begins with a small
letter.  The capital decides whether the result is an identifier: some letters have an accent that
no capital has, so that it becomes a character of its own, which no identifier holds.  That is so
exactly for the texts that begin with one of these letters.  To export such a name once more drops
the accent, and after that nothing changes.
-/

variable {c : Char} {cs rest : List Char}

/-! ## Before the capital -/

/-- The name that a text stands for, as long as its first character is as it was. -/
def unexported (cs : List Char) : List Char :=
  let kept := keepIdentifier cs
  if kept.isEmpty then "Field".toList
  else if isReserved (String.ofList kept) then kept ++ "Field".toList
  else kept

theorem sanitizeChars_eq_upperFirst (cs : List Char) : sanitizeChars cs = upperFirst (unexported cs) := by
  rw [sanitizeChars, unexported]
  split
  · decide
  split
  · rfl
  · rfl

/-- The name begins like the text, or with an `F` for a text that no name begins like. -/
inductive Begins (cs : List Char) (c : Char) : Prop where
  | kept (first : cs.head? = some c)
  | replaced (letter : c = 'F') (foreign : ∀ d ∈ cs.head?, beginsIdentifier d = false)

theorem keepIdentifier_cons (c : Char) (rest : List Char) :
    ∃ first others, keepIdentifier (c :: rest) = first :: others ∧
    Begins (c :: rest) first ∧ beginsIdentifier first = true ∧ others.all continuesIdentifier = true := by
  have continues : (rest.filter continuesIdentifier).all continuesIdentifier = true :=
    List.all_eq_true.2 fun d member => (List.mem_filter.1 member).2
  rw [keepIdentifier, leadingPart]
  split
  · next begins => exact ⟨c, _, rfl, .kept rfl, begins, continues⟩
  · next foreign =>
    have replaced : Begins (c :: rest) 'F' := .replaced rfl (by simpa using foreign)
    split
    · next digit =>
      have inside : continuesIdentifier c = true :=
        Text.ascii_cases (fun c => c.isDigit = true → continuesIdentifier c = true) (by decide)
          (Text.ascii_of_isDigit digit) digit
      refine ⟨'F', c :: rest.filter continuesIdentifier, rfl, replaced, by decide, ?_⟩
      rw [List.all_cons, inside, continues]
      rfl
    · exact ⟨'F', _, rfl, replaced, by decide, continues⟩

theorem unexported_eq_cons (cs : List Char) : ∃ c rest, unexported cs = c :: rest ∧ Begins cs c ∧
    beginsIdentifier c = true ∧ rest.all continuesIdentifier = true := by
  cases cs with
  | nil => exact ⟨'F', "ield".toList, by decide, .replaced rfl (by simp), by decide, by decide⟩
  | cons d tail =>
    rcases keepIdentifier_cons d tail with ⟨c, rest, kept, start, begins, continues⟩
    rw [unexported, kept]
    simp only [List.isEmpty_cons, Bool.false_eq_true, if_false]
    split
    · refine ⟨c, rest ++ "Field".toList, rfl, start, begins, ?_⟩
      rw [List.all_append, continues]
      decide
    · exact ⟨c, rest, rfl, start, begins, continues⟩

/-! ## The capital -/

/-- The capital of a character that may begin a name may so too and stays itself, and the rest of it
belongs to a name unless the character is one of the accented letters. -/
theorem upperChar_of_beginsIdentifier (begins : beginsIdentifier c = true) :
    ∃ first more, Text.upperChar c = first :: more ∧
    beginsIdentifier first = true ∧ Text.upperChar first = [first] ∧
    more.all continuesIdentifier = !Text.accentedLetters.contains c := by
  rw [beginsIdentifier, Bool.or_eq_true, beq_iff_eq] at begins
  rcases begins with letter | rfl
  · have capitalised := Text.isCapitalised_upperChar letter
    cases upper : Text.upperChar c with
    | nil => exact absurd upper (Text.upperChar_ne_nil c)
    | cons first more =>
      rw [upper] at capitalised
      rcases capitalised with ⟨form, tail⟩
      refine ⟨first, more, rfl, ?_, form.fixed, tail⟩
      rw [beginsIdentifier, form.letter, Bool.true_or]
  · exact ⟨'_', [], by decide, by decide, by decide, by decide⟩

/-- Every keyword begins with a letter that has another capital. -/
theorem isReserved_of_capital (capital : Text.upperChar c = [c]) (rest : List Char) :
    isReserved (String.ofList (c :: rest)) = false := by
  have small : (reservedWords.all fun word => word.toList.head?.all fun d =>
      Text.upperChar d != [d]) = true := by decide
  rw [isReserved, ← Bool.not_eq_true, List.contains_iff_mem]
  intro member
  have other := List.all_eq_true.1 small _ member
  rw [String.toList_ofList, List.head?_cons, Option.all_some, bne_iff_ne] at other
  exact other capital

/-- Of a text that begins with a capital everything is kept that may stand in an identifier. -/
theorem sanitizeChars_of_capital (begins : beginsIdentifier c = true) (capital : Text.upperChar c = [c])
    (rest : List Char) :
    sanitizeChars (c :: rest) = c :: rest.filter continuesIdentifier := by
  have kept : keepIdentifier (c :: rest) = c :: rest.filter continuesIdentifier := by
    rw [keepIdentifier, leadingPart, if_pos begins, List.singleton_append]
  rw [sanitizeChars, kept, isReserved_of_capital capital]
  rw [List.isEmpty_cons, if_neg Bool.false_ne_true, if_neg Bool.false_ne_true, upperFirst, capital,
    List.singleton_append]

/-- What a text is exported as: a capital, and characters that belong to an identifier unless the
text begins with an accented letter. -/
theorem sanitizeChars_eq_cons (cs : List Char) : ∃ first others, sanitizeChars cs = first :: others ∧
    beginsIdentifier first = true ∧ Text.upperChar first = [first] ∧
    (others.all continuesIdentifier = true ↔ ∀ c ∈ cs.head?, c ∉ Text.accentedLetters) := by
  rcases unexported_eq_cons cs with ⟨c, rest, name, start, begins, continues⟩
  rcases upperChar_of_beginsIdentifier begins with ⟨first, more, upper, beginsToo, capital, tail⟩
  refine ⟨first, more ++ rest, ?_, beginsToo, capital, ?_⟩
  · rw [sanitizeChars_eq_upperFirst, name, upperFirst, upper, List.cons_append]
  rw [List.all_append, continues, Bool.and_true, tail, Bool.not_eq_true', ← Bool.not_eq_true, List.contains_iff_mem]
  cases start with
  | kept first => simp [first]
  | replaced letter foreign =>
    have accents : Text.accentedLetters.all beginsIdentifier = true := by decide +kernel
    have plain : 'F' ∉ Text.accentedLetters := by decide
    rw [letter, iff_true_left plain]
    intro d head accented
    exact Bool.false_ne_true ((foreign d head).symm.trans (List.all_eq_true.1 accents d accented))

/-! ## Names -/

/-- What a text is exported as is no keyword, and it is an identifier exactly if the text does not
begin with one of the letters whose accent has no place in the capital; only then it stays as it is
when it is exported again.  From the second time on every text is an identifier and stays as it
is. -/
theorem sanitize_exported (name : String) :
    isReserved (sanitize name) = false ∧
    (isIdentifier (sanitize name) = true ↔ ∀ c ∈ name.toList.head?, c ∉ Text.accentedLetters) ∧
    (sanitize (sanitize name) = sanitize name ↔ ∀ c ∈ name.toList.head?, c ∉ Text.accentedLetters) ∧
    isIdentifier (sanitize (sanitize name)) = true ∧
    sanitize (sanitize (sanitize name)) = sanitize (sanitize name) := by
  rcases sanitizeChars_eq_cons name.toList with ⟨first, others, once, begins, capital, plain⟩
  have twice : sanitize (sanitize name) = String.ofList (first :: others.filter continuesIdentifier) := by
    rw [sanitize, sanitize, String.toList_ofList, once, sanitizeChars_of_capital begins capital]
  refine ⟨?_, ?_, ?_, ?_, ?_⟩
  · rw [sanitize, once]
    exact isReserved_of_capital capital others
  · rw [← plain, isIdentifier, sanitize, String.toList_ofList, once, spellsIdentifier, begins, Bool.true_and]
  · rw [← plain, twice, sanitize, once, String.ofList_inj, List.cons_inj_right, List.filter_eq_self,
      List.all_eq_true]
  · rw [twice, isIdentifier, String.toList_ofList, spellsIdentifier, begins, Bool.true_and, List.all_filter]
    simp
  · rw [twice, sanitize, String.toList_ofList, sanitizeChars_of_capital begins capital, List.filter_filter]
    simp

/-- The caron of `ǰ` follows the capital, and is dropped when the name is exported again. -/
theorem not_sanitize_exported_caron : sanitize "\u01f0" = "J\u030c" ∧ isIdentifier (sanitize "\u01f0") = false ∧
    sanitize (sanitize "\u01f0") = "J" := by
  decide +kernel

end Naming
end Scaffold
