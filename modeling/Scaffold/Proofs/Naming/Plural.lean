import Scaffold.Naming.Plural
import Scaffold.Proofs.Text.Unbroken

namespace Scaffold
namespace Naming

/-!
# The endings of plurals

The rules for plurals look at a name in different ways, but what they do to it is the same: one
ending is taken off the name in small letters, be it nothing at all or a whole irregular word, and
another one comes in its place.  What all plurals have in common is read off the table of these
endings.
-/

/-- The endings that are replaced, each with the one in its place. -/
def pluralEndings : List (String × String) :=
  [("y", "ies"), ("", "es"), ("f", "ves"), ("fe", "ves"), ("", "s")] ++ irregularPlurals

/-- One of the endings of the word is replaced. -/
def ReplacesEnding (word plural : List Char) : Prop :=
  ∃ entry ∈ pluralEndings, ∃ stem, word = stem ++ entry.1.toList ∧ plural = stem ++ entry.2.toList

theorem lastWord_append (cs : List Char) : (lastWord cs).1 ++ (lastWord cs).2 = cs := by
  have suffix : (lastWord cs).2 <:+ cs := by
    rw [← List.reverse_prefix, lastWord, List.reverse_reverse]
    exact List.takeWhile_prefix _
  calc (lastWord cs).1 ++ (lastWord cs).2
      = cs.take (cs.length - (lastWord cs).2.length) ++ cs.drop (cs.length - (lastWord cs).2.length) := by
        rw [← List.suffix_iff_eq_drop.1 suffix]
        rfl
    _ = cs := List.take_append_drop _ cs

theorem eq_append_of_dropSuffix? {suffix word stem : List Char} (found : Text.dropSuffix? suffix word = some stem) :
    word = stem ++ suffix := by
  rw [Text.dropSuffix?, Option.ite_none_right_eq_some, List.isSuffixOf_iff_suffix] at found
  obtain ⟨⟨front, rfl⟩, stem⟩ := found
  simp at stem
  rw [stem]

theorem replacesEnding_regularPlural (word : List Char) : ReplacesEnding word (regularPlural word) := by
  have whole (ending : String) (listed : ("", ending) ∈ pluralEndings) :
      ReplacesEnding word (word ++ ending.toList) :=
    ⟨("", ending), listed, word, (List.append_nil word).symm, rfl⟩
  rw [regularPlural]
  split
  · next stem found => exact ⟨("y", "ies"), by decide, stem,
      eq_append_of_dropSuffix? (Option.filter_eq_some_iff.1 found).1, rfl⟩
  split
  · exact whole "es" (by decide)
  split
  · next stem found => exact ⟨("f", "ves"), by decide, stem, eq_append_of_dropSuffix? found, rfl⟩
  split
  · next stem found => exact ⟨("fe", "ves"), by decide, stem, eq_append_of_dropSuffix? found, rfl⟩
  · exact whole "s" (by decide)

/-- The plural of a name that is not empty has another ending than the name in small letters, and
agrees with it before. -/
theorem replacesEnding_pluralChars {cs : List Char} (some : cs ≠ []) :
    ReplacesEnding (Text.lowerChars cs) (pluralChars cs) := by
  rw [pluralChars, if_neg (by simpa using some)]
  dsimp only
  split
  · next plural found =>
    rw [irregularPlural?, Option.map_eq_some_iff] at found
    obtain ⟨entry, found, rfl⟩ := found
    have same := List.find?_some found
    have last := beq_iff_eq.1 same
    refine ⟨entry, List.mem_append_right _ (List.mem_of_find?_eq_some found),
      (lastWord (Text.lowerChars cs)).1, ?_, rfl⟩
    rw [last, lastWord_append]
  · exact replacesEnding_regularPlural _

namespace ReplacesEnding

variable {word plural : List Char} (replaces : ReplacesEnding word plural)
include replaces

theorem ne_nil : plural ≠ [] := by
  have some : ∀ entry ∈ pluralEndings, entry.2.toList ≠ [] := by decide
  obtain ⟨entry, listed, stem, -, rfl⟩ := replaces
  exact List.append_ne_nil_of_right_ne_nil _ (some entry listed)

/-- What an ending brings in is in small letters. -/
theorem mem_or_isSmall {c : Char} (member : c ∈ plural) : c ∈ word ∨ isSmall c = true := by
  have small : ∀ entry ∈ pluralEndings, entry.2.toList.all isSmall = true := by decide
  obtain ⟨entry, listed, stem, rfl, rfl⟩ := replaces
  rcases List.mem_append.1 member with kept | ending
  · exact .inl (List.mem_append_left _ kept)
  · exact .inr (List.all_eq_true.1 (small entry listed) c ending)

/-- What an ending takes off is in small letters. -/
theorem mem_of_not_isSmall {c : Char} (member : c ∈ word) (foreign : isSmall c = false) : c ∈ plural := by
  have small : ∀ entry ∈ pluralEndings, entry.1.toList.all isSmall = true := by decide
  obtain ⟨entry, listed, stem, rfl, rfl⟩ := replaces
  rcases List.mem_append.1 member with kept | ending
  · exact List.mem_append_left _ kept
  · exact absurd (List.all_eq_true.1 (small entry listed) c ending) (Bool.eq_false_iff.1 foreign)

/-- The plural of a mouse is shorter by one, that of a child longer by three. -/
theorem length_le : word.length ≤ plural.length + 1 ∧ plural.length ≤ word.length + 3 := by
  have lengths : ∀ entry ∈ pluralEndings, entry.1.toList.length ≤ entry.2.toList.length + 1 ∧
      entry.2.toList.length ≤ entry.1.toList.length + 3 := by decide
  obtain ⟨entry, listed, stem, rfl, rfl⟩ := replaces
  have ending := lengths entry listed
  rw [List.length_append, List.length_append]
  omega

end ReplacesEnding
end Naming
end Scaffold
