import Scaffold.Proofs.Naming.Kebab
import Scaffold.Proofs.Naming.Letters

namespace Scaffold

/-!
# Property names and snake case

A property is named by the exported identifier of a field with its first character in lower case, so
a capital inside the name stays one, which snake case never leaves.  The two spellings of a name are
the same when it has no such capital and reads the same in lower case.
-/

namespace Text

theorem isCapital_of_high {c : Char} (high : 97 ≤ c.toNat) : Naming.isCapital c = false := by
  simp only [Naming.isCapital, Bool.and_eq_false_iff, decide_eq_false_iff_not, Char.le_def, UInt32.le_iff_toNat_le]
  right
  exact Nat.not_le.2 (Nat.lt_of_lt_of_le (by decide) high)

theorem isCapital_lowerChar {c d : Char} (member : d ∈ lowerChar c) : Naming.isCapital d = false := by
  rw [lowerChar] at member
  split at member
  · next ascii =>
    obtain rfl := List.mem_singleton.1 member
    refine ascii_cases (fun c => Naming.isCapital c.toLower = false) ?_ ascii
    decide
  · next beyond =>
    -- A character without a small letter stays itself, beyond ASCII.
    rcases reaches_lower.mem_mapCase member with rfl | high
    · exact isCapital_of_high (Nat.le_trans (by decide) (Nat.le_of_not_lt beyond))
    · exact isCapital_of_high high

theorem isCapital_lowerAfter {seen cs : List Char} {d : Char} (member : d ∈ lowerAfter seen cs) :
    Naming.isCapital d = false := by
  rcases exists_of_mem_lowerAfter member with sigma | ⟨c, -, made⟩
  · rcases sigma with rfl | rfl <;> decide
  · exact isCapital_lowerChar made

theorem upperChar_ne_nil (c : Char) : upperChar c ≠ [] := by
  rw [upperChar]
  split
  · exact List.cons_ne_nil _ _
  · exact reaches_upper.mapCase_ne_nil

end Text

namespace Naming

variable {c : Char} {cs rest : List Char}

/-! ## Identifiers stand for themselves -/

theorem keepIdentifier_of_spellsIdentifier (identifier : spellsIdentifier cs = true) : keepIdentifier cs = cs := by
  cases cs with
  | nil => exact absurd identifier Bool.false_ne_true
  | cons c rest =>
    rw [spellsIdentifier, Bool.and_eq_true, List.all_eq_true] at identifier
    rw [keepIdentifier, leadingPart, if_pos identifier.1, List.filter_eq_self.2 identifier.2, List.singleton_append]

/-- The exported identifier of a name that is an identifier already. -/
theorem sanitizeChars_of_isIdentifier {name : String} (identifier : isIdentifier name = true)
    (free : name ∉ reservedWords) : sanitizeChars name.toList = upperFirst name.toList := by
  have some : name.toList.isEmpty = false := by
    cases letters : name.toList with
    | nil =>
      rw [isIdentifier, letters] at identifier
      exact absurd identifier Bool.false_ne_true
    | cons c rest => rfl
  have unreserved : isReserved name = false := by
    rw [isReserved, ← Bool.not_eq_true, List.contains_iff_mem]
    exact free
  rw [sanitizeChars, keepIdentifier_of_spellsIdentifier identifier, some, String.ofList_toList, unreserved]
  rfl

/-! ## Two spellings -/

/-- `propertyName` on characters. -/
def property (cs : List Char) : List Char :=
  lowerFirst (upperFirst cs)

theorem suffix_property (c : Char) (rest : List Char) : rest <:+ property (c :: rest) := by
  rcases List.exists_cons_of_ne_nil (Text.upperChar_ne_nil c) with ⟨first, others, upper⟩
  rw [property, upperFirst, upper, List.cons_append, lowerFirst]
  exact (List.suffix_append others rest).trans (List.suffix_append _ _)

/-- The two spellings of a name are one exactly when it has no capital behind its first character
and its lower case is the property. -/
theorem property_eq_snake_iff : property (c :: rest) = snake (c :: rest) ↔
    (∀ d ∈ rest, isCapital d = false) ∧ property (c :: rest) = Text.lowerChars (c :: rest) := by
  constructor
  · intro same
    have capless : ∀ d ∈ rest, isCapital d = false := by
      intro d member
      have kept : d ∈ snake (c :: rest) := same ▸ (suffix_property c rest).subset member
      exact Text.isCapital_lowerAfter kept
    exact ⟨capless, by rw [same, snake_cons_of_capless capless]⟩
  · rintro ⟨capless, lower⟩
    rw [lower, snake_cons_of_capless capless]

/-- In ASCII there and back is the small letter. -/
theorem property_cons_of_ascii (ascii : c.toNat < 128) (rest : List Char) :
    property (c :: rest) = Text.lowerChar c ++ rest := by
  have turned : Text.lowerChar c.toUpper = Text.lowerChar c :=
    Text.ascii_cases (fun c => Text.lowerChar c.toUpper = Text.lowerChar c) (by decide) ascii
  rw [property, upperFirst, Text.upperChar, if_pos ascii, List.singleton_append, lowerFirst, turned]

/-- Where names begin in ASCII, the property tells as much as the exported identifier. -/
theorem upperFirst_eq_of_property_eq {d : Char} {more : List Char} (ascii : c.toNat < 128)
    (otherAscii : d.toNat < 128)
    (same : property (c :: rest) = property (d :: more)) : upperFirst (c :: rest) = upperFirst (d :: more) := by
  have back {c : Char} (ascii : c.toNat < 128) : Text.upperChar c = Text.upperChar c.toLower :=
    Text.ascii_cases (fun c => Text.upperChar c = Text.upperChar c.toLower) (by decide) ascii
  rw [property_cons_of_ascii ascii, property_cons_of_ascii otherAscii, Text.lowerChar, Text.lowerChar, if_pos ascii,
    if_pos otherAscii] at same
  rcases List.cons.inj same with ⟨first, others⟩
  rw [upperFirst, upperFirst, back ascii, back otherAscii, first, show rest = more from others]

/-- In ASCII the lower case is the property as soon as there is no such capital. -/
theorem property_eq_snake_iff_of_ascii (ascii : ∀ d ∈ c :: rest, d.toNat < 128) :
    property (c :: rest) = snake (c :: rest) ↔ ∀ d ∈ rest, isCapital d = false := by
  rw [property_eq_snake_iff, and_iff_left_iff_imp]
  intro capless
  rcases List.forall_mem_cons.1 ascii with ⟨first, others⟩
  rw [property_cons_of_ascii first, Text.lowerChars, lowerAfter_cons_of_ascii first,
    lowerAfter_of_isUncapped _ fun d member => ⟨others d member, capless d member⟩]

end Naming
end Scaffold
