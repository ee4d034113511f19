import Scaffold.Blueprint.FieldView
import Scaffold.Proofs.Naming.Exported
import Scaffold.Proofs.Validation.Acceptance
import Scaffold.Text.Category

namespace Scaffold

/-!
# Names that begin with a capital

A field is exported by a capital at the beginning of its name.  A name that is accepted for a field
can begin with a character that has no capital: an underscore, a letter of a script without case, or
a small letter without a capital form.  Such a name stays as it is, and so the field is not
exported.  Besides there is one letter of which the capital form begins with a sign that has no
case.

What counts as a capital depends on who is asked.  The property Uppercase belongs to the letters of
category `Lu` and to some numerals and signs that are made of letters, and a package only exports
what begins with one of the former.
-/

namespace Text

variable {c : Char} {n : Nat}

/-- Whether the character has another form as a capital or is a capital itself. -/
def hasCapital (c : Char) : Bool :=
  upperChar c != [c] || isUppercase c

/-- Whether the character is a letter of category `Lu`. -/
def isCapitalLetter (c : Char) : Bool :=
  Stride.covers categoryLu c.toNat

/-- Numerals and signs that are made of letters and are capitals or small, such as `Ⅳ` and `ⓐ`. -/
def letterSigns : List Stride := [
  ⟨0x2160, 0x217F, 1⟩, ⟨0x24B6, 0x24E9, 1⟩, ⟨0x1F130, 0x1F149, 1⟩, ⟨0x1F150, 0x1F169, 1⟩, ⟨0x1F170, 0x1F189, 1⟩]

/-- Whether the character is one of these numerals and signs. -/
def isLetterSign (c : Char) : Bool :=
  Stride.covers letterSigns c.toNat

/-! ## Capitals and signs -/

namespace Stride

/-- To drop the stretches that lie within another table is to leave out what that table covers,
provided the others lie outside. -/
theorem covers_filter_isOutside {table out : List Stride}
    (sorted : table.all (fun one => one.isOutside out || one.isWithin out) = true) :
    covers (table.filter (isOutside out)) n = (covers table n && !covers out n) := by
  rw [Bool.eq_iff_iff, Bool.and_eq_true, Bool.not_eq_true', covers, List.any_filter, List.any_eq_true]
  constructor
  · rintro ⟨one, listed, both⟩
    rcases Bool.and_eq_true_iff.1 both with ⟨outside, holds⟩
    exact ⟨List.any_eq_true.2 ⟨one, listed, holds⟩, not_covers_of_isOutside outside holds⟩
  · rintro ⟨covered, uncovered⟩
    rcases List.any_eq_true.1 covered with ⟨one, listed, holds⟩
    rcases Bool.or_eq_true_iff.1 (List.all_eq_true.1 sorted one listed) with outside | within
    · exact ⟨one, listed, Bool.and_eq_true_iff.2 ⟨outside, holds⟩⟩
    · rw [covers_of_isWithin within holds] at uncovered
      cases uncovered

end Stride

deriving instance DecidableEq for Stride

/-- The capital letters are those of ASCII and the other capitals without the signs. -/
theorem categoryLu_eq : categoryLu = ⟨0x41, 0x5A, 1⟩ :: uppercaseStrides.filter (Stride.isOutside letterSigns) := by
  decide +kernel

theorem isCapitalLetter_eq (c : Char) : isCapitalLetter c = (isUppercase c && !isLetterSign c) := by
  have others : Stride.covers (uppercaseStrides.filter (Stride.isOutside letterSigns)) c.toNat =
      (Stride.covers uppercaseStrides c.toNat && !isLetterSign c) :=
    Stride.covers_filter_isOutside (by decide +kernel)
  rw [isCapitalLetter, categoryLu_eq, Stride.covers, List.any_cons, ← Stride.covers, others, isUppercase]
  by_cases ascii : c.toNat < 128
  · have beyond : (uppercaseStrides.all fun one => Nat.ble 128 one.lo) = true := by decide +kernel
    have uncovered : Stride.covers uppercaseStrides c.toNat = false := by
      rw [Stride.covers, List.any_eq_false]
      intro one listed holds
      have low := Nat.le_of_ble_eq_true (List.all_eq_true.1 beyond one listed)
      have bounds := Stride.bounds_of_holds holds
      omega
    rw [uncovered, if_pos ascii, Bool.false_and, Bool.or_false]
    exact ascii_cases (fun c => Stride.holds ⟨0x41, 0x5A, 1⟩ c.toNat = (c.isUpper && !isLetterSign c))
      (by decide +kernel) ascii
  · have letters : Stride.holds ⟨0x41, 0x5A, 1⟩ c.toNat = false := by
      rw [← Bool.not_eq_true]
      intro holds
      exact ascii (Nat.lt_of_le_of_lt (Stride.bounds_of_holds holds).2 (by decide))
    rw [letters, if_neg ascii, Bool.false_or]

/-! ## Where a capital form begins -/

namespace Stride

/-- Every code point of the first stretch is one of the other. -/
def refines (one other : Stride) : Bool :=
  Nat.ble one.hi other.hi && Nat.ble other.lo one.lo && (one.lo - other.lo) % other.step == 0 &&
    one.step % other.step == 0

theorem holds_of_refines {one other : Stride} (refines : one.refines other = true) (holds : one.holds n = true) :
    other.holds n = true := by
  have bounds := bounds_of_holds holds
  simp only [Stride.refines, Bool.and_eq_true, Nat.ble_eq, beq_iff_eq] at refines
  simp only [Stride.holds, Bool.and_eq_true, decide_eq_true_eq, beq_iff_eq] at holds ⊢
  rcases refines with ⟨⟨⟨high, low⟩, aligned⟩, coarser⟩
  refine ⟨⟨by omega, by omega⟩, ?_⟩
  have parts : n - other.lo = (one.lo - other.lo) + (n - one.lo) := by omega
  have steps : other.step ∣ n - one.lo :=
    Nat.dvd_trans (Nat.dvd_of_mod_eq_zero coarser) (Nat.dvd_of_mod_eq_zero holds.2)
  rw [parts]
  exact Nat.mod_eq_zero_of_dvd (Nat.dvd_add (Nat.dvd_of_mod_eq_zero aligned) steps)

/-- All code points of the stretch are in the table, where most lie in one stretch of the table with
the same steps. -/
def isInside (table : List Stride) (one : Stride) : Bool :=
  table.any one.refines || one.isWithin table

theorem covers_of_isInside {table : List Stride} {one : Stride} (inside : one.isInside table = true)
    (holds : one.holds n = true) : covers table n = true := by
  rcases Bool.or_eq_true_iff.1 inside with single | within
  · rcases List.any_eq_true.1 single with ⟨other, listed, refines⟩
    exact List.any_eq_true.2 ⟨other, listed, holds_of_refines refines holds⟩
  · exact covers_of_isWithin within holds

end Stride

/-- What the capital form of `c` begins with. -/
structure IsCapitalStart (c first : Char) : Prop where
  capital : isUppercase first = (hasCapital c && c != 'ŉ')
  sign : isLetterSign first = isLetterSign c

instance (c first : Char) : Decidable (IsCapitalStart c first) :=
  decidable_of_iff (isUppercase first = (hasCapital c && c != 'ŉ') ∧ isLetterSign first = isLetterSign c)
    ⟨fun both => ⟨both.1, both.2⟩, fun start => ⟨start.capital, start.sign⟩⟩

theorem isCapitalStart_expansion : ∀ entry ∈ upperExpansions,
    ∃ first ∈ entry.2.head?, IsCapitalStart (Char.ofNat entry.1) (Char.ofNat first) := by
  decide +kernel

/-- Single characters are moved to capitals. -/
theorem image_uppercase : ∀ shift ∈ upperShifts,
    (shift.image.hi < 128 ∧ shift.image.lo = shift.image.hi ∧ isUppercase (Char.ofNat shift.image.lo) = true ∨
      128 ≤ shift.image.lo ∧ shift.image.isInside uppercaseStrides = true) := by
  decide +kernel

/-- A sign is moved to a sign, and a letter to a letter. -/
theorem image_letterSigns : ∀ shift ∈ upperShifts,
    (shift.stretch.isOutside letterSigns = true ∧ shift.image.isOutside letterSigns = true ∨
      shift.stretch.isInside letterSigns = true ∧ shift.image.isInside letterSigns = true) := by
  decide +kernel

theorem isCapitalStart_moved {shift : Shift} (listed : shift ∈ upperShifts) (beyond : ¬ c.toNat < 128)
    (inside : shift.stretch.holds c.toNat = true) (other : c ≠ 'ŉ')
    (moved : upperChar c = [Char.ofNat (c.toNat + shift.distance).toNat]) :
    IsCapitalStart c (Char.ofNat (c.toNat + shift.distance).toNat) := by
  have place := toNat_ofNat_of_valid (reaches_upper.moved listed inside).2
  have there := shift.holds_image inside (Int.le_trans (by decide) (reaches_upper.shifted shift listed).1)
  have distant : shift.distance ≠ 0 := (by decide +kernel : ∀ shift ∈ upperShifts, shift.distance ≠ 0) shift listed
  have another : upperChar c ≠ [c] := by
    rw [moved]
    intro same
    rw [List.singleton_inj.1 same] at place
    omega
  constructor
  · rw [hasCapital, bne_iff_ne.2 another, bne_iff_ne.2 other, Bool.true_or, Bool.true_and]
    have bounds := Stride.bounds_of_holds there
    rcases image_uppercase shift listed with ⟨-, single, capital⟩ | ⟨high, within⟩
    · have only : (c.toNat + shift.distance).toNat = shift.image.lo := by omega
      rw [only, capital]
    · rw [isUppercase, place, if_neg (Nat.not_lt.2 (Nat.le_trans high bounds.1))]
      exact Stride.covers_of_isInside within there
  · rw [isLetterSign, isLetterSign, place]
    rcases image_letterSigns shift listed with ⟨outside, imageOutside⟩ | ⟨within, imageWithin⟩
    · rw [Stride.not_covers_of_isOutside outside inside, Stride.not_covers_of_isOutside imageOutside there]
    · rw [Stride.covers_of_isInside within inside, Stride.covers_of_isInside imageWithin there]

/-- The capital form begins with a capital if there is one, with one exception: `ŉ` becomes `ʼN`.
It begins with a sign exactly for a sign. -/
theorem isCapitalStart_upperChar (c : Char) :
    ∃ first more, upperChar c = first :: more ∧ IsCapitalStart c first := by
  by_cases ascii : c.toNat < 128
  · refine ⟨c.toUpper, [], by rw [upperChar, if_pos ascii], ?_⟩
    exact ascii_cases (fun c => IsCapitalStart c c.toUpper) (by decide +kernel) ascii
  have beyond : upperChar c = mapCase upperExpansions upperShifts c.toNat := by rw [upperChar, if_neg ascii]
  rcases mapCase_cases upperExpansions upperShifts c with ⟨entry, listed, same, mapped⟩ | ⟨unexpanded, rest⟩
  · rcases isCapitalStart_expansion entry listed with ⟨first, head, start⟩
    rcases List.head?_eq_some_iff.1 head with ⟨more, expansion⟩
    rw [same, Char.ofNat_toNat] at start
    exact ⟨_, more.map Char.ofNat, by rw [beyond, mapped, expansion, List.map_cons], start⟩
  have other : c ≠ 'ŉ' := by
    rintro rfl
    exact unexpanded (0x149, [0x2BC, 0x4E]) (by decide) rfl
  rcases rest with ⟨shift, listed, inside, mapped⟩ | ⟨-, mapped⟩
  · exact ⟨_, [], beyond.trans mapped, isCapitalStart_moved listed ascii inside other (beyond.trans mapped)⟩
  · refine ⟨c, [], beyond.trans mapped, ?_, rfl⟩
    rw [hasCapital, beyond, mapped, bne_self_eq_false, Bool.false_or, bne_iff_ne.2 other, Bool.and_true]

end Text

/-! ## The name of a field -/

namespace Naming

variable {name : String}

/-- The first character of the exported identifier of an accepted name is the beginning of the
capital form of its own. -/
theorem head_sanitize (identifier : isIdentifier name = true) (free : name ∉ reservedWords) :
    ∃ c first, name.toList.head? = some c ∧ (sanitize name).toList.head? = some first ∧
      Text.IsCapitalStart c first := by
  cases letters : name.toList with
  | nil => exact absurd letters (Validation.toList_ne_nil_of_isIdentifier identifier)
  | cons c rest =>
    rcases Text.isCapitalStart_upperChar c with ⟨first, more, upper, start⟩
    refine ⟨c, first, rfl, ?_, start⟩
    rw [sanitize, String.toList_ofList, sanitizeChars_of_isIdentifier identifier free, letters, upperFirst, upper,
      List.cons_append, List.head?_cons]

/-- A name without a capital is exported as it is. -/
theorem sanitize_of_capless (identifier : isIdentifier name = true) (free : name ∉ reservedWords)
    (capless : ∀ c ∈ name.toList.head?, Text.hasCapital c = false) : sanitize name = name := by
  rw [sanitize, sanitizeChars_of_isIdentifier identifier free]
  cases letters : name.toList with
  | nil => exact absurd letters (Validation.toList_ne_nil_of_isIdentifier identifier)
  | cons c rest =>
    have plain := capless c (by rw [letters]; rfl)
    rw [Text.hasCapital, Bool.or_eq_false_iff, bne_eq_false_iff_eq] at plain
    rw [upperFirst, plain.1, List.singleton_append, ← letters, String.ofList_toList]

end Naming

namespace FieldView

open Validation

variable {request : Request} {field : Field}

/-- The name of a field that is accepted is no keyword, and it is an identifier unless the name that
was given begins with one of the letters whose accent has no place in the capital.  It begins with a
capital exactly if that name begins with a character that has one and is not `ŉ`, and with a capital
letter exactly if that character is no sign besides.  Without a capital the name is the one that was
given. -/
theorem name_exported (accepted : check request = []) (member : field ∈ request.fields) :
    Naming.isReserved (ofField field).name = false ∧
    (Naming.isIdentifier (ofField field).name = true ↔ ∀ c ∈ field.name.toList.head?, c ∉ Text.accentedLetters) ∧
    ((∃ first ∈ (ofField field).name.toList.head?, Text.isUppercase first = true) ↔
      ∃ c ∈ field.name.toList.head?, Text.hasCapital c = true ∧ c ≠ 'ŉ') ∧
    ((∃ first ∈ (ofField field).name.toList.head?, Text.isCapitalLetter first = true) ↔
      ∃ c ∈ field.name.toList.head?, Text.hasCapital c = true ∧ c ≠ 'ŉ' ∧ Text.isLetterSign c = false) ∧
    ((∀ c ∈ field.name.toList.head?, Text.hasCapital c = false) → (ofField field).name = field.name) := by
  have proper := (check_eq_nil.1 accepted).fields field member
  have named : (ofField field).name = Naming.sanitize field.name := rfl
  rcases Naming.sanitizeChars_eq_cons field.name.toList with ⟨capital, others, letters, begins, fixed, plain⟩
  rcases Naming.head_sanitize proper.identifier proper.notReserved with ⟨c, first, given, head, start⟩
  refine ⟨?_, ?_, ?_, ?_, ?_⟩
  · rw [named, Naming.sanitize, letters]
    exact Naming.isReserved_of_capital fixed others
  · rw [named, ← plain, Naming.isIdentifier, Naming.sanitize, String.toList_ofList, letters,
      Naming.spellsIdentifier, begins, Bool.true_and]
  · simp [named, given, head, start.capital]
  · simp [named, given, head, Text.isCapitalLetter_eq, start.capital, start.sign, and_assoc]
  · exact Naming.sanitize_of_capless proper.identifier proper.notReserved

/-- A field with a name that begins with a small letter. -/
def spelled : Field where
  name := "total"
  logicalType := "decimal"

/-- The same name behind an underscore. -/
def underscored : Field :=
  { spelled with name := "_total" }

/-- A handler for a model with both fields. -/
def totals : Request where
  component := .one (.layer .handler)
  modelName := "Order"
  fields := [spelled, underscored]

theorem name_exported_spelled : check totals = [] ∧ spelled ∈ totals.fields ∧
    ∃ first ∈ (ofField spelled).name.toList.head?, Text.isCapitalLetter first = true := by
  have accepted : check totals = [] := by decide +kernel
  have member : spelled ∈ totals.fields := by decide
  exact ⟨accepted, member, (name_exported accepted member).2.2.2.1.2 ⟨'t', rfl, by decide +kernel⟩⟩

/-- Acceptance does not make a name begin with a capital. -/
theorem not_name_exported_underscored :
    (check totals = [] ∧ underscored ∈ totals.fields ∧ (ofField underscored).name = "_total" ∧
      Text.isUppercase '_' = false) ∧
    ¬ ∀ request, check request = [] → ∀ field ∈ request.fields,
      ∃ first ∈ (ofField field).name.toList.head?, Text.isUppercase first = true := by
  have accepted : check totals = [] := by decide +kernel
  have member : underscored ∈ totals.fields := by decide
  have same : (ofField underscored).name = "_total" := by decide
  refine ⟨⟨accepted, member, same, by decide⟩, fun all => ?_⟩
  rcases all totals accepted underscored member with ⟨first, head, capital⟩
  rw [same] at head
  obtain rfl : '_' = first := Option.some.inj head
  exact absurd capital (by decide)

end FieldView
end Scaffold
