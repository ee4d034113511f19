import Mathlib.Tactic.MkIffOfInductiveProp
import Scaffold.Proofs.Text.Unbroken

namespace Scaffold
namespace Text

/-!
# What the tables of characters have in common

The properties and the case mappings of characters are separate tables, and some facts about text
rest on how they fit together: no decimal digit is skipped where a cased character is sought, and a
capital form begins with a letter that is its own capital form.  Each fact is found by comparing
stretches, not characters.

The capital form of a letter begins with a letter.  What follows belongs to a name too, but for some
letters that have no capital with their accent: there the accent follows as a character of its own.
-/

namespace Stride

/-- The stretches have no code point in common: one ends before the other begins, or they
alternate. -/
def avoids (one other : Stride) : Bool :=
  Nat.blt one.hi other.lo || Nat.blt other.hi one.lo ||
    ((one.step == 2 || one.lo == one.hi) && other.step == 2 && (one.lo + other.lo) % 2 == 1)

theorem not_holds_of_avoids {one other : Stride} {n : Nat} (avoids : one.avoids other = true)
    (holds : one.holds n = true) : other.holds n = false := by
  rw [← Bool.not_eq_true]
  intro both
  have inOne := bounds_of_holds holds
  have inOther := bounds_of_holds both
  simp only [Stride.avoids, Bool.or_eq_true, Bool.and_eq_true, Nat.blt_eq, beq_iff_eq] at avoids
  simp only [Stride.holds, Bool.and_eq_true, beq_iff_eq] at holds both
  rcases avoids with (before | after) | ⟨⟨two | single, otherTwo⟩, parity⟩
  · omega
  · omega
  · have even := holds.2
    have otherEven := both.2
    rw [two] at even
    rw [otherTwo] at otherEven
    omega
  · have otherEven := both.2
    rw [otherTwo] at otherEven
    -- The steps of a single code point say nothing, and `omega` cannot read them.
    clear holds
    omega

/-- The stretch has no code point in common with the table. -/
def isOutside (table : List Stride) (one : Stride) : Bool :=
  table.all one.avoids

theorem not_covers_of_isOutside {table : List Stride} {one : Stride} {n : Nat}
    (outside : one.isOutside table = true)
    (holds : one.holds n = true) : covers table n = false := by
  rw [covers, List.any_eq_false]
  intro other listed
  rw [not_holds_of_avoids (List.all_eq_true.1 outside other listed) holds]
  exact Bool.false_ne_true

/-- All code points of the stretch are in the table: in one stretch of it, or each in some. -/
def isWithin (table : List Stride) (one : Stride) : Bool :=
  table.any (fun other => Nat.ble one.hi other.hi && Nat.ble other.lo one.lo && other.step == 1) ||
    (List.range (one.hi - one.lo + 1)).all fun i => i % one.step != 0 || covers table (one.lo + i)

theorem covers_of_isWithin {table : List Stride} {one : Stride} {n : Nat} (within : one.isWithin table = true)
    (holds : one.holds n = true) : covers table n = true := by
  have bounds := bounds_of_holds holds
  rcases Bool.or_eq_true_iff.1 within with inside | each
  · rcases List.any_eq_true.1 inside with ⟨other, listed, around⟩
    simp only [Bool.and_eq_true, Nat.ble_eq, beq_iff_eq] at around
    rw [covers, List.any_eq_true]
    refine ⟨other, listed, ?_⟩
    simp only [Stride.holds, Bool.and_eq_true, decide_eq_true_eq, beq_iff_eq, around.2, Nat.mod_one, and_true]
    omega
  · have found := List.all_eq_true.1 each (n - one.lo) (List.mem_range.2 (by omega))
    have place : one.lo + (n - one.lo) = n := by omega
    simp only [Stride.holds, Bool.and_eq_true, beq_iff_eq] at holds
    simpa [holds.2, place] using found

end Stride

/-- No code point is in both tables. -/
def areApart (first second : List Stride) : Bool :=
  first.all fun one => second.all fun other => one.avoids other

theorem not_covers_of_areApart {first second : List Stride} {n : Nat} (apart : areApart first second = true)
    (covered : Stride.covers first n = true) : Stride.covers second n = false := by
  rcases List.any_eq_true.1 covered with ⟨one, listed, holds⟩
  exact Stride.not_covers_of_isOutside (List.all_eq_true.1 apart one listed) holds

/-! ## Digits -/

theorem isCaseIgnorable_of_isDecimalDigit {c : Char} (digit : isDecimalDigit c = true) :
    isCaseIgnorable c = false := by
  by_cases ascii : c.toNat < 128
  · refine ascii_cases (fun c => isDecimalDigit c = true → isCaseIgnorable c = false) ?_ ascii digit
    decide
  · have apart : areApart decimalStrides caseIgnorableStrides = true := by decide +kernel
    rw [isDecimalDigit, if_neg ascii] at digit
    rw [isCaseIgnorable, if_neg ascii]
    exact not_covers_of_areApart apart digit

/-! ## Capital forms -/

/-- Where a stretch is moved to. -/
def Shift.image (shift : Shift) : Stride where
  lo := (shift.stretch.lo + shift.distance).toNat
  hi := (shift.stretch.hi + shift.distance).toNat
  step := shift.stretch.step

theorem Shift.holds_image {shift : Shift} {n : Nat} (inside : shift.stretch.holds n = true)
    (positive : 0 ≤ shift.stretch.lo + shift.distance) : shift.image.holds (n + shift.distance).toNat = true := by
  have bounds := Stride.bounds_of_holds inside
  have far : (n + shift.distance).toNat - (shift.stretch.lo + shift.distance).toNat =
      n - shift.stretch.lo := by omega
  simp only [Stride.holds, Bool.and_eq_true, beq_iff_eq, image] at inside ⊢
  refine ⟨⟨decide_eq_true ?_, decide_eq_true ?_⟩, by rw [far, inside.2]⟩
  · exact Int.toNat_le_toNat (by omega)
  · exact Int.toNat_le_toNat (by omega)

/-- The letters whose capital form has an accent as a character of its own. -/
def accentedLetters : List Char := [
  '\u01f0', '\u0390', '\u03b0', '\u1e96', '\u1e97', '\u1e98', '\u1e99', '\u1f50', '\u1f52', '\u1f54',
    '\u1f56', '\u1fb6', '\u1fb7',
  '\u1fc6', '\u1fc7', '\u1fd2', '\u1fd3', '\u1fd6', '\u1fd7', '\u1fe2', '\u1fe3', '\u1fe4', '\u1fe6',
    '\u1fe7', '\u1ff6', '\u1ff7']

/-- A letter that is its own capital form. -/
@[mk_iff]
structure IsCapitalForm (c : Char) : Prop where
  letter : isAlphabetic c = true
  fixed : upperChar c = [c]

instance (c : Char) : Decidable (IsCapitalForm c) :=
  decidable_of_iff' _ (isCapitalForm_iff c)

/-- What the letter `c` becomes as a capital: a letter that stays itself, and characters behind it
that may stand in an identifier, unless `c` is one of the accented letters. -/
def IsCapitalised (c : Char) : List Char → Prop
  | [] => False
  | first :: more => IsCapitalForm first ∧ more.all Naming.continuesIdentifier = !accentedLetters.contains c

instance (c : Char) (capital : List Char) : Decidable (IsCapitalised c capital) :=
  match capital with
  | [] => inferInstanceAs (Decidable False)
  | first :: more => inferInstanceAs
    (Decidable (IsCapitalForm first ∧ more.all Naming.continuesIdentifier = !accentedLetters.contains c))

theorem isCapitalised_singleton {c d : Char} (form : IsCapitalForm d) (plain : c ∉ accentedLetters) :
    IsCapitalised c [d] := by
  refine ⟨form, ?_⟩
  rw [← List.contains_iff_mem, Bool.not_eq_true] at plain
  rw [plain]
  rfl

theorem isCapitalForm_toUpper_of_ascii {c : Char} (ascii : c.toNat < 128) (letter : isAlphabetic c = true) :
    IsCapitalForm c.toUpper := by
  refine ascii_cases (fun c => isAlphabetic c = true → IsCapitalForm c.toUpper) ?_ ascii letter
  decide

theorem exists_expansion_of_accented {c : Char} (accented : c ∈ accentedLetters) :
    128 ≤ c.toNat ∧ ∃ entry ∈ upperExpansions, entry.1 = c.toNat := by
  have all : (accentedLetters.all fun c => Nat.ble 128 c.toNat && upperExpansions.any fun entry =>
      entry.1 == c.toNat) = true := by
    decide +kernel
  have each := List.all_eq_true.1 all c accented
  simp only [Bool.and_eq_true, Nat.ble_eq, List.any_eq_true, beq_iff_eq] at each
  exact each

theorem isCapitalised_expansion : ∀ entry ∈ upperExpansions,
    IsCapitalised (Char.ofNat entry.1) (entry.2.map Char.ofNat) := by
  decide +kernel

/-- Single letters are moved to a capital of ASCII or to letters beyond ASCII. -/
theorem image_letters : ∀ shift ∈ upperShifts, 0 ≤ shift.stretch.lo + shift.distance ∧
    (shift.image.hi < 128 ∧ shift.image.lo = shift.image.hi ∧ IsCapitalForm (Char.ofNat shift.image.lo) ∨
      128 ≤ shift.image.lo ∧ shift.image.isWithin alphabeticStrides = true) := by
  decide +kernel

/-- No letter is moved twice. -/
theorem image_areApart : areApart (upperShifts.map Shift.image) (upperShifts.map Shift.stretch) = true := by
  decide +kernel

theorem image_unexpanded :
    ∀ entry ∈ upperExpansions, Stride.covers (upperShifts.map Shift.image) entry.1 = false := by
  decide +kernel

/-- What a letter is moved to stays itself. -/
theorem upperChar_image {c : Char} (beyond : ¬ c.toNat < 128)
    (covered : Stride.covers (upperShifts.map Shift.image) c.toNat = true) : upperChar c = [c] := by
  rw [upperChar, if_neg beyond]
  rcases mapCase_cases upperExpansions upperShifts c
    with ⟨entry, listed, same, -⟩ | ⟨-, ⟨shift, listed, inside, -⟩ | ⟨-, mapped⟩⟩
  · have apart := image_unexpanded entry listed
    rw [same, covered] at apart
    exact absurd apart.symm Bool.false_ne_true
  · have apart := not_covers_of_areApart image_areApart covered
    rw [Stride.covers, List.any_eq_false] at apart
    exact absurd inside (apart shift.stretch (List.mem_map_of_mem listed))
  · exact mapped

theorem isCapitalForm_moved {shift : Shift} (listed : shift ∈ upperShifts) {n : Nat}
    (inside : shift.stretch.holds n = true) :
    IsCapitalForm (Char.ofNat (n + shift.distance).toNat) := by
  rcases image_letters shift listed with ⟨positive, letters⟩
  have there := shift.holds_image inside positive
  have bounds := Stride.bounds_of_holds there
  rcases letters with ⟨-, single, form⟩ | ⟨beyond, within⟩
  · have only : (n + shift.distance).toNat = shift.image.lo := by omega
    rw [only]
    exact form
  · have place := toNat_ofNat_of_valid (reaches_upper.moved listed inside).2
    have high : ¬ (Char.ofNat (n + shift.distance).toNat).toNat < 128 := by omega
    constructor
    · rw [isAlphabetic, if_neg high, place]
      exact Stride.covers_of_isWithin within there
    · apply upperChar_image high
      rw [place, Stride.covers, List.any_eq_true]
      exact ⟨shift.image, List.mem_map_of_mem listed, there⟩

theorem isCapitalised_upperChar {c : Char} (letter : isAlphabetic c = true) : IsCapitalised c (upperChar c) := by
  by_cases ascii : c.toNat < 128
  · rw [upperChar, if_pos ascii]
    refine isCapitalised_singleton (isCapitalForm_toUpper_of_ascii ascii letter) ?_
    exact fun accented => absurd ascii (Nat.not_lt.2 (exists_expansion_of_accented accented).1)
  have beyond : upperChar c = mapCase upperExpansions upperShifts c.toNat := by rw [upperChar, if_neg ascii]
  rcases mapCase_cases upperExpansions upperShifts c with ⟨entry, listed, same, mapped⟩ | ⟨unexpanded, rest⟩
  · have expanded := isCapitalised_expansion entry listed
    rw [same, Char.ofNat_toNat] at expanded
    rw [beyond, mapped]
    exact expanded
  have plain : c ∉ accentedLetters := by
    intro accented
    rcases (exists_expansion_of_accented accented).2 with ⟨entry, listed, same⟩
    exact unexpanded entry listed same
  rcases rest with ⟨shift, listed, inside, mapped⟩ | ⟨-, mapped⟩
  · rw [beyond, mapped]
    exact isCapitalised_singleton (isCapitalForm_moved listed inside) plain
  · rw [beyond, mapped]
    exact isCapitalised_singleton ⟨letter, beyond.trans mapped⟩ plain

end Text
end Scaffold
