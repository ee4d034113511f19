import Scaffold.FieldType
import Scaffold.Naming.Comment
import Scaffold.Naming.Identifier
import Scaffold.Proofs.Text.Trimming

namespace Scaffold

/-!
# Texts without a line feed

A text that stays within one line does so after it has been trimmed, cleaned or respelt.  No case
mapping makes a line feed, nor any other sign, such as a point, a slash or a backslash: what it
makes of another character is an ASCII letter or lies beyond ASCII.
-/

namespace Text

variable {cs : List Char} {mark : Char}

/-- A character before the small letters that is no capital, no digit and no underscore. -/
structure IsSign (mark : Char) : Prop where
  low : mark.toNat < 97
  foreign : mark.isAlphanum = false ∧ mark ≠ '_'

theorem isSign_lineFeed : IsSign '\n' :=
  ⟨by decide, by decide⟩

/-! ## Case mappings -/

theorem Stride.bounds_of_holds {stretch : Stride} {n : Nat} (holds : stretch.holds n = true) :
    stretch.lo ≤ n ∧ n ≤ stretch.hi := by
  simp only [Stride.holds, Bool.and_eq_true, decide_eq_true_eq] at holds
  exact holds.1

/-- A character is expanded, or it is moved, or it stays. -/
theorem mapCase_cases (expansions : List (Nat × List Nat)) (shifts : List Shift) (c : Char) :
    (∃ entry ∈ expansions, entry.1 = c.toNat ∧ mapCase expansions shifts c.toNat = entry.2.map Char.ofNat) ∨
      (∀ entry ∈ expansions, entry.1 ≠ c.toNat) ∧
        ((∃ shift ∈ shifts, shift.stretch.holds c.toNat = true ∧
            mapCase expansions shifts c.toNat = [Char.ofNat (c.toNat + shift.distance).toNat]) ∨
          (∀ shift ∈ shifts, shift.stretch.holds c.toNat = false) ∧ mapCase expansions shifts c.toNat = [c]) := by
  rw [mapCase]
  cases found : expansions.find? (fun entry => entry.1 == c.toNat) with
  | some entry =>
    have same := List.find?_some found
    exact .inl ⟨entry, List.mem_of_find?_eq_some found, beq_iff_eq.1 same, rfl⟩
  | none =>
    refine .inr ⟨fun entry listed same => List.find?_eq_none.1 found entry listed (beq_iff_eq.2 same), ?_⟩
    rw [Shift.apply]
    cases moved : shifts.find? (fun shift => shift.stretch.holds c.toNat) with
    | some shift =>
      have inside := List.find?_some moved
      exact .inl ⟨shift, List.mem_of_find?_eq_some moved, inside, rfl⟩
    | none =>
      refine .inr ⟨fun shift listed => Bool.not_eq_true _ ▸ List.find?_eq_none.1 moved shift listed, ?_⟩
      exact congrArg (fun d => [d]) (Char.ofNat_toNat c)

/-- A case mapping gives some characters for each code point, and nothing new below `low`. -/
structure Reaches (low : Nat) (expansions : List (Nat × List Nat)) (shifts : List Shift) : Prop where
  expanded : ∀ entry ∈ expansions, entry.2 ≠ [] ∧ ∀ value ∈ entry.2, low ≤ value ∧ value.isValidChar
  shifted : ∀ shift ∈ shifts, low ≤ shift.stretch.lo + shift.distance ∧
    (shift.stretch.hi + shift.distance < 0xD800 ∨
      0xDFFF < shift.stretch.lo + shift.distance ∧ shift.stretch.hi + shift.distance < 0x110000)

/-- The capitals that letters expand to include those of ASCII, as in `SS`. -/
theorem reaches_upper : Reaches 65 upperExpansions upperShifts :=
  ⟨by decide, by decide +kernel⟩

theorem reaches_lower : Reaches 97 lowerExpansions lowerShifts :=
  ⟨by decide, by decide +kernel⟩

section Mapping

variable {low n : Nat} {expansions : List (Nat × List Nat)} {shifts : List Shift}

theorem toNat_ofNat_of_valid {n : Nat} (valid : n.isValidChar) : (Char.ofNat n).toNat = n := by
  rw [Char.ofNat, dif_pos valid]
  rfl

/-- Where a code point is moved to there is a character. -/
theorem Reaches.moved (reaches : Reaches low expansions shifts) {shift : Shift} (listed : shift ∈ shifts)
    (inside : shift.stretch.holds n = true) :
    low ≤ (n + shift.distance).toNat ∧ (n + shift.distance).toNat.isValidChar := by
  rcases reaches.shifted shift listed with ⟨above, valid⟩
  have bounds := Stride.bounds_of_holds inside
  constructor
  · omega
  · rw [Nat.isValidChar]
    omega

/-- What a character is mapped to is the character itself or lies above the bound. -/
theorem Reaches.mem_mapCase (reaches : Reaches low expansions shifts) {c d : Char}
    (member : d ∈ mapCase expansions shifts c.toNat) : d = c ∨ low ≤ d.toNat := by
  rcases mapCase_cases expansions shifts c
    with ⟨entry, known, -, mapped⟩ | ⟨-, ⟨shift, known, inside, mapped⟩ | ⟨-, mapped⟩⟩
  · rw [mapped] at member
    rcases List.mem_map.1 member with ⟨value, listed, rfl⟩
    rcases (reaches.expanded entry known).2 value listed with ⟨high, valid⟩
    rw [toNat_ofNat_of_valid valid]
    exact .inr high
  · rw [mapped, List.mem_singleton] at member
    rcases reaches.moved known inside with ⟨above, valid⟩
    rw [member, toNat_ofNat_of_valid valid]
    exact .inr above
  · rw [mapped, List.mem_singleton] at member
    exact .inl member

theorem Reaches.mapCase_ne_nil (reaches : Reaches low expansions shifts) : mapCase expansions shifts n ≠ [] := by
  rw [mapCase]
  cases found : expansions.find? (fun entry => entry.1 == n) with
  | some entry =>
    rw [Ne, List.map_eq_nil_iff]
    exact (reaches.expanded entry (List.mem_of_find?_eq_some found)).1
  | none => exact List.cons_ne_nil _ _

end Mapping

/-- A character follows from its code point, of which ASCII has few. -/
theorem ascii_cases (property : Char → Prop) (all : ∀ n < 128, property (Char.ofNat n)) {c : Char}
    (ascii : c.toNat < 128) : property c := by
  rw [← Char.ofNat_toNat c]
  exact all c.toNat ascii

theorem ascii_of_isDigit {c : Char} (digit : c.isDigit = true) : c.toNat < 128 := by
  simp only [Char.isDigit, Bool.and_eq_true, decide_eq_true_eq, ge_iff_le, UInt32.le_iff_toNat_le] at digit
  exact Nat.lt_of_le_of_lt digit.2 (by decide)

/-- A letter stays a letter in either case, and a sign stays itself. -/
theorem case_ascii {c : Char} (ascii : c.toNat < 128) :
    (c.toUpper = c ∨ 65 ≤ c.toUpper.toNat) ∧ (c.toLower = c ∨ 97 ≤ c.toLower.toNat) := by
  refine ascii_cases (fun c => (c.toUpper = c ∨ 65 ≤ c.toUpper.toNat) ∧
    (c.toLower = c ∨ 97 ≤ c.toLower.toNat)) ?_ ascii
  decide

theorem mem_upperChar {c d : Char} (member : d ∈ upperChar c) : d = c ∨ 65 ≤ d.toNat := by
  rw [upperChar] at member
  split at member
  · next ascii =>
    obtain rfl := List.mem_singleton.1 member
    exact (case_ascii ascii).1
  · exact reaches_upper.mem_mapCase member

theorem mem_lowerChar {c d : Char} (member : d ∈ lowerChar c) : d = c ∨ 97 ≤ d.toNat := by
  rw [lowerChar] at member
  split at member
  · next ascii =>
    obtain rfl := List.mem_singleton.1 member
    exact (case_ascii ascii).2
  · exact reaches_lower.mem_mapCase member

/-- Each character of the lower case of a text comes from one of the text; the small sigma has two
forms. -/
theorem exists_of_mem_lowerAfter {seen : List Char} {d : Char} (member : d ∈ lowerAfter seen cs) :
    (d = 'σ' ∨ d = 'ς') ∨ ∃ c ∈ cs, d ∈ lowerChar c := by
  induction cs generalizing seen with
  | nil => exact absurd member List.not_mem_nil
  | cons c rest ih =>
    rcases List.mem_append.1 member with first | later
    · split at first
      · split at first
        · exact .inl (.inr (List.mem_singleton.1 first))
        · exact .inl (.inl (List.mem_singleton.1 first))
      · exact .inr ⟨c, List.mem_cons_self, first⟩
    · exact (ih later).imp_right fun ⟨c', inside, made⟩ => ⟨c', List.mem_cons_of_mem c inside, made⟩

/-- The lower case of a text has the characters of the text, and others from the small letters
on. -/
theorem mem_lowerAfter {seen : List Char} {d : Char} (member : d ∈ lowerAfter seen cs) : d ∈ cs ∨ 97 ≤ d.toNat := by
  rcases exists_of_mem_lowerAfter member with sigma | ⟨c, inside, made⟩
  · right
    rcases sigma with rfl | rfl <;> decide
  · rcases mem_lowerChar made with rfl | high
    · exact .inl inside
    · exact .inr high

theorem not_mem_lowerChar (sign : IsSign mark) {c : Char} (differs : c ≠ mark) : mark ∉ lowerChar c := by
  intro member
  rcases mem_lowerChar member with same | high
  · exact differs same.symm
  · exact absurd sign.low (Nat.not_lt.2 high)

theorem not_mem_lowerAfter (sign : IsSign mark) (seen : List Char) (absent : mark ∉ cs) :
    mark ∉ lowerAfter seen cs := by
  intro member
  rcases mem_lowerAfter member with inside | high
  · exact absent inside
  · exact absurd sign.low (Nat.not_lt.2 high)

/-! ## Parts of a text -/

theorem mem_of_mem_dropSuffix {suffix : List Char} {c : Char} (member : c ∈ dropSuffix suffix cs) : c ∈ cs := by
  rw [dropSuffix, dropSuffix?] at member
  split at member
  · exact List.mem_of_mem_take member
  · exact member

end Text

namespace Naming

variable {cs : List Char}

theorem mem_of_mem_afterClose? {opener closer c : Char} {depth : Nat} {rest : List Char}
    (found : afterClose? opener closer depth cs = some rest) (member : c ∈ rest) : c ∈ cs := by
  induction cs generalizing depth with
  | nil => simp [afterClose?] at found
  | cons d tail ih =>
    simp only [afterClose?] at found
    split at found
    · exact List.mem_cons_of_mem d (ih found)
    · split at found
      · split at found
        · obtain rfl := Option.some.inj found
          exact List.mem_cons_of_mem d member
        · exact List.mem_cons_of_mem d (ih found)
      · exact List.mem_cons_of_mem d (ih found)

theorem mem_of_mem_removeAsides {opener closer c : Char} (member : c ∈ removeAsides opener closer cs) : c ∈ cs := by
  fun_induction removeAsides opener closer cs with
  | case1 cs found => exact member
  | case2 cs d inside found rest closed shorter ih =>
    rcases List.mem_append.1 (ih member) with before | after
    · exact List.takeWhile_prefix _ |>.subset before
    · have behind := mem_of_mem_afterClose? closed after
      exact (List.dropWhile_suffix _).subset (found ▸ List.mem_cons_of_mem d behind)
  | case3 cs d inside found closed => exact List.takeWhile_prefix _ |>.subset member

/-- A fold of steps that add nothing adds nothing. -/
theorem mem_of_mem_foldl {α : Type} {step : List Char → α → List Char} {c : Char}
    (keeps : ∀ text item, c ∈ step text item → c ∈ text) {items : List α} (member : c ∈ items.foldl step cs) :
    c ∈ cs := by
  induction items generalizing cs with
  | nil => exact member
  | cons item rest ih => exact keeps cs item (ih member)

theorem mem_of_mem_cleanChars {c : Char} (member : c ∈ cleanChars cs) : c ∈ cs := by
  have separators := Text.mem_of_mem_trim member
  have trimmed := mem_of_mem_foldl (fun _ _ inside => Text.mem_of_mem_dropSuffix inside) separators
  exact mem_of_mem_foldl (fun _ _ inside => mem_of_mem_removeAsides inside) (Text.mem_of_mem_trim trimmed)

theorem not_mem_upperFirst {mark : Char} (low : mark.toNat < 65) (absent : mark ∉ cs) : mark ∉ upperFirst cs := by
  cases cs with
  | nil => exact List.not_mem_nil
  | cons c rest =>
    rw [List.mem_cons, not_or] at absent
    rw [upperFirst, List.mem_append, not_or]
    refine ⟨fun member => ?_, absent.2⟩
    rcases Text.mem_upperChar member with same | high
    · exact absent.1 same
    · exact absurd low (Nat.not_lt.2 high)

theorem mem_of_mem_leadingPart {c d : Char} (member : d ∈ leadingPart c) : d = c ∨ d = 'F' := by
  rw [leadingPart] at member
  split at member
  · exact .inl (List.mem_singleton.1 member)
  · split at member
    · rcases List.mem_cons.1 member with same | member
      · exact .inr same
      · exact .inl (List.mem_singleton.1 member)
    · exact .inr (List.mem_singleton.1 member)

theorem mem_of_mem_keepIdentifier {c : Char} (member : c ∈ keepIdentifier cs) : c ∈ cs ∨ c = 'F' := by
  cases cs with
  | nil => exact .inl member
  | cons d rest =>
    rcases List.mem_append.1 member with member | member
    · rcases mem_of_mem_leadingPart member with rfl | same
      · exact .inl List.mem_cons_self
      · exact .inr same
    · exact .inl (List.mem_cons_of_mem d (List.mem_filter.1 member).1)

/-- An exported identifier has no character before the capitals that its name does not have. -/
theorem not_mem_sanitizeChars {mark : Char} (low : mark.toNat < 65) (absent : mark ∉ cs) :
    mark ∉ sanitizeChars cs := by
  have foreign : mark ∉ "Field".toList := by
    have high : ("Field".toList.all fun c => 65 ≤ c.toNat) = true := by decide
    intro member
    exact absurd low (Nat.not_lt.2 (of_decide_eq_true (List.all_eq_true.1 high mark member)))
  have kept : mark ∉ keepIdentifier cs := fun member =>
    (mem_of_mem_keepIdentifier member).elim absent fun same => foreign (same ▸ List.mem_cons_self)
  rw [sanitizeChars]
  split
  · exact foreign
  split
  · refine not_mem_upperFirst low ?_
    rw [List.mem_append, not_or]
    exact ⟨kept, foreign⟩
  · exact not_mem_upperFirst low kept

theorem not_spells_of_isSign {mark : Char} (sign : Text.IsSign mark) :
    beginsIdentifier mark = false ∧ continuesIdentifier mark = false := by
  refine Text.ascii_cases (fun c => c.isAlphanum = false ∧ c ≠ '_' →
    beginsIdentifier c = false ∧ continuesIdentifier c = false) ?_ (Nat.lt_trans sign.low (by decide)) sign.foreign
  decide

/-- There are no signs in an identifier. -/
theorem not_mem_of_isIdentifier {mark : Char} (sign : Text.IsSign mark) {name : String}
    (identifier : isIdentifier name = true) : mark ∉ name.toList := by
  have alien := not_spells_of_isSign sign
  intro member
  rw [isIdentifier] at identifier
  cases letters : name.toList with
  | nil => exact absurd (letters ▸ member) List.not_mem_nil
  | cons c rest =>
    rw [letters, spellsIdentifier, Bool.and_eq_true, List.all_eq_true] at identifier
    rw [letters] at member
    rcases List.mem_cons.1 member with rfl | member
    · exact Bool.false_ne_true (alien.1.symm.trans identifier.1)
    · exact Bool.false_ne_true (alien.2.symm.trans (identifier.2 mark member))

end Naming

namespace FieldType

theorem lineFeed_not_mem_keyword (name : String) : '\n' ∉ (keyword name).toList := by
  unfold keyword
  split
  · decide
  split
  · decide
  split
  · decide
  split
  · decide
  split
  · next integer =>
    have table : ∀ known ∈ integerTypes, '\n' ∉ known.toList := by decide
    exact table name (List.contains_iff_mem.1 integer)
  · decide

/-- The Go type of a logical type that stays within one line does so too. -/
theorem lineFeed_not_mem_goType {logical : String} (unbroken : '\n' ∉ logical.toList) :
    '\n' ∉ (goType logical).target.toList := by
  have trimmed : '\n' ∉ (Text.trimmed logical).toList := by
    rw [Text.trimmed, String.toList_ofList]
    exact fun member => unbroken (Text.mem_of_mem_trim member)
  simp only [goType]
  split
  · exact trimmed
  · dsimp only
    exact lineFeed_not_mem_keyword _

end FieldType
end Scaffold
