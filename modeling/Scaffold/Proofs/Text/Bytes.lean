import Mathlib.Data.String.Basic

namespace Scaffold
namespace Text

/-!
# Texts as bytes

A text is stored in UTF-8, where a character takes from one to four bytes, and places in it are
numbers of bytes.  A text can be taken apart at a place that lies between two of its characters, and
at no other.
-/

open String (utf8Len)

/-- The parts of a text on the two sides of a byte offset.  An offset inside of a character or
behind the end has none. -/
def splitAtByte? : Nat → List Char → Option (List Char × List Char)
  | 0, cs => some ([], cs)
  | _ + 1, [] => none
  | offset + 1, c :: rest =>
    if c.utf8Size ≤ offset + 1 then
      (splitAtByte? (offset + 1 - c.utf8Size) rest).map fun parts => (c :: parts.1, parts.2)
    else none

theorem splitAtByte?_append (front back : List Char) :
    splitAtByte? (utf8Len front) (front ++ back) = some (front, back) := by
  induction front with
  | nil => simp [splitAtByte?]
  | cons c rest ih =>
    have size := c.utf8Size_pos
    obtain ⟨offset, same⟩ :
      ∃ offset, utf8Len rest + c.utf8Size = offset + 1 := ⟨_, (Nat.sub_add_cancel (by omega)).symm⟩
    rw [String.utf8Len_cons, List.cons_append, same, splitAtByte?, ← same, if_pos (by omega),
      Nat.add_sub_cancel, ih]
    rfl

/-- A text is split exactly where its first part ends. -/
theorem splitAtByte?_eq_some_iff {offset : Nat} {cs front back : List Char} :
    splitAtByte? offset cs = some (front, back) ↔ cs = front ++ back ∧ utf8Len front = offset := by
  constructor
  · intro split
    induction cs generalizing offset front with
    | nil =>
      cases offset with
      | zero => cases split; exact ⟨rfl, rfl⟩
      | succ offset => cases split
    | cons c rest ih =>
      cases offset with
      | zero => cases split; exact ⟨rfl, rfl⟩
      | succ offset =>
        rw [splitAtByte?, Option.ite_none_right_eq_some, Option.map_eq_some_iff] at split
        obtain ⟨fits, parts, inner, same⟩ := split
        obtain ⟨rfl, rfl⟩ := Prod.mk.inj same
        obtain ⟨whole, length⟩ := ih inner
        refine ⟨by rw [whole, List.cons_append], ?_⟩
        rw [String.utf8Len_cons, length]
        omega
  · rintro ⟨rfl, rfl⟩
    exact splitAtByte?_append front back

/-- The offsets at which a text can be split are those that lie between two of its characters. -/
theorem isSome_splitAtByte?_iff {s : String} {offset : Nat} :
    (splitAtByte? offset s.toList).isSome ↔ String.Pos.Raw.IsValid s ⟨offset⟩ := by
  rw [String.Pos.Raw.isValid_iff_exists_append, Option.isSome_iff_exists]
  constructor
  · rintro ⟨⟨front, back⟩, split⟩
    obtain ⟨whole, rfl⟩ := splitAtByte?_eq_some_iff.1 split
    refine ⟨String.ofList front, String.ofList back, ?_, (String.rawEndPos_ofList front).symm⟩
    rw [← String.ofList_append, ← whole, String.ofList_toList]
  · rintro ⟨front, back, rfl, position⟩
    refine ⟨(front.toList, back.toList), splitAtByte?_eq_some_iff.2 ⟨String.toList_append, ?_⟩⟩
    rw [String.utf8Len_toList]
    exact (congrArg String.Pos.Raw.byteIdx position).symm

/-- The text without the stretch between two byte offsets, neither of which may lie inside of a
character. -/
def cutOut? (start stop : Nat) (cs : List Char) : Option (List Char) :=
  match splitAtByte? start cs, splitAtByte? stop cs with
  | some (front, _), some (_, back) => some (front ++ back)
  | _, _ => none

theorem cutOut?_append (front middle back : List Char) :
    cutOut? (utf8Len front) (utf8Len (front ++ middle)) (front ++ middle ++ back) = some (front ++ back) := by
  rw [cutOut?, splitAtByte?_append, List.append_assoc, splitAtByte?_append]

theorem utf8Len_cutOut?_lt {start stop : Nat} {cs shorter : List Char} (order : start < stop)
    (cut : cutOut? start stop cs = some shorter) : utf8Len shorter < utf8Len cs := by
  rw [cutOut?] at cut
  split at cut
  · next front behind front' back first second =>
    obtain ⟨-, rfl⟩ := splitAtByte?_eq_some_iff.1 first
    obtain ⟨rfl, rfl⟩ := splitAtByte?_eq_some_iff.1 second
    obtain rfl := Option.some.inj cut
    rw [String.utf8Len_append, String.utf8Len_append]
    omega
  · cases cut

end Text
end Scaffold
