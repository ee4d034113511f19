import Mathlib.Data.List.TakeWhile
import Scaffold.Proofs.Text.Bytes
import Scaffold.Proofs.Text.Unbroken

namespace Scaffold

/-!
# Asides in one scan

A comment loses its asides one by one: the first opener is looked for, its closer is found by
counting, the stretch between the two is cut out, and the search begins anew.  What is left is what
one scan from left to right keeps that counts the brackets which are open, so it holds no opener.
Brackets of another kind are characters like any other, and what a later pass leaves of them is not
looked at again, but no pass adds a character.

The search can be done on the text as it is stored, with offsets in bytes.  A character may take
several bytes, and so may a bracket, but no offset that comes up lies inside of a character.
-/

namespace Naming

open String (utf8Len)
open Text (splitAtByte? cutOut?)

variable {opener closer : Char} {cs rest : List Char}

/-! ## Removal by offsets -/

/-- The byte offset of the first opener, if there is one. -/
def openerAt? (opener : Char) : List Char → Option Nat
  | [] => none
  | c :: rest => if c == opener then some 0 else (openerAt? opener rest).map (· + c.utf8Size)

/-- The byte offset of the closer that brings the depth down to zero, if there is one, sought from
an offset on.  The text is sliced at each offset on the way: the outer `none` is a slice inside of a
character. -/
def closerAt? (opener closer : Char) (text : List Char) (offset depth : Nat) : Option (Option Nat) :=
  if offset < utf8Len text then
    match splitAtByte? offset text with
    | some (_, c :: _) =>
      have : 0 < c.utf8Size := c.utf8Size_pos
      if c == opener then closerAt? opener closer text (offset + c.utf8Size) (depth + 1)
      else if c == closer then
        if depth ≤ 1 then some (some offset)
        else closerAt? opener closer text (offset + c.utf8Size) (depth - 1)
      else closerAt? opener closer text (offset + c.utf8Size) depth
    | _ => none
  else some none
termination_by utf8Len text - offset

theorem le_of_closerAt? {text : List Char} {offset depth stop : Nat}
    (found : closerAt? opener closer text offset depth = some (some stop)) : offset ≤ stop := by
  fun_induction closerAt? opener closer text offset depth with
  | case1 offset depth inside front c behind split size opens ih => exact Nat.le_of_add_right_le (ih found)
  | case2 offset depth inside front c behind split size _ closes last => exact Nat.le_of_eq (by simpa using found)
  | case3 offset depth inside front c behind split size _ closes more ih => exact Nat.le_of_add_right_le (ih found)
  | case4 offset depth inside front c behind split size _ plain ih => exact Nat.le_of_add_right_le (ih found)
  | case5 offset depth inside slipped => cases found
  | case6 offset depth outside => cases found

/-- The text without its asides, found and cut out by byte offsets; `none` when an offset lies
inside of a character. -/
def removeByOffsets (opener closer : Char) (text : List Char) : Option (List Char) :=
  match openerAt? opener text with
  | none => some text
  | some start =>
    match closed : closerAt? opener closer text (start + opener.utf8Size) 1 with
    | none => none
    | some none => (splitAtByte? start text).map Prod.fst
    | some (some stop) =>
      match cut : cutOut? start (stop + closer.utf8Size) text with
      | none => none
      | some shorter =>
        have : utf8Len shorter < utf8Len text := by
          have behind := le_of_closerAt? closed
          have size := closer.utf8Size_pos
          exact Text.utf8Len_cutOut?_lt (by omega) cut
        removeByOffsets opener closer shorter
termination_by utf8Len text

/-! ## The same asides -/

theorem openerAt?_of_not_mem (absent : opener ∉ cs) : openerAt? opener cs = none := by
  induction cs with
  | nil => rfl
  | cons c rest ih =>
    rw [List.mem_cons, not_or] at absent
    rw [openerAt?, beq_eq_false_iff_ne.2 (Ne.symm absent.1), if_neg Bool.false_ne_true, ih absent.2]
    rfl

theorem openerAt?_append {front : List Char} (absent : opener ∉ front) (inside : List Char) :
    openerAt? opener (front ++ opener :: inside) = some (utf8Len front) := by
  induction front with
  | nil => simp [openerAt?]
  | cons c rest ih =>
    rw [List.mem_cons, not_or] at absent
    rw [List.cons_append, openerAt?, beq_eq_false_iff_ne.2 (Ne.symm absent.1),
      if_neg Bool.false_ne_true, ih absent.2, String.utf8Len_cons]
    rfl

/-- What follows a closer is an end of the text, with the closer before it. -/
theorem exists_of_afterClose? {depth : Nat} (found : afterClose? opener closer depth cs = some rest) :
    ∃ aside, cs = aside ++ closer :: rest := by
  fun_induction afterClose? opener closer depth cs with
  | case1 => cases found
  | case2 depth c tail opens ih => exact (ih found).imp' (c :: ·) fun aside whole => by rw [whole, List.cons_append]
  | case3 depth c tail _ closes last =>
    obtain rfl := Option.some.inj found
    exact ⟨[], by rw [beq_iff_eq.1 closes, List.nil_append]⟩
  | case4 depth c tail _ closes more ih =>
    exact (ih found).imp' (c :: ·) fun aside whole => by rw [whole, List.cons_append]
  | case5 depth c tail _ plain ih =>
    exact (ih found).imp' (c :: ·) fun aside whole => by rw [whole, List.cons_append]

/-- Between two characters the search by offsets finds the same closer, and never leaves the places
between characters. -/
theorem closerAt?_append (front tail : List Char) (depth : Nat) :
    closerAt? opener closer (front ++ tail) (utf8Len front) depth =
      some ((afterClose? opener closer depth tail).map fun rest =>
        utf8Len (front ++ tail) - utf8Len (closer :: rest)) := by
  induction tail generalizing front depth with
  | nil =>
    rw [closerAt?, List.append_nil, if_neg (Nat.lt_irrefl _)]
    rfl
  | cons c tail ih =>
    have size := c.utf8Size_pos
    have inside : utf8Len front < utf8Len (front ++ c :: tail) := by
      rw [String.utf8Len_append, String.utf8Len_cons]
      omega
    have step (depth : Nat) := ih (front ++ [c]) depth
    have behind : utf8Len (front ++ [c]) = utf8Len front + c.utf8Size := by simp
    rw [List.append_assoc, List.singleton_append, behind] at step
    rw [closerAt?, if_pos inside, Text.splitAtByte?_append, afterClose?]
    dsimp only
    rw [step, step, step]
    split
    · rfl
    split
    · next closes =>
      split
      · rw [beq_iff_eq.1 closes, Option.map_some, String.utf8Len_append, Nat.add_sub_cancel]
      · rfl
    · rfl

theorem not_mem_of_dropWhile (found : cs.dropWhile (· != opener) = []) : opener ∉ cs := by
  rw [List.dropWhile_eq_nil_iff] at found
  intro member
  exact absurd (found opener member) (by simp)

theorem exists_of_dropWhile {c : Char} {inside : List Char} (found : cs.dropWhile (· != opener) = c :: inside) :
    c = opener ∧ opener ∉ cs.takeWhile (· != opener) ∧ cs = cs.takeWhile (· != opener) ++ opener :: inside := by
  have stops := List.head?_dropWhile_not (· != opener) cs
  rw [found] at stops
  obtain rfl : c = opener := by simpa using stops
  refine ⟨rfl, fun member => ?_, ?_⟩
  · have differs := List.all_eq_true.1 (List.all_takeWhile (p := (· != c)) (l := cs)) c member
    exact absurd differs (by simp)
  · rw [← found, List.takeWhile_append_dropWhile]

theorem closerAt?_of_opener (front inside : List Char) :
    closerAt? opener closer (front ++ opener :: inside) (utf8Len front + opener.utf8Size) 1 =
      some ((afterClose? opener closer 1 inside).map fun rest =>
        utf8Len (front ++ opener :: inside) - utf8Len (closer :: rest)) := by
  have search := @closerAt?_append opener closer (front ++ [opener]) inside 1
  have start : utf8Len (front ++ [opener]) = utf8Len front + opener.utf8Size := by simp
  rw [start, List.append_assoc, List.singleton_append] at search
  exact search

theorem removeByOffsets_of_cut {text shorter : List Char} {start stop : Nat}
    (first : openerAt? opener text = some start)
    (closed : closerAt? opener closer text (start + opener.utf8Size) 1 = some (some stop))
    (cut : cutOut? start (stop + closer.utf8Size) text = some shorter) :
    removeByOffsets opener closer text = removeByOffsets opener closer shorter := by
  rw [removeByOffsets, first]
  dsimp only
  split
  · next slipped => rw [closed] at slipped; cases slipped
  · next unclosed => rw [closed] at unclosed; cases unclosed
  · next stop' found =>
    obtain rfl : stop = stop' := by simpa [closed] using found
    split
    · next slipped => rw [cut] at slipped; cases slipped
    · next shorter' made =>
      obtain rfl : shorter = shorter' := by simpa [cut] using made
      rfl

/-- A closed aside is cut out, and the search begins anew. -/
theorem removeByOffsets_closed {front inside : List Char} (absent : opener ∉ front)
    (closed : afterClose? opener closer 1 inside = some rest) :
    removeByOffsets opener closer (front ++ opener :: inside) = removeByOffsets opener closer (front ++ rest) := by
  obtain ⟨aside, rfl⟩ := exists_of_afterClose? closed
  have search := @closerAt?_of_opener opener closer front (aside ++ closer :: rest)
  rw [closed, Option.map_some] at search
  have stop : utf8Len (front ++ opener :: (aside ++ closer :: rest)) - utf8Len (closer :: rest) + closer.utf8Size =
      utf8Len (front ++ (opener :: aside ++ [closer])) := by
    simp only [String.utf8Len_append, String.utf8Len_cons, String.utf8Len_nil]
    omega
  have whole : front ++ (opener :: aside ++ [closer]) ++ rest = front ++
      opener :: (aside ++ closer :: rest) := by simp
  have cut := Text.cutOut?_append front (opener :: aside ++ [closer]) rest
  rw [whole, ← stop] at cut
  exact removeByOffsets_of_cut (openerAt?_append absent _) search cut

/-- An aside that is never closed reaches to the end. -/
theorem removeByOffsets_unclosed {front inside : List Char} (absent : opener ∉ front)
    (unclosed : afterClose? opener closer 1 inside = none) :
    removeByOffsets opener closer (front ++ opener :: inside) = some front := by
  have search := @closerAt?_of_opener opener closer front inside
  rw [unclosed, Option.map_none] at search
  rw [removeByOffsets, openerAt?_append absent]
  dsimp only
  split
  · next slipped => rw [search] at slipped; cases slipped
  · rw [Text.splitAtByte?_append]
    rfl
  · next stop found => rw [search] at found; cases found

/-- Asides are removed by offsets without a slice inside of a character, whatever the text and the
brackets. -/
theorem removeByOffsets_eq (opener closer : Char) (cs : List Char) :
    removeByOffsets opener closer cs = some (removeAsides opener closer cs) := by
  fun_induction removeAsides opener closer cs with
  | case1 cs found =>
    rw [removeByOffsets, openerAt?_of_not_mem (not_mem_of_dropWhile found)]
  | case2 cs c inside found rest closed shorter ih =>
    obtain ⟨rfl, absent, whole⟩ := exists_of_dropWhile found
    calc removeByOffsets c closer cs
        = removeByOffsets c closer (cs.takeWhile (· != c) ++ c :: inside) := by rw [← whole]
      _ = removeByOffsets c closer (cs.takeWhile (· != c) ++ rest) := removeByOffsets_closed absent closed
      _ = some (removeAsides c closer (cs.takeWhile (· != c) ++ rest)) := ih
  | case3 cs c inside found closed =>
    obtain ⟨rfl, absent, whole⟩ := exists_of_dropWhile found
    calc removeByOffsets c closer cs
        = removeByOffsets c closer (cs.takeWhile (· != c) ++ c :: inside) := by rw [← whole]
      _ = some (cs.takeWhile (· != c)) := removeByOffsets_unclosed absent closed

/-! ## One scan -/

/-- Up to the closer of an aside nothing is kept, and what follows it is outside; without a closer
nothing is kept at all. -/
theorem keepOutside_of_open (opener closer : Char) (depth : Nat) (cs : List Char) :
    keepOutside opener closer (depth + 1) cs =
      ((afterClose? opener closer (depth + 1) cs).map (keepOutside opener closer 0)).getD [] := by
  induction cs generalizing depth with
  | nil => rfl
  | cons c rest ih =>
    rw [keepOutside, afterClose?]
    split
    · exact ih (depth + 1)
    split
    · cases depth with
      | zero => rfl
      | succ depth => exact ih depth
    · exact ih depth

theorem keepOutside_append {front : List Char} (absent : opener ∉ front) (cs : List Char) :
    keepOutside opener closer 0 (front ++ cs) = front ++ keepOutside opener closer 0 cs := by
  induction front with
  | nil => rfl
  | cons c rest ih =>
    rw [List.mem_cons, not_or] at absent
    rw [List.cons_append, keepOutside, beq_eq_false_iff_ne.2 (Ne.symm absent.1),
      if_neg Bool.false_ne_true, ih absent.2, List.cons_append]

theorem keepOutside_of_not_mem (absent : opener ∉ cs) : keepOutside opener closer 0 cs = cs := by
  have kept : keepOutside opener closer 0 (cs ++ []) = cs ++ keepOutside opener closer 0 [] :=
    keepOutside_append absent []
  rwa [keepOutside, List.append_nil] at kept

theorem keepOutside_aside {front : List Char} (absent : opener ∉ front) (inside : List Char) :
    keepOutside opener closer 0 (front ++ opener :: inside) = front ++ keepOutside opener closer 1 inside := by
  rw [keepOutside_append absent, keepOutside, beq_self_eq_true, if_pos rfl]

/-- Asides that are removed one by one are those that a scan with a depth passes over. -/
theorem removeAsides_eq_keepOutside (opener closer : Char) (cs : List Char) :
    removeAsides opener closer cs = keepOutside opener closer 0 cs := by
  fun_induction removeAsides opener closer cs with
  | case1 cs found => exact (keepOutside_of_not_mem (not_mem_of_dropWhile found)).symm
  | case2 cs c inside found rest closed shorter ih =>
    obtain ⟨rfl, absent, whole⟩ := exists_of_dropWhile found
    rw [ih]
    calc keepOutside c closer 0 (cs.takeWhile (· != c) ++ rest)
        = cs.takeWhile (· != c) ++ keepOutside c closer 1 inside := by
          rw [keepOutside_append absent, keepOutside_of_open, closed]
          rfl
      _ = keepOutside c closer 0 (cs.takeWhile (· != c) ++ c :: inside) := (keepOutside_aside absent inside).symm
      _ = keepOutside c closer 0 cs := by rw [← whole]
  | case3 cs c inside found unclosed =>
    obtain ⟨rfl, absent, whole⟩ := exists_of_dropWhile found
    calc cs.takeWhile (· != c)
        = cs.takeWhile (· != c) ++ keepOutside c closer 1 inside := by
          rw [keepOutside_of_open, unclosed]
          exact (List.append_nil _).symm
      _ = keepOutside c closer 0 (cs.takeWhile (· != c) ++ c :: inside) := (keepOutside_aside absent inside).symm
      _ = keepOutside c closer 0 cs := by rw [← whole]

theorem opener_not_mem_keepOutside (opener closer : Char) (depth : Nat) (cs : List Char) :
    opener ∉ keepOutside opener closer depth cs := by
  fun_induction keepOutside opener closer depth cs with
  | case1 => exact List.not_mem_nil
  | case2 c rest opens ih => exact ih
  | case3 c rest plain ih =>
    rw [List.mem_cons, not_or]
    exact ⟨fun same => plain (beq_iff_eq.2 same.symm), ih⟩
  | case4 depth c rest opens ih => exact ih
  | case5 depth c rest _ closes ih => exact ih
  | case6 depth c rest _ plain ih => exact ih

/-! ## All kinds of brackets -/

/-- A pass for one kind of bracket takes its openers away, and no later pass brings them back. -/
theorem opener_not_mem_foldl {pairs : List (Char × Char)} {pair : Char × Char}
    (listed : pair ∈ pairs) (cs : List Char) :
    pair.1 ∉ pairs.foldl (fun text pair => removeAsides pair.1 pair.2 text) cs := by
  induction pairs generalizing cs with
  | nil => cases listed
  | cons first others ih =>
    rw [List.foldl_cons]
    rcases List.mem_cons.1 listed with rfl | later
    · intro member
      have left := mem_of_mem_foldl (fun _ _ inside => mem_of_mem_removeAsides inside) member
      rw [removeAsides_eq_keepOutside] at left
      exact opener_not_mem_keepOutside _ _ _ _ left
    · exact ih later _

theorem opener_not_mem_cleanComment {pair : Char × Char} (listed : pair ∈ brackets) (comment : String) :
    pair.1 ∉ (cleanComment comment).toList := by
  rw [cleanComment, String.toList_ofList, cleanChars]
  intro member
  have separators := mem_of_mem_foldl (fun _ _ inside => Text.mem_of_mem_dropSuffix inside)
    (Text.mem_of_mem_trim member)
  exact opener_not_mem_foldl listed _ (Text.mem_of_mem_trim separators)

/-- Asides are removed as by one scan with a depth.  The removal by byte offsets comes to an end
without a slice inside of a character, and leaves what the scan keeps.  A cleaned comment has no
opener of any kind. -/
theorem asides_removed_by_scan (opener closer : Char) (text comment : String) :
    (∀ offset, (splitAtByte? offset text.toList).isSome ↔ String.Pos.Raw.IsValid text ⟨offset⟩) ∧
      removeByOffsets opener closer text.toList = some (removeAsides opener closer text.toList) ∧
      removeAsides opener closer text.toList = keepOutside opener closer 0 text.toList ∧
      ∀ pair ∈ brackets, pair.1 ∉ (cleanComment comment).toList :=
  ⟨fun _ => Text.isSome_splitAtByte?_iff, removeByOffsets_eq opener closer text.toList,
    removeAsides_eq_keepOutside opener closer text.toList, fun _ listed =>
      opener_not_mem_cleanComment listed comment⟩

theorem asides_removed_by_scan_interleaved :
    ('[', ']') ∈ brackets ∧
      removeByOffsets '（' '）' "状态（启（1）用）x）（y".toList = some "状态x）".toList ∧
      '[' ∉ (cleanComment "Price (in [cents) and] more").toList := by
  have listed : ('[', ']') ∈ brackets := by decide
  obtain ⟨-, removed, scanned, clean⟩ :=
    asides_removed_by_scan '（' '）' "状态（启（1）用）x）（y" "Price (in [cents) and] more"
  refine ⟨listed, ?_, clean _ listed⟩
  rw [removed, scanned]
  decide

end Naming
end Scaffold
