import Scaffold.Text.Search

namespace Scaffold
namespace Text

/-!
# Pieces of a text

The pieces of a text have no break in them, and a text without a break is a single piece.  Cutting a
text that was joined from others cuts each of these.
-/

variable {isBreak : Char → Bool} {mark : Char} {cs : List Char}

theorem beq_eq_false_of_not_mem (absent : mark ∉ cs) : ∀ c ∈ cs, (c == mark) = false := by
  intro c member
  rw [beq_eq_false_iff_ne]
  rintro rfl
  exact absent member

theorem pieces_of_unbroken (unbroken : ∀ c ∈ cs, isBreak c = false) : pieces isBreak cs = [cs] := by
  induction cs with
  | nil => rfl
  | cons c rest ih =>
    have solid := unbroken c List.mem_cons_self
    have others := ih fun d member => unbroken d (List.mem_cons_of_mem c member)
    rw [pieces, if_neg (by simp [solid]), others]

/-- What comes before the first break belongs to the first piece. -/
theorem pieces_append_of_unbroken {start : List Char}
    (unbroken : ∀ c ∈ start, isBreak c = false) {first : List Char}
    {others : List (List Char)} (cut : pieces isBreak cs = first :: others) :
    pieces isBreak (start ++ cs) = (start ++ first) :: others := by
  induction start with
  | nil => exact cut
  | cons c rest ih =>
    have solid := unbroken c List.mem_cons_self
    have inner := ih fun d member => unbroken d (List.mem_cons_of_mem c member)
    rw [List.cons_append, pieces, if_neg (by simp [solid]), inner]
    rfl

/-- What comes after the last break belongs to the last piece. -/
theorem exists_pieces_append_of_unbroken (cs : List Char) {finish : List Char}
    (unbroken : ∀ c ∈ finish, isBreak c = false) : ∃ others last,
      pieces isBreak cs = others ++ [last] ∧ pieces isBreak (cs ++ finish) = others ++ [last ++ finish] := by
  induction cs with
  | nil => exact ⟨[], [], rfl, pieces_of_unbroken unbroken⟩
  | cons c rest ih =>
    rcases ih with ⟨others, last, cut, longer⟩
    by_cases breaks : isBreak c = true
    · exact ⟨[] :: others, last, by simp [pieces, breaks, cut], by simp [pieces, breaks, longer]⟩
    · cases others with
      | nil => exact ⟨[], c :: last, by simp_all [pieces], by simp_all [pieces]⟩
      | cons first middle => exact ⟨(c :: first) :: middle, last, by simp_all [pieces], by simp_all [pieces]⟩

theorem unbroken_of_mem_pieces {piece : List Char} (member : piece ∈ pieces isBreak cs) :
    ∀ c ∈ piece, isBreak c = false := by
  induction cs generalizing piece with
  | nil =>
    rw [pieces, List.mem_singleton] at member
    subst member
    simp
  | cons c rest ih =>
    rw [pieces] at member
    split at member
    · rcases List.mem_cons.1 member with rfl | later
      · simp
      · exact ih later
    · next solid =>
      cases parts : pieces isBreak rest with
      | nil => exact absurd parts (pieces_ne_nil isBreak rest)
      | cons first others =>
        rw [parts] at member ih
        rcases List.mem_cons.1 member with rfl | later
        · intro d inside
          rcases List.mem_cons.1 inside with rfl | deeper
          · simpa using solid
          · exact ih List.mem_cons_self d deeper
        · exact ih (List.mem_cons_of_mem first later)

/-- Cutting at a mark that joins texts cuts each of the texts. -/
theorem pieces_joinWith_of_break (breaks : isBreak mark = true) {texts : List (List Char)} (some : texts ≠ []) :
    pieces isBreak (joinWith [mark] texts) = texts.flatMap (pieces isBreak) := by
  induction texts with
  | nil => exact absurd rfl some
  | cons text others ih =>
    by_cases alone : others = []
    · subst alone
      rw [List.flatMap_singleton]
      rfl
    · rw [joinWith_cons_of_ne_nil _ _ alone, List.append_assoc, List.singleton_append,
        pieces_append_break breaks, ih alone, List.flatMap_cons]

theorem pieces_joinWith {texts : List (List Char)} (some : texts ≠ []) :
    pieces (· == mark) (joinWith [mark] texts) = texts.flatMap (pieces (· == mark)) :=
  pieces_joinWith_of_break (by simp) some

/-! ## Joining -/

theorem map_joinWith (f : Char → Char) (separator : List Char) (texts : List (List Char)) :
    (joinWith separator texts).map f = joinWith (separator.map f) (texts.map (List.map f)) := by
  induction texts with
  | nil => rfl
  | cons text others ih =>
    by_cases alone : others = []
    · subst alone
      rfl
    · have more : others.map (List.map f) ≠ [] := by simpa using alone
      rw [joinWith_cons_of_ne_nil _ _ alone, List.map_cons, joinWith_cons_of_ne_nil _ _ more, List.map_append,
        List.map_append, ih]

theorem forall_mem_joinWith {property : Char → Prop} {separator : List Char} {texts : List (List Char)}
    (between : ∀ c ∈ separator, property c) (inside : ∀ text ∈ texts, ∀ c ∈ text, property c) :
    ∀ c ∈ joinWith separator texts, property c := by
  induction texts with
  | nil => exact fun _ => nofun
  | cons text others ih =>
    rcases List.forall_mem_cons.1 inside with ⟨first, rest⟩
    by_cases alone : others = []
    · subst alone
      exact first
    · rw [joinWith_cons_of_ne_nil _ _ alone]
      exact List.forall_mem_append.2 ⟨List.forall_mem_append.2 ⟨first, between⟩, ih rest⟩

/-! ## Cutting at a single character -/

theorem bne_of_not_mem (absent : mark ∉ cs) : ∀ c ∈ cs, (c != mark) = true := by
  intro c member
  rw [bne_iff_ne]
  rintro rfl
  exact absent member

/-- The first mark divides a text. -/
theorem takeWhile_mark (absent : mark ∉ cs) (rest : List Char) :
    (cs ++ mark :: rest).takeWhile (· != mark) = cs ∧
    (cs ++ mark :: rest).dropWhile (· != mark) = mark :: rest := by
  rw [List.takeWhile_append_of_pos (bne_of_not_mem absent), List.dropWhile_append_of_pos (bne_of_not_mem absent)]
  simp

theorem takeWhile_of_not_mem (absent : mark ∉ cs) :
    cs.takeWhile (· != mark) = cs ∧ cs.dropWhile (· != mark) = [] :=
  ⟨by simpa using @List.takeWhile_append_of_pos _ _ cs [] (bne_of_not_mem absent),
    by simpa using @List.dropWhile_append_of_pos _ _ cs [] (bne_of_not_mem absent)⟩

theorem cutBefore?_singleton (absent : mark ∉ cs) (rest : List Char) :
    cutBefore? [mark] (cs ++ mark :: rest) = some (cs, mark :: rest) := by
  induction cs with
  | nil => simp [cutBefore?]
  | cons c others ih =>
    rw [List.mem_cons, not_or] at absent
    simp [cutBefore?, absent.1, ih absent.2]

theorem cutBefore?_singleton_eq_none (absent : mark ∉ cs) : cutBefore? [mark] cs = none := by
  induction cs with
  | nil => rfl
  | cons c rest ih =>
    rw [List.mem_cons, not_or] at absent
    simp [cutBefore?, absent.1, ih absent.2]

/-! ## Rows -/

/-- Rows of which each begins with the line feed that ends the row before it. -/
def feeds (rows : List (List Char)) : List Char :=
  rows.flatMap fun row => '\n' :: row

theorem feeds_cons (row : List Char) (rest : List (List Char)) : feeds (row :: rest) = '\n' :: row ++ feeds rest :=
  List.flatMap_cons

theorem feeds_append (first second : List (List Char)) : feeds (first ++ second) = feeds first ++ feeds second :=
  List.flatMap_append

/-- Rows between line feeds are lines of the text. -/
theorem pieces_feeds {rows : List (List Char)} (unbroken : ∀ row ∈ rows, '\n' ∉ row) (before after : List Char) :
    pieces (· == '\n') (before ++ feeds rows ++ '\n' :: after) =
      pieces (· == '\n') before ++ rows ++ pieces (· == '\n') after := by
  induction rows generalizing before with
  | nil => rw [feeds, List.flatMap_nil, List.append_nil, List.append_nil, pieces_append_break (by simp)]
  | cons row rest ih =>
    have solid := beq_eq_false_of_not_mem (unbroken row List.mem_cons_self)
    have others := ih (fun later member => unbroken later (List.mem_cons_of_mem row member)) row
    have first : before ++ feeds (row :: rest) ++ '\n' :: after =
        before ++ '\n' :: (row ++ feeds rest ++ '\n' :: after) := by
      simp [feeds_cons]
    rw [first, pieces_append_break (by simp), others, pieces_of_unbroken solid]
    simp

end Text
end Scaffold
