namespace Scaffold
namespace Text

/-!
# Finding, cutting and joining text

Text is searched as a list of characters.  Every function here either finds the first occurrence of
something or cuts the text at each of its occurrences, and none loses a character other than the
ones it cuts at.
-/

/-- Whether `needle` occurs in the text. -/
def occurs (needle : List Char) : List Char → Bool
  | [] => needle.isEmpty
  | c :: rest => needle.isPrefixOf (c :: rest) || occurs needle rest

/-- Whether `needle` occurs in `s`. -/
def contains (s needle : String) : Bool :=
  occurs needle.toList s.toList

/-- The text before the first occurrence of `needle`, and the text from that occurrence on. -/
def cutBefore? (needle : List Char) : List Char → Option (List Char × List Char)
  | [] => if needle.isEmpty then some ([], []) else none
  | c :: rest =>
    if needle.isPrefixOf (c :: rest) then some ([], c :: rest)
    else (cutBefore? needle rest).map (fun cut => (c :: cut.1, cut.2))

/-- A cut loses nothing, and what it finds begins with the needle. -/
theorem append_of_cutBefore? {needle cs before found : List Char}
    (cut : cutBefore? needle cs = some (before, found)) :
    before ++ found = cs ∧ needle.isPrefixOf found := by
  induction cs generalizing before found with
  | nil =>
    simp only [cutBefore?] at cut
    split at cut <;> simp_all
  | cons c rest ih =>
    simp only [cutBefore?] at cut
    split at cut
    · cases cut
      exact ⟨rfl, by assumption⟩
    · obtain ⟨⟨tail, rest'⟩, inner, same⟩ := Option.map_eq_some_iff.1 cut
      obtain ⟨joined, starts⟩ := ih inner
      cases same
      exact ⟨by simp [joined], starts⟩

/-- A cut is found exactly where the needle occurs. -/
theorem isSome_cutBefore? (needle cs : List Char) : (cutBefore? needle cs).isSome = occurs needle cs := by
  induction cs with
  | nil => cases needle <;> rfl
  | cons c rest ih =>
    simp only [cutBefore?, occurs]
    split
    · simp_all
    · simp_all

/-- The text with the first `count` occurrences of `old` replaced by `new`. -/
def replace (old new : List Char) : Nat → List Char → List Char
  | 0, cs => cs
  | count + 1, cs =>
    match cutBefore? old cs with
    | none => cs
    | some (before, found) => before ++ new ++ replace old new count (found.drop old.length)

/-- The pieces between the characters that `isBreak` picks out: one more piece than there are
breaks. -/
def pieces (isBreak : Char → Bool) : List Char → List (List Char)
  | [] => [[]]
  | c :: rest =>
    if isBreak c then [] :: pieces isBreak rest
    else
      match pieces isBreak rest with
      | [] => [[c]]
      | piece :: others => (c :: piece) :: others

theorem pieces_ne_nil (isBreak : Char → Bool) (cs : List Char) : pieces isBreak cs ≠ [] := by
  cases cs with
  | nil => simp [pieces]
  | cons c rest =>
    simp only [pieces]
    split
    · simp
    · split <;> simp

/-- Cutting a text that has a break in it gives the pieces of both sides. -/
theorem pieces_append_break {isBreak : Char → Bool} {c : Char} (breaks : isBreak c = true)
    (before after : List Char) :
    pieces isBreak (before ++ c :: after) = pieces isBreak before ++ pieces isBreak after := by
  induction before with
  | nil => simp only [List.nil_append, pieces, breaks, if_true, List.cons_append]
  | cons first rest ih =>
    rw [List.cons_append, pieces, pieces, ih]
    by_cases cut : isBreak first = true
    · simp only [cut, if_true, List.cons_append]
    · rw [if_neg cut, if_neg cut]
      cases parts : pieces isBreak rest with
      | nil => exact absurd parts (pieces_ne_nil isBreak rest)
      | cons piece others => rfl

/-- The text without its ending `suffix`, when it has that ending. -/
def dropSuffix? (suffix cs : List Char) : Option (List Char) :=
  if suffix.isSuffixOf cs then some (cs.take (cs.length - suffix.length)) else none

/-- The text without its ending `suffix`, or the whole text when it ends otherwise. -/
def dropSuffix (suffix cs : List Char) : List Char :=
  (dropSuffix? suffix cs).getD cs

/-- The texts one after another with `separator` between neighbours. -/
def joinWith (separator : List Char) : List (List Char) → List Char
  | [] => []
  | [text] => text
  | text :: others => text ++ separator ++ joinWith separator others

theorem joinWith_cons_of_ne_nil (separator text : List Char) {others : List (List Char)} (rest : others ≠ []) :
    joinWith separator (text :: others) = text ++ separator ++ joinWith separator others := by
  cases others with
  | nil => exact absurd rfl rest
  | cons => rfl

theorem joinWith_cons_cons (separator : List Char) (c : Char) (text : List Char) (others : List (List Char)) :
    joinWith separator ((c :: text) :: others) = c :: joinWith separator (text :: others) := by
  cases others <;> rfl

/-- Joining the pieces with the mark at which they were cut gives the text back. -/
theorem joinWith_pieces (mark : Char) (cs : List Char) : joinWith [mark] (pieces (· == mark) cs) = cs := by
  induction cs with
  | nil => rfl
  | cons c rest ih =>
    simp only [pieces]
    split
    · rw [joinWith_cons_of_ne_nil _ _ (pieces_ne_nil _ _), ih]
      simp_all
    · split
      · exact absurd (by assumption) (pieces_ne_nil _ _)
      · rw [joinWith_cons_cons]
        simp_all

/-- The lines of a text: each ends before a line feed, or before a carriage return and a line feed,
and a line feed at the very end begins no further line. -/
def lines (cs : List Char) : List (List Char) :=
  let parts := pieces (· == '\n') cs
  let (body, last) := (parts.dropLast, parts.getLast?.getD [])
  body.map (fun line => dropSuffix ['\r'] line) ++ (if last.isEmpty then [] else [last])

/-! ## Texts given line by line -/

/-- Lines of text, each ended by a line feed. -/
def block (lines : List String) : String :=
  String.join (lines.map (fun line => line ++ "\n"))

/-- Lines of text with a line feed between neighbours. -/
def paragraph (lines : List String) : String :=
  "\n".intercalate lines

end Text
end Scaffold
