import Scaffold.Proofs.Naming.Letters
import Scaffold.Proofs.Text.CaseTables

namespace Scaffold

/-!
# Where the words of a name meet

In snake case each place of a name is decided by the characters on its two sides and the one after
them.  No underscore stands where the form of a small sigma is decided: next to it on one side is a
letter or digit, which ends the search for a cased character there.
-/

namespace Text

/-! ## Lower case, place by place -/

/-- What the character at `i` becomes in the lower case of a text. -/
def lowerAt (cs : List Char) (i : Nat) : List Char :=
  match cs[i]? with
  | none => []
  | some c =>
    if c == 'Σ' then (if meetsCased (cs.take i).reverse && !meetsCased (cs.drop (i + 1)) then ['ς'] else ['σ'])
    else lowerChar c

theorem lowerAt_middle (seen : List Char) (c : Char) (rest : List Char) :
    lowerAt (seen.reverse ++ c :: rest) seen.length =
      if c == 'Σ' then (if meetsCased seen && !meetsCased rest then ['ς'] else ['σ']) else lowerChar c := by
  have here : (seen.reverse ++ c :: rest)[seen.length]? = some c := by
    rw [List.getElem?_append_right (by simp)]
    simp
  have before : (seen.reverse ++ c :: rest).take seen.length = seen.reverse :=
    List.take_left' (List.length_reverse)
  have behind : (seen.reverse ++ c :: rest).drop (seen.length + 1) = rest := by
    rw [← List.drop_drop, List.drop_left' (List.length_reverse)]
    rfl
  rw [lowerAt, here, before, behind, List.reverse_reverse]

theorem lowerAt_behind (seen : List Char) (c : Char) (rest : List Char) (i : Nat) :
    lowerAt (seen.reverse ++ c :: rest) (seen.length + (i + 1)) =
      lowerAt ((c :: seen).reverse ++ rest) ((c :: seen).length + i) := by
  rw [List.reverse_cons, List.append_assoc, List.singleton_append, List.length_cons]
  congr 1
  omega

/-- The places of a text are its first place and those of the rest. -/
theorem flatMap_range_cons (piece : Nat → List Char) (c : Char) (rest : List Char) :
    (List.range (c :: rest).length).flatMap piece =
      piece 0 ++ (List.range rest.length).flatMap fun i => piece (i + 1) := by
  rw [List.length_cons, List.range_succ_eq_map, List.flatMap_cons, List.flatMap_map]

theorem lowerAfter_eq_flatMap (seen cs : List Char) :
    lowerAfter seen cs = (List.range cs.length).flatMap fun i =>
      lowerAt (seen.reverse ++ cs) (seen.length + i) := by
  induction cs generalizing seen with
  | nil => rfl
  | cons c rest ih =>
    rw [lowerAfter, ← lowerAt_middle, ih, flatMap_range_cons]
    simp only [lowerAt_behind, Nat.add_zero]

/-- The lower case of a text has a piece for each of its characters. -/
theorem lowerChars_eq_flatMap (cs : List Char) : lowerChars cs = (List.range cs.length).flatMap (lowerAt cs) := by
  rw [lowerChars, lowerAfter_eq_flatMap]
  simp

/-! ## Characters that end the search for a cased one -/

theorem meetsCased_cons_of_ignorable {c : Char} (ignorable : isCaseIgnorable c = true) (rest : List Char) :
    meetsCased (c :: rest) = meetsCased rest := by
  rw [meetsCased, meetsCased, List.dropWhile_cons_of_pos ignorable]

theorem meetsCased_cons_of_solid {c : Char} (solid : isCaseIgnorable c = false) (rest : List Char) :
    meetsCased (c :: rest) = isCased c := by
  rw [meetsCased, List.dropWhile_cons_of_neg (by simp [solid])]
  rfl

end Text

namespace Naming

variable {a b c : Char} {cs rest tail : List Char}

theorem ascii_of_isSmall (small : isSmall c = true) : c.toNat < 128 := by
  simp only [isSmall, Bool.and_eq_true, decide_eq_true_eq, Char.le_def, UInt32.le_iff_toNat_le] at small
  exact Nat.lt_of_le_of_lt small.2 (by decide)

theorem isCased_of_isCapital (capital : isCapital c = true) :
    Text.isCaseIgnorable c = false ∧ Text.isCased c = true :=
  Text.ascii_cases (fun c => isCapital c = true → Text.isCaseIgnorable c = false ∧
    Text.isCased c = true) (by decide)
    (ascii_of_isCapital capital) capital

theorem not_isCaseIgnorable_of_endsWord (ends : endsWord c = true) : Text.isCaseIgnorable c = false := by
  rcases Bool.or_eq_true_iff.1 ends with small | digit
  · exact Text.ascii_cases (fun c => isSmall c = true → Text.isCaseIgnorable c = false) (by decide)
      (ascii_of_isSmall small) small
  · exact Text.isCaseIgnorable_of_isDecimalDigit digit

/-! ## Boundaries -/

/-- A word of the name ends with the character at `i`, and the next character begins another one: a
capital follows a small letter or a digit, or it follows a capital and has a small letter behind
it. -/
def IsBoundary (cs : List Char) (i : Nat) : Prop :=
  ∃ a b, cs[i]? = some a ∧ cs[i + 1]? = some b ∧
    (endsWord a = true ∧ isCapital b = true ∨
      isCapital a = true ∧ isCapital b = true ∧ ∃ c, cs[i + 2]? = some c ∧ isSmall c = true)

theorem isBoundary_iff {i : Nat} : IsBoundary cs i ↔ meetsWord (cs.drop i) = true := by
  rw [IsBoundary, ← List.head?_drop, ← List.head?_drop, ← List.head?_drop]
  have second : cs.drop (i + 1) = (cs.drop i).drop 1 := by rw [List.drop_drop]
  have third : cs.drop (i + 2) = (cs.drop i).drop 2 := by rw [List.drop_drop]
  rw [second, third]
  rcases cs.drop i with _ | ⟨a, _ | ⟨b, rest⟩⟩
  · simp [meetsWord]
  · simp [meetsWord]
  · simp only [meetsWord, List.head?_cons, List.drop_succ_cons, List.drop_zero, Option.some.injEq, Bool.and_eq_true,
      Bool.or_eq_true, Option.any_eq_true]
    constructor
    · rintro ⟨_, _, rfl, rfl, ⟨ends, capital⟩ | ⟨run, capital, small⟩⟩
      · exact ⟨capital, .inl ends⟩
      · exact ⟨capital, .inr ⟨run, small⟩⟩
    · rintro ⟨capital, ends | ⟨run, small⟩⟩
      · exact ⟨a, b, rfl, rfl, .inl ⟨ends, capital⟩⟩
      · exact ⟨a, b, rfl, rfl, .inr ⟨run, capital, small⟩⟩

instance (cs : List Char) (i : Nat) : Decidable (IsBoundary cs i) :=
  decidable_of_iff' _ isBoundary_iff

/-- What stands behind the character at `i` when the words are spread. -/
def gapAt (cs : List Char) (i : Nat) : List Char :=
  if IsBoundary cs i then ['_'] else []

/-- The name with `_` at every boundary. -/
def spread (cs : List Char) : List Char :=
  (List.range cs.length).flatMap fun i => cs[i]?.toList ++ gapAt cs i

theorem gapAt_zero (cs : List Char) : gapAt cs 0 = if meetsWord cs then ['_'] else [] := by
  simp only [gapAt, isBoundary_iff, List.drop_zero]

theorem gapAt_succ (c : Char) (rest : List Char) (i : Nat) : gapAt (c :: rest) (i + 1) = gapAt rest i := by
  simp only [gapAt, isBoundary_iff, List.drop_succ_cons]

theorem spread_cons (c : Char) (rest : List Char) :
    spread (c :: rest) = c :: ((if meetsWord (c :: rest) then ['_'] else []) ++ spread rest) := by
  rw [spread, Text.flatMap_range_cons, gapAt_zero]
  simp only [gapAt_succ, List.getElem?_cons_succ]
  rfl

/-! ## Two passes in one -/

theorem spread_eq_spreadAt (cs : List Char) : spread cs = spreadAt meetsWord cs := by
  induction cs with
  | nil => rfl
  | cons c rest ih => rw [spread_cons, spreadAt, ih]

/-- Snake case is the lower case of the spread name. -/
theorem snake_eq_spread (cs : List Char) : snake cs = Text.lowerChars (spread cs) := by
  rw [snake_eq_spreadAt, spread_eq_spreadAt]

/-! ## Lower case after spreading -/

theorem isCapital_of_meetsWord (meets : meetsWord (c :: rest) = true) : rest.head?.any isCapital = true := by
  cases rest with
  | nil => cases meets
  | cons b more => exact (Bool.and_eq_true_iff.1 meets).1

theorem not_isCaseIgnorable_of_meetsWord (meets : meetsWord (c :: rest) = true) :
    Text.isCaseIgnorable c = false := by
  cases rest with
  | nil => cases meets
  | cons b more =>
    rcases Bool.or_eq_true_iff.1 (Bool.and_eq_true_iff.1 meets).2 with ends | acronym
    · exact not_isCaseIgnorable_of_endsWord ends
    · exact (isCased_of_isCapital (Bool.and_eq_true_iff.1 acronym).1).1

theorem not_meetsWord_sigma (rest : List Char) : meetsWord ('Σ' :: rest) = false := by
  have foreign : endsWord 'Σ' = false ∧ isCapital 'Σ' = false := by decide
  cases rest with
  | nil => rfl
  | cons b more => simp [meetsWord, foreign.1, foreign.2]

theorem meetsCased_spreadAt (cs : List Char) : Text.meetsCased (spreadAt meetsWord cs) = Text.meetsCased cs := by
  induction cs with
  | nil => rfl
  | cons c rest ih =>
    rw [spreadAt]
    cases solid : Text.isCaseIgnorable c with
    | true =>
      have inner : meetsWord (c :: rest) = false := by
        rw [← Bool.not_eq_true]
        intro meets
        exact Bool.false_ne_true ((not_isCaseIgnorable_of_meetsWord meets).symm.trans solid)
      rw [inner, Text.meetsCased_cons_of_ignorable solid, Text.meetsCased_cons_of_ignorable solid]
      exact ih
    | false => rw [Text.meetsCased_cons_of_solid solid, Text.meetsCased_cons_of_solid solid]

/-- What has been read of a spread text decides about the next small sigma like what has been read
of the text itself.  Right behind an underscore it may not, but there a capital comes first. -/
def ReadsAlike (spreadSeen seen rest : List Char) : Prop :=
  rest.head?.any isCapital = true ∨ Text.meetsCased spreadSeen = Text.meetsCased seen

theorem ReadsAlike.step {spreadSeen seen : List Char} (alike : ReadsAlike spreadSeen seen (c :: rest)) :
    ReadsAlike (c :: spreadSeen) (c :: seen) rest := by
  right
  cases solid : Text.isCaseIgnorable c with
  | false => rw [Text.meetsCased_cons_of_solid solid, Text.meetsCased_cons_of_solid solid]
  | true =>
    rw [Text.meetsCased_cons_of_ignorable solid, Text.meetsCased_cons_of_ignorable solid]
    refine alike.resolve_left fun capital => ?_
    exact Bool.false_ne_true ((isCased_of_isCapital capital).1.symm.trans solid)

/-- The lower case of a spread text is the lower case of the text, spread at the same places. -/
theorem lowerAfter_spreadAt {spreadSeen seen cs : List Char} (alike : ReadsAlike spreadSeen seen cs) :
    Text.lowerAfter spreadSeen (spreadAt meetsWord cs) =
      (List.range cs.length).flatMap fun i =>
        Text.lowerAt (seen.reverse ++ cs) (seen.length + i) ++ gapAt cs i := by
  induction cs generalizing spreadSeen seen with
  | nil => rfl
  | cons c rest ih =>
    have form : (if c == 'Σ' then
          (if Text.meetsCased spreadSeen &&
            !Text.meetsCased ((if meetsWord (c :: rest) then ['_'] else []) ++ spreadAt meetsWord rest)
              then ['ς'] else ['σ'])
        else Text.lowerChar c) = Text.lowerAt (seen.reverse ++ c :: rest) seen.length := by
      rw [Text.lowerAt_middle]
      by_cases sigma : c = 'Σ'
      · subst sigma
        have seenAlike := alike.resolve_left (by simp [isCapital])
        rw [not_meetsWord_sigma, seenAlike]
        simp only [Bool.false_eq_true, if_false, List.nil_append, meetsCased_spreadAt]
      · simp [sigma]
    rw [spreadAt, Text.flatMap_range_cons, gapAt_zero, Text.lowerAfter, form, List.append_assoc]
    simp only [Text.lowerAt_behind, gapAt_succ, Nat.add_zero]
    congr 1
    cases meets : meetsWord (c :: rest) with
    | true =>
      rw [← ih (.inl (isCapital_of_meetsWord meets))]
      exact lowerAfter_cons_of_ascii (by decide) _ _
    | false => exact ih alike.step

/-- Snake case in one pass: the name gets a `_` at each boundary and loses nothing, and is
lower-cased as a whole.  The lower case of the name itself with a `_` at the same places is the same
text. -/
theorem snakeCase_eq_spread (s : String) :
    snakeCase s = Text.lower (String.ofList (spread s.toList)) ∧
      (Text.lower s).toList = (List.range s.length).flatMap (Text.lowerAt s.toList) ∧
      (snakeCase s).toList = (List.range s.length).flatMap fun i =>
        Text.lowerAt s.toList i ++ gapAt s.toList i := by
  refine ⟨?_, ?_, ?_⟩
  · rw [Text.lower, String.toList_ofList, snakeCase, snake_eq_spread]
  · rw [Text.lower, String.toList_ofList, Text.lowerChars_eq_flatMap, String.length_toList]
  · have start : ReadsAlike [] [] s.toList := .inr rfl
    rw [snakeCase, String.toList_ofList, snake_eq_spreadAt, Text.lowerChars,
      lowerAfter_spreadAt start, String.length_toList]
    simp

example : spread "XMLHttp2Request".toList = "XML_Http2_Request".toList := by decide

end Naming
end Scaffold
