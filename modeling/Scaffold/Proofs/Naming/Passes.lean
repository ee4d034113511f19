import Mathlib.Data.List.Permutation
import Mathlib.Data.Option.Basic
import Scaffold.Naming.Case
import Scaffold.Proofs.Text.CaseTables

namespace Scaffold

/-!
# The two passes of snake case

Snake case takes a name apart twice, first at its acronyms, one run of capitals after the other, and
then at the rest of its words.  Each pass replaces the matches of a pattern, and comes to putting an
underscore behind the characters at which a condition on the text from there on holds.  What a match
takes beyond its boundary is never the beginning of another match: an acronym ends with a small
letter, and the second pattern with a capital, which ends no word.

Both passes together come to one.  What the first pass puts into the name does not disturb the
second, because it stands between capitals.
-/

namespace Pattern

theorem orElse_eq (first second : Unit → Option Cursor) :
    Matcher.orElse first second = (first ()).or (second ()) := by
  rw [Matcher.orElse]
  cases first () <;> rfl

/-- A text that is read as patterns to its end spells them as alternatives, unless they are too
large. -/
theorem parse?_of_readAlternatives {text : String} (nodes : List Node) (state : State)
    (read : readAlternatives (2 * text.toList.length + 2) { flags := {}, names := [] } text.toList =
      some (nodes, state, []))
    (small : (Node.alternatives nodes).weight ≤ maxWeight) : parse? text = some ⟨Node.alternatives nodes⟩ := by
  have fits : ([] : List Char).isEmpty && decide ((Node.alternatives nodes).weight ≤ maxWeight) :=
    decide_eq_true small
  rw [parse?, read]
  exact congrArg (· >>= fun _ => some (Pattern.mk (Node.alternatives nodes))) (if_pos fits)

/-- A place at which nothing is replaced. -/
theorem replaceFrom_cons_of_none {node : Node} {pieces : List Piece} {joined : Bool}
    {behind rest : List Char} {c : Char}
    (none : replacement? node pieces joined behind (c :: rest) = .none) :
    replaceFrom node pieces 0 joined behind (c :: rest) =
      c :: replaceFrom node pieces 0 false (c :: behind) rest := by
  rw [replaceFrom, none]

/-- The characters of a match are passed over. -/
theorem replaceFrom_passing (node : Node) (pieces : List Piece) (passed behind rest : List Char) :
    replaceFrom node pieces passed.length true behind (passed ++ rest) =
      replaceFrom node pieces 0 true (passed.reverse ++ behind) rest := by
  induction passed generalizing behind with
  | nil => rfl
  | cons c more ih =>
    rw [List.length_cons, List.cons_append, replaceFrom, ih, List.reverse_cons, List.append_assoc]
    rfl

/-- A match is replaced, and the search goes on behind it. -/
theorem replaceFrom_of_some {node : Node} {pieces : List Piece} {joined : Bool} {behind new : List Char} {c : Char}
    (passed rest : List Char)
    (found : replacement? node pieces joined behind (c :: passed ++ rest) = some (passed.length + 1, new)) :
    replaceFrom node pieces 0 joined behind (c :: passed ++ rest) =
      new ++ replaceFrom node pieces 0 true (passed.reverse ++ c :: behind) rest := by
  rw [List.cons_append, replaceFrom, ← List.cons_append, found, ← replaceFrom_passing]

end Pattern

namespace Naming

open Pattern

variable {a b c : Char} {behind cs more rest tail word : List Char}

/-! ## The two patterns -/

theorem parse?_acronymBoundary : Pattern.parse? "([A-Z]+)([A-Z][a-z])" = some acronymBoundary := by
  refine parse?_of_readAlternatives [acronymBoundary.node] ⟨{}, [], 2⟩ ?_ (by decide)
  cbv

theorem parse?_wordBoundary : Pattern.parse? "([a-z\\d])([A-Z])" = some wordBoundary := by
  refine parse?_of_readAlternatives [wordBoundary.node] ⟨{}, [], 2⟩ ?_ (by decide)
  cbv

/-! ## Underscores behind some characters -/

/-- A text with `_` behind the characters at which `meets` holds of the text from there on. -/
def spreadAt (meets : List Char → Bool) : List Char → List Char
  | [] => []
  | c :: rest => c :: ((if meets (c :: rest) then ['_'] else []) ++ spreadAt meets rest)

/-- Where the first pass sees a boundary. -/
def meetsAcronym : List Char → Bool
  | a :: b :: rest => isCapital a && isCapital b && rest.head?.any isSmall
  | _ => false

/-- Where the second pass sees a boundary. -/
def meetsPlain : List Char → Bool
  | a :: b :: _ => endsWord a && isCapital b
  | _ => false

/-- Whether a word ends with the first of the characters. -/
def meetsWord : List Char → Bool
  | a :: b :: rest => isCapital b && (endsWord a || isCapital a && rest.head?.any isSmall)
  | _ => false

theorem spreadAt_cons_of_not {meets : List Char → Bool} (inner : meets (c :: rest) = false) :
    spreadAt meets (c :: rest) = c :: spreadAt meets rest := by
  rw [spreadAt, inner]
  rfl

/-! ## Capitals -/

theorem ascii_of_isCapital (capital : isCapital c = true) : c.toNat < 128 := by
  simp only [isCapital, Bool.and_eq_true, decide_eq_true_eq, Char.le_def, UInt32.le_iff_toNat_le] at capital
  exact Nat.lt_of_le_of_lt capital.2 (by decide)

theorem not_endsWord_of_isCapital (capital : isCapital c = true) : endsWord c = false :=
  Text.ascii_cases (fun c => isCapital c = true → endsWord c = false) (by decide)
    (ascii_of_isCapital capital) capital

theorem not_isSmall_of_isCapital (capital : isCapital c = true) : isSmall c = false :=
  (Bool.or_eq_false_iff.1 (not_endsWord_of_isCapital capital)).1

theorem not_isCapital_of_isSmall (small : isSmall c = true) : isCapital c = false := by
  rw [← Bool.not_eq_true]
  intro capital
  exact Bool.false_ne_true ((not_isSmall_of_isCapital capital).symm.trans small)

@[simp] theorem member_capitalSet (c : Char) : capitalSet.member c = isCapital c := rfl

@[simp] theorem member_smallSet (c : Char) : smallSet.member c = isSmall c := rfl

/-! ## The pass over the words -/

/-- The second pattern takes a character that ends a word and a capital. -/
theorem matcher_wordBoundary (behind : List Char) (a b : Char) (rest : List Char) :
    wordBoundary.node.matcher ⟨behind, a :: b :: rest, []⟩ some =
      if endsWord a && isCapital b then some ⟨b :: a :: behind, rest, [(2, [b]), (1, [a])]⟩ else none := by
  have first : (CharSet.union smallSet (.property Text.isDecimalDigit)).member a = endsWord a := rfl
  simp only [wordBoundary, Node.matcher, Matcher.one, first]
  cases endsWord a <;> cases capital : isCapital b <;> simp [Cursor.keep, capital]

theorem matcher_wordBoundary_short {cs : List Char} (behind : List Char) (short : cs.length < 2) :
    wordBoundary.node.matcher ⟨behind, cs, []⟩ some = none := by
  rcases cs with _ | ⟨a, _ | ⟨b, rest⟩⟩
  · rfl
  · simp [wordBoundary, Node.matcher, Matcher.one, Cursor.keep]
  · simp only [List.length_cons] at short
    omega

theorem replacement?_wordBoundary (joined : Bool) (behind : List Char) (a b : Char) (rest : List Char) :
    replacement? wordBoundary.node parted joined behind (a :: b :: rest) =
      if endsWord a && isCapital b then some (2, [a, '_', b]) else none := by
  rw [replacement?, matcher_wordBoundary]
  cases endsWord a && isCapital b with
  | true =>
    have length : (a :: b :: rest).length - rest.length = 2 := by
      simp only [List.length_cons]
      omega
    simp only [if_true, length]
    rw [if_neg (by simp)]
    rfl
  | false => rfl

theorem replacement?_wordBoundary_short (joined : Bool) (behind : List Char) {cs : List Char}
    (short : cs.length < 2) :
    replacement? wordBoundary.node parted joined behind cs = none := by
  rw [replacement?, matcher_wordBoundary_short behind short]

theorem replaceFrom_wordBoundary (joined : Bool) (behind cs : List Char) :
    replaceFrom wordBoundary.node parted 0 joined behind cs = spreadAt meetsPlain cs := by
  induction length : cs.length using Nat.strongRecOn generalizing joined behind cs with
  | _ n ih =>
  subst length
  rcases cs with _ | ⟨a, _ | ⟨b, rest⟩⟩
  · simp [replaceFrom, replacement?_wordBoundary_short, spreadAt]
  · rw [replaceFrom_cons_of_none (replacement?_wordBoundary_short joined behind (by simp)),
      ih 0 (by simp) false _ [] rfl]
    rfl
  have found := replacement?_wordBoundary joined behind a b rest
  cases meets : endsWord a && isCapital b with
  | true =>
    rw [meets] at found
    have inner : meetsPlain (b :: rest) = false := by
      cases rest with
      | nil => rfl
      | cons d more => simp [meetsPlain, not_endsWord_of_isCapital (Bool.and_eq_true_iff.1 meets).2]
    have next := replaceFrom_of_some [b] rest found
    rw [List.cons_append, List.singleton_append] at next
    rw [next, ih rest.length (by simp only [List.length_cons]; omega) true _ rest rfl, spreadAt,
      spreadAt_cons_of_not inner, meetsPlain, meets]
    rfl
  | false =>
    rw [meets] at found
    rw [replaceFrom_cons_of_none found, ih (b :: rest).length (by simp) false _ (b :: rest) rfl,
      spreadAt_cons_of_not (show meetsPlain (a :: b :: rest) = false from meets)]

/-- The second pass puts an underscore between the end of a word and a capital. -/
theorem replaceAll_wordBoundary (cs : List Char) : wordBoundary.replaceAll parted cs = spreadAt meetsPlain cs :=
  replaceFrom_wordBoundary false [] cs

/-! ## The pass over the acronyms -/

/-- The capitals before the last one of a run that a small letter follows, and the text from that
one on. -/
def lastCapital? : List Char → Option (List Char × List Char)
  | a :: b :: rest =>
    if isCapital a then
      if isSmall b then some ([], a :: b :: rest)
      else (lastCapital? (b :: rest)).map fun (more, word) => (a :: more, word)
    else none
  | _ => none

/-- A text that begins with a capital and a small letter. -/
def StartsWord (cs : List Char) : Prop :=
  ∃ a b rest, cs = a :: b :: rest ∧ isCapital a = true ∧ isSmall b = true

theorem lastCapital?_eq_some (found : lastCapital? cs = some (more, word)) :
    cs = more ++ word ∧ (∀ c ∈ more, isCapital c = true) ∧ StartsWord word := by
  induction cs generalizing more with
  | nil => cases found
  | cons a others ih =>
    cases others with
    | nil => cases found
    | cons b rest =>
      rw [lastCapital?] at found
      split at found
      · next capital =>
        split at found
        · next small =>
          cases found
          exact ⟨rfl, by simp, a, b, rest, rfl, capital, small⟩
        · obtain ⟨⟨inner, _⟩, there, same⟩ := Option.map_eq_some_iff.1 found
          cases same
          obtain ⟨whole, capitals, starts⟩ := ih there
          exact ⟨by rw [whole, List.cons_append], List.forall_mem_cons.2 ⟨capital, capitals⟩, starts⟩
      · cases found

theorem not_startsWord_cons (plain : isCapital c = false) : ¬ StartsWord (c :: rest) := by
  rintro ⟨a, b, others, same, capital, -⟩
  cases same
  exact Bool.false_ne_true (plain.symm.trans capital)

/-- A greedy run of capitals gives the last one back to a continuation that asks for a capital and a
small letter. -/
theorem many_capitals (next : Cursor → Option Cursor) {groups : List (Nat × List Char)}
    (fails : ∀ behind cs, ¬ StartsWord cs → next ⟨behind, cs, groups⟩ = none)
    {fuel : List Char} (enough : cs.length ≤ fuel.length) (behind : List Char) :
    Matcher.many true false (Matcher.one capitalSet) fuel ⟨behind, cs, groups⟩ next =
      (lastCapital? cs).bind fun (more, word) => next ⟨more.reverse ++ behind, word, groups⟩ := by
  induction cs generalizing fuel behind with
  | nil =>
    have none := fails behind [] (by simp [StartsWord])
    cases fuel <;> simp [Matcher.many, Matcher.prefer, Matcher.orElse, Matcher.one, lastCapital?, none]
  | cons c rest ih =>
    cases fuel with
    | nil => simp at enough
    | cons spare fuel =>
      have inner := ih (show rest.length ≤ fuel.length by simpa using enough) (c :: behind)
      cases capital : isCapital c with
      | false =>
        have here := fails behind (c :: rest) (not_startsWord_cons capital)
        have nothing : lastCapital? (c :: rest) = none := by
          cases rest <;> simp [lastCapital?, capital]
        simp [Matcher.many, Matcher.prefer, Matcher.orElse, Matcher.one, capital, here, nothing]
      | true =>
        have tried : Matcher.many true false (Matcher.one capitalSet) (spare :: fuel)
            ⟨behind, c :: rest, groups⟩ next =
            (((lastCapital? rest).bind fun (more, word) => next ⟨more.reverse ++ c :: behind, word, groups⟩).or
              (next ⟨behind, c :: rest, groups⟩)) := by
          simp only [Matcher.many, Matcher.prefer, Matcher.one, member_capitalSet, capital,
            Bool.not_false, Bool.true_or, if_true, orElse_eq, inner]
        rw [tried]
        rcases rest with _ | ⟨b, others⟩
        · -- Nothing follows the capital.
          simpa [lastCapital?] using fails behind [c] (by simp [StartsWord])
        cases small : isSmall b with
        | true =>
          have nothing : lastCapital? (b :: others) = none := by
            cases others <;> simp [lastCapital?, not_isCapital_of_isSmall small]
          simp [nothing, lastCapital?, capital, small]
        | false =>
          have here : next ⟨behind, c :: b :: others, groups⟩ = none := by
            refine fails behind _ ?_
            rintro ⟨_, _, _, same, -, second⟩
            cases same
            exact Bool.false_ne_true (small.symm.trans second)
          rw [here, Option.or_none, lastCapital?, if_pos capital, if_neg (by simp [small])]
          cases lastCapital? (b :: others) <;> simp

/-- What the first pattern asks for behind the acronym that began at a cursor. -/
def acronymEnd (start after : Cursor) : Option Cursor :=
  (Node.group 2 (.seq (.one capitalSet) (.one smallSet))).matcher (after.keep 1 start) some

theorem acronymEnd_cons (start : Cursor) (behind : List Char) (a b : Char) (rest : List Char) :
    acronymEnd start ⟨behind, a :: b :: rest, []⟩ =
      if isCapital a && isSmall b then
        some ⟨b :: a :: behind, rest,
          [(2, [a, b]), (1, start.ahead.take (start.ahead.length - (a :: b :: rest).length))]⟩
      else none := by
  have length : (a :: b :: rest).length - rest.length = 2 := by
    simp only [List.length_cons]
    omega
  simp only [acronymEnd, Node.matcher, Matcher.one, Cursor.keep, member_capitalSet, member_smallSet, length]
  by_cases capital : isCapital a = true <;> by_cases small : isSmall b = true <;> simp [capital, small]

theorem acronymEnd_of_not_startsWord (start : Cursor) (behind : List Char) (other : ¬ StartsWord cs) :
    acronymEnd start ⟨behind, cs, []⟩ = none := by
  rcases cs with _ | ⟨a, _ | ⟨b, rest⟩⟩
  · rfl
  · simp only [acronymEnd, Node.matcher, Matcher.one, Cursor.keep]
    split <;> rfl
  · rw [acronymEnd_cons, if_neg]
    intro both
    obtain ⟨capital, small⟩ := Bool.and_eq_true_iff.1 both
    exact other ⟨a, b, rest, rfl, capital, small⟩

theorem matcher_acronymBoundary_cons (behind : List Char) (c : Char) (rest : List Char) :
    acronymBoundary.node.matcher ⟨behind, c :: rest, []⟩ some =
      if isCapital c then
        (lastCapital? rest).bind fun (more, word) =>
          acronymEnd ⟨behind, c :: rest, []⟩ ⟨more.reverse ++ c :: behind, word, []⟩
      else none := by
  have run := many_capitals (acronymEnd ⟨behind, c :: rest, []⟩)
    (fun behind cs => acronymEnd_of_not_startsWord _ behind) (Nat.le_refl rest.length) (c :: behind)
  rw [← run]
  simp only [acronymBoundary, Node.matcher, Matcher.times, Matcher.one, member_capitalSet]
  rfl

/-- A capital with more of them behind it, the last of which a small letter follows, gives the
acronym and the next word an underscore between them. -/
theorem replacement?_acronymBoundary_of_some (capital : isCapital c = true) (joined : Bool) (behind : List Char)
    (found : lastCapital? rest = some (more, a :: b :: tail)) :
    replacement? acronymBoundary.node parted joined behind (c :: rest) =
      some (more.length + 3, c :: more ++ ['_', a, b]) := by
  obtain ⟨rfl, -, starts⟩ := lastCapital?_eq_some found
  obtain ⟨_, _, _, same, capital', small⟩ := starts
  cases same
  have taken : (c :: (more ++ a :: b :: tail)).length - (a :: b :: tail).length = more.length + 1 := by
    simp only [List.length_cons, List.length_append]
    omega
  have length : (c :: (more ++ a :: b :: tail)).length - tail.length = more.length + 3 := by
    simp only [List.length_cons, List.length_append]
    omega
  rw [replacement?, matcher_acronymBoundary_cons, if_pos capital, found, Option.bind_some]
  simp only [acronymEnd_cons, capital', small, Bool.and_self, if_true, taken, length]
  rw [if_neg (by simp), List.take_succ_cons, List.take_left]
  rfl

theorem replacement?_acronymBoundary_of_none (joined : Bool) (behind : List Char) (rest : List Char)
    (none : isCapital c = true → lastCapital? rest = .none) :
    replacement? acronymBoundary.node parted joined behind (c :: rest) = .none := by
  rw [replacement?, matcher_acronymBoundary_cons]
  by_cases capital : isCapital c = true
  · rw [if_pos capital, none capital]
    rfl
  · rw [if_neg capital]

/-- The acronym that a match takes is spread like it is replaced. -/
theorem spreadAt_acronym (capital : isCapital c = true) (capitals : ∀ d ∈ more, isCapital d = true)
    (second : isCapital a = true) (small : isSmall b = true) :
    spreadAt meetsAcronym (c :: (more ++ a :: b :: tail)) = c :: more ++ ['_', a, b] ++
      spreadAt meetsAcronym tail := by
  induction more generalizing c with
  | nil =>
    have here : meetsAcronym (c :: a :: b :: tail) = true := by simp [meetsAcronym, capital, second, small]
    have inner : meetsAcronym (a :: b :: tail) = false := by
      simp [meetsAcronym, not_isCapital_of_isSmall small]
    have last : meetsAcronym (b :: tail) = false := by
      cases tail <;> simp [meetsAcronym, not_isCapital_of_isSmall small]
    rw [List.nil_append, spreadAt, here, spreadAt_cons_of_not inner, spreadAt_cons_of_not last]
    rfl
  | cons d others ih =>
    obtain ⟨next, later⟩ := List.forall_mem_cons.1 capitals
    have inner : meetsAcronym (c :: (d :: others ++ a :: b :: tail)) = false := by
      cases others with
      | nil => simp [meetsAcronym, not_isSmall_of_isCapital second]
      | cons e rest => simp [meetsAcronym, not_isSmall_of_isCapital (later e List.mem_cons_self)]
    rw [spreadAt_cons_of_not inner, List.cons_append, ih next later]
    rfl

theorem not_meetsAcronym (none : isCapital c = true → lastCapital? rest = .none) :
    meetsAcronym (c :: rest) = false := by
  rw [← Bool.not_eq_true]
  intro meets
  rcases rest with _ | ⟨a, _ | ⟨b, others⟩⟩
  · cases meets
  · simp [meetsAcronym] at meets
  · simp only [meetsAcronym, List.head?_cons, Option.any_some, Bool.and_eq_true] at meets
    obtain ⟨⟨first, second⟩, small⟩ := meets
    simpa [lastCapital?, second, small] using none first

theorem replaceFrom_acronymBoundary (joined : Bool) (behind cs : List Char) :
    replaceFrom acronymBoundary.node parted 0 joined behind cs = spreadAt meetsAcronym cs := by
  induction length : cs.length using Nat.strongRecOn generalizing joined behind cs with
  | _ n ih =>
  subst length
  rcases cs with _ | ⟨c, rest⟩
  · rfl
  by_cases match? : isCapital c = true ∧ ∃ found, lastCapital? rest = some found
  · obtain ⟨capital, ⟨more, word⟩, found⟩ := match?
    obtain ⟨rfl, capitals, a, b, tail, rfl, second, small⟩ := lastCapital?_eq_some found
    have replaced := replacement?_acronymBoundary_of_some capital joined behind found
    have next := replaceFrom_of_some (more ++ [a, b]) tail (by simpa using replaced)
    rw [List.cons_append, List.append_assoc] at next
    rw [spreadAt_acronym capital capitals second small,
      ← ih tail.length (by simp only [List.length_append, List.length_cons]; omega) true _ tail rfl]
    exact next
  · have none : isCapital c = true → lastCapital? rest = .none := fun capital => by
      rw [Option.eq_none_iff_forall_ne_some]
      exact fun found here => match? ⟨capital, found, here⟩
    rw [replaceFrom_cons_of_none (replacement?_acronymBoundary_of_none joined behind rest none),
      ih rest.length (by simp) false _ rest rfl, spreadAt_cons_of_not (not_meetsAcronym none)]

/-- The first pass puts an underscore before the last capital of each run of at least two that a
small letter follows. -/
theorem replaceAll_acronymBoundary (cs : List Char) :
    acronymBoundary.replaceAll parted cs = spreadAt meetsAcronym cs :=
  replaceFrom_acronymBoundary false [] cs

/-! ## Two passes in one -/

theorem meetsWord_eq (cs : List Char) : meetsWord cs = (meetsPlain cs || meetsAcronym cs) := by
  rcases cs with _ | ⟨a, _ | ⟨b, rest⟩⟩
  · rfl
  · rfl
  · simp only [meetsWord, meetsPlain, meetsAcronym]
    cases isCapital b <;> cases endsWord a <;> cases isCapital a <;> rfl

/-- The second pass looks at the next character only, which is the same after the first pass. -/
theorem meetsPlain_cons_spreadAt (meets : List Char → Bool) (a : Char) (rest : List Char) :
    meetsPlain (a :: spreadAt meets rest) = meetsPlain (a :: rest) := by
  cases rest <;> rfl

theorem meetsPlain_underscore (cs : List Char) : meetsPlain ('_' :: cs) = false := by
  have inner : endsWord '_' = false := by decide
  cases cs with
  | nil => rfl
  | cons b rest => simp [meetsPlain, inner]

/-- The second pass over a text that the first one has gone over. -/
theorem spreadAt_spreadAt (cs : List Char) :
    spreadAt meetsPlain (spreadAt meetsAcronym cs) = spreadAt meetsWord cs := by
  induction cs with
  | nil => rfl
  | cons a rest ih =>
    rw [spreadAt, spreadAt, spreadAt, meetsWord_eq]
    cases acronym : meetsAcronym (a :: rest) with
    | true =>
      have before : meetsPlain (a :: '_' :: spreadAt meetsAcronym rest) = false := by
        simp [meetsPlain, show isCapital '_' = false by decide]
      simp only [Bool.or_true, if_true, List.cons_append, List.nil_append, spreadAt, before, meetsPlain_underscore,
        Bool.false_eq_true, if_false, ih]
    | false =>
      simp only [Bool.or_false, Bool.false_eq_true, if_false, List.nil_append, meetsPlain_cons_spreadAt, ih]

/-- Snake case parts the words of a name and is lower-cased as a whole. -/
theorem snake_eq_spreadAt (cs : List Char) : snake cs = Text.lowerChars (spreadAt meetsWord cs) := by
  rw [snake, replaceAll_acronymBoundary, replaceAll_wordBoundary, spreadAt_spreadAt]

end Naming
end Scaffold
