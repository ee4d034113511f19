import Mathlib.Data.Option.Basic
import Scaffold.Pattern.Reader
import Scaffold.Pattern.Search
import Scaffold.Text.Search

namespace Scaffold
namespace Pattern

/-!
# Literal patterns

An escaped text is read as the pattern that matches the text literally, as long as it is not too
large.  The first match of such a pattern is the first occurrence of the text.
-/

/-! ## Reading -/

/-- What the reader knows at the beginning. -/
def State.start : State :=
  { flags := {}, names := [] }

theorem readEscape_special {c : Char} (special : c ∈ specialChars) (rest : List Char) :
    readEscape State.start.flags (c :: rest) = some (.char c, rest) := by
  simp only [specialChars, List.mem_cons, List.not_mem_nil, or_false] at special
  rcases special with rfl | rfl | rfl | rfl | rfl | rfl | rfl | rfl | rfl | rfl | rfl | rfl | rfl |
    rfl | rfl | rfl | rfl | rfl <;> rfl

/-- One escaped character is read as the set of that character. -/
theorem readSequence_escapeChar (fuel : Nat) (done : List (Option Node)) (c : Char) (rest : List Char) :
    readSequence (fuel + 1) State.start done (escapeChar c ++ rest) =
      readSequence fuel State.start (some (.one (.singleton c)) :: done) rest := by
  by_cases special : c ∈ specialChars
  · have read := readEscape_special special rest
    rw [escapeChar, if_pos (by simpa using special), readSequence]
    simp only [State.start] at read
    simp only [State.start, skipSpace, Bool.false_eq_true, if_false, readRepetition,
      List.cons_append, List.nil_append, read, Option.bind_eq_bind, Option.bind_some, charNode]
    rfl
  · rw [escapeChar, if_neg (by simpa using special), List.singleton_append]
    simp only [specialChars, List.mem_cons, List.not_mem_nil, or_false, not_or] at special
    have once : readRepetition {} (c :: rest) = none := by
      rw [readRepetition]
      all_goals
        intro more same
        cases same
        simp at special
    rw [readSequence]
    simp only [State.start, skipSpace, Bool.false_eq_true, if_false, once]
    -- Every character with a branch of its own is among the special ones.
    split <;> simp_all [charNode]

theorem readSequence_escapeChars {cs : List Char} {fuel : Nat} (enough : cs.length < fuel)
    (done : List (Option Node)) :
    readSequence fuel State.start done (escapeChars cs) =
      some (finish ((cs.map (fun c => some (Node.one (.singleton c)))).reverse ++ done), State.start, []) := by
  induction cs generalizing fuel done with
  | nil =>
    cases fuel with
    | zero => cases enough
    | succ fuel => rfl
  | cons c rest ih =>
    cases fuel with
    | zero => cases enough
    | succ fuel =>
      rw [escapeChars, List.flatMap_cons, readSequence_escapeChar, ← escapeChars, ih (by simpa using enough)]
      simp

theorem length_le_escapeChars (cs : List Char) : cs.length ≤ (escapeChars cs).length := by
  induction cs with
  | nil => simp
  | cons c rest ih =>
    have one : 1 ≤ (escapeChar c).length := by
      rw [escapeChar]
      split <;> simp
    rw [escapeChars, List.flatMap_cons, List.length_append, ← escapeChars, List.length_cons]
    omega

/-- An escaped text is read as its own literal, unless that is too large. -/
theorem parse?_escape (s : String) : parse? (escape s) =
    if (Node.literal s.toList).weight ≤ maxWeight then some ⟨Node.literal s.toList⟩ else none := by
  have enough : s.toList.length < 2 * (escapeChars s.toList).length + 1 := by
    have longer := length_le_escapeChars s.toList
    omega
  have read := readSequence_escapeChars enough []
  have node : finish ((s.toList.map (fun c => some (Node.one (.singleton c)))).reverse ++ []) =
      Node.literal s.toList := by
    rw [finish, Node.literal]
    simp
  rw [node] at read
  rw [parse?, escape, String.toList_ofList]
  simp only [State.start] at read
  rw [readAlternatives, read]
  by_cases small : (Node.literal s.toList).weight ≤ maxWeight
  · simp [Node.alternatives, small, guard]
  · simp [Node.alternatives, small, guard]

/-! ## Searching -/

theorem member_singleton (c d : Char) : (CharSet.singleton c).member d = (c == d) := by
  rw [CharSet.singleton, CharSet.member, Bool.eq_iff_iff]
  simp only [Bool.and_eq_true, decide_eq_true_eq, beq_iff_eq]
  constructor
  · rintro ⟨lower, upper⟩
    exact Char.le_antisymm lower upper
  · rintro rfl
    exact ⟨Char.le_refl _, Char.le_refl _⟩

theorem matcher_sequence_cons (node : Node) (nodes : List Node) (cursor : Cursor) (next : Cursor → Option Cursor) :
    (Node.sequence (node :: nodes)).matcher cursor next =
      node.matcher cursor (fun after => (Node.sequence nodes).matcher after next) := by
  cases nodes <;> rfl

/-- A literal pattern takes its own text and nothing else. -/
theorem matcher_literal (cs : List Char) (cursor : Cursor) (next : Cursor → Option Cursor) :
    (Node.literal cs).matcher cursor next =
      if cs.isPrefixOf cursor.ahead
        then next ⟨cs.reverse ++ cursor.behind, cursor.ahead.drop cs.length, cursor.groups⟩ else none := by
  induction cs generalizing cursor with
  | nil => rfl
  | cons c rest ih =>
    rw [Node.literal, List.map_cons, matcher_sequence_cons, ← Node.literal, Node.matcher, Matcher.one]
    cases ahead : cursor.ahead with
    | nil => rfl
    | cons d others =>
      dsimp only
      rw [member_singleton, ih]
      by_cases same : c = d <;> by_cases starts : rest.isPrefixOf others <;> simp [same, starts]

private theorem cut_of_isPrefixOf {needle ahead : List Char} (starts : needle.isPrefixOf ahead = true) :
    ahead.length - (ahead.drop needle.length).length = needle.length ∧ ahead.take needle.length = needle := by
  rcases List.isPrefixOf_iff_prefix.1 starts with ⟨rest, rfl⟩
  simp

/-- The first match of a literal pattern is the first occurrence of the text. -/
theorem findFrom_literal (needle behind ahead : List Char) : findFrom (Node.literal needle) behind ahead =
    (Text.cutBefore? needle ahead).map (fun cut =>
      { before := behind.reverse ++ cut.1, matched := needle, after := cut.2.drop needle.length }) := by
  induction ahead generalizing behind with
  | nil =>
    rw [findFrom, matcher_literal, Text.cutBefore?]
    cases needle <;> simp
  | cons c rest ih =>
    rw [findFrom, matcher_literal, Text.cutBefore?]
    by_cases starts : needle.isPrefixOf (c :: rest) = true
    · rcases cut_of_isPrefixOf starts with ⟨length, taken⟩
      simp only [if_pos starts, length, taken, Option.map_some, List.append_nil]
    · rw [if_neg starts, if_neg starts]
      dsimp only
      rw [ih, Option.map_map]
      congr 1
      funext cut
      simp

theorem find?_literal (needle text : List Char) : find? ⟨Node.literal needle⟩ text =
    (Text.cutBefore? needle text).map (fun cut =>
      { before := cut.1, matched := needle, after := cut.2.drop needle.length }) := by
  rw [find?, findFrom_literal]
  rfl

/-! ## Size -/

theorem weight_sequence_cons (node : Node) {nodes : List Node} (more : nodes ≠ []) :
    (Node.sequence (node :: nodes)).weight = node.weight + (Node.sequence nodes).weight := by
  cases nodes with
  | nil => exact absurd rfl more
  | cons => rfl

/-- A literal takes at least 32 bytes for each character. -/
theorem length_le_weight_literal (cs : List Char) : 32 * cs.length ≤ (Node.literal cs).weight := by
  induction cs with
  | nil => exact Nat.zero_le _
  | cons c rest ih =>
    have one : 32 ≤ (Node.one (.singleton c)).weight := by
      have size := c.utf8Size_pos
      rw [CharSet.singleton, Node.weight]
      omega
    rw [Node.literal, List.map_cons]
    cases rest with
    | nil => exact one
    | cons d others =>
      rw [weight_sequence_cons _ (by simp), ← Node.literal]
      simp only [List.length_cons] at ih ⊢
      omega

end Pattern
end Scaffold
