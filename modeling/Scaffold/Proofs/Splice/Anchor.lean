import Mathlib.Data.String.Basic
import Scaffold.Proofs.Splice.Marker

namespace Scaffold

/-!
# Markers as anchors

The pattern of a marker is the marker with every special character escaped, so it is read as the
marker itself, whatever characters the kind has: the first match is the first occurrence.  A snippet
that goes before a marker therefore goes to the beginning of the line in which the marker first
occurs.  The kind may have line feeds; then the line is the one in which the occurrence begins.

The one thing that a pattern can be refused for is its size.  For a marker this is a bound on the
bytes of its kind.
-/

/-! ## Size -/

namespace Pattern

open String (utf8Len)

/-- A literal takes 32 bytes for each byte of its text. -/
theorem weight_literal {cs : List Char} (solid : cs ≠ []) : (Node.literal cs).weight = 32 * utf8Len cs := by
  induction cs with
  | nil => exact absurd rfl solid
  | cons c rest ih =>
    have one : (Node.one (.singleton c)).weight = 32 * c.utf8Size := rfl
    cases rest with
    | nil => rw [Node.literal, List.map_singleton, Node.sequence, one, String.utf8Len_cons,
      String.utf8Len_nil, Nat.zero_add]
    | cons d others =>
      rw [Node.literal, List.map_cons, weight_sequence_cons _ (by simp), ← Node.literal,
        ih (List.cons_ne_nil d others), one, String.utf8Len_cons c, Nat.mul_add, Nat.add_comm]

end Pattern

namespace Snippet

/-- The kinds whose markers are not too large, by their length in UTF-8. -/
theorem fits_iff {kind : String} : Fits kind ↔ kind.utf8ByteSize ≤ 327658 := by
  have start : String.utf8Len "// <<<FORGE:INSERT ".toList = 19 := by decide
  have finish : String.utf8Len ">>>".toList = 3 := by decide
  have most : Pattern.maxWeight = 32 * 327680 := by decide
  rw [Fits, Pattern.weight_literal (marker_ne_nil kind), toList_marker, String.utf8Len_append,
    String.utf8Len_append, start, finish, String.utf8Len_toList, most]
  omega

end Snippet

/-! ## The line of the first occurrence -/

namespace Cut

variable {cut other : Cut} {needle content : List Char}

/-- A text is divided in one way only at the line in which a needle occurs first. -/
theorem DividesAt.unique (divides : cut.DividesAt needle content)
    (divides' : other.DividesAt needle content) : cut = other := by
  obtain ⟨line, rest, after, unbroken, first⟩ := divides.onFirstLine
  obtain ⟨line', rest', after', unbroken', first'⟩ := divides'.onFirstLine
  have whole : content = cut.before ++ line ++ needle ++ rest := by
    rw [← divides.whole, text, after]
    simp
  have whole' : content = other.before ++ line' ++ needle ++ rest' := by
    rw [← divides'.whole, text, after']
    simp
  have length : (cut.before ++ line).length = (other.before ++ line').length :=
    Nat.le_antisymm (first _ _ whole') (first' _ _ whole)
  rw [whole, List.append_assoc _ needle, List.append_assoc _ needle] at whole'
  obtain ⟨same, behind⟩ := List.append_inj whole' length
  have line := Snippet.cutBeforeLine_eq divides.atLineStart unbroken needle rest
  have line' := Snippet.cutBeforeLine_eq divides'.atLineStart unbroken' needle rest'
  rw [← after, same, List.append_cancel_left behind] at line
  rw [← after', line] at line'
  exact line'

end Cut

namespace Snippet

variable {snippet : Snippet} {kind : String} {content : List Char}

section

variable (aims : snippet.insertBefore = some (Snippets.markerPattern kind))
  (alone : anchor? snippet.insertAfter = none)
  (fits : Fits kind)
include aims alone fits

/-- The escaped marker is searched for as the text that it spells. -/
theorem insertionCut_of_marker (content : List Char) :
    snippet.insertionCut content =
      match Text.cutBefore? (Snippets.marker kind).toList content with
      | none => .error (.anchor snippet.targetFile ("anchor '" ++ Snippets.markerPattern kind ++ "' not found"))
      | some (before, found) =>
        .ok (cutBeforeLine ⟨before, (Snippets.marker kind).toList,
          found.drop (Snippets.marker kind).toList.length⟩) := by
  have compiled : Pattern.parse? (Snippets.markerPattern kind) =
      some ⟨Pattern.Node.literal (Snippets.marker kind).toList⟩ := by
    rw [Snippets.markerPattern, Pattern.parse?_escape]
    exact if_pos fits
  simp only [insertionCut, alone, aims, anchor?_markerPattern, locate, Pattern.Engine.compile_standard, compiled,
    Option.map_some, Pattern.find?_literal]
  cases Text.cutBefore? (Snippets.marker kind).toList content <;> rfl

theorem exists_insertionCut (occurring : (Snippets.marker kind).toList <:+: content) :
    ∃ cut, snippet.insertionCut content = .ok cut ∧ cut.DividesAt (Snippets.marker kind).toList content := by
  obtain ⟨before, rest, found⟩ := Text.exists_cutBefore? occurring
  obtain ⟨lines, line, rfl, unbroken, atLineStart⟩ := Cut.exists_line before
  have placed := insertionCut_of_marker aims alone fits content
  rw [found] at placed
  dsimp only at placed
  rw [List.drop_left, cutBeforeLine_eq atLineStart unbroken] at placed
  refine ⟨_, placed, ?_, atLineStart, line, rest, rfl, unbroken, fun earlier later =>
    Text.length_le_of_cutBefore? found⟩
  rw [← (Text.append_of_cutBefore? found).1]
  simp [Cut.text]

theorem insertionCut_of_absent (absent : ¬ (Snippets.marker kind).toList <:+: content) :
    snippet.insertionCut content =
      .error (.anchor snippet.targetFile ("anchor '" ++ Snippets.markerPattern kind ++ "' not found")) := by
  have nothing : Text.cutBefore? (Snippets.marker kind).toList content = none := by
    rw [← Option.isNone_iff_eq_none, ← Option.not_isSome, Text.isSome_cutBefore?, Text.occurs_eq_false_iff.2 absent]
    rfl
  rw [insertionCut_of_marker aims alone fits, nothing]

/-- A snippet for a marker goes to the beginning of the line in which the marker first occurs.  The
only fault is that it does not occur; whatever its kind, the pattern is not refused. -/
theorem insertionCut_atMarker (content : String) :
    (∀ cut, snippet.insertionCut content.toList = .ok cut ↔
      cut.DividesAt (Snippets.marker kind).toList content.toList) ∧
      ∀ fault, snippet.insertionCut content.toList = .error fault ↔
        fault = .anchor snippet.targetFile ("anchor '" ++ Snippets.markerPattern kind ++ "' not found") ∧
          ¬ (Snippets.marker kind).toList <:+: content.toList := by
  by_cases occurring : (Snippets.marker kind).toList <:+: content.toList
  · obtain ⟨cut, placed, divides⟩ := exists_insertionCut aims alone fits occurring
    rw [placed]
    refine ⟨fun other => ⟨?_, fun divides' => ?_⟩, fun fault => ⟨?_, fun ⟨_, absent⟩ => absurd occurring absent⟩⟩
    · rintro ⟨⟩
      exact divides
    · rw [divides.unique divides']
    · rintro ⟨⟩
  · rw [insertionCut_of_absent aims alone fits occurring]
    refine ⟨fun cut => ⟨?_, fun divides => ?_⟩, fun fault => ⟨?_, ?_⟩⟩
    · rintro ⟨⟩
    · obtain ⟨line, rest, after, -⟩ := divides.onFirstLine
      refine absurd ⟨cut.before ++ line, rest, ?_⟩ occurring
      rw [← divides.whole, Cut.text, after]
      simp
    · rintro ⟨⟩
      exact ⟨rfl, occurring⟩
    · rintro ⟨rfl, -⟩
      rfl

end

/-- A kind with special characters, characters of several bytes and a line feed. -/
def wildKind : String :=
  "a.*[é]\n(–|#&~-\\"

/-- A file whose second and third lines hold a marker of that kind. -/
def wildFile : String :=
  "ä\n  x() " ++ Snippets.marker wildKind ++ " y\n" ++ Snippets.marker wildKind

theorem insertionCut_atMarker_wild :
    (before wildKind "z()").insertBefore = some (Snippets.markerPattern wildKind) ∧
      anchor? (before wildKind "z()").insertAfter = none ∧ Fits wildKind ∧
      (before wildKind "z()").insertionCut wildFile.toList = .ok ⟨"ä\n".toList, wildFile.toList.drop 2⟩ := by
  have fits : Fits wildKind := fits_iff.2 (by decide)
  have found : Text.cutBefore? (Snippets.marker wildKind).toList wildFile.toList =
      some ("ä\n  x() ".toList, wildFile.toList.drop 8) := by decide +kernel
  have divides : (Cut.mk "ä\n".toList (wildFile.toList.drop 2)).DividesAt
      (Snippets.marker wildKind).toList wildFile.toList := by
    refine ⟨by decide +kernel, by decide, "  x() ".toList,
      wildFile.toList.drop (8 + (Snippets.marker wildKind).toList.length), by decide +kernel, by decide, ?_⟩
    exact fun earlier later => Text.length_le_of_cutBefore? found
  exact ⟨rfl, rfl, fits, ((insertionCut_atMarker rfl rfl fits wildFile).1 _).2 divides⟩

end Snippet
end Scaffold
