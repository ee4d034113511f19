import Scaffold.Proofs.Splice.Marker

namespace Scaffold

/-!
# Splicing whole lines

Wherever an engine finds the patterns of a snippet, the text is cut between two lines or at its end,
never inside of a character.  A match may be empty, reach over several lines or end in a line feed:
the cut after it is sought from its end forwards, the cut before it from its beginning backwards,
and each search stops next to a line feed or at an end of the text.

What is merged holds both halves as they were.  A line feed is added to the first half only where it
lacks one.
-/

/-- The text is cut between two lines, or at one of its ends. -/
structure Cut.KeepsLines (cut : Cut) (content : String) : Prop where
  whole : String.ofList cut.before ++ String.ofList cut.after = content
  bounded : cut.offset ≤ content.utf8ByteSize
  onBoundary : String.Pos.Raw.IsValid content ⟨cut.offset⟩
  atLine : cut.offset = 0 ∨ cut.offset = content.utf8ByteSize ∨ cut.before.getLast? = some '\n'

/-- What has to follow a text so that the next one begins a line. -/
def lineEnd (before : List Char) : List Char :=
  if before = [] ∨ before.getLast? = some '\n' then [] else ['\n']

namespace Cut

variable {cut : Cut} {content : String}

theorem keepsLines_of_text (whole : cut.text = content.toList)
    (atLine : cut.before = [] ∨ cut.after = [] ∨ cut.before.getLast? = some '\n') : cut.KeepsLines content := by
  have joined : String.ofList cut.before ++ String.ofList cut.after = content := by
    rw [← String.ofList_append, ← text, whole, String.ofList_toList]
  have size : content.utf8ByteSize = cut.offset + (String.ofList cut.after).utf8ByteSize := by
    rw [← joined, String.utf8ByteSize_append, offset]
  refine ⟨joined, by omega, ?_, ?_⟩
  · rw [String.Pos.Raw.isValid_iff_exists_append]
    exact ⟨String.ofList cut.before, String.ofList cut.after, joined.symm, rfl⟩
  · rcases atLine with nothing | last | feed
    · left
      rw [offset, nothing]
      rfl
    · right; left
      rw [size, last]
      rfl
    · exact .inr (.inr feed)

end Cut

namespace Snippet

variable {engine : Pattern.Engine} {snippet : Snippet} {content : String} {cut : Cut}

/-! ## Where the text is cut -/

theorem cutAfterLine_atLine (found : Pattern.Match) :
    (cutAfterLine found).after = [] ∨ (cutAfterLine found).before.getLast? = some '\n' := by
  have stops := List.head?_dropWhile_not (· != '\n') found.after
  cases rest : found.after.dropWhile (· != '\n') with
  | nil =>
    left
    rw [cutAfterLine, rest]
    rfl
  | cons c others =>
    right
    rw [rest] at stops
    obtain rfl : c = '\n' := by simpa using stops
    simp [cutAfterLine, rest]

theorem cutBeforeLine_atLine (found : Pattern.Match) :
    (cutBeforeLine found).before = [] ∨ (cutBeforeLine found).before.getLast? = some '\n' := by
  have stops := List.head?_dropWhile_not (· != '\n') found.before.reverse
  rw [cutBeforeLine, List.reverse_eq_nil_iff, List.getLast?_reverse]
  cases rest : found.before.reverse.dropWhile (· != '\n') with
  | nil => exact .inl rfl
  | cons c others =>
    right
    rw [rest] at stops
    obtain rfl : c = '\n' := by simpa using stops
    rfl

theorem exists_of_map_locate {pattern : String} {place : Pattern.Match → Cut} {text : List Char}
    (located : (snippet.locate pattern text engine).map place = .ok cut) : ∃ found, place found = cut := by
  cases result : snippet.locate pattern text engine with
  | error fault =>
    rw [result] at located
    cases located
  | ok found =>
    rw [result] at located
    exact ⟨found, Except.ok.inj located⟩

/-- Whichever pattern says where the snippet goes, the cut is next to a line feed or at an end. -/
theorem insertionCut_atLine {text : List Char} (placed : snippet.insertionCut text engine = .ok cut) :
    cut.before = [] ∨ cut.after = [] ∨ cut.before.getLast? = some '\n' := by
  rw [insertionCut] at placed
  split at placed
  · obtain ⟨found, rfl⟩ := exists_of_map_locate placed
    exact .inr (cutAfterLine_atLine found)
  · split at placed
    · obtain ⟨found, rfl⟩ := exists_of_map_locate placed
      exact (cutBeforeLine_atLine found).imp_right .inr
    · obtain rfl := Except.ok.inj placed
      exact .inr (.inl rfl)

theorem insertionCut_keepsLines (placed : snippet.insertionCut content.toList engine = .ok cut) :
    cut.KeepsLines content :=
  Cut.keepsLines_of_text (text_insertionCut placed) (insertionCut_atLine placed)

/-! ## What is merged -/

theorem mergeAt_eq (fragment : List Char) (cut : Cut) :
    mergeAt fragment cut = cut.before ++ lineEnd cut.before ++ fragment ++ '\n' :: cut.after := by
  simp [mergeAt, lineEnd]

theorem exists_cut_of_splice {merged : String} (spliced : snippet.splice content engine = .ok (.merged merged)) :
    ∃ cut, snippet.insertionCut content.toList engine = .ok cut ∧
      merged.toList = cut.before ++ lineEnd cut.before ++ snippet.fragment ++ '\n' :: cut.after := by
  rw [splice] at spliced
  split at spliced
  · cases spliced
  · cases placed : snippet.insertionCut content.toList engine with
    | error fault =>
      rw [placed] at spliced
      cases spliced
    | ok cut =>
      rw [placed] at spliced
      obtain rfl : String.ofList (mergeAt snippet.fragment cut) = merged := by simpa [Except.map] using spliced
      exact ⟨cut, rfl, by rw [String.toList_ofList, mergeAt_eq]⟩

/-- A text with the fragment of a snippet that is not blank already holds the snippet. -/
theorem splice_of_infix (solid : Text.blank snippet.content = false)
    (there : snippet.fragment <:+: content.toList) :
    snippet.splice content engine = .ok .alreadyPresent := by
  have written : snippet.fragment.isEmpty = false := by simpa using fragment_ne_nil solid
  rw [splice, isPresentIn, written, Text.occurs_iff.2 there]
  rfl

/-- Whatever engine searches the text, a snippet is put between two lines or at the end of it, and
nothing of the text is lost.  Once the snippet is there, it is not put there again. -/
theorem splice_keepsLines (engine : Pattern.Engine) (snippet : Snippet) (content : String) :
    (∀ cut, snippet.insertionCut content.toList engine = .ok cut → cut.KeepsLines content) ∧
      ∀ merged, snippet.splice content engine = .ok (.merged merged) →
        (∃ cut, snippet.insertionCut content.toList engine = .ok cut ∧
          merged.toList =
            cut.before ++ lineEnd cut.before ++ Text.trimEnd snippet.content.toList ++ '\n' :: cut.after) ∧
        (Text.blank snippet.content = false → snippet.splice merged engine = .ok .alreadyPresent) := by
  refine ⟨fun cut => insertionCut_keepsLines, fun merged spliced => ?_⟩
  rcases exists_cut_of_splice spliced with ⟨cut, placed, joined⟩
  refine ⟨⟨cut, placed, joined⟩, fun solid => splice_of_infix solid ?_⟩
  exact ⟨cut.before ++ lineEnd cut.before, '\n' :: cut.after, joined.symm⟩

/-- A snippet that goes behind a line with characters of several bytes, which ends the text without
a line feed. -/
def behindCaption : Snippet where
  id := "caption"
  content := "größe()  \n"
  targetFile := "internal/admin/routes/routes.go"
  insertionPoint := "captions"
  insertAfter := some "é\nü*"
  description := "one line"
  priority := 1
  category := "routes"

theorem splice_keepsLines_caption :
    behindCaption.insertionCut "é\nüü ß".toList = .ok ⟨"é\nüü ß".toList, []⟩ ∧
      (Cut.mk "é\nüü ß".toList []).KeepsLines "é\nüü ß" ∧
      behindCaption.splice "é\nüü ß" = .ok (.merged "é\nüü ß\ngröße()\n") ∧
      behindCaption.splice "é\nüü ß\ngröße()\n" = .ok .alreadyPresent := by
  have placed : behindCaption.insertionCut "é\nüü ß".toList = .ok ⟨"é\nüü ß".toList, []⟩ := by decide +kernel
  have merged : behindCaption.splice "é\nüü ß" = .ok (.merged "é\nüü ß\ngröße()\n") := by decide +kernel
  have keeps := splice_keepsLines .standard behindCaption "é\nüü ß"
  exact ⟨placed, keeps.1 _ placed, merged, (keeps.2 _ merged).2 (by decide +kernel)⟩

end Snippet
end Scaffold
