import Scaffold.Fault
import Scaffold.Pattern.Reader
import Scaffold.Pattern.Search
import Scaffold.Snippet
import Scaffold.Text.Blank
import Scaffold.Text.Search

namespace Scaffold

/-!
# Splicing snippets into text

A snippet goes on lines of its own: after the line in which its `insertAfter` pattern first matches,
or else before the line in which its `insertBefore` pattern first matches, or else at the end.  A
text that already holds the snippet is left alone.
-/

/-- What searches texts for patterns. -/
structure Pattern.Engine where
  /-- The search for the first match of a pattern, if the pattern can be read. -/
  compile : String → Option (List Char → Option Pattern.Match)
  /-- A match takes the text apart and loses nothing of it. -/
  text_of_match : ∀ {pattern search text found}, compile pattern = some search → search text = some found →
    found.text = text

/-- The engine for the patterns that can be read here. -/
def Pattern.Engine.standard : Pattern.Engine where
  compile pattern := (Pattern.parse? pattern).map Pattern.find?
  text_of_match compiled matched := by
    rcases Option.map_eq_some_iff.1 compiled with ⟨pattern, -, rfl⟩
    exact Pattern.text_of_find? matched

theorem Pattern.Engine.compile_standard (pattern : String) :
    Engine.standard.compile pattern = (parse? pattern).map find? :=
  rfl

/-- A text cut in two at the place where a snippet goes. -/
structure Cut where
  before : List Char
  after : List Char
  deriving DecidableEq, Repr

namespace Cut

/-- The text that was cut. -/
def text (cut : Cut) : List Char :=
  cut.before ++ cut.after

/-- The place as a number of UTF-8 bytes. -/
def offset (cut : Cut) : Nat :=
  (String.ofList cut.before).utf8ByteSize

end Cut

/-- What becomes of a text into which a snippet is spliced. -/
inductive Splice where
  | merged (text : String)
  | alreadyPresent
  deriving DecidableEq, Repr

namespace Snippet

/-- A pattern that was given and is not empty. -/
def anchor? (pattern : Option String) : Option String :=
  pattern.filter (fun s => !s.isEmpty)

/-- Whether the snippet says where it goes. -/
def isAnchored (snippet : Snippet) : Bool :=
  (anchor? snippet.insertAfter).isSome || (anchor? snippet.insertBefore).isSome

/-- The first match of one of the snippet's patterns. -/
def locate (snippet : Snippet) (pattern : String) (content : List Char) (engine : Pattern.Engine := .standard) :
    Except Fault Pattern.Match :=
  match engine.compile pattern with
  | none => .error (.anchor snippet.targetFile ("invalid anchor '" ++ pattern ++ "'"))
  | some search =>
    match search content with
    | none => .error (.anchor snippet.targetFile ("anchor '" ++ pattern ++ "' not found"))
    | some found => .ok found

section

variable {engine : Pattern.Engine} {snippet : Snippet} {content : List Char} {cut : Cut}

/-- A match that was located lies in the text. -/
theorem text_of_locate {pattern : String} {found : Pattern.Match}
    (located : snippet.locate pattern content engine = .ok found) : found.text = content := by
  unfold locate at located
  split at located
  · simp at located
  · split at located
    · simp at located
    · cases located
      exact engine.text_of_match (by assumption) (by assumption)

private theorem text_of_located {pattern : String} {place : Pattern.Match → Cut}
    (whole : ∀ found, (place found).text = found.text)
    (located : (snippet.locate pattern content engine).map place = .ok cut) : cut.text = content := by
  cases result : snippet.locate pattern content engine with
  | error fault => simp [result, Except.map] at located
  | ok found =>
    simp only [result, Except.map, Except.ok.injEq] at located
    rw [← located, whole, text_of_locate result]

end

/-- The cut after the line in which a match ends. -/
def cutAfterLine (found : Pattern.Match) : Cut :=
  let line := found.after.takeWhile (· != '\n')
  let rest := found.after.dropWhile (· != '\n')
  { before := found.before ++ found.matched ++ line ++ rest.take 1, after := rest.drop 1 }

/-- The cut before the line in which a match begins. -/
def cutBeforeLine (found : Pattern.Match) : Cut :=
  let line := (found.before.reverse.takeWhile (· != '\n')).reverse
  { before := (found.before.reverse.dropWhile (· != '\n')).reverse
    after := line ++ found.matched ++ found.after }

theorem text_cutAfterLine (found : Pattern.Match) : (cutAfterLine found).text = found.text := by
  simp only [cutAfterLine, Cut.text, Pattern.Match.text, List.append_assoc, List.take_append_drop,
    List.takeWhile_append_dropWhile]

theorem text_cutBeforeLine (found : Pattern.Match) : (cutBeforeLine found).text = found.text := by
  have line := congrArg List.reverse
    (List.takeWhile_append_dropWhile (p := (· != '\n')) (l := found.before.reverse))
  simp only [List.reverse_append, List.reverse_reverse] at line
  simp [cutBeforeLine, Cut.text, Pattern.Match.text, ← List.append_assoc, line]

/-- The cut at which the snippet goes into a text. -/
def insertionCut (snippet : Snippet) (content : List Char) (engine : Pattern.Engine := .standard) :
    Except Fault Cut :=
  match anchor? snippet.insertAfter with
  | some pattern => (snippet.locate pattern content engine).map cutAfterLine
  | none =>
    match anchor? snippet.insertBefore with
    | some pattern => (snippet.locate pattern content engine).map cutBeforeLine
    | none => .ok { before := content, after := [] }

/-- Wherever a snippet goes, the text around it stays whole. -/
theorem text_insertionCut {engine : Pattern.Engine} {snippet : Snippet} {content : List Char} {cut : Cut}
    (found : snippet.insertionCut content engine = .ok cut) : cut.text = content := by
  unfold insertionCut at found
  split at found
  · exact text_of_located text_cutAfterLine found
  · split at found
    · exact text_of_located text_cutBeforeLine found
    · cases found
      simp [Cut.text]

/-- The snippet's text without the white space at its end. -/
def fragment (snippet : Snippet) : List Char :=
  Text.trimEnd snippet.content.toList

/-- The text with a fragment on lines of its own at the cut. -/
def mergeAt (fragment : List Char) (cut : Cut) : List Char :=
  let separator := if cut.before.isEmpty || cut.before.getLast? == some '\n' then [] else ['\n']
  cut.before ++ separator ++ fragment ++ '\n' :: cut.after

/-- Whether a text already holds the snippet; a blank snippet is never held. -/
def isPresentIn (snippet : Snippet) (content : List Char) : Bool :=
  !snippet.fragment.isEmpty && Text.occurs snippet.fragment content

/-- Splices the snippet into a text. -/
def splice (snippet : Snippet) (content : String) (engine : Pattern.Engine := .standard) : Except Fault Splice :=
  if snippet.isPresentIn content.toList then .ok .alreadyPresent
  else (snippet.insertionCut content.toList engine).map (fun cut =>
    .merged (String.ofList (mergeAt snippet.fragment cut)))

end Snippet
end Scaffold
