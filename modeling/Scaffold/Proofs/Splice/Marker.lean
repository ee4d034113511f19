import Mathlib.Data.List.Infix
import Scaffold.Proofs.Pattern.Literal
import Scaffold.Proofs.Text.Occurrence
import Scaffold.Proofs.Text.Pieces
import Scaffold.Proofs.Text.Trimming
import Scaffold.Snippets.Placement
import Scaffold.Splice

namespace Scaffold

/-!
# Splicing many snippets at one marker

A marker divides a text at the beginning of its line.  A snippet that goes before the marker becomes
the last line of the first half, and the text is still divided at the same place: the marker has no
line break in it, so that no occurrence of it can reach from the new line into an old one.  The
snippets of a list therefore stand in the order of the list, right before the line of the marker,
and nothing else changes.
-/

/-! ## A text divided at a marker -/

/-- The two halves of a text: before and from the line in which a needle occurs first. -/
structure Cut.DividesAt (cut : Cut) (needle content : List Char) : Prop where
  whole : cut.text = content
  atLineStart : cut.before = [] ∨ cut.before.getLast? = some '\n'
  onFirstLine : ∃ line rest, cut.after = line ++ needle ++ rest ∧ '\n' ∉ line ∧
    ∀ earlier later, content = earlier ++ needle ++ later → (cut.before ++ line).length ≤ earlier.length

/-- The text cut at a marker that the first half is free of. -/
structure Cut.Marked (cut : Cut) (needle : List Char) : Prop where
  atLineStart : cut.before = [] ∨ cut.before.getLast? = some '\n'
  clean : ¬ needle <:+: cut.before
  onFirstLine : ∃ line rest, cut.after = line ++ needle ++ rest ∧ '\n' ∉ line ∧
    Text.cutBefore? needle cut.after = some (line, needle ++ rest)

namespace Cut

variable {cut : Cut} {needle content : List Char}

/-- The cut with one more line at the end of its first half. -/
def addLine (cut : Cut) (line : List Char) : Cut :=
  { cut with before := cut.before ++ (line ++ ['\n']) }

theorem exists_line (before : List Char) :
    ∃ lines line, before = lines ++ line ∧ '\n' ∉ line ∧ (lines = [] ∨ lines.getLast? = some '\n') := by
  induction before with
  | nil => exact ⟨[], [], rfl, by simp, .inl rfl⟩
  | cons c rest ih =>
    rcases ih with ⟨lines, line, whole, unbroken, start⟩
    rcases start with rfl | start
    · by_cases breaks : c = '\n'
      · exact ⟨[c], line, by simp [whole], unbroken, .inr (by simp [breaks])⟩
      · refine ⟨[], c :: line, by simp [whole], ?_, .inl rfl⟩
        simpa [unbroken] using Ne.symm breaks
    · refine ⟨c :: lines, line, by simp [whole], unbroken, .inr ?_⟩
      rw [List.getLast?_cons, start]
      rfl

/-- At the beginning of a line, a search with a needle that is not found before finds what it finds
after. -/
theorem cutBefore?_text (atLineStart : cut.before = [] ∨ cut.before.getLast? = some '\n') (solid : needle ≠ [])
    (unbroken : '\n' ∉ needle) (clean : ¬ needle <:+: cut.before) :
    Text.cutBefore? needle cut.text =
      (Text.cutBefore? needle cut.after).map (fun inner => (cut.before ++ inner.1, inner.2)) := by
  rcases atLineStart with start | start
  · simp [Cut.text, start]
  · rcases List.getLast?_eq_some_iff.1 start with ⟨lines, same⟩
    rw [same, Text.infix_append_break unbroken solid, not_or] at clean
    -- The break at the end of the first half keeps the two searches apart.
    have absent : Text.cutBefore? needle lines = none := by
      rw [← Option.isNone_iff_eq_none, ← Option.not_isSome, Text.isSome_cutBefore?,
        Text.occurs_eq_false_iff.2 clean.1]
      rfl
    rw [Cut.text, same, List.append_assoc, List.singleton_append,
      Text.cutBefore?_append_break unbroken solid, absent]
    simp

/-- Every text with a marker in it is divided at the marker. -/
theorem exists_marked (solid : needle ≠ []) (unbroken : '\n' ∉ needle) (occurring : needle <:+: content) :
    ∃ cut : Cut, cut.text = content ∧ cut.Marked needle := by
  rcases Text.exists_cutBefore? occurring with ⟨before, rest, found⟩
  rcases exists_line before with ⟨lines, line, rfl, unbrokenLine, atLineStart⟩
  have whole : content = lines ++ line ++ needle ++ rest := by
    have joined := (Text.append_of_cutBefore? found).1
    simp [← joined]
  have clean : ¬ needle <:+: lines := by
    rintro ⟨earlier, later, same⟩
    have first := @Text.length_le_of_cutBefore? _ _ _ _ found earlier (later ++ line ++ needle ++ rest)
      (by simp [whole, ← same])
    have length := congrArg List.length same
    have long := List.length_pos_iff.2 solid
    simp only [List.length_append] at first length
    omega
  have joined : (Cut.mk lines (line ++ needle ++ rest)).text = content := by simp [Cut.text, whole]
  refine ⟨⟨lines, line ++ needle ++ rest⟩, joined, atLineStart, clean, line, rest, rfl, unbrokenLine, ?_⟩
  have searched : Text.cutBefore? needle (Cut.mk lines (line ++ needle ++ rest)).text =
      (Text.cutBefore? needle (line ++ needle ++ rest)).map (fun inner => (lines ++ inner.1, inner.2)) :=
    cutBefore?_text atLineStart solid unbroken clean
  rw [joined, found] at searched
  rcases Option.map_eq_some_iff.1 searched.symm with ⟨⟨before, remaining⟩, inner, same⟩
  simp only [Prod.mk.injEq, List.append_cancel_left_eq] at same
  rw [inner, same.1, same.2]

namespace Marked

theorem dividesAt (marked : cut.Marked needle) (solid : needle ≠ []) (unbroken : '\n' ∉ needle) :
    cut.DividesAt needle cut.text := by
  rcases marked.onFirstLine with ⟨line, rest, whole, unbrokenLine, found⟩
  refine ⟨rfl, marked.atLineStart, line, rest, whole, unbrokenLine, ?_⟩
  intro earlier later occurring
  have searched := cutBefore?_text marked.atLineStart solid unbroken marked.clean
  rw [found, Option.map_some] at searched
  exact Text.length_le_of_cutBefore? searched occurring

/-- A line without the marker, put right before the line of the marker, leaves the marker where the
text is cut. -/
theorem addLine (marked : cut.Marked needle) (solid : needle ≠ []) (unbroken : '\n' ∉ needle) {line : List Char}
    (clean : ¬ needle <:+: line) : (cut.addLine line).Marked needle where
  atLineStart := .inr (by simp [Cut.addLine])
  clean := by
    have nothing : ¬ needle <:+: [] := by simpa using solid
    have both : ¬ needle <:+: cut.before ++ line := by
      rcases marked.atLineStart with start | start
      · simpa [start] using clean
      · rcases List.getLast?_eq_some_iff.1 start with ⟨lines, same⟩
        have before := marked.clean
        rw [same, Text.infix_append_break unbroken solid, not_or] at before
        rw [same, List.append_assoc, List.singleton_append, Text.infix_append_break unbroken solid]
        exact not_or.2 ⟨before.1, clean⟩
    rw [Cut.addLine, ← List.append_assoc, Text.infix_append_break unbroken solid]
    exact not_or.2 ⟨both, nothing⟩
  onFirstLine := marked.onFirstLine

end Marked
end Cut

/-! ## One snippet -/

namespace Snippet

variable {snippet : Snippet} {kind content : String} {cut : Cut}

/-- The snippet goes before the marker of a kind, says something, and brings no such marker
along. -/
structure IsAimedAt (snippet : Snippet) (kind : String) : Prop where
  insertBefore : snippet.insertBefore = some (Snippets.markerPattern kind)
  insertAfter : anchor? snippet.insertAfter = none
  solid : Text.blank snippet.content = false
  unmarked : ¬ (Snippets.marker kind).toList <:+: snippet.content.toList

/-- The pattern of the marker is not too large for the matcher. -/
def Fits (kind : String) : Prop :=
  (Pattern.Node.literal (Snippets.marker kind).toList).weight ≤ Pattern.maxWeight

instance (kind : String) : Decidable (Fits kind) :=
  inferInstanceAs (Decidable (_ ≤ _))

theorem toList_marker (kind : String) :
    (Snippets.marker kind).toList = "// <<<FORGE:INSERT ".toList ++ kind.toList ++ ">>>".toList := by
  have outer := @String.toList_append ("// <<<FORGE:INSERT " ++ kind) ">>>"
  rw [@String.toList_append "// <<<FORGE:INSERT " kind] at outer
  exact outer

theorem marker_ne_nil (kind : String) : (Snippets.marker kind).toList ≠ [] := by
  intro nothing
  rw [toList_marker, List.append_eq_nil_iff] at nothing
  exact absurd nothing.2 (by decide)

theorem not_mem_marker (unbroken : '\n' ∉ kind.toList) : '\n' ∉ (Snippets.marker kind).toList := by
  rw [toList_marker, List.mem_append, List.mem_append]
  rintro ((start | inner) | finish)
  · exact absurd start (by decide)
  · exact unbroken inner
  · exact absurd finish (by decide)

theorem anchor?_markerPattern (kind : String) :
    anchor? (some (Snippets.markerPattern kind)) = some (Snippets.markerPattern kind) := by
  have long := Pattern.length_le_escapeChars (Snippets.marker kind).toList
  have solid := List.length_pos_iff.2 (marker_ne_nil kind)
  have written : Snippets.markerPattern kind ≠ "" := by
    intro nothing
    rw [Snippets.markerPattern, Pattern.escape, ← String.toList_inj, String.toList_ofList] at nothing
    rw [nothing] at long
    exact absurd solid (Nat.not_lt.2 long)
  simp [anchor?, written]

theorem fragment_prefix (snippet : Snippet) : snippet.fragment <+: snippet.content.toList := by
  rcases Text.exists_trimEnd_append snippet.content.toList with ⟨gap, -, whole⟩
  exact ⟨gap, whole.symm⟩

theorem fragment_ne_nil (solid : Text.blank snippet.content = false) : snippet.fragment ≠ [] := by
  intro nothing
  rcases Text.exists_trimEnd_append snippet.content.toList with ⟨gap, blank, whole⟩
  rw [fragment] at nothing
  rw [nothing, List.nil_append] at whole
  rw [Text.blank, whole, List.all_eq_true.2 blank] at solid
  cases solid

theorem IsAimedAt.unmarked_fragment (aimed : snippet.IsAimedAt kind) :
    ¬ (Snippets.marker kind).toList <:+: snippet.fragment :=
  fun occurring => aimed.unmarked (occurring.trans snippet.fragment_prefix.isInfix)

theorem cutBeforeLine_eq {before line : List Char} (atLineStart : before = [] ∨ before.getLast? = some '\n')
    (unbroken : '\n' ∉ line) (matched after : List Char) :
    cutBeforeLine ⟨before ++ line, matched, after⟩ = ⟨before, line ++ matched ++ after⟩ := by
  have turned : '\n' ∉ line.reverse := by simpa using unbroken
  rcases atLineStart with rfl | start
  · rcases Text.takeWhile_of_not_mem turned with ⟨taken, left⟩
    simp [cutBeforeLine, taken, left]
  · rcases List.getLast?_eq_some_iff.1 start with ⟨lines, rfl⟩
    rcases Text.takeWhile_mark turned lines.reverse with ⟨taken, left⟩
    simp [cutBeforeLine, taken, left]

theorem mergeAt_eq_addLine (atLineStart : cut.before = [] ∨ cut.before.getLast? = some '\n') (line : List Char) :
    mergeAt line cut = (cut.addLine line).text := by
  rcases atLineStart with start | start
  · simp [mergeAt, Cut.addLine, Cut.text, start]
  · simp [mergeAt, Cut.addLine, Cut.text, start]

/-- A snippet that is not there yet becomes the line before the one of the marker. -/
theorem splice_marked (aimed : snippet.IsAimedAt kind) (unbroken : '\n' ∉ kind.toList) (fits : Fits kind)
    (marked : cut.Marked (Snippets.marker kind).toList) :
    snippet.splice (String.ofList cut.text) =
      .ok (if snippet.fragment <:+: cut.text then .alreadyPresent
        else .merged (String.ofList (cut.addLine snippet.fragment).text)) := by
  have present : snippet.isPresentIn cut.text = decide (snippet.fragment <:+: cut.text) := by
    have solid : snippet.fragment.isEmpty = false := by simpa using fragment_ne_nil aimed.solid
    rw [isPresentIn, solid, Bool.eq_iff_iff]
    simp [Text.occurs_iff]
  have place : snippet.insertionCut cut.text = .ok cut := by
    rcases marked.onFirstLine with ⟨line, rest, whole, unbrokenLine, found⟩
    have searched := Cut.cutBefore?_text marked.atLineStart (marker_ne_nil kind)
      (not_mem_marker unbroken) marked.clean
    rw [found, Option.map_some] at searched
    have compiled : Pattern.parse? (Snippets.markerPattern kind) =
        some ⟨Pattern.Node.literal (Snippets.marker kind).toList⟩ := by
      rw [Snippets.markerPattern, Pattern.parse?_escape]
      exact if_pos fits
    simp only [insertionCut, aimed.insertAfter, aimed.insertBefore, anchor?_markerPattern, locate,
      Pattern.Engine.compile_standard, compiled, Pattern.find?_literal, searched, Option.map_some, List.drop_left,
      Except.map]
    rw [cutBeforeLine_eq marked.atLineStart unbrokenLine, ← whole]
  rw [splice, String.toList_ofList, present, place]
  by_cases there : snippet.fragment <:+: cut.text
  · simp [there]
  · simp [there, Except.map, mergeAt_eq_addLine marked.atLineStart]

/-- A marker whose pattern is too large makes every snippet for it fail that is not there yet. -/
theorem splice_oversized (aimed : snippet.IsAimedAt kind) (large : ¬ Fits kind)
    (absent : ¬ snippet.fragment <:+: content.toList) :
    snippet.splice content =
      .error (.anchor snippet.targetFile ("invalid anchor '" ++ Snippets.markerPattern kind ++ "'")) := by
  have rejected : Pattern.parse? (Snippets.markerPattern kind) = none := by
    rw [Snippets.markerPattern, Pattern.parse?_escape]
    exact if_neg large
  have new : snippet.isPresentIn content.toList = false := by
    rw [isPresentIn, Text.occurs_eq_false_iff.2 absent, Bool.and_false]
  simp [splice, new, insertionCut, aimed.insertAfter, aimed.insertBefore, anchor?_markerPattern, locate,
    Pattern.Engine.compile_standard, rejected, Except.map]

/-! ## A list of snippets -/

/-- The text after a snippet was spliced in: the old one when the snippet was there already. -/
def textAfter (before : String) : Splice → String
  | .merged text => text
  | .alreadyPresent => before

/-- Splices the snippets into a text, one after another. -/
def spliceAll (snippets : List Snippet) (content : String) : Except Fault String :=
  snippets.foldlM (fun text snippet => (snippet.splice text).map (textAfter text)) content

/-- The fragments of a list that are not yet in the text when their turn comes. -/
def newcomers (cut : Cut) : List (List Char) → List (List Char)
  | [] => []
  | fragment :: rest =>
    if fragment <:+: cut.text then newcomers cut rest else fragment :: newcomers (cut.addLine fragment) rest

theorem spliceAll_cons (snippet : Snippet) (rest : List Snippet) (content : String) :
    spliceAll (snippet :: rest) content =
      (snippet.splice content).bind (fun result => spliceAll rest (textAfter content result)) := by
  rw [spliceAll, List.foldlM_cons]
  cases snippet.splice content <;> rfl

/-- At a marked cut, the newcomers of a list become the lines before the one of the marker. -/
theorem spliceAll_marked {snippets : List Snippet} (aimed : ∀ snippet ∈ snippets, snippet.IsAimedAt kind)
    (unbroken : '\n' ∉ kind.toList) (fits : Fits kind) (marked : cut.Marked (Snippets.marker kind).toList) :
    spliceAll snippets (String.ofList cut.text) = .ok (String.ofList
      (cut.before ++ (newcomers cut (snippets.map fragment)).flatMap (· ++ ['\n']) ++ cut.after)) := by
  induction snippets generalizing cut with
  | nil =>
    simp only [List.map_nil, newcomers, List.flatMap_nil, List.append_nil]
    rfl
  | cons snippet rest ih =>
    -- The cut moves with each line that is put in, so the induction is over all marked cuts.
    have now := aimed snippet (List.mem_cons_self ..)
    have later := fun other member => aimed other (List.mem_cons_of_mem snippet member)
    rw [spliceAll_cons, splice_marked now unbroken fits marked, Except.bind, List.map_cons, newcomers]
    by_cases there : snippet.fragment <:+: cut.text
    · rw [if_pos there, if_pos there, textAfter]
      exact ih later marked
    · have next := marked.addLine (marker_ne_nil kind) (not_mem_marker unbroken) now.unmarked_fragment
      rw [if_neg there, if_neg there, textAfter, ih later next, List.flatMap_cons]
      simp [Cut.addLine]

/-- Splicing a list of snippets at a marker never fails: before the line in which the marker occurs
first stand, in the order of the list, the snippets that were not in the text yet, each on lines of
its own, and all else is as it was. -/
theorem spliceAll_atMarker {snippets : List Snippet} (unbroken : '\n' ∉ kind.toList) (fits : Fits kind)
    (occurring : (Snippets.marker kind).toList <:+: content.toList)
    (aimed : ∀ snippet ∈ snippets, snippet.IsAimedAt kind) :
    ∃ cut : Cut, cut.DividesAt (Snippets.marker kind).toList content.toList ∧
      spliceAll snippets content = .ok (String.ofList
        (cut.before ++ (newcomers cut (snippets.map fragment)).flatMap (· ++ ['\n']) ++ cut.after)) := by
  rcases Cut.exists_marked (marker_ne_nil kind) (not_mem_marker unbroken) occurring with ⟨cut, whole, marked⟩
  have divides := marked.dividesAt (marker_ne_nil kind) (not_mem_marker unbroken)
  have merged := spliceAll_marked aimed unbroken fits marked
  rw [whole] at divides merged
  rw [String.ofList_toList] at merged
  exact ⟨cut, divides, merged⟩

/-- A snippet with the given content for the markers of a kind in the routes file. -/
def before (kind content : String) : Snippet where
  id := "route"
  content
  targetFile := "internal/admin/routes/routes.go"
  insertionPoint := "routes"
  insertBefore := some (Snippets.markerPattern kind)
  description := "one line"
  priority := 1
  category := "routes"

/-- A file with one marker. -/
def markedFile : String :=
  "func Register() \x7b\n\tusers()\n\t// <<<FORGE:INSERT routes>>>\n\x7d\n"

theorem before_isAimedAt {kind content : String} (solid : Text.blank content = false)
    (short : content.toList.length ≤ kind.toList.length) : (before kind content).IsAimedAt kind where
  insertBefore := rfl
  insertAfter := rfl
  solid := solid
  unmarked := by
    intro occurring
    have bound := occurring.length_le
    have long : 3 = ">>>".toList.length := by decide
    rw [toList_marker, List.length_append, List.length_append, ← long] at bound
    have same : (before kind content).content = content := rfl
    rw [same] at bound
    omega

theorem spliceAll_atMarker_routes : ∃ cut : Cut,
    cut.DividesAt (Snippets.marker "routes").toList markedFile.toList ∧
      spliceAll [before "routes" "a()", before "routes" "users", before "routes" "b()\n"] markedFile =
        .ok (String.ofList (cut.before ++
          (newcomers cut ["a()".toList, "users".toList, "b()".toList]).flatMap (· ++ ['\n']) ++ cut.after)) := by
  have aimed : ∀ snippet ∈ [before "routes" "a()", before "routes" "users", before "routes" "b()\n"],
      snippet.IsAimedAt "routes" := by
    simp only [List.forall_mem_cons, List.not_mem_nil, false_imp_iff, implies_true, and_true]
    exact ⟨before_isAimedAt (by decide) (by decide), before_isAimedAt (by decide) (by decide),
      before_isAimedAt (by decide) (by decide)⟩
  exact spliceAll_atMarker (by decide) (by decide) (Text.occurs_iff.1 (by decide)) aimed

/-- A kind whose marker makes a pattern of more than ten mebibytes. -/
def oversizedKind : String :=
  String.ofList (List.replicate 440000 'a')

theorem toList_oversizedKind : oversizedKind.toList = List.replicate 440000 'a' :=
  String.toList_ofList

theorem not_mem_oversizedKind {c : Char} (other : c ≠ 'a') : c ∉ oversizedKind.toList := by
  rw [toList_oversizedKind]
  intro member
  exact other (List.eq_of_mem_replicate member)

theorem not_fits_of_length (long : 440000 ≤ kind.toList.length) : ¬ Fits kind := by
  have heavy := Pattern.length_le_weight_literal (Snippets.marker kind).toList
  have most : Pattern.maxWeight < 32 * 440000 := by decide
  rw [toList_marker, List.length_append, List.length_append, ← toList_marker] at heavy
  rw [Fits]
  omega

theorem spliceAll_oversizedKind :
    '\n' ∉ oversizedKind.toList ∧
      (Snippets.marker oversizedKind).toList <:+: (Snippets.marker oversizedKind ++ "\n").toList ∧
      (∀ snippet ∈ [before oversizedKind "x"], snippet.IsAimedAt oversizedKind) ∧
      spliceAll [before oversizedKind "x"] (Snippets.marker oversizedKind ++ "\n") =
        .error (.anchor "internal/admin/routes/routes.go"
          ("invalid anchor '" ++ Snippets.markerPattern oversizedKind ++ "'")) := by
  have unbroken : '\n' ∉ oversizedKind.toList := not_mem_oversizedKind (by decide)
  have occurring : (Snippets.marker oversizedKind).toList <:+: (Snippets.marker oversizedKind ++ "\n").toList := by
    rw [String.toList_append]
    exact (List.prefix_append _ _).isInfix
  have aimed : (before oversizedKind "x").IsAimedAt oversizedKind := by
    apply before_isAimedAt (by decide)
    rw [toList_oversizedKind, List.length_replicate]
    decide
  have absent : ¬ (before oversizedKind "x").fragment <:+: (Snippets.marker oversizedKind ++ "\n").toList := by
    have written : (before oversizedKind "x").fragment = ['x'] := by decide
    rw [written, String.toList_append, toList_marker]
    intro inside
    have member := inside.subset (List.mem_singleton_self 'x')
    rw [List.mem_append, List.mem_append, List.mem_append] at member
    rcases member with ((start | inner) | finish) | last
    · exact absurd start (by decide)
    · exact not_mem_oversizedKind (by decide) inner
    · exact absurd finish (by decide)
    · exact absurd last (by decide)
  have length : oversizedKind.toList.length = 440000 := by rw [toList_oversizedKind, List.length_replicate]
  have large : ¬ Fits oversizedKind := not_fits_of_length (Nat.le_of_eq length.symm)
  have refused := splice_oversized aimed large absent
  have all := spliceAll_cons (before oversizedKind "x") [] (Snippets.marker oversizedKind ++ "\n")
  rw [refused] at all
  exact ⟨unbroken, occurring, by simpa using aimed, all⟩

end Snippet
end Scaffold
