import Scaffold.Text.Blank
import Scaffold.Text.Search

namespace Scaffold
namespace Naming

/-!
# Field comments

A comment is cleaned of its asides in brackets and of one separator of each kind at its end.  A
label for the user interface is the part before the first comma, without a closing word for "field"
or "info".

Asides of one kind of bracket are removed one at a time: the first opener is matched with its closer
by counting, the stretch between is cut out, and the search starts over.  `keepOutside` says the
same with one scan and a depth.
-/

/-- The kinds of bracket that enclose an aside, in the order in which they are removed. -/
def brackets : List (Char × Char) := [
  ('(', ')'), ('（', '）'), ('[', ']'), ('【', '】'), ('\x7b', '\x7d'), ('｛', '｝')]

/-- What follows the closer that brings the depth down to zero, if there is one. -/
def afterClose? (opener closer : Char) : Nat → List Char → Option (List Char)
  | _, [] => none
  | depth, c :: rest =>
    if c == opener then afterClose? opener closer (depth + 1) rest
    else if c == closer then
      if depth ≤ 1 then some rest else afterClose? opener closer (depth - 1) rest
    else afterClose? opener closer depth rest

theorem length_afterClose?_lt {opener closer : Char} {depth : Nat} {cs rest : List Char}
    (found : afterClose? opener closer depth cs = some rest) : rest.length < cs.length := by
  induction cs generalizing depth with
  | nil => simp [afterClose?] at found
  | cons c tail step =>
    simp only [afterClose?] at found
    split at found
    · exact Nat.lt_succ_of_lt (step found)
    · split at found
      · split at found
        · simp only [Option.some.injEq] at found
          subst found
          simp
        · exact Nat.lt_succ_of_lt (step found)
      · exact Nat.lt_succ_of_lt (step found)

/-- Cutting out a closed aside leaves a shorter text. -/
theorem length_cut_lt {opener closer : Char} {c : Char} {cs inside rest : List Char}
    (found : cs.dropWhile (· != opener) = c :: inside)
    (closed : afterClose? opener closer 1 inside = some rest) :
    (cs.takeWhile (· != opener)).length + rest.length < cs.length := by
  have split : (cs.takeWhile (· != opener)).length + (cs.dropWhile (· != opener)).length = cs.length := by
    rw [← List.length_append, List.takeWhile_append_dropWhile]
  have shorter := length_afterClose?_lt closed
  simp only [found, List.length_cons] at split
  omega

/-- The text without its asides; an aside that is never closed reaches to the end. -/
def removeAsides (opener closer : Char) (cs : List Char) : List Char :=
  match found : cs.dropWhile (· != opener) with
  | [] => cs
  | _ :: inside =>
    match closed : afterClose? opener closer 1 inside with
    | some rest =>
      have := length_cut_lt found closed
      removeAsides opener closer (cs.takeWhile (· != opener) ++ rest)
    | none => cs.takeWhile (· != opener)
termination_by cs.length

/-- What a scan at the given depth keeps: outside every bracket all but openers, inside nothing. -/
def keepOutside (opener closer : Char) : Nat → List Char → List Char
  | _, [] => []
  | 0, c :: rest => if c == opener then keepOutside opener closer 1 rest else c :: keepOutside opener closer 0 rest
  | depth + 1, c :: rest =>
    if c == opener then keepOutside opener closer (depth + 2) rest
    else if c == closer then keepOutside opener closer depth rest
    else keepOutside opener closer (depth + 1) rest

/-- The separators that a cleaned comment drops from its end, each once, in this order. -/
def closingSeparators : List Char :=
  ['，', ',', '；', ';', '：', ':']

/-- `cleanComment` on characters. -/
def cleanChars (cs : List Char) : List Char :=
  let bare := brackets.foldl (fun text pair => removeAsides pair.1 pair.2 text) cs
  Text.trim (closingSeparators.foldl (fun text mark => Text.dropSuffix [mark] text) (Text.trim bare))

/-- The comment without asides, outer white space and closing separators. -/
def cleanComment (comment : String) : String :=
  String.ofList (cleanChars comment.toList)

/-- Words that a label drops from its end, in this order. -/
def labelEndings : List String :=
  ["字段", "信息"]

/-- The label of a field: its comment up to the first comma, or its name when that leaves
nothing. -/
def displayLabel (comment name : String) : String :=
  let head := Text.trim (comment.toList.takeWhile (fun c => c != ',' && c != '，'))
  let label := Text.trim (labelEndings.foldl (fun text ending => Text.dropSuffix ending.toList text) head)
  if label.isEmpty then name else String.ofList label

end Naming
end Scaffold
