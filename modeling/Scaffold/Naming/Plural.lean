import Scaffold.Text.CaseMap
import Scaffold.Text.Search

namespace Scaffold
namespace Naming

/-!
# English plurals

The plural of a compound such as `sales_person` is decided by its last word where that word is
irregular, and by the ending of the whole compound otherwise.
-/

/-- Words whose plural follows no rule. -/
def irregularPlurals : List (String × String) := [
  ("person", "people"), ("child", "children"), ("foot", "feet"), ("tooth", "teeth"), ("goose", "geese"),
  ("mouse", "mice"), ("man", "men"), ("woman", "women")]

/-- The irregular plural of a word, if it has one. -/
def irregularPlural? (word : List Char) : Option (List Char) :=
  (irregularPlurals.find? (fun entry => entry.1.toList == word)).map (fun entry => entry.2.toList)

/-- Whether `c` is one of the five vowels. -/
def isVowel (c : Char) : Bool :=
  "aeiou".toList.contains c.toLower

/-- Cuts a compound after its last `_`: the head ends in `_` or is empty. -/
def lastWord (cs : List Char) : List Char × List Char :=
  let word := (cs.reverse.takeWhile (· != '_')).reverse
  (cs.take (cs.length - word.length), word)

/-- Endings after which the plural adds `es`. -/
def sibilantEndings : List (List Char) :=
  ["s".toList, "sh".toList, "ch".toList, "x".toList, "z".toList]

/-- The plural by ending: `y` after a consonant, a sibilant, `f`, `fe`, or any other. -/
def regularPlural (word : List Char) : List Char :=
  match (Text.dropSuffix? ['y'] word).filter (fun stem => stem.getLast?.any (fun c => !isVowel c)) with
  | some stem => stem ++ "ies".toList
  | none =>
    if sibilantEndings.any (fun ending => ending.isSuffixOf word) then word ++ "es".toList
    else
      match Text.dropSuffix? ['f'] word with
      | some stem => stem ++ "ves".toList
      | none =>
        match Text.dropSuffix? ['f', 'e'] word with
        | some stem => stem ++ "ves".toList
        | none => word ++ ['s']

/-- `plural` on characters. -/
def pluralChars (cs : List Char) : List Char :=
  if cs.isEmpty then []
  else
    let word := Text.lowerChars cs
    let (head, last) := lastWord word
    match irregularPlural? last with
    | some plural => head ++ plural
    | none => regularPlural word

/-- The plural of a word or of an underscored compound, in lower case. -/
def plural (s : String) : String :=
  String.ofList (pluralChars s.toList)

end Naming
end Scaffold
