import Scaffold.Pattern.Reader
import Scaffold.Pattern.Replace
import Scaffold.Text.CaseMap
import Scaffold.Text.Numeric
import Scaffold.Text.Search

namespace Scaffold
namespace Naming

/-!
# Spellings of compound names

A name such as `XMLHttpRequest` is respelt with underscores, with hyphens, or with capitals at the
word starts.  Two patterns find the word boundaries, one after the other: first those inside a run
of capitals (a run that a small letter follows is an acronym and the capital of the next word), then
those between a small letter or digit and a capital.
-/

/-- An ASCII capital. -/
def isCapital (c : Char) : Bool :=
  'A' ≤ c && c ≤ 'Z'

/-- An ASCII small letter. -/
def isSmall (c : Char) : Bool :=
  'a' ≤ c && c ≤ 'z'

/-- A character after which a capital starts a word: an ASCII small letter or a decimal digit of any
script. -/
def endsWord (c : Char) : Bool :=
  isSmall c || Text.isDecimalDigit c

/-- The set of the ASCII capitals. -/
def capitalSet : Pattern.CharSet :=
  .union .nothing (.range 'A' 'Z')

/-- The set of the ASCII small letters. -/
def smallSet : Pattern.CharSet :=
  .union .nothing (.range 'a' 'z')

/-- The pattern `([A-Z]+)([A-Z][a-z])`: an acronym, and the capital and the small letter that begin
the next word. -/
def acronymBoundary : Pattern where
  node := .seq (.group 1 (.repeated 1 none true (.one capitalSet)))
    (.group 2 (.seq (.one capitalSet) (.one smallSet)))

/-- The pattern `([a-z\d])([A-Z])`: the end of a word, and the capital that begins the next one. -/
def wordBoundary : Pattern where
  node := .seq (.group 1 (.one (.union smallSet (.property Text.isDecimalDigit)))) (.group 2 (.one capitalSet))

/-- What a boundary is replaced by: the text of its two groups with `_` between them. -/
def parted : List Pattern.Piece :=
  [.group 1, .text ['_'], .group 2]

/-- `snakeCase` on characters. -/
def snake (cs : List Char) : List Char :=
  Text.lowerChars (wordBoundary.replaceAll parted (acronymBoundary.replaceAll parted cs))

/-- The name in small letters with `_` between its words. -/
def snakeCase (s : String) : String :=
  String.ofList (snake s.toList)

/-- `kebabCase` on characters. -/
def kebab (cs : List Char) : List Char :=
  (snake cs).map (fun c => if c == '_' then '-' else c)

/-- The name in small letters with `-` between its words. -/
def kebabCase (s : String) : String :=
  String.ofList (kebab s.toList)

/-- A character between two words of a name that is not spelt with capitals. -/
def isWordBreak (c : Char) : Bool :=
  c == '_' || c == '-' || c == ' '

/-- The first character in upper case and the rest in lower case, each character by itself. -/
def capitalize : List Char → List Char
  | [] => []
  | c :: rest => Text.upperChar c ++ rest.flatMap Text.lowerChar

/-- The first character in upper case, the rest as it is. -/
def upperFirst : List Char → List Char
  | [] => []
  | c :: rest => Text.upperChar c ++ rest

/-- The first character in lower case, the rest as it is. -/
def lowerFirst : List Char → List Char
  | [] => []
  | c :: rest => Text.lowerChar c ++ rest

/-- Whether a name already is one word spelt with capitals: an upper-case letter, then letters and
numbers. -/
def isPascal (cs : List Char) : Bool :=
  cs.head?.any Text.isUppercase && cs.all Text.isAlphanumeric

/-- `pascalCase` on characters. -/
def pascal (cs : List Char) : List Char :=
  if isPascal cs then cs
  else ((Text.pieces isWordBreak cs).filter (fun word => !word.isEmpty)).flatMap capitalize

/-- The words of the name one after another, each capitalized. -/
def pascalCase (s : String) : String :=
  String.ofList (pascal s.toList)

/-- The name with its first character in lower case. -/
def lowerCamelCase (s : String) : String :=
  String.ofList (lowerFirst s.toList)

/-- The words of the name one after another, each but the first capitalized. -/
def camelCase (s : String) : String :=
  String.ofList (lowerFirst (pascal s.toList))

end Naming
end Scaffold
