import Scaffold.Naming.Case

namespace Scaffold
namespace Naming

/-!
# Identifiers of the generated code

A Go identifier is a letter or `_`, followed by letters, numbers and `_`, and is not a keyword.  Any
text can be turned into the name of an exported field by dropping what does not belong.
-/

/-- The keywords of Go. -/
def reservedWords : List String := [
  "break", "case", "chan", "const", "continue", "default", "defer", "else", "fallthrough", "for", "func", "go",
  "goto", "if", "import", "interface", "map", "package", "range", "return", "select", "struct", "switch", "type",
  "var"]

/-- Whether the name is a keyword. -/
def isReserved (name : String) : Bool :=
  reservedWords.contains name

/-- A character that may begin an identifier. -/
def beginsIdentifier (c : Char) : Bool :=
  Text.isAlphabetic c || c == '_'

/-- A character that may stand inside an identifier. -/
def continuesIdentifier (c : Char) : Bool :=
  Text.isAlphanumeric c || c == '_'

/-- `isIdentifier` on characters. -/
def spellsIdentifier : List Char → Bool
  | [] => false
  | c :: rest => beginsIdentifier c && rest.all continuesIdentifier

/-- Whether the name is spelt as an identifier, keyword or not. -/
def isIdentifier (name : String) : Bool :=
  spellsIdentifier name.toList

/-- What stands for the first character of a name: itself, or `F` when it cannot begin an
identifier, followed by it when it is an ASCII digit. -/
def leadingPart (c : Char) : List Char :=
  if beginsIdentifier c then [c] else if c.isDigit then ['F', c] else ['F']

/-- The name without the characters that no identifier holds. -/
def keepIdentifier : List Char → List Char
  | [] => []
  | c :: rest => leadingPart c ++ rest.filter continuesIdentifier

/-- `sanitize` on characters. -/
def sanitizeChars (cs : List Char) : List Char :=
  let kept := keepIdentifier cs
  if kept.isEmpty then "Field".toList
  else if isReserved (String.ofList kept) then upperFirst (kept ++ "Field".toList)
  else upperFirst kept

/-- The exported field name that a text stands for. -/
def sanitize (name : String) : String :=
  String.ofList (sanitizeChars name.toList)

end Naming
end Scaffold
