import Scaffold.Decimal.Shortest
import Scaffold.Json.Value

namespace Scaffold
namespace Json

/-!
# Writing JSON

Two layouts: without any white space, and with one item a line, indented by two spaces a level,
where an empty array or object stays on its line.  Only quotes, backslashes and control characters
are escaped.
-/

/-- The four hexadecimal digits of a control character. -/
def controlCode (c : Char) : List Char :=
  let n := c.toNat
  ['0', '0', Nat.digitChar (n / 16), Nat.digitChar (n % 16)]

/-- One character as it stands inside a string literal. -/
def escapeChar (c : Char) : List Char :=
  if c == '"' then ['\\', '"']
  else if c == '\\' then ['\\', '\\']
  else if c == '\n' then ['\\', 'n']
  else if c == '\r' then ['\\', 'r']
  else if c == '\t' then ['\\', 't']
  else if c == '\x08' then ['\\', 'b']
  else if c == '\x0c' then ['\\', 'f']
  else if c.toNat < 32 then '\\' :: 'u' :: controlCode c
  else [c]

/-- A string literal. -/
def quote (s : String) : List Char :=
  '"' :: s.toList.flatMap escapeChar ++ ['"']

/-- An integer in decimal notation. -/
def integerText (n : Int) : List Char :=
  if n < 0 then '-' :: Decimal.digits n.natAbs else Decimal.digits n.natAbs

mutual

/-- The document without white space. -/
def compact : Value → List Char
  | .null => "null".toList
  | .bool b => (if b then "true" else "false").toList
  | .integer n => integerText n
  | .float x => Decimal.pointed x
  | .string s => quote s
  | .array [] => ['[', ']']
  | .array (item :: rest) => '[' :: compact item ++ compactItems rest ++ [']']
  | .object [] => ['\x7b', '\x7d']
  | .object ((key, value) :: rest) => '\x7b' :: quote key ++ ':' :: compact value ++ compactMembers rest ++ ['\x7d']

/-- Further items, each after a comma. -/
def compactItems : List Value → List Char
  | [] => []
  | item :: rest => ',' :: compact item ++ compactItems rest

/-- Further members, each after a comma. -/
def compactMembers : List (String × Value) → List Char
  | [] => []
  | (key, value) :: rest => ',' :: quote key ++ ':' :: compact value ++ compactMembers rest

end

/-- A line break and the indentation of a level. -/
def newLine (level : Nat) : List Char :=
  '\n' :: List.replicate (2 * level) ' '

mutual

/-- The document in the indented layout, the surrounding text being at the given level. -/
def pretty (level : Nat) : Value → List Char
  | .null => "null".toList
  | .bool b => (if b then "true" else "false").toList
  | .integer n => integerText n
  | .float x => Decimal.pointed x
  | .string s => quote s
  | .array [] => ['[', ']']
  | .array (item :: rest) =>
    '[' :: newLine (level + 1) ++ pretty (level + 1) item ++ prettyItems (level + 1) rest ++ newLine level ++ [']']
  | .object [] => ['\x7b', '\x7d']
  | .object ((key, value) :: rest) =>
    '\x7b' :: newLine (level + 1) ++ quote key ++ ':' :: ' ' :: pretty (level + 1) value
      ++ prettyMembers (level + 1) rest ++ newLine level ++ ['\x7d']

/-- Further items, each after a comma on a line of its own. -/
def prettyItems (level : Nat) : List Value → List Char
  | [] => []
  | item :: rest => ',' :: newLine level ++ pretty level item ++ prettyItems level rest

/-- Further members, each after a comma on a line of its own. -/
def prettyMembers (level : Nat) : List (String × Value) → List Char
  | [] => []
  | (key, value) :: rest =>
    ',' :: newLine level ++ quote key ++ ':' :: ' ' :: pretty level value ++ prettyMembers level rest

end

/-- The document on one line. -/
def Value.compactText (v : Value) : String :=
  String.ofList (compact v)

/-- The document in the indented layout. -/
def Value.prettyText (v : Value) : String :=
  String.ofList (pretty 0 v)

end Json
end Scaffold
