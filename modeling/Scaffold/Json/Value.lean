namespace Scaffold
namespace Json

/-!
# JSON documents
-/

/-- A JSON document.  The members of an object keep their order. -/
inductive Value where
  | null
  | bool (b : Bool)
  | integer (n : Int)
  | float (x : Float)
  | string (s : String)
  | array (items : List Value)
  | object (members : List (String × Value))
  deriving Inhabited

namespace Value

/-- The value of the member `key` of an object. -/
def get? (key : String) : Value → Option Value
  | object members => members.lookup key
  | _ => none

/-- A list of strings. -/
def strings (texts : List String) : Value :=
  array (texts.map string)

/-- A string, or null when there is none. -/
def optional : Option String → Value
  | some s => string s
  | none => null

/-- The string that the value is, if it is one. -/
def string? : Value → Option String
  | string s => some s
  | _ => none

/-- The items of an array; anything else has none. -/
def items : Value → List Value
  | array items => items
  | _ => []

/-- The members of an object; anything else has none. -/
def members : Value → List (String × Value)
  | object members => members
  | _ => []

end Value

/-- How a text fails to be a JSON document: it holds a character that cannot stand there, or it ends
too early. -/
inductive Flaw where
  | malformed
  | truncated
  deriving DecidableEq, Repr, Inhabited

/-- What could be read of a text.  Where the text has a flaw, the flaw stands in the place where it
was met, so that a decoder comes upon it after everything that is written before it. -/
inductive Reading where
  | null
  | bool (b : Bool)
  | integer (n : Int)
  | float (x : Float)
  | string (s : String)
  /-- A well-formed literal that stands for no value: a number out of range, a string with half a
  surrogate pair. -/
  | unreadable
  /-- The items, and the flaw met where `,` or the closing bracket was due. -/
  | array (items : List Reading) (flaw : Option Flaw)
  /-- The members, and the flaw met where a key or the closing bracket was due. -/
  | object (members : List (String × Reading)) (flaw : Option Flaw)
  | broken (flaw : Flaw)
  deriving Inhabited

namespace Reading

mutual

/-- A document as it is read from a text without flaws. -/
def ofValue : Value → Reading
  | .null => null
  | .bool b => bool b
  | .integer n => integer n
  | .float x => float x
  | .string s => string s
  | .array items => array (ofItems items) none
  | .object members => object (ofMembers members) none

/-- `ofValue` on each item. -/
def ofItems : List Value → List Reading
  | [] => []
  | item :: rest => ofValue item :: ofItems rest

/-- `ofValue` on the value of each member. -/
def ofMembers : List (String × Value) → List (String × Reading)
  | [] => []
  | (key, value) :: rest => (key, ofValue value) :: ofMembers rest

end

mutual

/-- The first flaw met on the way through a reading whose values are not looked at. -/
def flaw? : Reading → Option Flaw
  | broken flaw => some flaw
  | array items flaw => (itemsFlaw? items).or flaw
  | object members flaw => (membersFlaw? members).or flaw
  | _ => none

/-- The first flaw in a list of items. -/
def itemsFlaw? : List Reading → Option Flaw
  | [] => none
  | item :: rest => (flaw? item).or (itemsFlaw? rest)

/-- The first flaw in a list of members. -/
def membersFlaw? : List (String × Reading) → Option Flaw
  | [] => none
  | (_, value) :: rest => (flaw? value).or (membersFlaw? rest)

end

mutual

/-- The document that was read, or the first thing that keeps it from being one. -/
def value? : Reading → Except Flaw Value
  | null => .ok .null
  | bool b => .ok (.bool b)
  | integer n => .ok (.integer n)
  | float x => .ok (.float x)
  | string s => .ok (.string s)
  | unreadable => .error .malformed
  | broken flaw => .error flaw
  | array items flaw => do
    let values ← itemValues? items
    match flaw with
    | some flaw => .error flaw
    | none => .ok (.array values)
  | object members flaw => do
    let values ← memberValues? members
    match flaw with
    | some flaw => .error flaw
    | none => .ok (.object values)

/-- `value?` on each item. -/
def itemValues? : List Reading → Except Flaw (List Value)
  | [] => .ok []
  | item :: rest => do
    let value ← value? item
    let values ← itemValues? rest
    return value :: values

/-- `value?` on the value of each member. -/
def memberValues? : List (String × Reading) → Except Flaw (List (String × Value))
  | [] => .ok []
  | (key, item) :: rest => do
    let value ← value? item
    let values ← memberValues? rest
    return (key, value) :: values

end

end Reading

end Json
end Scaffold
