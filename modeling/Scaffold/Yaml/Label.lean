import Scaffold.Yaml.Cursor
import Scaffold.Yaml.Node

namespace Scaffold
namespace Yaml

/-!
# Labels

Before a node may stand an anchor, which gives it a name, and a tag, which says what type it has.
An alias repeats the node with its name.  Tags are passed over, since those who ask for a value know
its type.
-/

/-- A character of an anchor's name. -/
def isNameChar (c : Char) : Bool :=
  c.isAlphanum || c == '_' || c == '-'

/-- Whether the name of an anchor ends here. -/
def endsName : List Char → Bool
  | [] => true
  | c :: _ => isGap c || isBreak c || "?:,]\x7d%@\x60".toList.contains c

/-- A character of a tag. -/
def isTagChar (c : Char) : Bool :=
  isNameChar c || ";/?:@&=+$.!~*'()".toList.contains c

namespace Cursor

/-- Whether an anchor or a tag stands here. -/
def atLabel (cursor : Cursor) : Bool :=
  cursor.rest.head?.any (fun c => c == '&' || c == '!')

/-- Whether an alias stands here. -/
def atAlias (cursor : Cursor) : Bool :=
  cursor.rest.head? == some '*'

/-- Reads a name from behind the sign before it. -/
def readName (cursor : Cursor) : Option (String × Cursor) := do
  let name := (cursor.rest.drop 1).takeWhile isNameChar
  let next := cursor.along (name.length + 1)
  guard (!name.isEmpty && endsName next.rest)
  return (String.ofList name, next)

/-- Passes over a tag: one between angle brackets, one of the tags that begin with two exclamation
marks, or a local one. -/
def skipTag (cursor : Cursor) (inFlow : Bool) : Option Cursor := do
  let rest := cursor.rest.drop 1
  let length ←
    match rest with
    | '<' :: more => do
      let address := more.takeWhile (fun c => isTagChar c || ",[]".toList.contains c)
      guard (!address.isEmpty && (more.drop address.length).head? == some '>')
      pure (address.length + 3)
    | _ => do
      let word := rest.takeWhile isTagChar
      match word.dropWhile isNameChar with
      | '!' :: suffix => guard (word.head? == some '!' && !suffix.isEmpty)
      | _ => pure ()
      pure (word.length + 1)
  let next := cursor.along length
  guard (endsWord next.rest || (inFlow && next.rest.head? == some ','))
  return next

/-- Reads the labels before a node: an anchor and a tag in either order, of which one may be
missing. -/
def readLabels (cursor : Cursor) (inFlow : Bool) : Option (Option String × Cursor) := do
  if cursor.rest.head? == some '&' then
    let (name, next) ← cursor.readName
    let behind := next.skip inFlow
    if behind.line == cursor.line && behind.rest.head? == some '!' then
      return (some name, ← behind.skipTag inFlow)
    return (some name, next)
  else
    let next ← cursor.skipTag inFlow
    let behind := next.skip inFlow
    if behind.line == cursor.line && behind.rest.head? == some '&' then
      let (name, next) ← behind.readName
      return (some name, next)
    return (none, next)

end Cursor

/-- The node with the anchor that stands before it. -/
def Node.labelled (anchor? : Option String) (node : Node) : Node :=
  match anchor? with
  | some name => .anchored name node
  | none => node

/-- Reads an alias. -/
def readAlias (cursor : Cursor) : Option (Node × Cursor) :=
  cursor.readName.map (fun (name, next) => (.aliasOf name, next))

end Yaml
end Scaffold
