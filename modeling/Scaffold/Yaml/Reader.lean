import Scaffold.Yaml.Label
import Scaffold.Yaml.Scalar

namespace Scaffold
namespace Yaml

/-!
# Reading YAML

Lists and tables in flow and in block style, and whole documents.  A text holds one document.
-/

/-! ## Flow style -/

mutual

/-- Reads a node of flow style. -/
def flowNode (least : Nat) : Nat → Cursor → Option (Node × Cursor)
  | 0, _ => none
  | fuel + 1, cursor =>
    match cursor.rest with
    | '[' :: _ => (flowItems least fuel (cursor.along 1)).map (fun (items, next) => (.list items, next))
    | '\x7b' :: _ => (flowEntries least fuel (cursor.along 1)).map (fun (entries, next) => (.table entries, next))
    | _ =>
      if cursor.atAlias then readAlias cursor
      else if cursor.atLabel then do
        let (anchor?, next) ← cursor.readLabels true
        let next := next.skip true
        guard (!next.atMark && !next.atAlias && !next.atLabel)
        if next.rest.head?.any (fun c => c == ':' || c == ',' || c == ']' || c == '\x7d') then
          return (.labelled anchor? .empty, next)
        let (node, next) ← flowNode least fuel next
        return (.labelled anchor? node, next)
      else readScalar true least cursor

/-- Reads the value behind a colon, which may be left out. -/
def flowValue (least : Nat) : Nat → Cursor → Option (Node × Cursor)
  | 0, _ => none
  | fuel + 1, colon =>
    let cursor := (colon.along 1).skip true
    if cursor.atMark then none
    else if cursor.rest.head?.any (fun c => c == ',' || c == ']' || c == '\x7d') then some (.empty, cursor)
    else flowNode least fuel cursor

/-- Reads the items of a list up to its closing bracket.  An item `key: value` is a table with one
entry. -/
def flowItems (least : Nat) : Nat → Cursor → Option (List Node × Cursor)
  | 0, _ => none
  | fuel + 1, cursor => do
    let start := cursor.skip true
    guard (!start.atMark)
    if start.rest.head? == some ']' then
      return ([], start.along 1)
    let (first, next) ← flowNode least fuel start
    let (item, next) ←
      match next.colonAfter? start true with
      | some colon => (flowValue least fuel colon).map (fun (value, next) => (Node.table [(first, value)], next))
      | none => some (first, next)
    let next := next.skip true
    match next.rest with
    | ',' :: _ =>
      let (items, next) ← flowItems least fuel (next.along 1)
      return (item :: items, next)
    | ']' :: _ => return ([item], next.along 1)
    | _ => none

/-- Reads the entries of a table up to its closing brace. -/
def flowEntries (least : Nat) : Nat → Cursor → Option (List (Node × Node) × Cursor)
  | 0, _ => none
  | fuel + 1, cursor => do
    let start := cursor.skip true
    guard (!start.atMark)
    if start.rest.head? == some '\x7d' then
      return ([], start.along 1)
    let (key, next) ← flowNode least fuel start
    let (value, next) ←
      match next.colonAfter? start true with
      | some colon => flowValue least fuel colon
      | none => some (Node.empty, next)
    let next := next.skip true
    match next.rest with
    | ',' :: _ =>
      let (entries, next) ← flowEntries least fuel (next.along 1)
      return ((key, value) :: entries, next)
    | '\x7d' :: _ => return ([(key, value)], next.along 1)
    | _ => none

end

/-! ## Block style -/

/-- Reads a scalar, an alias or a collection of flow style. -/
def inlineNode (least : Nat) (cursor : Cursor) : Option (Node × Cursor) :=
  match cursor.rest with
  | '[' :: _ => flowNode least (2 * cursor.rest.length + 2) cursor
  | '\x7b' :: _ => flowNode least (2 * cursor.rest.length + 2) cursor
  | '*' :: _ => readAlias cursor
  | _ => readScalar false least cursor

/-- Reads a key and finds the colon behind it; in front of a colon the key may be left out. -/
def readKey (column : Nat) (cursor : Cursor) : Option (Node × Cursor) := do
  let labelled := cursor.atLabel
  let (anchor?, start) ← if labelled then cursor.readLabels false else some (none, cursor)
  let start := if labelled then start.skip false else start
  guard (start.line == cursor.line && !(labelled && start.atAlias))
  if start.atSign ':' then
    return (.labelled anchor? .empty, start)
  let (key, next) ← inlineNode (column + 1) start
  let colon ← next.colonAfter? cursor false
  return (.labelled anchor? key, colon)

mutual

/-- Reads a node whose text is indented by at least `least` columns; a list that is the value of an
entry may also begin in the column of its key. -/
def blockNode (inTable : Bool) (least : Nat) : Nat → Cursor → Option (Node × Cursor)
  | 0, _ => none
  | fuel + 1, cursor =>
    let cursor := cursor.skip false
    if cursor.atEnd then some (.empty, cursor)
    else if cursor.fresh && cursor.atSign '-' &&
      (least ≤ cursor.column || (inTable && cursor.column + 1 == least)) then
      (blockItems cursor.column (cursor.column < least) fuel cursor).map
        (fun (items, next) => (.list items, next))
    else if cursor.column < least then some (.empty, cursor)
    else if cursor.rest.head?.any (fun c => c == '|' || c == '>') then readBlock least cursor
    else if cursor.fresh && (readKey cursor.column cursor).isSome then
      (blockEntries cursor.column fuel cursor).map (fun (entries, next) => (.table entries, next))
    else if cursor.atLabel then do
      let (anchor?, next) ← cursor.readLabels false
      let start := next.skip false
      guard (!(start.atAlias || start.atLabel) || (start.fresh && (readKey start.column start).isSome))
      let (node, next) ← blockNode inTable least fuel next
      return (.labelled anchor? node, next)
    else inlineNode least cursor

/-- Reads the items of a list in one column; a flush list, which stands in the column of a key, ends
at the next key. -/
def blockItems (column : Nat) (flush : Bool) : Nat → Cursor → Option (List Node × Cursor)
  | 0, _ => none
  | fuel + 1, cursor => do
    let (item, next) ← blockNode false (column + 1) fuel { cursor.along 1 with fresh := true }
    let next := next.skip false
    if next.atEnd || next.column < column then
      return ([item], next)
    guard (next.column == column)
    if next.atSign '-' then
      let (items, next) ← blockItems column flush fuel next
      return (item :: items, next)
    guard flush
    return ([item], next)

/-- Reads the entries of a table in one column. -/
def blockEntries (column : Nat) : Nat → Cursor → Option (List (Node × Node) × Cursor)
  | 0, _ => none
  | fuel + 1, cursor => do
    let (key, colon) ← readKey column cursor
    let (value, next) ← blockNode true (column + 1) fuel (colon.along 1)
    let next := next.skip false
    if next.atEnd || next.column < column then
      return ([(key, value)], next)
    guard (next.column == column)
    let (entries, next) ← blockEntries column fuel next
    return ((key, value) :: entries, next)

end

/-! ## Documents -/

/-- Whether nothing but marks of a document's end follows, of which there are at most `fuel`. -/
def endsDocument : Nat → Cursor → Bool
  | 0, _ => false
  | fuel + 1, cursor =>
    let next := cursor.skip false
    next.rest.isEmpty || (next.isAt "..." && endsDocument fuel (next.along 3))

/-- The document that a text holds; an empty text holds an empty one. -/
def parse? (text : String) : Option Node := do
  guard (text.toList.all isAllowed)
  let chars := unifyBreaks text.toList
  let start := (Cursor.skip { rest := chars } false)
  let start := if start.isAt "---" then start.along 3 else start
  guard (!start.isAt "...")
  let (node, next) ← blockNode false 0 (2 * chars.length + 2) start
  guard (endsDocument (chars.length + 1) next)
  let (node, _) ← node.resolve []
  return node

end Yaml
end Scaffold
