namespace Scaffold
namespace Yaml

/-!
# YAML documents

The part of YAML that settings are written in: scalars in all five styles, lists and tables in block
and flow style, anchors and aliases.  Directives and keys marked by `?` are not part of it.
-/

/-- A YAML document.  What a plain scalar means is left to those who ask for a value. -/
inductive Node where
  | scalar (text : String) (plain : Bool)
  | list (items : List Node)
  | table (entries : List (Node × Node))
  /-- A node with a name. -/
  | anchored (name : String) (node : Node)
  /-- The node that was last given a name. -/
  | aliasOf (name : String)
  deriving Inhabited

namespace Node

/-- What stands where nothing is written. -/
def empty : Node :=
  scalar "" true

/-- Whether nothing was written. -/
def isEmpty : Node → Bool
  | scalar text plain => plain && text.isEmpty
  | _ => false

/-- The text of a scalar. -/
def text? : Node → Option String
  | scalar text _ => some text
  | _ => none

/-- The texts of a list of scalars; where nothing is written there are none. -/
def texts? : Node → Option (List String)
  | list items => items.mapM text?
  | node => if node.isEmpty then some [] else none

/-- The entries of a table; where nothing is written there are none. -/
def entries? : Node → Option (List (Node × Node))
  | table entries => some entries
  | node => if node.isEmpty then some [] else none

/-! ## Aliases -/

/-- Nodes by name, the one named last first. -/
abbrev Names := List (String × Node)

/-- What a collection is known as before its end is reached. -/
def outline : Node → Node
  | list _ => list []
  | table _ => table []
  | node => node

mutual

/-- Replaces each alias by the node that it repeats. -/
def resolve (names : Names) : Node → Option (Node × Names)
  | scalar text plain => some (scalar text plain, names)
  | list items => do
    let (items, names) ← resolveItems names items
    return (list items, names)
  | table entries => do
    let (entries, names) ← resolveEntries names entries
    return (table entries, names)
  | anchored name node => do
    let (node, names) ← resolve ((name, node.outline) :: names) node
    return (node, (name, node) :: names)
  | aliasOf name => (names.lookup name).map (fun node => (node, names))

/-- Replaces the aliases in the items of a list. -/
def resolveItems (names : Names) : List Node → Option (List Node × Names)
  | [] => some ([], names)
  | item :: rest => do
    let (item, names) ← resolve names item
    let (rest, names) ← resolveItems names rest
    return (item :: rest, names)

/-- Replaces the aliases in the entries of a table. -/
def resolveEntries (names : Names) : List (Node × Node) → Option (List (Node × Node) × Names)
  | [] => some ([], names)
  | (key, value) :: rest => do
    let (key, names) ← resolve names key
    let (value, names) ← resolve names value
    let (rest, names) ← resolveEntries names rest
    return ((key, value) :: rest, names)

end

end Node
end Yaml
end Scaffold
