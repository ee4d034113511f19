import Scaffold.Fault
import Scaffold.Naming.Case
import Scaffold.Naming.Plural
import Scaffold.Template.Tree

namespace Scaffold
namespace Template

/-!
# Rendering

A template is rendered with the members of a JSON object as its variables.  The value of a variable
is looked up in the loops around it, innermost first, and then in the object.  A variable that is
not found is an error where its value is wanted, and counts as false where only its truth is.
-/

/-- Why a template cannot be rendered: a variable that is not found, or any other fault. -/
inductive Failure where
  | missing (path : Path)
  | other

/-! ## Values -/

/-- The value as a double, if it is a number. -/
def number? : Json.Value → Option Float
  | .integer n => some (Float.ofInt n)
  | .float x => some x
  | _ => none

/-- Whether the value counts as true. -/
def isTruthy : Json.Value → Bool
  | .null => false
  | .bool b => b
  | .integer n => n != 0
  | .float x => x != 0 && x == x
  | .string s => !s.isEmpty
  | .array items => !items.isEmpty
  | .object members => !members.isEmpty

mutual

/-- The text that a value is rendered as. -/
def valueText : Json.Value → List Char
  | .null => []
  | .bool b => (if b then "true" else "false").toList
  | .integer n => Json.integerText n
  | .float x => Decimal.plain x
  | .string s => s.toList
  | .array [] => ['[', ']']
  | .array (item :: rest) => '[' :: valueText item ++ itemsText rest ++ [']']
  | .object _ => "[object]".toList

/-- The text of further items of an array. -/
def itemsText : List Json.Value → List Char
  | [] => []
  | item :: rest => ',' :: ' ' :: valueText item ++ itemsText rest

end

mutual

/-- Whether two values are the same. -/
def sameValue : Json.Value → Json.Value → Bool
  | .null, .null => true
  | .bool a, .bool b => a == b
  | .integer a, .integer b => a == b
  | .float a, .float b => a == b
  | .string a, .string b => a == b
  | .array a, .array b => sameItems a b
  | .object a, .object b => sameMembers a b
  | _, _ => false

/-- Whether two lists of items are the same. -/
def sameItems : List Json.Value → List Json.Value → Bool
  | [], [] => true
  | a :: as, b :: bs => sameValue a b && sameItems as bs
  | _, _ => false

/-- Whether two lists of members are the same. -/
def sameMembers : List (String × Json.Value) → List (String × Json.Value) → Bool
  | [], [] => true
  | (key, a) :: as, (other, b) :: bs => key == other && sameValue a b && sameMembers as bs
  | _, _ => false

end

/-- Compares two values; a number is neither equal to nor different from what is no number. -/
def compare (wanted : Bool) (a b : Json.Value) : Bool :=
  match number? a, number? b with
  | some x, some y => (x == y) == wanted
  | none, none => sameValue a b == wanted
  | _, _ => false

/-- The part of a value that further segments of a path lead to. -/
def descend : Json.Value → Path → Option Json.Value
  | value, [] => some value
  | .object members, segment :: rest =>
    match members.lookup segment with
    | some value => descend value rest
    | none => none
  | .array items, segment :: rest =>
    if segment.toList.all Char.isDigit && (segment == "0" || segment.toList.head? != some '0') then
      match segment.toNat? with
      | some index =>
        match items[index]? with
        | some value => descend value rest
        | none => none
      | none => none
    else none
  | _, _ :: _ => none

/-! ## Variables -/

/-- The state of a loop while its body is rendered. -/
structure LoopState where
  /-- The name and the text of the key, in a loop over an object. -/
  key? : Option (String × String)
  name : String
  value : Json.Value
  index : Nat
  last : Bool

/-- What a loop knows of a path: its key, its counters or a part of its item. -/
def LoopState.find? (state : LoopState) (path : Path) : Option Json.Value :=
  match path with
  | [] => none
  | first :: rest =>
    if rest.isEmpty && (state.key?.any (fun key => key.1 == first)) then
      state.key?.map (fun key => .string key.2)
    else if first == "loop" then
      match rest with
      | ["index"] => some (.integer (state.index + 1))
      | ["index0"] => some (.integer state.index)
      | ["first"] => some (.bool (state.index == 0))
      | ["last"] => some (.bool state.last)
      | _ => none
    else if first == state.name then descend state.value rest
    else none

/-- The value of a variable. -/
def lookup (loops : List LoopState) (data : Json.Value) (path : Path) : Option Json.Value :=
  match loops.findSome? (fun state => state.find? path) with
  | some value => some value
  | none => descend data path

/-! ## Expressions -/

/-- The filters, each of which respells a text. -/
def filters : List (String × (String → String)) := [
  ("snake_case", Naming.snakeCase), ("camel_case", Naming.camelCase), ("pascal_case", Naming.pascalCase),
  ("kebab_case", Naming.kebabCase), ("plural", Naming.plural)]

/-- Passes a value through a filter. -/
def applyFilter (value : Json.Value) (name : String) : Except Failure Json.Value :=
  match filters.lookup name, value with
  | some respell, .string s => .ok (.string (respell s))
  | _, _ => .error .other

/-- The value of a term. -/
def evalTerm (loops : List LoopState) (data : Json.Value) : Term → Except Failure Json.Value
  | .path path =>
    match lookup loops data path with
    | some value => .ok value
    | none => .error (.missing path)
  | .string s => .ok (.string s)
  | .integer n => .ok (.integer n)
  | .bool b => .ok (.bool b)

/-- The value of a pipeline. -/
def evalPipeline (loops : List LoopState) (data : Json.Value) (p : Pipeline) : Except Failure Json.Value := do
  let value ← evalTerm loops data p.term
  p.filters.foldlM applyFilter value

/-- Whether a pipeline counts as true.  Filters behind a literal are not asked, and a path without a
value, or with a value that a filter refuses, counts as false. -/
def pipelineHolds (loops : List LoopState) (data : Json.Value) (p : Pipeline) : Bool :=
  match p.term, evalTerm loops data p.term, evalPipeline loops data p with
  | .path _, _, .ok value => isTruthy value
  | .path _, _, .error _ => false
  | _, .ok value, _ => isTruthy value
  | _, .error _, _ => false

/-- Whether the negation of a pipeline counts as true.  It does for a path without a value, and does
not for a value that a filter refuses. -/
def pipelineFails (loops : List LoopState) (data : Json.Value) (p : Pipeline) : Bool :=
  match p.term, evalTerm loops data p.term, evalPipeline loops data p with
  | .path _, .error _, _ => true
  | .path _, .ok _, .ok value => !isTruthy value
  | .path _, .ok _, .error _ => false
  | _, _, _ => !pipelineHolds loops data p

/-- Whether an expression counts as true. -/
def holds (loops : List LoopState) (data : Json.Value) : Expr → Except Failure Bool
  | .pipeline p => .ok (pipelineHolds loops data p)
  | .negate (.pipeline p) => .ok (pipelineFails loops data p)
  | .equal left right => do
    return compare true (← evalPipeline loops data left) (← evalPipeline loops data right)
  | .differ left right => do
    return compare false (← evalPipeline loops data left) (← evalPipeline loops data right)
  | .negate e => do
    let b ← holds loops data e
    return !b
  | .both left right => do
    if ← holds loops data left then holds loops data right else return false
  | .either left right => do
    if ← holds loops data left then return true else holds loops data right

/-- The value that an expression is printed as. -/
def evalExpr (loops : List LoopState) (data : Json.Value) : Expr → Except Failure Json.Value
  | .pipeline p => evalPipeline loops data p
  | .negate (.pipeline p) =>
    match p.term, evalTerm loops data p.term with
    | .path _, .error _ => .ok (.bool true)
    | _, _ => do
      let value ← evalPipeline loops data p
      return .bool (!isTruthy value)
  | e => (holds loops data e).map .bool

/-! ## Nodes -/

/-- The items that a loop runs over, each with its key in a loop over an object, which goes by the
keys in order. -/
def loopItems (binding : Binding) : Json.Value → Except Failure (List (Option (String × String) × Json.Value))
  | .array items =>
    if binding.key?.isSome then .error .other else .ok (items.map (fun item => (none, item)))
  | .string s =>
    if binding.key?.isSome then .error .other
    else .ok (s.toList.map (fun c => (none, .string (String.singleton c))))
  | .object members =>
    match binding.key? with
    | none => .error .other
    | some key =>
      let sorted := members.mergeSort (fun a b => decide (a.1 ≤ b.1))
      .ok (sorted.map (fun member => (some (key, member.1), member.2)))
  | _ => .error .other

/-- The states of a loop over the given items, from the one with the given index on. -/
def loopStates (name : String) (index : Nat) : List (Option (String × String) × Json.Value) → List LoopState
  | [] => []
  | (key?, value) :: rest =>
    { key?, name, value, index, last := rest.isEmpty } :: loopStates name (index + 1) rest

/-- Joins the texts that `render` gives for each state of a loop. -/
def renderEach (render : LoopState → Except Failure (List Char)) : List LoopState → Except Failure (List Char)
  | [] => .ok []
  | state :: rest => do
    let text ← render state
    let others ← renderEach render rest
    return text ++ others

mutual

/-- The text of one node. -/
def renderNode (loops : List LoopState) (data : Json.Value) : Node → Except Failure (List Char)
  | .text cs => .ok cs
  | .print e => do
    let value ← evalExpr loops data e
    return valueText value
  | .choose branches otherwise => do
    match ← renderBranches loops data branches with
    | some text => return text
    | none => renderNodes loops data otherwise
  | .each binding body otherwise => do
    match binding.source.term with
    | .path _ =>
      let items ← loopItems binding (← evalPipeline loops data binding.source)
      if items.isEmpty then renderNodes loops data otherwise
      else renderEach (fun state => renderNodes (state :: loops) data body) (loopStates binding.name 0 items)
    | _ => .error .other

/-- The text of the first branch whose condition holds, if there is one. -/
def renderBranches (loops : List LoopState) (data : Json.Value) :
    List (Expr × List Node) → Except Failure (Option (List Char))
  | [] => .ok none
  | (condition, body) :: rest => do
    if ← holds loops data condition then
      let text ← renderNodes loops data body
      return some text
    else renderBranches loops data rest

/-- The text of a list of nodes. -/
def renderNodes (loops : List LoopState) (data : Json.Value) : List Node → Except Failure (List Char)
  | [] => .ok []
  | node :: rest => do
    let text ← renderNode loops data node
    let others ← renderNodes loops data rest
    return text ++ others

end

/-- What is said of a failure while the template `name` is rendered. -/
def Failure.message (name : String) : Failure → String
  | missing path =>
    "Failed to render '" ++ name ++ "': Variable \x60" ++ path.text ++ "\x60 not found in context while rendering '"
      ++ name ++ "'"
  | other => "Failed to render '" ++ name ++ "'"

/-- Reads the template that is known as `name`, or else gives what is said of it. -/
def readAs (name source : String) : Except String Template :=
  match parse? source with
  | some template => .ok template
  | none => .error ("Failed to parse '" ++ name ++ "'")

/-- The text of the template that is known as `name`, or else what is said of it.  Its variables are
the members of an object. -/
def print (template : Template) (name : String) (data : Json.Value) : Except String String :=
  match data with
  | .object _ =>
    match renderNodes [] data template.nodes with
    | .ok cs => .ok (String.ofList cs)
    | .error failure => .error (failure.message name)
  | _ => .error "Creating a Context from a Value/Serialize requires it being a JSON object"

/-- Reads the template that is known as `name`. -/
def parseAs (name source : String) : Except Fault Template :=
  (readAs name source).mapError (.render name)

/-- Renders the template that is known as `name`. -/
def render (template : Template) (name : String) (data : Json.Value) : Except Fault String :=
  (template.print name data).mapError (.render name)

end Template
end Scaffold
