import Scaffold.Json.Value

namespace Scaffold
namespace Template

/-!
# Expressions of templates

An expression is a value passed through filters, a comparison of two of these, or a combination with
`not`, `and` and `or`, where `and` binds tighter than `or`.

The reader is a recursive descent over the characters of a tag.  Like every reader of this folder it
gives what it found and the text behind it, and nothing when the text does not begin with what is
looked for.
-/

/-- A dotted path to a variable, such as `names.model`. -/
abbrev Path := List String

namespace Path

/-- The path as it is written. -/
def text (path : Path) : String :=
  ".".intercalate path

end Path

/-- What a pipeline starts from. -/
inductive Term where
  | path (path : Path)
  | string (s : String)
  | integer (n : Int)
  | bool (b : Bool)

/-- A term and the names of the filters that it passes, the first one first. -/
structure Pipeline where
  term : Term
  filters : List String

inductive Expr where
  | pipeline (pipeline : Pipeline)
  | equal (left right : Pipeline)
  | differ (left right : Pipeline)
  | negate (e : Expr)
  | both (left right : Expr)
  | either (left right : Expr)

/-! ## Words -/

/-- White space between the words of a tag. -/
def isGap (c : Char) : Bool :=
  c == ' ' || c == '\t' || c == '\r' || c == '\n'

/-- The text after any white space. -/
def skipGap (cs : List Char) : List Char :=
  cs.dropWhile isGap

/-- The text after the given word. -/
def dropWord? (word : String) (cs : List Char) : Option (List Char) :=
  if word.toList.isPrefixOf cs then some (cs.drop word.length) else none

/-- The text after the given word and one character of white space. -/
def dropOperator? (word : String) (cs : List Char) : Option (List Char) :=
  match dropWord? word cs with
  | some (c :: rest) => if isGap c then some rest else none
  | _ => none

def isNameStart (c : Char) : Bool :=
  c.isAlpha || c == '_'

def isNameChar (c : Char) : Bool :=
  c.isAlphanum || c == '_'

/-- Reads a name. -/
def readName : List Char → Option (String × List Char)
  | [] => none
  | c :: rest =>
    if isNameStart c then
      some (String.ofList (c :: rest.takeWhile isNameChar), rest.dropWhile isNameChar)
    else none

/-- Reads the further segments of a path, in at most `fuel` steps. -/
def readSegments : Nat → List Char → Path × List Char
  | 0, cs => ([], cs)
  | fuel + 1, '.' :: rest =>
    match rest.takeWhile isNameChar with
    | [] => ([], '.' :: rest)
    | segment =>
      let (others, rest) := readSegments fuel (rest.dropWhile isNameChar)
      (String.ofList segment :: others, rest)
  | _ + 1, cs => ([], cs)

/-- Reads a dotted path. -/
def readPath (cs : List Char) : Option (Path × List Char) := do
  let (name, rest) ← readName cs
  let (segments, rest) := readSegments rest.length rest
  return (name :: segments, rest)

/-- Reads a string between two of the given quotes; nothing is escaped in it. -/
def readQuoted (quote : Char) (cs : List Char) : Option (String × List Char) :=
  match cs.dropWhile (· != quote) with
  | [] => none
  | _ :: rest => some (String.ofList (cs.takeWhile (· != quote)), rest)

/-- Reads a number without fraction, without zeros in front. -/
def readInteger (cs : List Char) : Option (Int × List Char) :=
  let (negative, rest) :=
    match cs with
    | '-' :: rest => (true, rest)
    | _ => (false, cs)
  match rest with
  | '0' :: rest => some (0, rest)
  | _ =>
    match rest.takeWhile Char.isDigit with
    | [] => none
    | ds =>
      let n : Int := ds.foldl (fun n d => n * 10 + (d.toNat - '0'.toNat)) 0
      some (if negative then -n else n, rest.dropWhile Char.isDigit)

/-- The words for the truth values; a longer name that begins with one of them is no path. -/
def truthWords : List (String × Bool) :=
  [("true", true), ("false", false), ("True", true), ("False", false)]

/-- Reads the term of a pipeline. -/
def readTerm (cs : List Char) : Option (Term × List Char) :=
  match cs with
  | '"' :: rest => (readQuoted '"' rest).map (fun (s, rest) => (.string s, rest))
  | '\x27' :: rest => (readQuoted '\x27' rest).map (fun (s, rest) => (.string s, rest))
  | '\x60' :: rest => (readQuoted '\x60' rest).map (fun (s, rest) => (.string s, rest))
  | _ =>
    match truthWords.findSome? (fun entry => (dropWord? entry.1 cs).map (fun rest => (entry.2, rest))) with
    | some (b, rest) => some (.bool b, rest)
    | none =>
      match readPath cs with
      | some (path, rest) => some (.path path, rest)
      | none => (readInteger cs).map (fun (n, rest) => (.integer n, rest))

/-! ## Pipelines and conditions -/

/-- The text after an empty argument list, or the text itself when it begins with none. -/
def dropArguments (cs : List Char) : List Char :=
  match skipGap cs with
  | '(' :: rest =>
    match skipGap rest with
    | ')' :: rest => rest
    | _ => cs
  | _ => cs

/-- Reads filters, each after a bar, in at most `fuel` steps. -/
def readFilters : Nat → List Char → List String × List Char
  | 0, cs => ([], cs)
  | fuel + 1, cs =>
    match skipGap cs with
    | '|' :: rest =>
      match readName (skipGap rest) with
      | some (name, rest) =>
        let (others, rest) := readFilters fuel (dropArguments rest)
        (name :: others, rest)
      | none => ([], cs)
    | _ => ([], cs)

/-- Reads a term and its filters. -/
def readPipeline (cs : List Char) : Option (Pipeline × List Char) := do
  let (term, rest) ← readTerm (skipGap cs)
  let (filters, rest) := readFilters rest.length rest
  return ({ term, filters }, rest)

/-- Reads a pipeline or a comparison of two. -/
def readComparison (cs : List Char) : Option (Expr × List Char) := do
  let (left, rest) ← readPipeline cs
  match skipGap rest with
  | '=' :: '=' :: more =>
    let (right, rest) ← readPipeline more
    return (.equal left right, rest)
  | '!' :: '=' :: more =>
    let (right, rest) ← readPipeline more
    return (.differ left right, rest)
  | _ => return (.pipeline left, rest)

/-- The alternatives of a list of conditions, each with the operator before it: an `or` (`true`)
begins a new alternative, an `and` (`false`) adds to the one it follows. -/
def combine (first : Expr) : List (Bool × Expr) → Expr
  | [] => first
  | (true, next) :: rest => .either first (combine next rest)
  | (false, next) :: rest => combine (.both first next) rest

mutual

/-- Reads one operand of `and` and `or`. -/
def readOperand : Nat → List Char → Option (Expr × List Char)
  | 0, _ => none
  | fuel + 1, cs =>
    let cs := skipGap cs
    match dropOperator? "not" cs with
    | some rest => (readComparison rest).map (fun (e, rest) => (.negate e, rest))
    | none =>
      match cs with
      | '(' :: rest => do
        let (e, rest) ← readExpr fuel rest
        match skipGap rest with
        | ')' :: rest => return (e, rest)
        | _ => none
      | _ => readComparison cs

/-- Reads further operands, each with the operator before it: `true` for `or`, `false` for `and`. -/
def readOperands : Nat → List Char → List (Bool × Expr) × List Char
  | 0, cs => ([], cs)
  | fuel + 1, cs =>
    let next := skipGap cs
    match (dropOperator? "or" next).map (true, ·) |>.or ((dropOperator? "and" next).map (false, ·)) with
    | none => ([], cs)
    | some (isOr, rest) =>
      match readOperand fuel rest with
      | none => ([], cs)
      | some (e, rest) =>
        let (others, rest) := readOperands fuel rest
        ((isOr, e) :: others, rest)

/-- Reads an expression. -/
def readExpr : Nat → List Char → Option (Expr × List Char)
  | 0, _ => none
  | fuel + 1, cs => do
    let (first, rest) ← readOperand fuel cs
    let (others, rest) := readOperands fuel rest
    return (combine first others, rest)

end

end Template
end Scaffold
