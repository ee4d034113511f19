import Scaffold.Pattern.Reader
import Scaffold.Pattern.Search
import Scaffold.Text.Search
import Scaffold.Writer

namespace Scaffold

/-!
# A line editor

The stream editor of the system, as far as it edits a file in place by one instruction.  An
instruction begins with the lines that it applies to: none given means all of them, `3` the third,
`$` the last, `2,4` the second to the fourth, and `/old/` those in which a pattern matches.  Then
`d` deletes the line, `i text` and `a text` put a line before and behind it, and `s/old/new/`
replaces the first match in it, or all of them when a `g` follows.

The patterns are basic ones: a star repeats, a dot and brackets match one of several characters, and
the other operators mean themselves unless a backslash stands before them.
-/

namespace LineEditor

/-- A character of a script, and whether a backslash stands before it. -/
abbrev Mark := Char × Bool

/-- A replacement: characters, and the places at which the replaced text is put in. -/
abbrev Replacement := List (Option Char)

/-- The lines that an instruction applies to. -/
inductive Address where
  | every
  | line (number : Nat)
  | last
  | lines (first final : Nat)
  | matching (pattern : Pattern)

inductive Action where
  | delete
  | insert (text : List Char)
  | append (text : List Char)
  | substitute (old : Pattern) (new : Replacement) (everywhere : Bool)

structure Instruction where
  address : Address
  action : Action

/-! ## Reading scripts -/

/-- The characters of a script, each taken together with the backslash before it. -/
def marks : List Char → List Mark
  | [] => []
  | '\\' :: c :: rest => (c, true) :: marks rest
  | c :: rest => (c, false) :: marks rest

/-- The part of a script up to a delimiter, and the rest behind it. -/
def readPart (delimiter : Char) : List Mark → Option (List Mark × List Mark)
  | [] => none
  | mark :: rest =>
    if mark == (delimiter, false) then some ([], rest)
    else (readPart delimiter rest).map (fun (part, rest) => (mark :: part, rest))

/-- The operators that only a backslash makes into operators. -/
def quietOperators : List Char :=
  ['+', '?', '(', ')', '|', '\x7b', '\x7d']

/-- A character that may stand between brackets here. -/
def isMember (mark : Mark) : Bool :=
  !mark.2 && (mark.1.isAlphanum || " _-^/.,;:'\"".toList.contains mark.1)

/-- The spelling of one character of a basic pattern as it is in other patterns. -/
def respellMark (delimiter : Char) : Mark → Option (List Char)
  | (c, true) =>
    if c.isAlphanum then (if "nstw".toList.contains c then some ['\\', c] else none)
    else some (if c != delimiter && quietOperators.contains c then [c] else Pattern.escapeChar c)
  | (c, false) => some (if c == '.' || c == '*' then [c] else Pattern.escapeChar c)

/-- The spelling of a basic pattern from behind its first character on. -/
def respellRest (delimiter : Char) : List Mark → Option (List Char)
  | [] => some []
  | [('$', false)] => some ['$']
  | ('[', false) :: rest =>
    let members := rest.takeWhile isMember
    match h : rest.dropWhile isMember with
    | (']', false) :: more =>
      have : more.length < rest.length := by
        have := (List.dropWhile_suffix isMember (l := rest)).length_le
        simp only [h, List.length_cons] at this
        omega
      if members.isEmpty then none
      else (respellRest delimiter more).map (fun spelling =>
        '[' :: members.map (fun mark => mark.1) ++ ']' :: spelling)
    | _ => none
  | mark :: rest => do
    let first ← respellMark delimiter mark
    let others ← respellRest delimiter rest
    return first ++ others
termination_by marks => marks.length

/-- The spelling of a basic pattern.  At its start a star means itself, and a caret the start of the
line. -/
def respell (delimiter : Char) (part : List Mark) : Option (List Char) :=
  match part with
  | ('^', false) :: ('*', false) :: rest => (respellRest delimiter rest).map (['^', '\\', '*'] ++ ·)
  | ('^', false) :: rest => (respellRest delimiter rest).map ('^' :: ·)
  | ('*', false) :: rest => (respellRest delimiter rest).map (['\\', '*'] ++ ·)
  | part => respellRest delimiter part

/-- The pattern that a part of a script spells; an empty one is not accepted. -/
def readPattern (delimiter : Char) (part : List Mark) : Option Pattern :=
  if part.isEmpty then none
  else (respell delimiter part).bind (fun spelling => Pattern.parse? (String.ofList spelling))

/-- What a mark of a replacement stands for. -/
def replacement? : Mark → Option (Option Char)
  | ('&', false) => some none
  | ('n', true) => some (some '\n')
  | ('t', true) => some (some '\t')
  | (c, true) => if c.isAlphanum then none else some (some c)
  | (c, false) => some (some c)

/-- Reads a number. -/
def readNumber (script : List Mark) : Option (Nat × List Mark) :=
  let isDigit (mark : Mark) : Bool := mark.1.isDigit && !mark.2
  match script.takeWhile isDigit with
  | [] => none
  | digits => some (digits.foldl (fun n d => n * 10 + (d.1.toNat - '0'.toNat)) 0, script.dropWhile isDigit)

/-- Reads the lines that an instruction applies to. -/
def readAddress (script : List Mark) : Option (Address × List Mark) :=
  match script with
  | ('$', false) :: rest => some (.last, rest)
  | ('/', false) :: rest => do
    let (part, rest) ← readPart '/' rest
    let pattern ← readPattern '/' part
    return (.matching pattern, rest)
  | _ =>
    match readNumber script with
    | none => some (.every, script)
    | some (0, _) => none
    | some (first, (',', false) :: rest) => (readNumber rest).map (fun (final, rest) => (.lines first final, rest))
    | some (number, rest) => some (.line number, rest)

/-- The line that `i` and `a` put in: what follows the blanks, or a backslash. -/
def readLine (script : List Mark) : Option (List Char) :=
  let text := script.dropWhile (fun mark => mark == (' ', false))
  if text.isEmpty then none else some (text.map (fun mark => mark.1))

/-- Reads what an instruction does.  A pattern bound to the start of the line matches once at
most. -/
def readAction (script : List Mark) : Option Action :=
  match script with
  | [('d', false)] => some .delete
  | ('i', false) :: rest => (readLine rest).map .insert
  | ('a', false) :: rest => (readLine rest).map .append
  | ('s', false) :: (delimiter, false) :: rest => do
    let (old, rest) ← readPart delimiter rest
    let (new, flags) ← readPart delimiter rest
    let pattern ← readPattern delimiter old
    let new ← new.mapM replacement?
    match flags with
    | [] => return .substitute pattern new false
    | [('g', false)] => return .substitute pattern new (old.head? != some ('^', false))
    | _ => none
  | _ => none

/-- The instruction that a script consists of. -/
def Instruction.parse? (script : List Char) : Option Instruction := do
  let (address, rest) ← readAddress (marks script)
  let action ← readAction rest
  return { address, action }

/-! ## Editing -/

/-- The text that is put in for a match. -/
def fill (new : Replacement) (matched : List Char) : List Char :=
  new.flatMap (fun piece =>
    match piece with
    | some c => [c]
    | none => matched)

/-- Replaces at most `count` matches.  An empty match counts only where no match has just ended,
which `fresh` says of the start of the text. -/
def replaceMatches (old : Pattern) (new : Replacement) : Nat → Bool → List Char → List Char
  | 0, _, text => text
  | count + 1, fresh, text =>
    match old.find? text with
    | none => text
    | some found =>
      if found.matched.isEmpty then
        let put := if fresh || !found.before.isEmpty then fill new [] else []
        match found.after with
        | [] => found.before ++ put
        | c :: rest =>
          found.before ++ put ++ c :: (if count == 0 then rest else replaceMatches old new count true rest)
      else found.before ++ fill new found.matched ++ replaceMatches old new count false found.after

/-- The lines of a text without the line feeds that end them, and whether one ends the last. -/
def linesOf (text : List Char) : List (List Char) × Bool :=
  let parts := Text.pieces (· == '\n') text
  if parts.getLast? == some [] then (parts.dropLast, true) else (parts, false)

/-- Whether the address means a line: its number, whether it is the last one, and its text. -/
def Address.covers (address : Address) (number : Nat) (isLast : Bool) (text : List Char) : Bool :=
  match address with
  | every => true
  | line wanted => number == wanted
  | last => isLast
  | lines first final => number == first || (first < number && number ≤ final)
  | matching pattern => (pattern.find? text).isSome

/-- What becomes of a line; `ended` says whether a line feed ends it. -/
def Action.run (action : Action) (ended : Bool) (line : List Char) : List Char :=
  let close (text : List Char) : List Char := if ended then text ++ ['\n'] else text
  match action with
  | delete => []
  | insert text => text ++ '\n' :: close line
  | append text => line ++ '\n' :: text ++ ['\n']
  | substitute old new everywhere =>
    close (replaceMatches old new (if everywhere then line.length + 1 else 1) true line)

/-- Carries out an instruction on a list of lines, the first of which has the given number. -/
def Instruction.runFrom (instruction : Instruction) (ended : Bool) (number : Nat) : List (List Char) → List Char
  | [] => []
  | line :: rest =>
    let closed := ended || !rest.isEmpty
    let result :=
      if instruction.address.covers number rest.isEmpty line then instruction.action.run closed line
      else if closed then line ++ ['\n'] else line
    result ++ instruction.runFrom ended (number + 1) rest

/-- Carries out an instruction on a text. -/
def Instruction.run (instruction : Instruction) (text : List Char) : List Char :=
  let (lines, ended) := linesOf text
  instruction.runFrom ended 1 lines

/-- Edits the file at a path; what cannot be done is left undone. -/
def edit (script path : String) (tree : FileTree) : FileTree :=
  match Instruction.parse? script.toList, tree.read path with
  | some instruction, .ok text => (tree.replaceFile path (String.ofList (instruction.run text.toList))).tree
  | _, _ => tree

end LineEditor

/-- The toolbox that holds the line editor and nothing else. -/
def Toolbox.lineEditor : Toolbox := fun command tree =>
  match command with
  | ["sed", "-i", script, path] => LineEditor.edit script path tree
  | ["sed", "-i", "-e", script, path] => LineEditor.edit script path tree
  | _ => tree

end Scaffold
