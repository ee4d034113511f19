import Scaffold.Text.Numeric
import Scaffold.Yaml.Cursor
import Scaffold.Yaml.Node

namespace Scaffold
namespace Yaml

/-!
# Scalars

Plain, quoted and block scalars.  A plain or quoted scalar may go on over several lines, which are
folded into one: a single line end becomes a space, and of several the first is dropped.
-/

/-! ## Folding -/

/-- The white space between two runs of a scalar: the blanks before the first line end, and the line
ends. -/
structure Gap where
  blanks : List Char := []
  breaks : List Char := []
  deriving DecidableEq, Repr, Inhabited

/-- What a gap stands for. -/
def Gap.folded (gap : Gap) : List Char :=
  match gap.breaks with
  | [] => gap.blanks
  | ['\n'] => [' ']
  | '\n' :: more => more
  | breaks => breaks

/-- Reads white space.  A tab among the first `least` columns of a line is refused. -/
def readGap (least : Nat) (gap : Gap) (line column : Nat) : List Char → Option (Gap × Cursor)
  | [] => some (gap, { rest := [], line, column, fresh := !gap.breaks.isEmpty })
  | c :: rest =>
    if isBreak c then readGap least { gap with breaks := gap.breaks ++ [c] } (line + 1) 0 rest
    else if isGap c then
      if gap.breaks.isEmpty then readGap least { gap with blanks := gap.blanks ++ [c] } line (column + 1) rest
      else if c == '\t' && column < least then none
      else readGap least gap line (column + 1) rest
    else some (gap, { rest := c :: rest, line, column, fresh := !gap.breaks.isEmpty })

/-! ## Plain scalars -/

/-- A character that has a meaning of its own in flow style. -/
def isFlowSign (c : Char) : Bool :=
  c == ',' || c == '[' || c == ']' || c == '\x7b' || c == '\x7d'

/-- Whether a plain scalar begins here. -/
def beginsPlain (inFlow : Bool) : List Char → Bool
  | [] => false
  | c :: rest =>
    if c == '-' then !endsWord rest
    else if c == '?' || c == ':' then !inFlow && !endsWord rest
    else !isGap c && !isBreak c && !isFlowSign c && !("#&*!|>'\"%@\x60").toList.contains c

/-- A run of a plain scalar without white space, and the text behind it. -/
def plainRun (inFlow : Bool) : List Char → Option (List Char × List Char)
  | [] => some ([], [])
  | c :: rest =>
    if isGap c || isBreak c || (c == ':' && endsWord rest) then some ([], c :: rest)
    else if inFlow && c == ':' && rest.head?.any (fun d => d == '?' || isFlowSign d) then none
    else if inFlow && isFlowSign c then some ([], c :: rest)
    else (plainRun inFlow rest).map (fun (run, behind) => (c :: run, behind))

/-- Reads the runs of a plain scalar, at most `fuel` of them. -/
def plainFrom (inFlow : Bool) (least : Nat) : Nat → List Char → Gap → Cursor → Option (List Char × Cursor)
  | 0, _, _, _ => none
  | fuel + 1, text, gap, cursor =>
    if cursor.atMark || cursor.rest.head? == some '#' then some (text, cursor)
    else do
      let (run, behind) ← plainRun inFlow cursor.rest
      if run.isEmpty then some (text, cursor)
      else
        let text := text ++ gap.folded ++ run
        let (next, cursor) ← readGap least {} cursor.line (cursor.column + run.length) behind
        if !inFlow && cursor.column < least then some (text, cursor)
        else plainFrom inFlow least fuel text next cursor

/-! ## Quoted scalars -/

/-- The character that a letter after a backslash stands for. -/
def escapes : List (Char × Char) := [
  ('0', '\x00'), ('a', '\x07'), ('b', '\x08'), ('t', '\t'), ('\t', '\t'), ('n', '\n'), ('v', '\x0b'), ('f', '\x0c'),
  ('r', '\r'), ('e', '\x1b'), (' ', ' '), ('"', '"'), ('/', '/'), ('\\', '\\'), ('N', '\x85'), ('_', '\xa0'),
  ('L', '\u2028'), ('P', '\u2029')]

/-- What an escape stands for, and its length behind the backslash. -/
def readEscape : List Char → Option (Char × Nat)
  | [] => none
  | c :: rest =>
    let coded (width : Nat) : Option (Char × Nat) :=
      if rest.length < width then none else (Text.hexChar? (rest.take width)).map (fun d => (d, width + 1))
    if c == 'x' then coded 2
    else if c == 'u' then coded 4
    else if c == 'U' then coded 8
    else (escapes.lookup c).map (fun d => (d, 1))

/-- Reads a quoted scalar up to its closing quote, in at most `fuel` steps. -/
def quotedFrom (quote : Char) : Nat → List Char → Cursor → Option (List Char × Cursor)
  | 0, _, _ => none
  | fuel + 1, text, cursor =>
    if cursor.atMark then none
    else
      match cursor.rest with
      | [] => none
      | c :: rest =>
        if isGap c || isBreak c then do
          let (gap, next) ← readGap 0 {} cursor.line cursor.column cursor.rest
          quotedFrom quote fuel (text ++ gap.folded) next
        else if c == quote then
          if quote == '\'' && rest.head? == some '\'' then quotedFrom quote fuel (text ++ ['\'']) (cursor.along 2)
          else some (text, cursor.along 1)
        else if quote == '"' && c == '\\' then
          if rest.head?.any isBreak then do
            let (gap, next) ← readGap 0 { breaks := ['\n'] } (cursor.line + 1) 0 (rest.drop 1)
            quotedFrom quote fuel (text ++ gap.breaks.drop 1) next
          else do
            let (d, width) ← readEscape rest
            quotedFrom quote fuel (text ++ [d]) (cursor.along (width + 1))
        else quotedFrom quote fuel (text ++ [c]) (cursor.along 1)

/-- Reads a plain or quoted scalar. -/
def readScalar (inFlow : Bool) (least : Nat) (cursor : Cursor) : Option (Node × Cursor) := do
  let fuel := cursor.rest.length + 1
  match cursor.rest with
  | '"' :: _ =>
    let (text, next) ← quotedFrom '"' fuel [] (cursor.along 1)
    return (.scalar (String.ofList text) false, { next with fresh := false })
  | '\'' :: _ =>
    let (text, next) ← quotedFrom '\'' fuel [] (cursor.along 1)
    return (.scalar (String.ofList text) false, { next with fresh := false })
  | _ =>
    guard (beginsPlain inFlow cursor.rest)
    let (text, next) ← plainFrom inFlow least fuel [] {} cursor
    return (.scalar (String.ofList text) true, next)

/-! ## Block scalars -/

/-- What becomes of the line ends at the end of a block scalar. -/
inductive Chomping where
  | strip | clip | keep
  deriving DecidableEq, Repr, Inhabited

/-- The first line of a block scalar. -/
structure BlockHeader where
  folded : Bool
  chomping : Chomping := .clip
  /-- The indentation beyond the surrounding one, where it is given. -/
  indentation : Option Nat := none
  deriving DecidableEq, Repr, Inhabited

/-- Reads the signs of a header, each of which may stand once. -/
def readHeaderSigns (header : BlockHeader) (mayChomp mayIndent : Bool) : List Char → BlockHeader × List Char
  | [] => (header, [])
  | c :: rest =>
    if mayChomp && c == '-' then readHeaderSigns { header with chomping := .strip } false mayIndent rest
    else if mayChomp && c == '+' then readHeaderSigns { header with chomping := .keep } false mayIndent rest
    else if mayIndent && '1' ≤ c && c ≤ '9' then
      readHeaderSigns { header with indentation := some (c.toNat - '0'.toNat) } mayChomp false rest
    else (header, c :: rest)

/-- Passes over the indentation of a line and over empty lines; the indentation is not known yet
when it is 0.  Gives the line ends, the deepest indentation that was met, and the place behind
it. -/
def blockBreaks (indent deepest line column : Nat) (breaks : List Char) :
    List Char → Option (List Char × Nat × Cursor)
  | [] => some (breaks, max deepest column, { rest := [], line, column })
  | c :: rest =>
    if (indent == 0 || column < indent) && c == ' ' then blockBreaks indent deepest line (column + 1) breaks rest
    else if (indent == 0 || column < indent) && c == '\t' then none
    else if isBreak c then blockBreaks indent (max deepest column) (line + 1) 0 (breaks ++ [c]) rest
    else some (breaks, max deepest column, { rest := c :: rest, line, column })

/-- Reads the lines of a block scalar, at most `fuel` of them.  `lead` is the end of the line
before, `breaks` are the empty lines since, and `indented` says whether the line before began with a
blank. -/
def blockLines (header : BlockHeader) (indent : Nat) :
    Nat → List Char → List Char → List Char → Bool → Cursor → Option (List Char × Cursor)
  | 0, _, _, _, _, _ => none
  | fuel + 1, text, lead, breaks, indented, cursor =>
    if cursor.column == indent && !cursor.rest.isEmpty then do
      let blank := cursor.rest.head?.any isGap
      let joint :=
        if header.folded && lead == ['\n'] && !indented && !blank then (if breaks.isEmpty then [' '] else breaks)
        else lead ++ breaks
      let line := cursor.rest.takeWhile (fun c => !isBreak c)
      let behind := cursor.rest.drop line.length
      let (further, _, next) ←
        if behind.isEmpty then
          some ([], 0, { rest := [], line := cursor.line, column := cursor.column + line.length })
        else blockBreaks indent 0 (cursor.line + 1) 0 [] (behind.drop 1)
      blockLines header indent fuel (text ++ joint ++ line) (behind.take 1) further blank next
    else
      let ending :=
        match header.chomping with
        | .strip => []
        | .clip => lead
        | .keep => lead ++ breaks
      some (text ++ ending, cursor)

/-- Reads a block scalar whose lines have to be indented by at least `least` columns. -/
def readBlock (least : Nat) (cursor : Cursor) : Option (Node × Cursor) := do
  let (header, behind) :=
    readHeaderSigns { folded := cursor.rest.head? == some '>' } true true (cursor.rest.drop 1)
  let tail := behind.dropWhile isGap
  let tail := if tail.head? == some '#' then tail.dropWhile (fun c => !isBreak c) else tail
  guard (tail.head?.all isBreak)
  let start := tail.drop 1
  let given := (header.indentation.map (fun n => least - 1 + n)).getD 0
  let (breaks, deepest, next) ← blockBreaks given 0 (cursor.line + 1) 0 [] start
  let indent := if given == 0 then max (max deepest least) 1 else given
  let (text, next) ← blockLines header indent (start.length + 1) [] [] breaks false next
  return (.scalar (String.ofList text) false, next)

end Yaml
end Scaffold
