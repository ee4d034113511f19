namespace Scaffold
namespace Yaml

/-!
# Places in a YAML text

In block style the column decides what belongs together, and only some places may begin a key or an
item of a list.
-/

/-- A character that a text may hold. -/
def isAllowed (c : Char) : Bool :=
  let n := c.toNat
  n == 0x09 || n == 0x0A || n == 0x0D || (0x20 ≤ n && n ≤ 0x7E) || n == 0x85 || (0xA0 ≤ n && n ≤ 0xD7FF) ||
    (0xE000 ≤ n && n ≤ 0xFFFD && n != 0xFEFF) || 0x10000 ≤ n

/-- The text with all ordinary line ends written as a line feed. -/
def unifyBreaks : List Char → List Char
  | '\r' :: '\n' :: rest => '\n' :: unifyBreaks rest
  | '\r' :: rest => '\n' :: unifyBreaks rest
  | '\x85' :: rest => '\n' :: unifyBreaks rest
  | c :: rest => c :: unifyBreaks rest
  | [] => []

/-- A blank within a line. -/
def isGap (c : Char) : Bool :=
  c == ' ' || c == '\t'

/-- The end of a line.  The line and paragraph separators of Unicode are never folded. -/
def isBreak (c : Char) : Bool :=
  c == '\n' || c == '\u2028' || c == '\u2029'

/-- Whether a word ends here. -/
def endsWord : List Char → Bool
  | [] => true
  | c :: _ => isGap c || isBreak c

/-- A place in a text. -/
structure Cursor where
  rest : List Char
  line : Nat := 0
  column : Nat := 0
  /-- Whether a key or an item of block style may begin here. -/
  fresh : Bool := true
  deriving DecidableEq, Repr, Inhabited

namespace Cursor

/-- The place `count` characters further on the same line, where nothing may begin. -/
def along (cursor : Cursor) (count : Nat) : Cursor :=
  { cursor with rest := cursor.rest.drop count, column := cursor.column + count, fresh := false }

/-- Whether a mark of three characters stands on a line, alone or before a blank. -/
def isAt (cursor : Cursor) (mark : String) : Bool :=
  cursor.column == 0 && mark.toList.isPrefixOf cursor.rest && endsWord (cursor.rest.drop 3)

/-- Whether the document ends here, or another one begins. -/
def atMark (cursor : Cursor) : Bool :=
  cursor.isAt "---" || cursor.isAt "..."

/-- Whether nothing of the document follows. -/
def atEnd (cursor : Cursor) : Bool :=
  cursor.rest.isEmpty || cursor.atMark

/-- Whether a mark of one character stands before a blank. -/
def atSign (cursor : Cursor) (sign : Char) : Bool :=
  cursor.rest.head? == some sign && endsWord (cursor.rest.drop 1)

/-- Passes over blanks, comments and line ends; tabs do not count where an item of block style may
begin. -/
def skipFrom (inFlow inComment fresh : Bool) (line column : Nat) : List Char → Cursor
  | [] => { rest := [], line, column, fresh }
  | c :: rest =>
    if isBreak c then skipFrom inFlow false true (line + 1) 0 rest
    else if inComment || c == ' ' || (c == '\t' && (inFlow || !fresh)) then
      skipFrom inFlow inComment fresh line (column + 1) rest
    else if c == '#' then skipFrom inFlow true fresh line (column + 1) rest
    else { rest := c :: rest, line, column, fresh }

/-- The next place at which something is written. -/
def skip (cursor : Cursor) (inFlow : Bool) : Cursor :=
  skipFrom inFlow false cursor.fresh cursor.line cursor.column cursor.rest

/-- The place of the colon that makes a key of what was written from `start` up to here, all on one
line. -/
def colonAfter? (cursor start : Cursor) (inFlow : Bool) : Option Cursor :=
  let next := cursor.skip inFlow
  if next.line == start.line && (if inFlow then next.rest.head? == some ':' else next.atSign ':') then some next
  else none

end Cursor
end Yaml
end Scaffold
