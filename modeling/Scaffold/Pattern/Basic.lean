import Scaffold.Pattern.CharSet

namespace Scaffold

namespace Pattern

/-!
# Patterns

A pattern is a regular expression.  Its alternatives and repetitions are ordered: of all matches
that begin at one place, the first in this order is *the* match, whether or not another is longer.
-/

/-- A condition on a place in the text. -/
inductive Assertion where
  | textStart
  | textEnd
  | lineStart
  | lineEnd
  /-- Line ends that may be `\r`, `\n` or both together. -/
  | anyLineStart
  | anyLineEnd
  | wordBoundary
  | noWordBoundary
  | wordStart
  | wordEnd
  | noWordBefore
  | noWordAfter
  deriving DecidableEq

inductive Node where
  | empty
  | one (set : CharSet)
  | look (assertion : Assertion) (ascii : Bool)
  | seq (first second : Node)
  | alt (first second : Node)
  /-- At least `least` and, where there is a bound, at most `most` times; a greedy repetition
  prefers more. -/
  | repeated (least : Nat) (most : Option Nat) (greedy : Bool) (body : Node)
  /-- A pattern whose text is kept under a number. -/
  | group (index : Nat) (body : Node)

namespace Node

/-- The patterns one after another. -/
def sequence : List Node → Node
  | [] => empty
  | [node] => node
  | node :: rest => seq node (sequence rest)

/-- The first of the patterns that matches. -/
def alternatives : List Node → Node
  | [] => empty
  | [node] => node
  | node :: rest => alt node (alternatives rest)

/-- The pattern that matches one text literally. -/
def literal (cs : List Char) : Node :=
  sequence (cs.map (fun c => one (.singleton c)))

/-- Whether the pattern might match the empty text. -/
def mayBeEmpty : Node → Bool
  | one _ => false
  | seq first second => first.mayBeEmpty && second.mayBeEmpty
  | alt first second => first.mayBeEmpty || second.mayBeEmpty
  | repeated least _ _ body => least == 0 || body.mayBeEmpty
  | group _ body => body.mayBeEmpty
  | _ => true

end Node

end Pattern

/-- A regular expression. -/
structure Pattern where
  node : Pattern.Node

end Scaffold
