import Scaffold.Pattern.Search

namespace Scaffold
namespace Pattern

/-!
# Replacing matches

The matches of a pattern are replaced from left to right, each search beginning where the match
before it ended.
-/

/-- A piece of what a match is replaced by: a text, or what a group took. -/
inductive Piece where
  | text (cs : List Char)
  | group (index : Nat)

/-- The text of a piece for a match that ends at a cursor. -/
def Piece.fill (stop : Cursor) : Piece → List Char
  | text cs => cs
  | group index => stop.group index

/-- How many characters the match at a place takes, and what it is replaced by.  An empty match
where another one has just ended, which `joined` says, does not count. -/
def replacement? (node : Node) (pieces : List Piece) (joined : Bool) (behind ahead : List Char) :
    Option (Nat × List Char) :=
  match node.matcher ⟨behind, ahead, []⟩ some with
  | none => none
  | some stop =>
    let length := ahead.length - stop.ahead.length
    if joined && length == 0 then none else some (length, pieces.flatMap (Piece.fill stop))

/-- Replaces the matches among the characters ahead; `passing` of them belong to a match that is
replaced already. -/
def replaceFrom (node : Node) (pieces : List Piece) (passing : Nat) (joined : Bool) (behind ahead : List Char) :
    List Char :=
  match ahead with
  | [] => if passing = 0 then ((replacement? node pieces joined behind []).map Prod.snd).getD [] else []
  | c :: rest =>
    match passing with
    | passing + 1 => replaceFrom node pieces passing true (c :: behind) rest
    | 0 =>
      match replacement? node pieces joined behind (c :: rest) with
      | none => c :: replaceFrom node pieces 0 false (c :: behind) rest
      | some (0, new) => new ++ c :: replaceFrom node pieces 0 false (c :: behind) rest
      | some (length + 1, new) => new ++ replaceFrom node pieces length true (c :: behind) rest
termination_by structural ahead

/-- The text with every match of the pattern replaced. -/
def replaceAll (pattern : Pattern) (pieces : List Piece) (text : List Char) : List Char :=
  replaceFrom pattern.node pieces 0 false [] text

end Pattern
end Scaffold
