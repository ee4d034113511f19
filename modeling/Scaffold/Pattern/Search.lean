import Scaffold.Pattern.Basic

namespace Scaffold
namespace Pattern

/-!
# Searching

The matcher walks a cursor through the text.  What is left to be matched is passed along as a
continuation, and the first way in which everything matches is taken, so the order of the
alternatives decides.
-/

/-- A place in a text: the characters behind it, last first, and those ahead; and what the groups
that have been passed took, last first. -/
structure Cursor where
  behind : List Char
  ahead : List Char
  groups : List (Nat × List Char)

namespace Cursor

/-- What the group took; nothing if it was not passed. -/
def group (cursor : Cursor) (index : Nat) : List Char :=
  (cursor.groups.lookup index).getD []

/-- The cursor with what lies between a place before it and its own as what the group took. -/
def keep (cursor : Cursor) (index : Nat) (start : Cursor) : Cursor :=
  { cursor with
    groups := (index, start.ahead.take (start.ahead.length - cursor.ahead.length)) :: cursor.groups }

end Cursor

/-- Matches something at a cursor and then what is left, which gives the place where the match
ends. -/
abbrev Matcher := Cursor → (Cursor → Option Cursor) → Option Cursor

namespace Assertion

/-- Whether an assertion holds at a cursor, for the given word characters. -/
def holds (isWord : Char → Bool) (assertion : Assertion) (cursor : Cursor) : Bool :=
  let before := cursor.behind.head?
  let after := cursor.ahead.head?
  let wordBefore := before.any isWord
  let wordAfter := after.any isWord
  match assertion with
  | textStart => before.isNone
  | textEnd => after.isNone
  | lineStart => before.isNone || before == some '\n'
  | lineEnd => after.isNone || after == some '\n'
  | anyLineStart => before.isNone || before == some '\n' || (before == some '\r' && after != some '\n')
  | anyLineEnd => after.isNone || after == some '\r' || (after == some '\n' && before != some '\r')
  | wordBoundary => wordBefore != wordAfter
  | noWordBoundary => wordBefore == wordAfter
  | wordStart => !wordBefore && wordAfter
  | wordEnd => wordBefore && !wordAfter
  | noWordBefore => !wordBefore
  | noWordAfter => !wordAfter

end Assertion

namespace Matcher

/-- Matches one character of a set. -/
def one (set : CharSet) : Matcher := fun cursor next =>
  match cursor.ahead with
  | [] => none
  | c :: rest => if set.member c then next ⟨c :: cursor.behind, rest, cursor.groups⟩ else none

/-- Matches exactly `n` times. -/
def times (body : Matcher) : Nat → Matcher
  | 0 => fun cursor next => next cursor
  | n + 1 => fun cursor next => body cursor (fun after => times body n after next)

/-- Tries one way and, when it leads nowhere, the other. -/
def orElse (first second : Unit → Option Cursor) : Option Cursor :=
  match first () with
  | some stop => some stop
  | none => second ()

/-- Prefers the first of two ways, or the second when not `greedy`. -/
def prefer (greedy : Bool) (more stop : Unit → Option Cursor) : Option Cursor :=
  if greedy then orElse more stop else orElse stop more

/-- Matches at most `n` times. -/
def upTo (greedy : Bool) (body : Matcher) : Nat → Matcher
  | 0 => fun cursor next => next cursor
  | n + 1 => fun cursor next =>
    prefer greedy (fun _ => body cursor (fun after => upTo greedy body n after next)) (fun _ => next cursor)

/-- Matches any number of times.  A round that takes no character is the last one, so there are no
more rounds than characters, which `fuel` counts. -/
def many (greedy mayBeEmpty : Bool) (body : Matcher) : List Char → Matcher
  | [] => fun cursor next => next cursor
  | _ :: fuel => fun cursor next =>
    prefer greedy
      (fun _ => body cursor (fun after =>
        if !mayBeEmpty || after.ahead.length < cursor.ahead.length then many greedy mayBeEmpty body fuel after next
        else next after))
      (fun _ => next cursor)

end Matcher

/-- The matcher of a pattern. -/
def Node.matcher : Node → Matcher
  | empty => fun cursor next => next cursor
  | one set => Matcher.one set
  | look assertion ascii => fun cursor next =>
    let isWord := if ascii then (fun c => c.isAlphanum || c == '_') else CharSet.isWordChar
    if assertion.holds isWord cursor then next cursor else none
  | seq first second => fun cursor next => first.matcher cursor (fun after => second.matcher after next)
  | alt first second => fun cursor next =>
    Matcher.orElse (fun _ => first.matcher cursor next) (fun _ => second.matcher cursor next)
  | repeated least most greedy body => fun cursor next =>
    Matcher.times body.matcher least cursor (fun after =>
      match most with
      | some most => Matcher.upTo greedy body.matcher (most - least) after next
      | none => Matcher.many greedy body.mayBeEmpty body.matcher after.ahead after next)
  | group index body => fun cursor next => body.matcher cursor (fun after => next (after.keep index cursor))

/-- A match: the text before it, its own and the text after it. -/
structure Match where
  before : List Char
  matched : List Char
  after : List Char

/-- The first match that begins at one of the characters ahead or at the end; `behind` lies before
them, last first. -/
def findFrom (node : Node) (behind : List Char) (ahead : List Char) : Option Match :=
  match node.matcher ⟨behind, ahead, []⟩ some with
  | some stop =>
    some {
      before := behind.reverse
      matched := ahead.take (ahead.length - stop.ahead.length)
      after := ahead.drop (ahead.length - stop.ahead.length) }
  | none =>
    match ahead with
    | [] => none
    | c :: rest => findFrom node (c :: behind) rest
termination_by structural ahead

namespace Match

/-- The text in which the match was found. -/
def text (found : Match) : List Char :=
  found.before ++ found.matched ++ found.after

end Match

/-- A match takes the text apart and loses nothing of it. -/
theorem text_of_findFrom {node : Node} {behind ahead : List Char} {found : Match}
    (matched : findFrom node behind ahead = some found) : found.text = behind.reverse ++ ahead := by
  induction ahead generalizing behind with
  | nil =>
    unfold findFrom at matched
    split at matched
    · cases matched
      simp [Match.text]
    · simp at matched
  | cons c rest ih =>
    unfold findFrom at matched
    split at matched
    · cases matched
      simp [Match.text]
    · simpa using ih matched

/-- The first match of a pattern in a text. -/
def find? (pattern : Pattern) (text : List Char) : Option Match :=
  findFrom pattern.node [] text

theorem text_of_find? {pattern : Pattern} {text : List Char} {found : Match}
    (matched : pattern.find? text = some found) : found.text = text := by
  simpa using text_of_findFrom matched

end Pattern
end Scaffold
