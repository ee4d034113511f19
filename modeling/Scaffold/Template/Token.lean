import Scaffold.Template.Expr
import Scaffold.Text.Blank

namespace Scaffold
namespace Template

/-!
# Tags and text

A template is text with tags in it.  A tag whose delimiter carries a hyphen takes the white space of
the text next to it away.
-/

/-- What a loop runs over, and the names that it gives to each item. -/
structure Binding where
  key? : Option String
  name : String
  source : Pipeline

inductive Tag where
  | print (e : Expr)
  | comment
  | ifTag (condition : Expr)
  | elifTag (condition : Expr)
  | elseTag
  | endIf
  | forTag (binding : Binding)
  | endFor

/-- A piece of text, or a tag with its two hyphens: the one at its start and the one at its end. -/
inductive Token where
  | text (cs : List Char)
  | tag (before after : Bool) (tag : Tag)

/-- Whether a tag begins here. -/
def opensTag : List Char → Bool
  | '\x7b' :: c :: _ => c == '\x7b' || c == '%' || c == '#'
  | _ => false

/-- Reads the text up to the next tag. -/
def readText : List Char → List Char × List Char
  | [] => ([], [])
  | c :: rest =>
    if opensTag (c :: rest) then ([], c :: rest)
    else
      let (cs, rest) := readText rest
      (c :: cs, rest)

/-- The text after the hyphen that a tag may begin with, and whether there was one. -/
def takeHyphen : List Char → Bool × List Char
  | '-' :: rest => (true, rest)
  | rest => (false, rest)

/-- Reads the end of a tag, with the hyphen that it may carry. -/
def readClosing (closing : List Char) (cs : List Char) : Option (Bool × List Char) :=
  let (hyphen, rest) := takeHyphen (skipGap cs)
  if closing.isPrefixOf rest then some (hyphen, rest.drop closing.length) else none

/-- Reads what stands in a comment, up to its end. -/
def readComment : List Char → Option (Bool × List Char)
  | [] => none
  | '-' :: '#' :: '\x7d' :: rest => some (true, rest)
  | '#' :: '\x7d' :: rest => some (false, rest)
  | _ :: rest => readComment rest

/-- Reads the head of a loop from behind the word `for`. -/
def readBinding (cs : List Char) : Option (Binding × List Char) := do
  let (first, rest) ← readName (skipGap cs)
  let (key?, name, rest) ←
    match skipGap rest with
    | ',' :: more => do
      let (second, rest) ← readName (skipGap more)
      pure (some first, second, rest)
    | _ => pure (none, first, rest)
  let rest ← dropWord? "in" (skipGap rest)
  let (source, rest) ← readPipeline rest
  return ({ key?, name, source }, rest)

/-- Reads the inside of a tag between percent signs. -/
def readDirective (cs : List Char) : Option (Tag × List Char) :=
  let cs := skipGap cs
  match dropWord? "if" cs with
  | some rest => (readExpr (rest.length + 2) rest).map (fun (e, rest) => (.ifTag e, rest))
  | none =>
    match dropWord? "elif" cs with
    | some rest => (readExpr (rest.length + 2) rest).map (fun (e, rest) => (.elifTag e, rest))
    | none =>
      match dropWord? "for" cs with
      | some rest => (readBinding rest).map (fun (binding, rest) => (.forTag binding, rest))
      | none =>
        [("else", Tag.elseTag), ("endif", Tag.endIf), ("endfor", Tag.endFor)].findSome?
          (fun entry => (dropWord? entry.1 cs).map (fun rest => (entry.2, rest)))

/-- Reads a tag from behind its opening brace; `kind` is the character after it. -/
def readTag (kind : Char) (cs : List Char) : Option (Token × List Char) := do
  let (before, rest) := takeHyphen cs
  if kind == '#' then
    let (after, rest) ← readComment rest
    return (.tag before after .comment, rest)
  else if kind == '%' then
    let (tag, rest) ← readDirective rest
    let (after, rest) ← readClosing ['%', '\x7d'] rest
    return (.tag before after tag, rest)
  else
    let (e, rest) ← readExpr (rest.length + 2) rest
    let (after, rest) ← readClosing ['\x7d', '\x7d'] rest
    return (.tag before after (.print e), rest)

/-- Reads text and tags in turn, in at most `fuel` steps. -/
def readTokens : Nat → List Char → Option (List Token)
  | 0, _ => some []
  | fuel + 1, cs =>
    match readText cs with
    | (text, []) => some [.text text]
    | (text, _ :: []) => some [.text text]
    | (text, _ :: kind :: rest) => do
      let (tag, rest) ← readTag kind rest
      let tokens ← readTokens fuel rest
      return .text text :: tag :: tokens

/-- Takes away the white space that the hyphens of neighbouring tags claim; `before` is the hyphen
at the end of the tag that the tokens follow. -/
def trimTokens (before : Bool) : List Token → List Token
  | [] => []
  | .text cs :: rest =>
    let cs := if before then Text.trimStart cs else cs
    let after :=
      match rest with
      | .tag hyphen _ _ :: _ => hyphen
      | _ => false
    .text (if after then Text.trimEnd cs else cs) :: trimTokens false rest
  | .tag hyphen after tag :: rest => .tag hyphen after tag :: trimTokens after rest

/-- The tokens of a template, unless a tag is malformed. -/
def tokens? (source : String) : Option (List Token) :=
  let cs := source.toList
  (readTokens (cs.length + 1) cs).map (trimTokens false)

end Template
end Scaffold
