import Scaffold.Pattern.Basic
import Scaffold.Text.Numeric
import Scaffold.Text.Search

namespace Scaffold
namespace Pattern

/-!
# Reading patterns

The notation of regular expressions without look-around and back-references, which are refused like
any other malformed pattern.  Flags set inside a group hold up to its end.
-/

/-- The flags that change how a pattern is read. -/
structure Flags where
  ignoreCase : Bool := false
  multiLine : Bool := false
  dotAll : Bool := false
  swapGreed : Bool := false
  unicode : Bool := true
  verbose : Bool := false
  carriageReturn : Bool := false

/-! ## Small readers -/

/-- In the verbose notation, the text after white space and comments; otherwise the text itself. -/
def skipSpace (flags : Flags) (cs : List Char) : List Char :=
  if flags.verbose then go false cs else cs
where
  go : Bool → List Char → List Char
    | _, [] => []
    | true, c :: rest => go (c != '\n') rest
    | false, c :: rest =>
      if c == '#' then go true rest else if Text.isBlank c then go false rest else c :: rest

/-- Reads a number below `2^32`, with white space allowed on both sides. -/
def readCount (cs : List Char) : Option (Nat × List Char) :=
  let cs := Text.trimStart cs
  match cs.takeWhile Char.isDigit with
  | [] => none
  | ds =>
    let n := ds.foldl (fun n d => n * 10 + (d.toNat - '0'.toNat)) 0
    if n < Nat.pow 2 32 then some (n, Text.trimStart (cs.dropWhile Char.isDigit)) else none

/-- Reads the digits of an escape by code point: in braces, or as many as given. -/
def readCode (digits : Nat) : List Char → Option (Char × List Char)
  | '\x7b' :: rest => do
    let c ← Text.hexChar? (rest.takeWhile (· != '\x7d'))
    match rest.dropWhile (· != '\x7d') with
    | _ :: rest => return (c, rest)
    | [] => none
  | cs => do
    guard (digits ≤ cs.length)
    let c ← Text.hexChar? (cs.take digits)
    return (c, cs.drop digits)

/-! ## Escapes -/

/-- What a backslash and the characters after it stand for. -/
inductive Escape where
  | char (c : Char)
  | set (s : CharSet)
  | look (assertion : Assertion)

/-- The set as it is meant under the flags: first folded, then turned round. -/
def finishSet (flags : Flags) (negated : Bool) (s : CharSet) : Option CharSet :=
  let s := if flags.ignoreCase then CharSet.folded s else s
  if negated then (if flags.unicode then some (.complement s) else none) else some s

/-- The class that the letter after a backslash names. -/
def perlClass (flags : Flags) (letter : Char) : CharSet :=
  match letter, flags.unicode with
  | 'd', true => .property Text.isDecimalDigit
  | 's', true => .property Text.isBlank
  | _, true => .property CharSet.isWordChar
  | 'd', false => .range '0' '9'
  | 's', false => .ranges [('\t', '\r'), (' ', ' ')]
  | _, false => .ranges [('0', '9'), ('A', 'Z'), ('_', '_'), ('a', 'z')]

/-- The set that the name of a property stands for; a value may follow the name. -/
def propertySet? (name : List Char) : Option CharSet :=
  match Text.cutBefore? ['!', '='] name with
  | some (property, value) => (CharSet.propertyValue? property (value.drop 2)).map .complement
  | none =>
    match name.findIdx? (fun c => c == ':' || c == '=') with
    | some i => CharSet.propertyValue? (name.take i) (name.drop (i + 1))
    | none => CharSet.property? name

/-- Reads the name of a property: one letter, or a name in braces. -/
def readProperty (flags : Flags) (negated : Bool) : List Char → Option (Escape × List Char)
  | [] => none
  | '\x7b' :: rest => do
    let s ← propertySet? (rest.takeWhile (· != '\x7d'))
    match rest.dropWhile (· != '\x7d') with
    | _ :: rest =>
      guard flags.unicode
      return (.set (← finishSet flags negated s), rest)
    | [] => none
  | c :: rest => do
    guard flags.unicode
    let s ← CharSet.property? [c]
    return (.set (← finishSet flags negated s), rest)

/-- Reads what may follow the mark of a word boundary: the name of a special boundary in braces. -/
def readBoundary (cs : List Char) : Option (Assertion × List Char) :=
  match cs with
  | ['\x7b'] => none
  | '\x7b' :: c :: rest =>
    if c.isAlpha || c == '-' then
      let name := String.ofList ((c :: rest).takeWhile (fun c => c.isAlpha || c == '-'))
      match (c :: rest).dropWhile (fun c => c.isAlpha || c == '-') with
      | '\x7d' :: rest =>
        if name == "start" then some (.wordStart, rest)
        else if name == "end" then some (.wordEnd, rest)
        else if name == "start-half" then some (.noWordBefore, rest)
        else if name == "end-half" then some (.noWordAfter, rest)
        else none
      | _ => none
    else some (.wordBoundary, cs)
  | _ => some (.wordBoundary, cs)

/-- Reads an escape from behind its backslash. -/
def readEscape (flags : Flags) : List Char → Option (Escape × List Char)
  | [] => none
  | c :: rest =>
    match c with
    | 'd' | 's' | 'w' => (finishSet flags false (perlClass flags c)).map (fun s => (.set s, rest))
    | 'D' | 'S' | 'W' => (finishSet flags true (perlClass flags c.toLower)).map (fun s => (.set s, rest))
    | 'p' => readProperty flags false rest
    | 'P' => readProperty flags true rest
    | 'x' => do
      let (c, after) ← readCode 2 rest
      guard (flags.unicode || rest.head? == some '\x7b' || c.toNat < 128)
      return (.char c, after)
    | 'u' => (readCode 4 rest).map (fun (c, rest) => (.char c, rest))
    | 'U' => (readCode 8 rest).map (fun (c, rest) => (.char c, rest))
    | 'a' => some (.char '\x07', rest)
    | 'f' => some (.char '\x0c', rest)
    | 't' => some (.char '\t', rest)
    | 'n' => some (.char '\n', rest)
    | 'r' => some (.char '\r', rest)
    | 'v' => some (.char '\x0b', rest)
    | 'A' => some (.look .textStart, rest)
    | 'z' => some (.look .textEnd, rest)
    | 'b' => (readBoundary rest).map (fun (a, rest) => (.look a, rest))
    | 'B' => some (.look .noWordBoundary, rest)
    | '<' => some (.look .wordStart, rest)
    | '>' => some (.look .wordEnd, rest)
    | _ => if c.toNat < 128 && !c.isAlphanum then some (.char c, rest) else none

/-! ## Classes in brackets -/

/-- A class of ASCII characters by name, read from behind its opening bracket. -/
def readAsciiClass (flags : Flags) : List Char → Option (CharSet × List Char)
  | ':' :: rest => do
    let (negated, rest) :=
      match rest with
      | '^' :: rest => (true, rest)
      | _ => (false, rest)
    let s ← CharSet.asciiClasses.lookup (String.ofList (rest.takeWhile (· != ':')))
    match rest.dropWhile (· != ':') with
    | ':' :: ']' :: rest => return (← finishSet flags negated s, rest)
    | _ => none
  | _ => none

/-- One member of a class: a character, which may begin a range, or a set. -/
inductive Item where
  | char (c : Char)
  | set (s : CharSet)

/-- The set of a member. -/
def Item.toSet : Item → CharSet
  | char c => .singleton c
  | set s => s

/-- Reads one member of a class.  Without Unicode only ASCII can be in a class. -/
def readItem (flags : Flags) : List Char → Option (Item × List Char)
  | [] => none
  | '\\' :: rest =>
    match readEscape flags rest with
    | some (.char c, rest) => if flags.unicode || c.toNat < 128 then some (.char c, rest) else none
    | some (.set s, rest) => some (.set s, rest)
    | _ => none
  | c :: rest => if flags.unicode || c.toNat < 128 then some (.char c, rest) else none

/-- Reads a member of a class or a range of characters. -/
def readRange (flags : Flags) (cs : List Char) : Option (CharSet × List Char) := do
  let (first, rest) ← readItem flags cs
  match skipSpace flags rest with
  | [] => none
  | '-' :: more =>
    match skipSpace flags more with
    | [] => none
    | next :: after =>
      if next == ']' || next == '-' then return (first.toSet, '-' :: more)
      else
        let (last, rest) ← readItem flags (next :: after)
        match first, last with
        | .char lo, .char hi => if lo ≤ hi then return (.range lo hi, rest) else none
        | _, _ => none
  | rest => return (first.toSet, rest)

/-- The operators between the sets of a class. -/
inductive SetOperator where
  | and | minus | xor

/-- What stands before an operator, and the operator. -/
abbrev Pending := Option (CharSet × SetOperator)

/-- Applies an operator that is waiting for its second set. -/
def applyPending (flags : Flags) (pending : Pending) (s : CharSet) : CharSet :=
  let fold (s : CharSet) : CharSet := if flags.ignoreCase then .folded s else s
  match pending with
  | none => s
  | some (left, .and) => .intersection (fold left) (fold s)
  | some (left, .minus) => .difference (fold left) (fold s)
  | some (left, .xor) => .symmetricDifference (fold left) (fold s)

/-- Takes the hyphens that a class begins with; each stands for itself. -/
def takeHyphens (flags : Flags) : Nat → List Char → CharSet × Bool × List Char
  | 0, cs => (.nothing, false, cs)
  | fuel + 1, cs =>
    match skipSpace flags cs with
    | '-' :: rest =>
      let (_, _, rest) := takeHyphens flags fuel rest
      (.singleton '-', true, rest)
    | rest => (.nothing, false, rest)

mutual

/-- Reads a class from behind its opening bracket. -/
def readClass (flags : Flags) : Nat → List Char → Option (CharSet × List Char)
  | 0, _ => none
  | fuel + 1, cs => do
    let (negated, rest) :=
      match skipSpace flags cs with
      | '^' :: rest => (true, skipSpace flags rest)
      | rest => (false, rest)
    let (hyphens, found, rest) := takeHyphens flags rest.length rest
    let (start, rest) :=
      match found, rest with
      | false, ']' :: rest => (CharSet.singleton ']', rest)
      | _, rest => (hyphens, rest)
    let (s, rest) ← readMembers flags fuel none start rest
    return (← finishSet flags negated s, rest)

/-- Reads the members of a class up to its closing bracket; `sofar` are those since the last
operator. -/
def readMembers (flags : Flags) : Nat → Pending → CharSet → List Char → Option (CharSet × List Char)
  | 0, _, _, _ => none
  | fuel + 1, pending, sofar, cs =>
    match skipSpace flags cs with
    | [] => none
    | ']' :: rest => some (applyPending flags pending sofar, rest)
    | '&' :: '&' :: rest =>
      readMembers flags fuel (some (applyPending flags pending sofar, .and)) .nothing rest
    | '-' :: '-' :: rest =>
      readMembers flags fuel (some (applyPending flags pending sofar, .minus)) .nothing rest
    | '~' :: '~' :: rest =>
      readMembers flags fuel (some (applyPending flags pending sofar, .xor)) .nothing rest
    | '[' :: rest =>
      match readAsciiClass flags rest with
      | some (s, rest) => readMembers flags fuel pending (.union sofar s) rest
      | none => do
        let (s, rest) ← readClass flags fuel rest
        readMembers flags fuel pending (.union sofar s) rest
    | rest => do
      let (s, rest) ← readRange flags rest
      readMembers flags fuel pending (.union sofar s) rest

end

/-! ## Groups and flags -/

/-- Sets or clears the flag of a letter. -/
def setFlag? (flags : Flags) (letter : Char) (on : Bool) : Option Flags :=
  match letter with
  | 'i' => some { flags with ignoreCase := on }
  | 'm' => some { flags with multiLine := on }
  | 's' => some { flags with dotAll := on }
  | 'U' => some { flags with swapGreed := on }
  | 'u' => some { flags with unicode := on }
  | 'x' => some { flags with verbose := on }
  | 'R' => some { flags with carriageReturn := on }
  | _ => none

/-- Reads flags up to `:` or `)`; gives the mark that ended them, and whether there was any. -/
def readFlags (flags : Flags) (seen : List Char) : List Char → Option (Flags × Char × Bool × List Char)
  | [] => none
  | c :: rest =>
    if c == ':' || c == ')' then
      if seen.head? == some '-' then none else some (flags, c, !seen.isEmpty, rest)
    else if seen.contains c then none
    else if c == '-' then readFlags flags (c :: seen) rest
    else do
      let flags ← setFlag? flags c (!seen.contains '-')
      readFlags flags (c :: seen) rest

/-- Reads the name of a group up to `>`. -/
def readGroupName (cs : List Char) : Option (List Char × List Char) :=
  let name := cs.takeWhile (· != '>')
  match name, cs.dropWhile (· != '>') with
  | c :: more, _ :: rest =>
    if (c == '_' || Text.isAlphabetic c)
        && more.all (fun c => c == '_' || c == '.' || c == '[' || c == ']' || Text.isAlphanumeric c) then
      some (name, rest)
    else none
  | _, _ => none

/-- How a group begins.  The text of a group is kept unless the group is only there to hold its
pattern together. -/
inductive Opening where
  | group (flags : Flags) (kept : Bool) (name? : Option (List Char))
  | flags (flags : Flags)

/-- Reads the beginning of a group from behind its opening parenthesis. -/
def readOpening (flags : Flags) (cs : List Char) : Option (Opening × List Char) :=
  match skipSpace flags cs with
  | '?' :: '=' :: _ => none
  | '?' :: '!' :: _ => none
  | '?' :: '<' :: '=' :: _ => none
  | '?' :: '<' :: '!' :: _ => none
  | '?' :: 'P' :: '<' :: rest =>
    (readGroupName rest).map (fun (name, rest) => (.group flags true (some name), rest))
  | '?' :: '<' :: rest =>
    (readGroupName rest).map (fun (name, rest) => (.group flags true (some name), rest))
  | '?' :: rest => do
    let (inner, mark, any, rest) ← readFlags flags [] rest
    if mark == ':' then return (.group inner false none, rest)
    else if any then return (.flags inner, rest)
    else none
  | rest => some (.group flags true none, rest)

/-! ## Repetition -/

/-- How often a pattern is repeated. -/
structure Range where
  least : Nat
  most : Option Nat

/-- Reads a range of counts from behind its opening brace. -/
def readCounts (flags : Flags) (cs : List Char) : Option (Range × List Char) := do
  let (least, rest) ← readCount (skipSpace flags cs)
  match rest with
  | '\x7d' :: rest => return (⟨least, some least⟩, skipSpace flags rest)
  | ',' :: rest =>
    match skipSpace flags rest with
    | '\x7d' :: rest => return (⟨least, none⟩, skipSpace flags rest)
    | rest => do
      let (most, rest) ← readCount rest
      match rest with
      | '\x7d' :: rest => if least ≤ most then return (⟨least, some most⟩, skipSpace flags rest) else none
      | _ => none
  | _ => none

/-- Reads an operator of repetition, if the text begins with one; the inner option is none when it
is malformed. -/
def readRepetition (flags : Flags) : List Char → Option (Option (Range × List Char))
  | '*' :: rest => some (some (⟨0, none⟩, rest))
  | '+' :: rest => some (some (⟨1, none⟩, rest))
  | '?' :: rest => some (some (⟨0, some 1⟩, rest))
  | '\x7b' :: rest => some (readCounts flags rest)
  | _ => none

/-- Takes the mark of a reluctant repetition; gives whether the repetition is greedy. -/
def takeGreed (flags : Flags) : List Char → Bool × List Char
  | '?' :: rest => (flags.swapGreed, rest)
  | rest => (!flags.swapGreed, rest)

/-! ## Patterns -/

/-- What the reader has come to know: the flags in force, the group names in use and how many groups
have begun.  Groups are numbered from one, in the order in which they begin. -/
structure State where
  flags : Flags
  names : List (List Char)
  groups : Nat := 0

/-- A character as a pattern. -/
def charNode (flags : Flags) (c : Char) : Node :=
  .one (if flags.ignoreCase then .folded (.singleton c) else .singleton c)

/-- What `.` stands for. -/
def dotNode? (flags : Flags) : Option Node :=
  if !flags.unicode then none
  else if flags.dotAll then some (.one (.complement .nothing))
  else if flags.carriageReturn then some (.one (.complement (.ranges [('\n', '\n'), ('\r', '\r')])))
  else some (.one (.complement (.singleton '\n')))

/-- What `^` stands for. -/
def startNode (flags : Flags) : Node :=
  .look (if !flags.multiLine then .textStart else if flags.carriageReturn then .anyLineStart else .lineStart) false

/-- What `$` stands for. -/
def endNode (flags : Flags) : Node :=
  .look (if !flags.multiLine then .textEnd else if flags.carriageReturn then .anyLineEnd else .lineEnd) false

/-- The pattern made of those that were read one after another, last first; a setting of flags is
none. -/
def finish (done : List (Option Node)) : Node :=
  Node.sequence (done.reverse.filterMap id)

mutual

/-- Reads patterns separated by bars, up to the end or a closing parenthesis. -/
def readAlternatives : Nat → State → List Char → Option (List Node × State × List Char)
  | 0, _, _ => none
  | fuel + 1, state, cs => do
    let (node, state, rest) ← readSequence fuel state [] cs
    match rest with
    | '|' :: rest =>
      let (others, state, rest) ← readAlternatives fuel state rest
      return (node :: others, state, rest)
    | rest => return ([node], state, rest)

/-- Reads patterns one after another, up to the end, a bar or a closing parenthesis.  `done` are
those already read, last first, with nothing for a setting of flags. -/
def readSequence : Nat → State → List (Option Node) → List Char → Option (Node × State × List Char)
  | 0, _, _, _ => none
  | fuel + 1, state, done, cs =>
    let flags := state.flags
    let cs := skipSpace flags cs
    match readRepetition flags cs with
    | some none => none
    | some (some (range, rest)) =>
      match done with
      | some node :: done =>
        let (greedy, rest) := takeGreed flags rest
        readSequence fuel state (some (.repeated range.least range.most greedy node) :: done) rest
      | _ => none
    | none =>
      match cs with
      | [] => some (finish done, state, [])
      | '|' :: _ => some (finish done, state, cs)
      | ')' :: _ => some (finish done, state, cs)
      | '(' :: rest => do
        let (opening, rest) ← readOpening flags rest
        match opening with
        | .flags flags => readSequence fuel { state with flags } (none :: done) rest
        | .group inner kept name? =>
          guard (name?.all (fun name => !state.names.contains name))
          let names := name?.toList ++ state.names
          let index := state.groups + 1
          let groups := if kept then index else state.groups
          let (nodes, after, rest) ← readAlternatives fuel { flags := inner, names, groups } rest
          let body := Node.alternatives nodes
          match rest with
          | ')' :: rest =>
            readSequence fuel { after with flags } (some (if kept then .group index body else body) :: done) rest
          | _ => none
      | '[' :: rest => do
        let (s, rest) ← readClass flags (2 * rest.length + 2) rest
        readSequence fuel state (some (.one s) :: done) rest
      | '\\' :: rest => do
        let (escape, rest) ← readEscape flags rest
        let node :=
          match escape with
          | .char c => charNode flags c
          | .set s => .one s
          | .look assertion => .look assertion (!flags.unicode)
        readSequence fuel state (some node :: done) rest
      | '.' :: rest => do
        let node ← dotNode? flags
        readSequence fuel state (some node :: done) rest
      | '^' :: rest => readSequence fuel state (some (startNode flags) :: done) rest
      | '$' :: rest => readSequence fuel state (some (endNode flags) :: done) rest
      | c :: rest => readSequence fuel state (some (charNode flags c) :: done) rest

end

/-! ## Size -/

/-- About how many bytes the pattern takes when it is made ready for searching. -/
def Node.weight : Node → Nat
  | empty => 24
  | one (.range _ hi) => 32 * hi.utf8Size
  | one _ => 2000
  | look _ _ => 24
  | seq first second => first.weight + second.weight
  | alt first second => first.weight + second.weight + 24
  | repeated least most _ body => body.weight * max 1 (max least (most.getD 0)) + 24
  | group _ body => body.weight

/-- The largest weight that a pattern may have. -/
def maxWeight : Nat := 10 * Nat.pow 2 20

/-- The pattern that a text spells, unless it is malformed or too large. -/
def parse? (text : String) : Option Pattern := do
  let cs := text.toList
  let (nodes, _, rest) ← readAlternatives (2 * cs.length + 2) { flags := {}, names := [] } cs
  let node := Node.alternatives nodes
  guard (rest.isEmpty && node.weight ≤ maxWeight)
  return { node }

/-! ## Literal patterns -/

/-- The characters that have a meaning of their own in some pattern. -/
def specialChars : List Char :=
  ['\\', '.', '+', '*', '?', '(', ')', '|', '[', ']', '\x7b', '\x7d', '^', '$', '#', '&', '-', '~']

/-- One character as a pattern that matches it. -/
def escapeChar (c : Char) : List Char :=
  if specialChars.contains c then ['\\', c] else [c]

/-- `escape` on characters. -/
def escapeChars (cs : List Char) : List Char :=
  cs.flatMap escapeChar

/-- A pattern that matches the text and nothing else. -/
def escape (s : String) : String :=
  String.ofList (escapeChars s.toList)

end Pattern
end Scaffold
