import Scaffold.Json.Value
import Scaffold.Text.Numeric

namespace Scaffold
namespace Json

/-!
# Reading JSON

The reader never fails: what follows a flaw is not read, and the flaw is left in its place.  A
number without fraction and exponent is an integer as long as it fits into 64 bits, and a double
otherwise.
-/

/-- White space between the tokens of a document. -/
def isGap (c : Char) : Bool :=
  c == ' ' || c == '\n' || c == '\t' || c == '\r'

/-- The text after any white space. -/
def skipGap (cs : List Char) : List Char :=
  cs.dropWhile isGap

/-! ## String literals -/

/-- What a single character after a backslash stands for. -/
def simpleEscape? (c : Char) : Option Char :=
  if c == '"' then some '"'
  else if c == '\\' then some '\\'
  else if c == '/' then some '/'
  else if c == 'b' then some '\x08'
  else if c == 'f' then some '\x0c'
  else if c == 'n' then some '\n'
  else if c == 'r' then some '\r'
  else if c == 't' then some '\t'
  else none

/-- The flaw of an escape of code point that is cut short or holds a character that is no digit. -/
def codeFlaw (rest : List Char) : Flaw :=
  if (String.ofList rest).utf8ByteSize < 4 then .truncated else .malformed

/-- The outcome of reading a string literal: its characters (none when half a surrogate pair is
among them) and the text behind it. -/
abbrev LiteralResult := Except Flaw (Option (List Char) × List Char)

/-- Puts a character before a literal that was read. -/
def LiteralResult.push (c : Char) (result : LiteralResult) : LiteralResult :=
  result.map (fun (found, rest) => (found.map (c :: ·), rest))

/-- Marks a literal as having no value; a flaw behind the half pair is not reached. -/
def LiteralResult.spoil (result : LiteralResult) : LiteralResult :=
  match result with
  | .ok (_, rest) => .ok (none, rest)
  | .error _ => .error .malformed

/-- Reads a string literal from behind its opening quote. -/
def readLiteral : List Char → LiteralResult
  | [] => .error .truncated
  | '"' :: rest => .ok (some [], rest)
  | '\\' :: 'u' :: a :: b :: c :: d :: rest =>
    match Text.hexNumber? [a, b, c, d] with
    | none => .error (codeFlaw (a :: b :: c :: d :: rest))
    | some code =>
      if 0xD800 ≤ code && code < 0xDC00 then
        let alone := fun (_ : Unit) => (readLiteral rest).spoil
        match rest with
        | [] => .error .truncated
        | ['\\'] => .error .truncated
        | '\\' :: 'u' :: a :: b :: c :: d :: more =>
          match Text.hexNumber? [a, b, c, d] with
          | none => .error (codeFlaw (a :: b :: c :: d :: more))
          | some low =>
            if 0xDC00 ≤ low && low < 0xE000 then
              (readLiteral more).push (Char.ofNat (0x10000 + (code - 0xD800) * 0x400 + (low - 0xDC00)))
            else (readLiteral more).spoil
        | _ => alone ()
      else if 0xDC00 ≤ code && code < 0xE000 then (readLiteral rest).spoil
      else (readLiteral rest).push (Char.ofNat code)
  | ['\\'] => .error .truncated
  | '\\' :: c :: rest =>
    if c == 'u' then .error (codeFlaw rest)
    else
      match simpleEscape? c with
      | some c => (readLiteral rest).push c
      | none => .error .malformed
  | c :: rest => if c.toNat < 32 then .error .malformed else (readLiteral rest).push c

/-! ## Numbers -/

/-- Whether `c` is an ASCII digit. -/
def isDigit (c : Char) : Bool :=
  '0' ≤ c && c ≤ '9'

/-- The number that a list of digits spells. -/
def digitsValue (ds : List Char) : Nat :=
  ds.foldl (fun n d => n * 10 + (d.toNat - '0'.toNat)) 0

/-- The first bound that a 64-bit number without sign does not reach. -/
def wordBound : Nat := Nat.pow 2 64

/-- Reads digits into a 64-bit significand; gives it with the number of digits read and those left
over where the next one would not fit. -/
def fillSignificand (significand : Nat) : List Char → Nat × Nat × List Char
  | [] => (significand, 0, [])
  | d :: rest =>
    let next := significand * 10 + (d.toNat - '0'.toNat)
    if next < wordBound then
      let (found, count, left) := fillSignificand next rest
      (found, count + 1, left)
    else (significand, 0, d :: rest)

/-- The double nearest to `significand · 10^exponent` as one multiplication or division gives it, in
at most `fuel` steps of `10^308` for exponents beyond the range of a double; none when it is too
large. -/
def scaleFloat (x : Float) (exponent : Int) : Nat → Option Float
  | 0 => some x
  | fuel + 1 =>
    if exponent.natAbs ≤ 308 then
      let power := Float.ofScientific 1 false exponent.natAbs
      if 0 ≤ exponent then
        let y := x * power
        if y.isInf then none else some y
      else some (x / power)
    else if x == 0 then some x
    else if 0 ≤ exponent then none
    else scaleFloat (x / Float.ofScientific 1 false 308) (exponent + 308) fuel

/-- The double that a significand and an exponent stand for, with its sign. -/
def floatReading (negative : Bool) (significand : Nat) (exponent : Int) : Reading :=
  match scaleFloat significand.toUInt64.toFloat exponent (exponent.natAbs / 308 + 2) with
  | some x => .float (if negative then -x else x)
  | none => .unreadable

/-- The value of a number given by its whole digits, its fraction digits and its exponent. -/
def numberReading (negative : Bool) (whole fraction : List Char) (exponent : Option Int) : Reading :=
  let (base, _, left) := fillSignificand 0 whole
  if fraction.isEmpty && exponent.isNone && left.isEmpty then
    if !negative then .integer base
    else if base == 0 || Nat.pow 2 63 < base then .float (-base.toUInt64.toFloat)
    else .integer (-base)
  else if left.isEmpty then
    let (significand, count, _) := fillSignificand base fraction
    floatReading negative significand (exponent.getD 0 - count)
  else floatReading negative base (exponent.getD 0 + left.length)

/-- Reads the digits of an exponent from behind the letter `e`. -/
def readExponent (cs : List Char) : Except Flaw (Int × List Char) :=
  let (negative, rest) :=
    match cs with
    | '-' :: rest => (true, rest)
    | '+' :: rest => (false, rest)
    | _ => (false, cs)
  match rest.takeWhile isDigit with
  | [] => .error (if rest.isEmpty then .truncated else .malformed)
  | ds =>
    let n : Int := digitsValue ds
    .ok (if negative then -n else n, rest.dropWhile isDigit)

/-- Reads what follows the digits of a number: an optional fraction and an optional exponent. -/
def readNumberTail (negative : Bool) (whole cs : List Char) : Reading × Option (List Char) :=
  let fraction : Except Flaw (List Char × List Char) :=
    match cs with
    | '.' :: rest =>
      match rest.takeWhile isDigit with
      | [] => .error (if rest.isEmpty then .truncated else .malformed)
      | ds => .ok (ds, rest.dropWhile isDigit)
    | _ => .ok ([], cs)
  match fraction with
  | .error flaw => (.broken flaw, none)
  | .ok (ds, rest) =>
    match rest with
    | c :: more =>
      if c == 'e' || c == 'E' then
        match readExponent more with
        | .error flaw => (.broken flaw, none)
        | .ok (exponent, rest) => (numberReading negative whole ds (some exponent), some rest)
      else (numberReading negative whole ds none, some rest)
    | [] => (numberReading negative whole ds none, some [])

/-- Reads a number from behind its sign. -/
def readNumber (negative : Bool) : List Char → Reading × Option (List Char)
  | [] => (.broken .truncated, none)
  | '0' :: rest =>
    if rest.head?.any isDigit then (.broken .malformed, none) else readNumberTail negative ['0'] rest
  | c :: rest =>
    if isDigit c then
      readNumberTail negative ((c :: rest).takeWhile isDigit) ((c :: rest).dropWhile isDigit)
    else (.broken .malformed, none)

/-! ## Values -/

/-- Reads the rest of one of the words `null`, `true` and `false`. -/
def readWord (reading : Reading) : List Char → List Char → Reading × Option (List Char)
  | [], rest => (reading, some rest)
  | _ :: _, [] => (.broken .truncated, none)
  | expected :: word, c :: rest =>
    if c == expected then readWord reading word rest else (.broken .malformed, none)

mutual

/-- Reads one value that begins at the first character.  The text behind it is given when it has no
flaw. -/
def readValue : Nat → List Char → Reading × Option (List Char)
  | 0, _ => (.broken .truncated, none)
  | _ + 1, [] => (.broken .truncated, none)
  | fuel + 1, c :: rest =>
    if c == '"' then
      match readLiteral rest with
      | .ok (some cs, rest) => (.string (String.ofList cs), some rest)
      | .ok (none, rest) => (.unreadable, some rest)
      | .error flaw => (.broken flaw, none)
    else if c == '[' then
      match skipGap rest with
      | [] => (.array [] (some .truncated), none)
      | ']' :: rest => (.array [] none, some rest)
      | first =>
        let (items, flaw, rest) := readItems fuel first
        (.array items flaw, rest)
    else if c == '\x7b' then
      match skipGap rest with
      | [] => (.object [] (some .truncated), none)
      | '\x7d' :: rest => (.object [] none, some rest)
      | first =>
        let (members, flaw, rest) := readMembers fuel first
        (.object members flaw, rest)
    else if c == 'n' then readWord .null "ull".toList rest
    else if c == 't' then readWord (.bool true) "rue".toList rest
    else if c == 'f' then readWord (.bool false) "alse".toList rest
    else if c == '-' then readNumber true rest
    else if isDigit c then readNumber false (c :: rest)
    else (.broken .malformed, none)

/-- Reads the items of an array from the first character of one of them. -/
def readItems : Nat → List Char → List Reading × Option Flaw × Option (List Char)
  | 0, _ => ([.broken .truncated], none, none)
  | fuel + 1, cs =>
    match readValue fuel cs with
    | (item, none) => ([item], none, none)
    | (item, some rest) =>
      match skipGap rest with
      | [] => ([item], some .truncated, none)
      | ']' :: rest => ([item], none, some rest)
      | ',' :: rest =>
        match skipGap rest with
        | ']' :: _ => ([item, .broken .malformed], none, none)
        | next =>
          let (items, flaw, rest) := readItems fuel next
          (item :: items, flaw, rest)
      | _ => ([item], some .malformed, none)

/-- Reads the members of an object from the first character of one of them. -/
def readMembers : Nat → List Char → List (String × Reading) × Option Flaw × Option (List Char)
  | 0, _ => ([], some .truncated, none)
  | fuel + 1, cs =>
    match cs with
    | [] => ([], some .truncated, none)
    | '"' :: rest =>
      match readLiteral rest with
      | .error flaw => ([], some flaw, none)
      | .ok (none, _) => ([], some .malformed, none)
      | .ok (some key, rest) =>
        let key := String.ofList key
        match skipGap rest with
        | [] => ([(key, .broken .truncated)], none, none)
        | ':' :: rest =>
          match readValue fuel (skipGap rest) with
          | (value, none) => ([(key, value)], none, none)
          | (value, some rest) =>
            match skipGap rest with
            | [] => ([(key, value)], some .truncated, none)
            | '\x7d' :: rest => ([(key, value)], none, some rest)
            | ',' :: rest =>
              let (members, flaw, rest) := readMembers fuel (skipGap rest)
              ((key, value) :: members, flaw, rest)
            | _ => ([(key, value)], some .malformed, none)
        | _ => ([(key, .broken .malformed)], none, none)
    | _ => ([], some .malformed, none)

end

/-- What was read of a whole text: the value it begins with, and whether something else follows. -/
structure Document where
  reading : Reading
  trailing : Bool

/-- Reads a whole text. -/
def read (text : String) : Document :=
  let cs := text.toList
  match readValue (2 * cs.length + 2) (skipGap cs) with
  | (reading, some rest) => { reading, trailing := !(skipGap rest).isEmpty }
  | (reading, none) => { reading, trailing := false }

/-- The document that a text is, or its first flaw. -/
def parse (text : String) : Except Flaw Value := do
  let document := read text
  let value ← document.reading.value?
  if document.trailing then .error .malformed else .ok value

end Json
end Scaffold
