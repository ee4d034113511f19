import Scaffold.Decimal.Shortest
import Scaffold.Text.Blank

namespace Scaffold

/-!
# Points in time

An instant is kept as its civil date and time of day in UTC, to the nanosecond.  It is written in
the form `2020-01-02T03:04:05.678Z`, with the fewest of 0, 3, 6 or 9 fraction digits that are exact,
and read from a relaxed form of the same notation in any time zone.
-/

/-- A day of the proleptic Gregorian calendar. -/
structure Date where
  year : Int
  month : Nat
  day : Nat
  deriving DecidableEq, Repr, Inhabited

namespace Date

def isLeapYear (year : Int) : Bool :=
  year % 4 == 0 && (year % 100 != 0 || year % 400 == 0)

/-- The number of days of a month. -/
def daysIn (year : Int) (month : Nat) : Nat :=
  if month == 2 then (if isLeapYear year then 29 else 28)
  else if month == 4 || month == 6 || month == 9 || month == 11 then 30
  else 31

/-- The years that a date can have. -/
def yearInRange (year : Int) : Bool :=
  -262143 ≤ year && year ≤ 262142

/-- Whether the numbers name a day. -/
def isValid (d : Date) : Bool :=
  yearInRange d.year && 1 ≤ d.month && d.month ≤ 12 && 1 ≤ d.day && d.day ≤ daysIn d.year d.month

/-- The day after. -/
def next (d : Date) : Date :=
  if d.day < daysIn d.year d.month then { d with day := d.day + 1 }
  else if d.month < 12 then { d with month := d.month + 1, day := 1 }
  else { year := d.year + 1, month := 1, day := 1 }

/-- The day before. -/
def previous (d : Date) : Date :=
  if 1 < d.day then { d with day := d.day - 1 }
  else if 1 < d.month then { d with month := d.month - 1, day := daysIn d.year (d.month - 1) }
  else { year := d.year - 1, month := 12, day := 31 }

end Date

/-- A point in time in UTC.  During a leap second the nanoseconds go on counting from 10⁹. -/
structure Instant where
  date : Date
  hour : Nat
  minute : Nat
  second : Nat
  nano : Nat
  deriving DecidableEq, Repr, Inhabited

namespace Instant

/-! ## Writing -/

/-- The digits of `n`, with zeros in front up to the given width. -/
def padded (width n : Nat) : List Char :=
  let ds := Decimal.digits n
  List.replicate (width - ds.length) '0' ++ ds

/-- The year with four digits; outside 0 to 9999 it has a sign. -/
def yearText (year : Int) : List Char :=
  if 0 ≤ year && year ≤ 9999 then padded 4 year.natAbs
  else (if year < 0 then '-' else '+') :: padded 4 year.natAbs

/-- A point and the fraction of a second, or nothing when it is zero. -/
def fractionText (nano : Nat) : List Char :=
  if nano == 0 then []
  else if nano % 1000000 == 0 then '.' :: padded 3 (nano / 1000000)
  else if nano % 1000 == 0 then '.' :: padded 6 (nano / 1000)
  else '.' :: padded 9 nano

/-- The date and time of day, without a time zone. -/
def localText (t : Instant) : List Char :=
  yearText t.date.year ++ '-' :: padded 2 t.date.month ++ '-' :: padded 2 t.date.day
    ++ 'T' :: padded 2 t.hour ++ ':' :: padded 2 t.minute ++ ':' :: padded 2 (t.second + t.nano / 1000000000)
    ++ fractionText (t.nano % 1000000000)

/-- The instant with the time zone written `Z`, as documents hold it. -/
def zuluText (t : Instant) : String :=
  String.ofList (localText t ++ ['Z'])

/-- The instant with the time zone written `+00:00`, as listings show it. -/
def offsetText (t : Instant) : String :=
  String.ofList (localText t ++ "+00:00".toList)

/-! ## Counting -/

/-- The instant that many nanoseconds after the beginning of 1970. -/
def ofEpoch (nanoseconds : Nat) : Instant :=
  let seconds := nanoseconds / 1000000000
  { date := Nat.repeat Date.next (seconds / 86400) { year := 1970, month := 1, day := 1 }
    hour := seconds / 3600 % 24
    minute := seconds / 60 % 60
    second := seconds % 60
    nano := nanoseconds % 1000000000 }

/-! ## Reading -/

/-- A step of the reader: what it found and the text behind it. -/
abbrev Step (α : Type) := List Char → Option (α × List Char)

/-- Up to `most` digits, at least one. -/
def readDigits (most : Nat) : Step (List Char) := fun cs =>
  let ds := (cs.take most).takeWhile Char.isDigit
  if ds.isEmpty then none else some (ds, cs.drop ds.length)

/-- The number that digits spell. -/
def digitsValue (ds : List Char) : Nat :=
  ds.foldl (fun n d => n * 10 + (d.toNat - '0'.toNat)) 0

/-- A number of at most `width` digits after any white space. -/
def readNumber (width : Nat) : Step Nat := fun cs => do
  let (ds, rest) ← readDigits width (Text.trimStart cs)
  return (digitsValue ds, rest)

/-- A year after any white space: four digits at most, or a sign and any number of digits. -/
def readYear : Step Int := fun cs =>
  let signed (negative : Bool) (rest : List Char) : Option (Int × List Char) := do
    let (ds, rest) ← readDigits rest.length rest
    let n : Int := digitsValue ds
    return (if negative then -n else n, rest)
  match Text.trimStart cs with
  | '-' :: rest => signed true rest
  | '+' :: rest => signed false rest
  | rest => do
    let (n, rest) ← readNumber 4 rest
    return (n, rest)

/-- The given mark, with white space allowed on both sides. -/
def readMark (mark : Char) : Step Unit := fun cs =>
  match Text.trimStart cs with
  | c :: rest => if c == mark then some ((), Text.trimStart rest) else none
  | [] => none

/-- The letter or blank between date and time. -/
def readSeparator : Step Unit
  | c :: rest => if c == 'T' || c == 't' || c == ' ' then some ((), rest) else none
  | [] => none

/-- An optional fraction of a second in nanoseconds; digits beyond the ninth are passed over. -/
def readFraction : Step Nat
  | '.' :: rest => do
    let (ds, rest) ← readDigits 9 rest
    return (digitsValue ds * Nat.pow 10 (9 - ds.length), rest.dropWhile Char.isDigit)
  | cs => some (0, cs)

/-- Two digits of which the first is below `bound`. -/
def readPair (bound : Char) : Step Nat
  | a :: b :: rest =>
    if a.isDigit && a < bound && b.isDigit then some (digitsValue [a, b], rest) else none
  | _ => none

/-- A time zone: the letter `Z`, the name `UTC`, or a signed offset; in minutes east of UTC. -/
def readZone (cs : List Char) : Option (Int × List Char) :=
  let signed (negative : Bool) (rest : List Char) : Option (Int × List Char) := do
    let (hours, rest) ← readPair ':' rest
    let (minutes, rest) ← readPair '6' (rest.dropWhile (fun c => c == ':' || Text.isBlank c))
    let east : Int := hours * 60 + minutes
    if hours < 24 then return (if negative then -east else east, rest) else none
  if (cs.take 3).map Char.toUpper == "UTC".toList then some (0, cs.drop 3)
  else
    match cs with
    | 'Z' :: rest => some (0, rest)
    | 'z' :: rest => some (0, rest)
    | '+' :: rest => signed false rest
    | '-' :: rest => signed true rest
    | '−' :: rest => signed true rest
    | _ => none

/-- The same instant in UTC, given its local time and the offset of the zone in minutes. -/
def toUniversal (t : Instant) (east : Int) : Instant :=
  let minutes : Int := t.hour * 60 + t.minute - east
  let date :=
    if minutes < 0 then t.date.previous else if minutes < 1440 then t.date else t.date.next
  let inDay := (minutes % 1440).toNat
  { t with date, hour := inDay / 60, minute := inDay % 60 }

/-- The instant that a text denotes, if it denotes one. -/
def parse? (text : String) : Option Instant := do
  let (year, rest) ← readYear text.toList
  let ((), rest) ← readMark '-' rest
  let (month, rest) ← readNumber 2 rest
  let ((), rest) ← readMark '-' rest
  let (day, rest) ← readNumber 2 rest
  let ((), rest) ← readSeparator rest
  let (hour, rest) ← readNumber 2 rest
  let ((), rest) ← readMark ':' rest
  let (minute, rest) ← readNumber 2 rest
  let ((), rest) ← readMark ':' rest
  let (second, rest) ← readNumber 2 rest
  let (nano, rest) ← readFraction rest
  let (east, rest) ← readZone (Text.trimStart rest)
  let date : Date := { year, month, day }
  guard ((Text.trimStart rest).isEmpty && date.isValid && hour < 24 && minute < 60 && second ≤ 60)
  let (second, nano) := if second == 60 then (59, nano + 1000000000) else (second, nano)
  let result := toUniversal { date, hour, minute, second, nano } east
  guard (Date.yearInRange result.date.year)
  return result

end Instant
end Scaffold
