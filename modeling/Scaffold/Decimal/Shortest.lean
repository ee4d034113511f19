namespace Scaffold
namespace Decimal

/-!
# The shortest decimal of a binary fraction

A finite positive double is `m · 2^q`.  All reals between the midpoints to its two neighbours read
back as the same double, the midpoints included when `m` is even.  The shortest decimal is found by
trying 1, 2, … 17 digits: on the grid of that many digits only the two neighbours of the value can
lie in the interval.

The arithmetic is exact: a value is kept as a fraction of natural numbers.
-/

/-- The decimal digits of `n`, most significant first; `0` has the one digit `0`. -/
def digits (n : Nat) : List Char :=
  Nat.toDigits 10 n

/-- A decimal number `significand · 10^exponent`. -/
structure Scientific where
  significand : Nat
  exponent : Int

/-- The fraction `numerator / denominator`. -/
structure Fraction where
  numerator : Nat
  denominator : Nat

namespace Fraction

/-- `m · 2^q` as a fraction. -/
def ofBinary (m : Nat) (q : Int) : Fraction :=
  if q < 0 then ⟨m, Nat.pow 2 (-q).toNat⟩ else ⟨m * Nat.pow 2 q.toNat, 1⟩

/-- The fraction multiplied by `10^e`. -/
def scaled (f : Fraction) (e : Int) : Fraction :=
  if e < 0 then ⟨f.numerator, f.denominator * Nat.pow 10 (-e).toNat⟩
  else ⟨f.numerator * Nat.pow 10 e.toNat, f.denominator⟩

def floor (f : Fraction) : Nat :=
  f.numerator / f.denominator

def lt (a b : Fraction) : Bool :=
  a.numerator * b.denominator < b.numerator * a.denominator

def le (a b : Fraction) : Bool :=
  a.numerator * b.denominator ≤ b.numerator * a.denominator

/-- How many powers of ten, at most `fuel`, a fraction below one has to be multiplied by to reach
one. -/
def leadingZeros (f : Fraction) : Nat → Nat
  | 0 => 0
  | fuel + 1 => if f.numerator ≥ f.denominator then 0
      else leadingZeros ⟨f.numerator * 10, f.denominator⟩ fuel + 1

/-- The exponent of the leading decimal digit. -/
def magnitude (f : Fraction) : Int :=
  if f.numerator ≥ f.denominator then (digits f.floor).length - 1 else -(f.leadingZeros 400 : Int)

end Fraction

/-- The reals that read back as one double. -/
structure Interval where
  value : Fraction
  low : Fraction
  high : Fraction
  closed : Bool

namespace Interval

/-- The interval of `m · 2^q`; `narrow` says that the neighbour below is only half as far as the one
above. -/
def ofBinary (m : Nat) (q : Int) (narrow : Bool) : Interval where
  value := Fraction.ofBinary (4 * m) (q - 2)
  low := Fraction.ofBinary (4 * m - (if narrow then 1 else 2)) (q - 2)
  high := Fraction.ofBinary (4 * m + 2) (q - 2)
  closed := m % 2 == 0

/-- Whether `n · 10^e` lies in the interval. -/
def holds (i : Interval) (n : Nat) (e : Int) : Bool :=
  let point := Fraction.scaled ⟨n, 1⟩ e
  if i.closed then i.low.le point && point.le i.high else i.low.lt point && point.lt i.high

/-- The point nearest to the value on the grid of multiples of `10^e`, if the interval holds one. -/
def onGrid? (i : Interval) (e : Int) : Option Scientific :=
  let units := i.value.scaled (-e)
  let below := units.floor
  let rest := units.numerator % units.denominator
  let nearBelow := 2 * rest < units.denominator || (2 * rest == units.denominator && below % 2 == 0)
  match i.holds below e && below != 0, i.holds (below + 1) e with
  | true, true => some ⟨if nearBelow then below else below + 1, e⟩
  | true, false => some ⟨below, e⟩
  | false, true => some ⟨below + 1, e⟩
  | false, false => none

/-- The first hit on the grids of `n`, `n + 1`, … digits. -/
def shortestFrom (i : Interval) (magnitude : Int) : Nat → Nat → Scientific
  | 0, _ => ⟨i.value.floor, 0⟩
  | fuel + 1, n =>
    match i.onGrid? (magnitude - n + 1) with
    | some found => found
    | none => shortestFrom i magnitude fuel (n + 1)

end Interval

/-- The decimal with the fewest digits that reads back as the finite double `x`, without its
sign. -/
def shortest (x : Float) : Scientific :=
  let bits := x.toBits.toNat
  let exponent := bits / Nat.pow 2 52 % Nat.pow 2 11
  let fraction := bits % Nat.pow 2 52
  if exponent == 0 && fraction == 0 then ⟨0, 0⟩
  else
    let m := if exponent == 0 then fraction else fraction + Nat.pow 2 52
    let q : Int := Int.ofNat (if exponent == 0 then 1 else exponent) - 1075
    let i := Interval.ofBinary m q (fraction == 0 && exponent > 1)
    i.shortestFrom i.value.magnitude 18 1

/-- Whether the sign bit of `x` is set. -/
def isNegative (x : Float) : Bool :=
  x.toBits.toNat / Nat.pow 2 63 == 1

/-- Drops the zeros that the digits end with. -/
def normalized (d : Scientific) : List Char × Int :=
  let all := digits d.significand
  let kept := (all.reverse.dropWhile (· == '0')).reverse
  if kept.isEmpty then (['0'], 0) else (kept, d.exponent + (all.length - kept.length : Nat))

/-- Positional notation: every digit written out, a point only where a fraction follows it. -/
def positional (ds : List Char) (e : Int) : List Char :=
  if 0 ≤ e then ds ++ List.replicate e.toNat '0'
  else
    let places := (-e).toNat
    if places < ds.length then ds.take (ds.length - places) ++ '.' :: ds.drop (ds.length - places)
    else '0' :: '.' :: List.replicate (places - ds.length) '0' ++ ds

/-- The double written out in full, an integral value without a point. -/
def plain (x : Float) : List Char :=
  let (ds, e) := normalized (shortest x)
  (if isNegative x then ['-'] else []) ++ positional ds e

/-- The double as a JSON number that is seen to be no integer: positional with a point where the
leading digit lies between the places `10^-5` and `10^15`, scientific elsewhere. -/
def pointed (x : Float) : List Char :=
  let (ds, e) := normalized (shortest x)
  let point : Int := ds.length + e
  let body :=
    if ds == ['0'] then "0.0".toList
    else if 0 ≤ e && point ≤ 16 then positional ds e ++ ".0".toList
    else if -5 < point && point ≤ 16 then positional ds e
    else
      let tail := 'e' :: (toString (point - 1)).toList
      match ds with
      | [d] => d :: tail
      | d :: rest => d :: '.' :: rest ++ tail
      | [] => []
  (if isNegative x then ['-'] else []) ++ body

end Decimal
end Scaffold
