namespace Scaffold
namespace Text

/-!
# Sets and maps of code points

A property of characters is a list of evenly spaced stretches of code points: most stretches are
intervals, and the alternation of upper and lower case in many alphabets is a stretch of step two.
-/

/-- The code points `lo`, `lo + step`, … up to `hi`. -/
structure Stride where
  lo : Nat
  hi : Nat
  step : Nat

namespace Stride

/-- Whether `n` is one of the code points of the stretch. -/
def holds (stretch : Stride) (n : Nat) : Bool :=
  stretch.lo ≤ n && n ≤ stretch.hi && (n - stretch.lo) % stretch.step == 0

/-- Whether `n` lies in one of the stretches of the table. -/
def covers (table : List Stride) (n : Nat) : Bool :=
  table.any (fun stretch => stretch.holds n)

end Stride

/-- A stretch of code points that are all moved by the same distance. -/
structure Shift where
  stretch : Stride
  distance : Int

namespace Shift

/-- Moves `n` by the distance of the stretch that holds it, and leaves it alone when none does. -/
def apply (table : List Shift) (n : Nat) : Nat :=
  match table.find? (fun shift => shift.stretch.holds n) with
  | some shift => (n + shift.distance).toNat
  | none => n

end Shift

end Text
end Scaffold
