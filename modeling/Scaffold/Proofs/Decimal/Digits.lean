import Mathlib.Algebra.Group.Nat.Defs
import Scaffold.Decimal.Shortest

namespace Scaffold
namespace Decimal

/-!
# Decimal digits

The digits of a number are ASCII digits, begin with a zero only when the number is zero, and spell
the number.
-/

theorem digits_ne_nil (n : Nat) : digits n ≠ [] :=
  Nat.toDigits_ne_nil

theorem isDigit_of_mem_digits {n : Nat} {c : Char} (member : c ∈ digits n) : c.isDigit = true :=
  Nat.isDigit_of_mem_toDigits (by decide) (by decide) member

theorem head?_digits_ne_zero {n : Nat} (positive : 0 < n) : (digits n).head? ≠ some '0' := by
  induction n using Nat.strongRecOn with
  | ind n ih =>
    rw [digits]
    by_cases small : n < 10
    · rw [Nat.toDigits_of_lt_base small]
      simp only [List.head?_cons, ne_eq, Option.some.injEq, Nat.digitChar_eq_zero]
      omega
    · have begins := ih (n / 10) (by omega) (by omega)
      rw [digits, List.head?_eq_some_head Nat.toDigits_ne_nil] at begins
      rw [Nat.toDigits_of_base_le (by decide) (by omega), List.head?_append,
        List.head?_eq_some_head Nat.toDigits_ne_nil, Option.some_or]
      exact begins

theorem length_digits_le {n width : Nat} (positive : 0 < width) (small : n < 10 ^ width) :
    (digits n).length ≤ width :=
  (Nat.length_toDigits_le_iff (by decide) positive).2 small

/-- Digits spell a number from the left. -/
theorem foldl_eq_ofDigitChars (ds : List Char) (start : Nat) :
    ds.foldl (fun n d => n * 10 + (d.toNat - '0'.toNat)) start = Nat.ofDigitChars 10 ds start := by
  rw [Nat.ofDigitChars_eq_foldl]
  congr 1
  funext n d
  rw [Nat.mul_comm]

/-- What digits begin with only grows when more of them follow. -/
theorem le_ofDigitChars (ds : List Char) (start : Nat) : start ≤ Nat.ofDigitChars 10 ds start := by
  induction ds generalizing start with
  | nil => exact Nat.le_refl _
  | cons d rest ih =>
    rw [Nat.ofDigitChars_cons]
    have more := ih (10 * start + (d.toNat - '0'.toNat))
    omega

/-- Different numbers are written differently. -/
theorem eq_of_repr_eq {m n : Nat} (same : m.repr = n.repr) : m = n := by
  have digits : Nat.toDigits 10 m = Nat.toDigits 10 n := by
    simpa only [Nat.repr, String.toList_ofList] using congrArg String.toList same
  rw [← Nat.ofDigitChars_toDigits (b := 10) (n := m) (by decide) (by decide), digits,
    Nat.ofDigitChars_toDigits (by decide) (by decide)]

end Decimal
end Scaffold
