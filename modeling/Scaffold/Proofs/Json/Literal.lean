import Mathlib.Algebra.Group.Int.Defs
import Scaffold.Json.Reader
import Scaffold.Json.Writer
import Scaffold.Proofs.Decimal.Digits

namespace Scaffold
namespace Json

/-!
# Literals that are read back

A string literal is written character by character, and each character is read back as itself,
whatever it is: escaped by a letter, by its code point, or not at all.  An integer is written in
decimal digits, and read back as long as it fits into 64 bits and no character follows that could
belong to a number.
-/

/-! ## Strings -/

/-- The code of a control character is the number of the character. -/
theorem hexNumber?_controlCode {c : Char} (control : c.toNat < 32) :
    Text.hexNumber? (controlCode c) = some c.toNat := by
  have all : ∀ n < 32, Text.hexNumber? ['0', '0', Nat.digitChar (n / 16), Nat.digitChar (n % 16)] =
      some n := by decide
  exact all c.toNat control

/-- An escaped character is read back as the character. -/
theorem readLiteral_escapeChar (c : Char) (rest : List Char) :
    readLiteral (escapeChar c ++ rest) = (readLiteral rest).push c := by
  rw [escapeChar]
  split
  · next quote => rw [beq_iff_eq.1 quote]; rfl
  split
  · next backslash => rw [beq_iff_eq.1 backslash]; rfl
  split
  · next mark => rw [beq_iff_eq.1 mark]; rfl
  split
  · next mark => rw [beq_iff_eq.1 mark]; rfl
  split
  · next mark => rw [beq_iff_eq.1 mark]; rfl
  split
  · next mark => rw [beq_iff_eq.1 mark]; rfl
  split
  · next mark => rw [beq_iff_eq.1 mark]; rfl
  split
  · next control =>
    have code := hexNumber?_controlCode control
    have low : ¬ 0xD800 ≤ c.toNat := by omega
    have alsoLow : ¬ 0xDC00 ≤ c.toNat := by omega
    rw [controlCode] at code ⊢
    rw [List.cons_append, List.cons_append, List.cons_append, List.cons_append, List.cons_append, List.cons_append,
      List.nil_append, readLiteral, code]
    simp [low, alsoLow]
  · next notQuote notBackslash _ _ _ _ _ plain =>
    rw [List.singleton_append, readLiteral]
    · rw [if_neg plain]
    all_goals simp_all

/-- A string literal is read back as its characters. -/
theorem readLiteral_quoted (cs rest : List Char) :
    readLiteral (cs.flatMap escapeChar ++ '"' :: rest) = .ok (some cs, rest) := by
  induction cs with
  | nil => rfl
  | cons c others ih =>
    rw [List.flatMap_cons, List.append_assoc, readLiteral_escapeChar, ih]
    rfl

/-! ## Integers -/

/-- A character that may belong to a number. -/
def isNumberPart (c : Char) : Bool :=
  isDigit c || c == '.' || c == 'e' || c == 'E'

/-- No number goes on into the text. -/
def Stops (rest : List Char) : Prop :=
  ∀ c, rest.head? = some c → isNumberPart c = false

theorem isDigit_eq (c : Char) : isDigit c = c.isDigit :=
  rfl

theorem isDigit_of_mem {n : Nat} {c : Char} (member : c ∈ Decimal.digits n) : isDigit c = true := by
  rw [isDigit_eq]
  exact Decimal.isDigit_of_mem_digits member

theorem Stops.head {c : Char} {rest : List Char} (stops : Stops (c :: rest)) :
    isDigit c = false ∧ c ≠ '.' ∧ (c == 'e' || c == 'E') = false := by
  have apart := stops c rfl
  simp only [isNumberPart, Bool.or_eq_false_iff, beq_eq_false_iff_ne] at apart
  simp [apart]

/-- The digits of a number end where the text behind them begins. -/
theorem takeWhile_digits {rest : List Char} (stops : Stops rest) (n : Nat) :
    (Decimal.digits n ++ rest).takeWhile isDigit = Decimal.digits n ∧
      (Decimal.digits n ++ rest).dropWhile isDigit = rest := by
  have all : ∀ c ∈ Decimal.digits n, isDigit c = true := fun c => isDigit_of_mem
  rw [List.takeWhile_append_of_pos all, List.dropWhile_append_of_pos all]
  cases rest with
  | nil => simp
  | cons c others => simp [stops.head.1]

/-- Digits that spell a number below the bound all fit. -/
theorem fillSignificand_of_lt {ds : List Char} {start : Nat} (small : Nat.ofDigitChars 10 ds start < wordBound) :
    fillSignificand start ds = (Nat.ofDigitChars 10 ds start, ds.length, []) := by
  induction ds generalizing start with
  | nil => rfl
  | cons d rest ih =>
    rw [Nat.ofDigitChars_cons, Nat.mul_comm] at small
    have next := Nat.lt_of_le_of_lt (Decimal.le_ofDigitChars rest _) small
    rw [fillSignificand, if_pos next, ih small, Nat.ofDigitChars_cons, Nat.mul_comm]
    rfl

theorem fillSignificand_digits {n : Nat} (small : n < wordBound) :
    fillSignificand 0 (Decimal.digits n) = (n, (Decimal.digits n).length, []) := by
  have value : Nat.ofDigitChars 10 (Decimal.digits n) 0 = n := Nat.ofDigitChars_ten_toDigits
  rw [fillSignificand_of_lt (by rw [value]; exact small), value]

/-- The integers that a document can hold exactly. -/
def FitsWord (n : Int) : Prop :=
  -2 ^ 63 ≤ n ∧ n < 2 ^ 64

theorem readNumberTail_of_stops (negative : Bool) (whole : List Char) {rest : List Char} (stops : Stops rest) :
    readNumberTail negative whole rest = (numberReading negative whole [] none, some rest) := by
  cases rest with
  | nil => rfl
  | cons c others =>
    rcases stops.head with ⟨-, notPoint, notExponent⟩
    rw [readNumberTail]
    · simp [notExponent]
    · rintro more same
      cases same
      exact notPoint rfl

theorem readNumber_digits (negative : Bool) (n : Nat) {rest : List Char} (stops : Stops rest) :
    readNumber negative (Decimal.digits n ++ rest) =
      (numberReading negative (Decimal.digits n) [] none, some rest) := by
  rcases takeWhile_digits stops n with ⟨taken, left⟩
  cases whole : Decimal.digits n with
  | nil => exact absurd whole (Decimal.digits_ne_nil n)
  | cons first others =>
    rw [whole] at taken left
    by_cases zero : first = '0'
    · -- Only the number zero begins with the digit zero.
      subst zero
      have nothing : n = 0 := by
        apply Nat.eq_zero_of_not_pos
        intro positive
        exact Decimal.head?_digits_ne_zero positive (by rw [whole]; rfl)
      subst nothing
      cases whole
      have noMore : rest.head?.any isDigit = false := by
        cases rest with
        | nil => rfl
        | cons c more => exact stops.head.1
      rw [List.cons_append, List.nil_append, readNumber, noMore, readNumberTail_of_stops negative _ stops]
      rfl
    · have digit : isDigit first = true := isDigit_of_mem (by rw [whole]; exact List.mem_cons_self)
      rw [List.cons_append] at taken left ⊢
      rw [readNumber, if_pos digit, taken, left, readNumberTail_of_stops negative _ stops]
      exact zero

theorem numberReading_digits {n : Int} (fits : FitsWord n) :
    numberReading (n < 0) (Decimal.digits n.natAbs) [] none = .integer n := by
  rcases fits with ⟨lower, upper⟩
  have small : n.natAbs < wordBound := by
    have bound : wordBound = 2 ^ 64 := by decide
    omega
  rw [numberReading, fillSignificand_digits small]
  by_cases negative : n < 0
  · have nonzero : n.natAbs ≠ 0 := by omega
    have inRange : ¬ Nat.pow 2 63 < n.natAbs := by
      have bound : Nat.pow 2 63 = 2 ^ 63 := rfl
      omega
    have value : -(n.natAbs : Int) = n := by omega
    have exact : ¬ (n.natAbs == 0 || decide (Nat.pow 2 63 < n.natAbs)) = true := by simp [nonzero, inRange]
    rw [decide_eq_true negative]
    exact (if_pos rfl).trans ((if_neg (by decide)).trans ((if_neg exact).trans (congrArg _ value)))
  · have value : (n.natAbs : Int) = n := by omega
    rw [decide_eq_false negative]
    exact (if_pos rfl).trans ((if_pos rfl).trans (congrArg _ value))

end Json
end Scaffold
