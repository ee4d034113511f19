import Mathlib.Algebra.Group.Nat.Defs
import Scaffold.Instant
import Scaffold.Proofs.Decimal.Digits

namespace Scaffold
namespace Instant

/-!
# Instants that are read back

Each part of an instant is written with a fixed number of digits, so that it is read back whatever
follows.  Only the fraction has a varying number of them; it loses trailing zeros in groups of
three, and a fraction that is cut short is scaled up again by the reader.
-/

/-- An instant of the years 0 to 9999 that is not in a leap second. -/
structure IsPlain (t : Instant) : Prop where
  date : t.date.isValid = true
  year : 0 ≤ t.date.year ∧ t.date.year ≤ 9999
  hour : t.hour < 24
  minute : t.minute < 60
  second : t.second < 60
  nano : t.nano < 1000000000

/-! ## Numbers of a fixed width -/

variable {width n : Nat}

theorem isDigit_of_mem_padded {c : Char} (member : c ∈ padded width n) : c.isDigit = true := by
  rcases List.mem_append.1 member with zero | digit
  · rw [List.eq_of_mem_replicate zero]
    rfl
  · exact Decimal.isDigit_of_mem_digits digit

theorem length_padded (wide : 0 < width) (small : n < 10 ^ width) : (padded width n).length = width := by
  have short := Decimal.length_digits_le wide small
  rw [padded, List.length_append, List.length_replicate]
  omega

theorem digitsValue_padded (width n : Nat) : digitsValue (padded width n) = n := by
  rw [digitsValue, Decimal.foldl_eq_ofDigitChars, padded, Nat.ofDigitChars_append, Nat.ofDigitChars_replicate_zero]
  exact Nat.ofDigitChars_ten_toDigits

/-- The text begins with a digit, and so with no white space and no sign. -/
def BeginsDigit (cs : List Char) : Prop :=
  ∃ c rest, cs = c :: rest ∧ c.isDigit = true

theorem beginsDigit_padded (width n : Nat) (rest : List Char) : BeginsDigit (padded width n ++ rest) := by
  cases text : padded width n with
  | nil => exact absurd (List.append_eq_nil_iff.1 text).2 (Decimal.digits_ne_nil n)
  | cons c others => exact ⟨c, others ++ rest, rfl, isDigit_of_mem_padded (by rw [text]; exact List.mem_cons_self)⟩

theorem isBlank_of_isDigit {c : Char} (digit : c.isDigit = true) : Text.isBlank c = false := by
  simp only [Char.isDigit, Bool.and_eq_true, decide_eq_true_eq, UInt32.le_iff_toNat_le] at digit
  have lower : 48 ≤ c.toNat := digit.1
  have upper : c.toNat ≤ 57 := digit.2
  simp only [Text.isBlank, Bool.or_eq_false_iff, Bool.and_eq_false_iff, decide_eq_false_iff_not,
    beq_eq_false_iff_ne]
  omega

theorem BeginsDigit.trimStart {cs : List Char} (begins : BeginsDigit cs) : Text.trimStart cs = cs := by
  rcases begins with ⟨c, rest, rfl, digit⟩
  exact List.dropWhile_cons_of_neg (by simp [isBlank_of_isDigit digit])

/-- Up to nine digits are taken to their end when something else follows. -/
theorem readDigits_append {ds rest : List Char} {most : Nat} (digits : ∀ c ∈ ds, c.isDigit = true) (some : ds ≠ [])
    (short : ds.length ≤ most) (ends : ds.length = most ∨ ∀ c, rest.head? = .some c → c.isDigit = false) :
    readDigits most (ds ++ rest) = .some (ds, rest) := by
  have taken : ((ds ++ rest).take most).takeWhile Char.isDigit = ds := by
    rw [List.take_append, List.take_of_length_le short, List.takeWhile_append_of_pos digits]
    rcases ends with full | ends
    · simp [full]
    · cases rest with
      | nil => simp
      | cons c others => cases most - ds.length <;> simp [ends c rfl]
  rw [readDigits]
  simp [taken, some]

theorem readNumber_padded {width : Nat} (wide : 0 < width) (small : n < 10 ^ width) (rest : List Char) :
    readNumber width (padded width n ++ rest) = some (n, rest) := by
  have length := length_padded wide small
  have digits : ∀ c ∈ padded width n, c.isDigit = true := fun c => isDigit_of_mem_padded
  have solid : padded width n ≠ [] := List.ne_nil_of_length_pos (by rw [length]; exact wide)
  rw [readNumber, (beginsDigit_padded width n rest).trimStart,
    readDigits_append digits solid (Nat.le_of_eq length) (.inl length)]
  dsimp only [bind, Option.bind, pure]
  rw [digitsValue_padded]

theorem readYear_padded (small : n < 10 ^ 4) (rest : List Char) :
    readYear (padded 4 n ++ rest) = some ((n : Int), rest) := by
  have read : readNumber 4 (padded 4 n ++ rest) = some (n, rest) := readNumber_padded (by decide) small rest
  rcases beginsDigit_padded 4 n rest with ⟨c, others, text, digit⟩
  have start := (beginsDigit_padded 4 n rest).trimStart
  rw [text] at read start ⊢
  rw [readYear, start]
  split
  · next same => cases same; cases digit
  · next same => cases same; cases digit
  · rw [read]
    rfl

/-- A mark before a number. -/
theorem readMark_padded {mark : Char} (solid : Text.isBlank mark = false) (width n : Nat) (rest : List Char) :
    readMark mark (mark :: (padded width n ++ rest)) = some ((), padded width n ++ rest) := by
  have start : Text.trimStart (mark :: (padded width n ++ rest)) = mark :: (padded width n ++ rest) :=
    List.dropWhile_cons_of_neg (by simp [solid])
  rw [readMark, start]
  simp [(beginsDigit_padded width n rest).trimStart]

/-! ## Fractions -/

theorem readFraction_padded (width scale : Nat) (wide : 0 < width) (short : width + scale = 9)
    (small : n < 10 ^ width) :
    readFraction ('.' :: padded width n ++ ['Z']) = some (n * 10 ^ scale, ['Z']) := by
  have length := length_padded wide small
  have digits : ∀ c ∈ padded width n, c.isDigit = true := fun c => isDigit_of_mem_padded
  have solid : padded width n ≠ [] := List.ne_nil_of_length_pos (by rw [length]; exact wide)
  have ends : ∀ c, ['Z'].head? = some c → c.isDigit = false := by
    rintro c first
    cases first
    rfl
  have scaled : 9 - width = scale := by omega
  rw [List.cons_append, readFraction, readDigits_append digits solid (by omega) (.inr ends)]
  dsimp only [bind, Option.bind, pure]
  rw [digitsValue_padded, length, scaled]
  rfl

/-- The fraction of a second is read back, with however many digits it is written. -/
theorem readFraction_fractionText {nano : Nat} (small : nano < 1000000000) :
    readFraction (fractionText nano ++ ['Z']) = some (nano, ['Z']) := by
  rw [fractionText]
  split
  · next zero => rw [beq_iff_eq.1 zero]; rfl
  split
  · next milli =>
    have value : nano / 1000000 * 10 ^ 6 = nano := by have whole := beq_iff_eq.1 milli; omega
    rw [readFraction_padded 3 6 (by decide) rfl (by omega), value]
  split
  · next micro =>
    have value : nano / 1000 * 10 ^ 3 = nano := by have whole := beq_iff_eq.1 micro; omega
    rw [readFraction_padded 6 3 (by decide) rfl (by omega), value]
  · rw [readFraction_padded 9 0 (by decide) rfl (by omega), Nat.pow_zero, Nat.mul_one]

/-! ## Whole instants -/

theorem daysIn_le (year : Int) (month : Nat) : Date.daysIn year month ≤ 31 := by
  rw [Date.daysIn]
  split
  · split <;> decide
  · split <;> decide

/-- The numbers of a date have at most two digits. -/
theorem bounds_of_isValid {date : Date} (valid : date.isValid = true) :
    date.month < 10 ^ 2 ∧ date.day < 10 ^ 2 ∧ Date.yearInRange date.year = true := by
  simp only [Date.isValid, Bool.and_eq_true, decide_eq_true_eq] at valid
  have days := daysIn_le date.year date.month
  rcases valid with ⟨⟨⟨⟨year, -⟩, month⟩, -⟩, day⟩
  exact ⟨by omega, by omega, year⟩

theorem toUniversal_zero {t : Instant} (hour : t.hour < 24) (minute : t.minute < 60) : toUniversal t 0 = t := by
  rcases t with ⟨date, hours, minutes, second, nano⟩
  dsimp only at hour minute
  have count : ((hours : Int) * 60 + minutes - 0) % 1440 = ((hours * 60 + minutes : Nat) : Int) := by omega
  have before : ¬ ((hours : Int) * 60 + minutes - 0 < 0) := by omega
  have after : (hours : Int) * 60 + minutes - 0 < 1440 := by omega
  have hourBack : (hours * 60 + minutes) / 60 = hours := by omega
  have minuteBack : (hours * 60 + minutes) % 60 = minutes := by omega
  simp only [toUniversal, count, before, after, if_true, if_false, Int.toNat_natCast, hourBack, minuteBack]

/-- A reader that succeeds hands on what it has read. -/
theorem bind_of_eq_some {α β : Type} {read : Option α} {value : α} (next : α → Option β)
    (found : read = some value) :
    (read >>= next) = next value := by
  rw [found]
  rfl

/-- The text of an instant part by part. -/
theorem toList_zuluText {number month day hour minute second nano : Nat} (fits : number ≤ 9999)
    (small : nano < 1000000000) :
    (zuluText ⟨⟨number, month, day⟩, hour, minute, second, nano⟩).toList =
      padded 4 number ++ '-' :: (padded 2 month ++ '-' :: (padded 2 day ++ 'T' :: (padded 2 hour ++ ':' ::
        (padded 2 minute ++ ':' :: (padded 2 second ++ (fractionText nano ++ ['Z'])))))) := by
  have whole : second + nano / 1000000000 = second := by omega
  have part : nano % 1000000000 = nano := by omega
  have inRange : (0 ≤ (number : Int) && (number : Int) ≤ 9999) = true := by
    rw [Bool.and_eq_true, decide_eq_true_eq, decide_eq_true_eq]
    omega
  rw [zuluText, String.toList_ofList]
  simp only [localText, yearText, inRange, if_true, Int.natAbs_natCast, whole, part, List.append_assoc,
    List.cons_append]

/-- A plain instant is read back from its text. -/
theorem parse?_zuluText {t : Instant} (plain : t.IsPlain) : parse? t.zuluText = some t := by
  rcases t with ⟨⟨year, month, day⟩, hour, minute, second, nano⟩
  rcases plain with ⟨valid, ⟨start, finish⟩, hours, minutes, seconds, small⟩
  dsimp only at valid start finish hours minutes seconds small
  rcases Int.eq_ofNat_of_zero_le start with ⟨number, rfl⟩
  rcases bounds_of_isValid valid with ⟨shortMonth, shortDay, yearFits⟩
  have notLeap : ¬ (second == 60) = true := by
    rw [beq_iff_eq]
    omega
  have separator : ∀ rest, readSeparator ('T' :: rest) = some ((), rest) := fun _ => rfl
  have zone : readZone (Text.trimStart ['Z']) = some (0, []) := by decide
  -- Each reader takes its own part of the text and leaves the rest to the next one.
  rw [parse?, toList_zuluText (by omega) small]
  refine (bind_of_eq_some _ (readYear_padded (by omega) _)).trans ?_
  refine (bind_of_eq_some _ (readMark_padded rfl 2 month _)).trans ?_
  refine (bind_of_eq_some _ (readNumber_padded (by decide) shortMonth _)).trans ?_
  refine (bind_of_eq_some _ (readMark_padded rfl 2 day _)).trans ?_
  refine (bind_of_eq_some _ (readNumber_padded (by decide) shortDay _)).trans ?_
  refine (bind_of_eq_some _ (separator _)).trans ?_
  refine (bind_of_eq_some _ (readNumber_padded (by decide) (by omega) _)).trans ?_
  refine (bind_of_eq_some _ (readMark_padded rfl 2 minute _)).trans ?_
  refine (bind_of_eq_some _ (readNumber_padded (by decide) (by omega) _)).trans ?_
  refine (bind_of_eq_some _ (readMark_padded rfl 2 second _)).trans ?_
  refine (bind_of_eq_some _ (readNumber_padded (by decide) (by omega) _)).trans ?_
  refine (bind_of_eq_some _ (readFraction_fractionText small)).trans ?_
  refine (bind_of_eq_some _ zone).trans ?_
  have settled : toUniversal ⟨⟨number, month, day⟩, hour, minute, second, nano⟩ 0 =
      ⟨⟨number, month, day⟩, hour, minute, second, nano⟩ := toUniversal_zero hours minutes
  have accepted : ((Text.trimStart []).isEmpty && (⟨number, month, day⟩ : Date).isValid && hour < 24 && minute < 60
      && second ≤ 60) = true := by
    have ended : (Text.trimStart []).isEmpty = true := rfl
    have notLong : second ≤ 60 := by omega
    simp [ended, valid, hours, minutes, notLong]
  refine (bind_of_eq_some _ (if_pos accepted)).trans ?_
  have ordinary : (if (second == 60) = true then (59, nano + 1000000000) else (second, nano)) = (second, nano) :=
    if_neg notLeap
  rw [ordinary]
  dsimp only
  rw [settled]
  exact (bind_of_eq_some _ (if_pos yearFits)).trans rfl

end Instant
end Scaffold
