import Scaffold.Text.Blank
import Scaffold.Text.Search

namespace Scaffold
namespace Text

/-!
# Trimmed texts

Trimming takes white space from the two ends and nothing else, so that white space which is put at
an end does not matter for the trimmed text.  A text is trimmed when it neither begins nor ends with
white space, which can be read off its outer parts when it is put together from several.
-/

variable {cs gap : List Char}

theorem exists_append_trimStart (cs : List Char) :
    ∃ gap, (∀ c ∈ gap, isBlank c = true) ∧ cs = gap ++ trimStart cs :=
  ⟨cs.takeWhile isBlank, List.all_eq_true.1 List.all_takeWhile, List.takeWhile_append_dropWhile.symm⟩

theorem exists_trimEnd_append (cs : List Char) :
    ∃ gap, (∀ c ∈ gap, isBlank c = true) ∧ cs = trimEnd cs ++ gap := by
  rcases exists_append_trimStart cs.reverse with ⟨gap, blank, whole⟩
  refine ⟨gap.reverse, fun c member => blank c (List.mem_reverse.1 member), ?_⟩
  have turned := congrArg List.reverse whole
  simpa [trimStart, trimEnd] using turned

theorem trimStart_append_of_blank (blank : ∀ c ∈ gap, isBlank c = true) (cs : List Char) :
    trimStart (gap ++ cs) = trimStart cs :=
  List.dropWhile_append_of_pos blank

theorem trimEnd_append_of_blank (blank : ∀ c ∈ gap, isBlank c = true) (cs : List Char) :
    trimEnd (cs ++ gap) = trimEnd cs := by
  have turned : ∀ c ∈ gap.reverse, isBlank c = true := fun c member => blank c (List.mem_reverse.1 member)
  rw [trimEnd, List.reverse_append, List.dropWhile_append_of_pos turned]
  rfl

theorem trim_append_left (blank : ∀ c ∈ gap, isBlank c = true) (cs : List Char) : trim (gap ++ cs) = trim cs := by
  rw [trim, trimStart_append_of_blank blank, trim]

theorem trim_append_right (blank : ∀ c ∈ gap, isBlank c = true) (cs : List Char) : trim (cs ++ gap) = trim cs := by
  rw [trim, trimStart, List.dropWhile_append]
  split
  · next nothing =>
    have rest : gap.dropWhile isBlank = [] := by simpa using @List.dropWhile_append_of_pos _ _ gap [] blank
    rw [trim, trimStart, List.isEmpty_iff.1 nothing, rest]
  · exact trimEnd_append_of_blank blank _

theorem trim_trimStart (cs : List Char) : trim (trimStart cs) = trim cs := by
  rw [trim, trimStart_trimStart, trim]

theorem trim_trimEnd (cs : List Char) : trim (trimEnd cs) = trim cs := by
  rcases exists_trimEnd_append cs with ⟨gap, blank, whole⟩
  conv => rhs; rw [whole, trim_append_right blank]

theorem trim_trim (cs : List Char) : trim (trim cs) = trim cs := by
  conv => lhs; rw [trim.eq_1 cs, trim_trimEnd, trim_trimStart]

theorem mem_of_mem_trim {c : Char} (member : c ∈ trim cs) : c ∈ cs := by
  rcases exists_append_trimStart cs with ⟨lead, -, start⟩
  rcases exists_trimEnd_append (trimStart cs) with ⟨gap, -, finish⟩
  rw [start, finish]
  exact List.mem_append_right lead (List.mem_append_left gap member)

theorem mem_trim {c : Char} (solid : isBlank c = false) (member : c ∈ cs) : c ∈ trim cs := by
  rcases exists_append_trimStart cs with ⟨lead, leads, start⟩
  rcases exists_trimEnd_append (trimStart cs) with ⟨gap, gaps, finish⟩
  rw [start, finish, List.mem_append, List.mem_append] at member
  rcases member with outer | inner | outer
  · rw [leads c outer] at solid; cases solid
  · exact inner
  · rw [gaps c outer] at solid; cases solid

/-! ## Trimmed at both ends -/

theorem isBlank_of_head?_trimStart {c : Char} (first : (trimStart cs).head? = some c) : isBlank c = false := by
  have solid := List.head?_dropWhile_not isBlank cs
  rw [trimStart] at first
  rw [first] at solid
  simpa using solid

theorem trimStart_eq_self (solid : ∀ c, cs.head? = some c → isBlank c = false) : trimStart cs = cs := by
  cases cs with
  | nil => rfl
  | cons c rest => exact List.dropWhile_cons_of_neg (by simp [solid c rfl])

/-- A text is trimmed exactly when no white space stands at its ends. -/
theorem trim_eq_self_iff : trim cs = cs ↔
    (∀ c, cs.head? = some c → isBlank c = false) ∧ ∀ c, cs.getLast? = some c → isBlank c = false := by
  constructor
  · intro trimmed
    constructor
    · intro c first
      rcases exists_trimEnd_append (trimStart cs) with ⟨gap, -, whole⟩
      have start : (trimStart cs).head? = some c := by
        rw [whole, ← trim, trimmed, List.head?_append, first]
        rfl
      exact isBlank_of_head?_trimStart start
    · intro c last
      have finish : (trimStart (trimStart cs).reverse).head? = some c := by
        rw [trimStart, ← List.getLast?_reverse, ← trimEnd, ← trim, trimmed]
        exact last
      exact isBlank_of_head?_trimStart finish
  · rintro ⟨first, last⟩
    have turned : trimStart cs.reverse = cs.reverse := by
      apply trimStart_eq_self
      intro c start
      rw [List.head?_reverse] at start
      exact last c start
    rw [trim, trimStart_eq_self first, trimEnd, ← trimStart, turned, List.reverse_reverse]

/-- A text whose outer parts are trimmed is trimmed. -/
theorem trim_append_append {first last : List Char} (firstTrimmed : trim first = first) (starts : first ≠ [])
    (middle : List Char) (lastTrimmed : trim last = last) (ends : last ≠ []) :
    trim (first ++ middle ++ last) = first ++ middle ++ last := by
  rw [trim_eq_self_iff]
  constructor
  · intro c start
    apply (trim_eq_self_iff.1 firstTrimmed).1 c
    rw [List.append_assoc, List.head?_append, List.head?_eq_some_head starts] at start
    rw [List.head?_eq_some_head starts]
    exact start
  · intro c finish
    apply (trim_eq_self_iff.1 lastTrimmed).2 c
    rw [List.getLast?_append, List.getLast?_eq_some_getLast ends] at finish
    rw [List.getLast?_eq_some_getLast ends]
    exact finish

end Text
end Scaffold
