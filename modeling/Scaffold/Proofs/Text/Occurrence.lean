import Scaffold.Text.Search

namespace Scaffold
namespace Text

/-!
# First occurrences

Cutting a text before a needle finds its first occurrence, if it has any.  A needle without line
breaks occurs within a line: at a break, the search in the whole text falls apart into the searches
on both sides.
-/

variable {needle before found cs : List Char}

/-! ## What is found -/

theorem occurs_iff : occurs needle cs = true ↔ needle <:+: cs := by
  induction cs with
  | nil => rw [occurs, List.isEmpty_iff, List.infix_nil]
  | cons c rest ih => rw [occurs, Bool.or_eq_true, ih, List.isPrefixOf_iff_prefix, List.infix_cons_iff]

theorem occurs_eq_false_iff : occurs needle cs = false ↔ ¬ needle <:+: cs := by
  rw [← occurs_iff, Bool.not_eq_true]

theorem exists_cutBefore? (occurring : needle <:+: cs) :
    ∃ before rest, cutBefore? needle cs = some (before, needle ++ rest) := by
  have found := isSome_cutBefore? needle cs
  rw [occurs_iff.2 occurring, Option.isSome_iff_exists] at found
  rcases found with ⟨⟨before, rest⟩, cut⟩
  rcases List.isPrefixOf_iff_prefix.1 (append_of_cutBefore? cut).2 with ⟨rest, rfl⟩
  exact ⟨before, rest, cut⟩

/-- No occurrence begins before the one that is found. -/
theorem length_le_of_cutBefore? (cut : cutBefore? needle cs = some (before, found)) {earlier later : List Char}
    (occurring : cs = earlier ++ needle ++ later) : before.length ≤ earlier.length := by
  induction cs generalizing before earlier with
  | nil =>
    rw [cutBefore?] at cut
    split at cut
    · cases cut
      exact Nat.zero_le _
    · cases cut
  | cons c rest ih =>
    rw [cutBefore?] at cut
    split at cut
    · cases cut
      exact Nat.zero_le _
    · next elsewhere =>
      rcases Option.map_eq_some_iff.1 cut with ⟨⟨tail, remaining⟩, inner, same⟩
      cases same
      cases earlier with
      | nil =>
        refine absurd (List.isPrefixOf_iff_prefix.2 ⟨later, ?_⟩) elsewhere
        simpa using occurring.symm
      | cons d others =>
        simp only [List.cons_append, List.cons.injEq] at occurring
        have shorter := ih inner (by simpa using occurring.2)
        simpa using shorter

/-! ## Searching on both sides of a break -/

section Break

variable {mark : Char} (clean : mark ∉ needle)
include clean

theorem isPrefixOf_append_break (cs rest : List Char) :
    needle.isPrefixOf (cs ++ mark :: rest) = needle.isPrefixOf cs := by
  induction needle generalizing cs with
  | nil => simp
  | cons first others ih =>
    rw [List.mem_cons, not_or] at clean
    cases cs with
    | nil => simp [List.isPrefixOf, Ne.symm clean.1]
    | cons c remaining => simp [List.isPrefixOf, ih clean.2]

theorem cutBefore?_append_break (solid : needle ≠ []) (cs rest : List Char) :
    cutBefore? needle (cs ++ mark :: rest) =
      ((cutBefore? needle cs).map (fun cut => (cut.1, cut.2 ++ mark :: rest))).or
        ((cutBefore? needle rest).map (fun cut => (cs ++ mark :: cut.1, cut.2))) := by
  have alone : needle.isEmpty = false := by simpa using solid
  induction cs with
  | nil =>
    have none : needle.isPrefixOf (mark :: rest) = false := by
      rw [← List.nil_append (mark :: rest), isPrefixOf_append_break clean]
      cases needle with
      | nil => cases alone
      | cons => rfl
    simp [cutBefore?, none, alone]
  | cons c remaining ih =>
    rw [List.cons_append, cutBefore?, cutBefore?, ← List.cons_append, isPrefixOf_append_break clean, ih]
    by_cases starts : needle.isPrefixOf (c :: remaining) = true
    · simp [starts]
    · simp only [starts, Bool.false_eq_true, if_false]
      cases cutBefore? needle remaining <;> simp [Function.comp_def]

theorem infix_append_break (solid : needle ≠ []) (cs rest : List Char) :
    needle <:+: cs ++ mark :: rest ↔ needle <:+: cs ∨ needle <:+: rest := by
  simp only [← occurs_iff, ← isSome_cutBefore?, cutBefore?_append_break clean solid]
  simp

end Break

end Text
end Scaffold
