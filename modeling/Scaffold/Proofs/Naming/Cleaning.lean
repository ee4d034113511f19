import Mathlib.Data.List.DropRight
import Mathlib.Logic.Function.Iterate
import Scaffold.Proofs.Naming.Asides

namespace Scaffold

/-!
# How clean a cleaned comment is

A cleaned comment has no white space at its ends.  It can still end with a separator, because each
separator is looked for once, in a fixed order, and nothing is looked for behind white space.  It
ends with none exactly if the separators at the end of the comment stand in that order, read from
the end, with nothing between them; this is also what it takes for a second cleaning to change
nothing.  A cleaning that changes something makes the comment shorter, so to clean it again and
again takes off all separators at its end, in whatever order they stand, and the white space between
them.
-/

namespace Text

variable {c : Char} {cs : List Char}

theorem trimStart_append_cons (solid : isBlank c = false) (front rest : List Char) :
    trimStart (front ++ c :: rest) = trimStart front ++ c :: rest := by
  induction front with
  | nil => exact trimStart_eq_self (by simpa using solid)
  | cons d others ih =>
    rw [trimStart, List.cons_append, List.dropWhile_cons, trimStart, List.dropWhile_cons]
    split
    · exact ih
    · rfl

theorem trim_sublist (cs : List Char) : (trim cs).Sublist cs := by
  rcases exists_trimEnd_append (trimStart cs) with ⟨gap, -, whole⟩
  have prefixed : trim cs <+: trimStart cs := ⟨gap, whole.symm⟩
  exact prefixed.sublist.trans (List.dropWhile_sublist _)

/-! ## Marks at the end of a text -/

/-- The run is what is taken off the end of a text when each mark is looked for once: read from the
end it has the order of the marks, and the character that is left before it does not continue that
order. -/
structure IsRun (marks left run : List Char) : Prop where
  ordered : run.reverse.Sublist marks
  longest : ∀ c ∈ left.getLast?, ¬ (run.reverse ++ [c]).Sublist marks

namespace IsRun

variable {mark : Char} {marks left run : List Char} (isRun : IsRun marks left run)
include isRun

/-- The mark that is looked for first is found. -/
theorem found : IsRun (mark :: marks) left (run ++ [mark]) where
  ordered := by
    rw [List.reverse_concat]
    exact isRun.ordered.cons_cons mark
  longest := by
    intro c last longer
    rw [List.reverse_concat, List.cons_append, List.cons_sublist_cons] at longer
    exact isRun.longest c last longer

/-- The mark that is looked for first is not found. -/
theorem missed (other : (left ++ run).getLast? ≠ some mark) : IsRun (mark :: marks) left run where
  ordered := isRun.ordered.cons mark
  longest := by
    intro c last longer
    rcases List.sublist_cons_iff.1 longer with later | ⟨rest, first, -⟩
    · exact isRun.longest c last later
    · obtain ⟨front, rfl⟩ := List.getLast?_eq_some_iff.1 last
      apply other
      have turned : (front ++ [c] ++ run).reverse = (run.reverse ++ [c]) ++ front.reverse := by simp
      rw [← List.head?_reverse, turned, first]
      rfl

end IsRun

theorem dropSuffix_concat (front : List Char) (mark : Char) : dropSuffix [mark] (front ++ [mark]) = front := by
  rw [dropSuffix, dropSuffix?, if_pos (List.isSuffixOf_iff_suffix.2 (List.suffix_append front [mark]))]
  simp

theorem dropSuffix_of_getLast?_ne {mark : Char} (other : cs.getLast? ≠ some mark) : dropSuffix [mark] cs = cs := by
  have apart : ¬ [mark].isSuffixOf cs = true := by
    rw [List.isSuffixOf_iff_suffix]
    rintro ⟨front, rfl⟩
    exact other List.getLast?_concat
  rw [dropSuffix, dropSuffix?, if_neg apart]
  rfl

/-- What is left of a text when each mark has been looked for once. -/
def dropMarks (marks cs : List Char) : List Char :=
  marks.foldl (fun text mark => dropSuffix [mark] text) cs

theorem exists_isRun (marks cs : List Char) :
    ∃ run, cs = dropMarks marks cs ++ run ∧ IsRun marks (dropMarks marks cs) run := by
  induction marks generalizing cs with
  | nil => exact ⟨[], (List.append_nil cs).symm, List.Sublist.slnil, by simp⟩
  | cons mark marks ih =>
    rw [dropMarks, List.foldl_cons, ← dropMarks]
    by_cases last : cs.getLast? = some mark
    · obtain ⟨front, rfl⟩ := List.getLast?_eq_some_iff.1 last
      obtain ⟨run, whole, isRun⟩ := ih front
      rw [dropSuffix_concat]
      exact ⟨run ++ [mark], by rw [← List.append_assoc, ← whole], isRun.found⟩
    · obtain ⟨run, whole, isRun⟩ := ih cs
      rw [dropSuffix_of_getLast?_ne last]
      exact ⟨run, whole, isRun.missed (whole ▸ last)⟩

end Text

namespace Naming

open Text (isBlank)

variable {cs : List Char}

/-! ## The end of a comment -/

/-- What a comment without asides may be followed by: white space and separators. -/
def closesComment (c : Char) : Bool :=
  isBlank c || closingSeparators.contains c

/-- The comment without asides and outer white space. -/
def bareChars (cs : List Char) : List Char :=
  Text.trim (brackets.foldl (fun text pair => removeAsides pair.1 pair.2 text) cs)

/-- The white space and the separators that the bare comment ends with. -/
def closing (cs : List Char) : List Char :=
  (bareChars cs).rtakeWhile closesComment

/-- The bare comment without the white space and the separators that it ends with. -/
def stripped (cs : List Char) : List Char :=
  (bareChars cs).rdropWhile closesComment

/-- The text ends with no separator. -/
def EndsFree (cs : List Char) : Prop :=
  ∀ c ∈ cs.getLast?, c ∉ closingSeparators

instance (cs : List Char) : Decidable (EndsFree cs) :=
  decidable_of_iff (cs.getLast?.all (fun c => !closingSeparators.contains c) = true)
    (by simp [EndsFree, Option.all_eq_true])

theorem not_isBlank_of_mem {c : Char} (separator : c ∈ closingSeparators) : isBlank c = false := by
  have solid : (closingSeparators.all fun c => !isBlank c) = true := by decide
  simpa using List.all_eq_true.1 solid c separator

theorem trim_cleanChars (cs : List Char) : Text.trim (cleanChars cs) = cleanChars cs :=
  Text.trim_trim _

/-- What cleaning takes off the end of the bare comment. -/
theorem exists_cleanChars_append (cs : List Char) : ∃ gap run, bareChars cs = cleanChars cs ++ (gap ++ run) ∧
    (∀ c ∈ gap, isBlank c = true) ∧ Text.IsRun closingSeparators (cleanChars cs ++ gap) run := by
  obtain ⟨run, whole, isRun⟩ := Text.exists_isRun closingSeparators (bareChars cs)
  have start : ∀ c, (Text.dropMarks closingSeparators (bareChars cs)).head? = some c → isBlank c = false := by
    intro c first
    refine (Text.trim_eq_self_iff.1 (Text.trim_trim _)).1 c (?_ : (bareChars cs).head? = some c)
    rw [whole, List.head?_append, first]
    rfl
  obtain ⟨gap, blank, ends⟩ := Text.exists_trimEnd_append (Text.dropMarks closingSeparators (bareChars cs))
  have clean : cleanChars cs = Text.trimEnd (Text.dropMarks closingSeparators (bareChars cs)) := by
    conv => rhs; rw [← Text.trimStart_eq_self start]
    rfl
  refine ⟨gap, run, ?_, blank, ?_⟩
  · rw [clean, ← List.append_assoc, ← ends, ← whole]
  · rw [clean, ← ends]
    exact isRun

/-- A text that ends with neither white space nor a separator has nothing that closes a comment. -/
theorem endsFree_iff (trimmed : Text.trim cs = cs) : EndsFree cs ↔ cs.rdropWhile closesComment = cs := by
  rw [List.rdropWhile_eq_self_iff]
  constructor
  · intro free some closes
    have last := List.getLast?_eq_some_getLast some
    rw [closesComment, (Text.trim_eq_self_iff.1 trimmed).2 _ last, Bool.false_or, List.contains_iff_mem] at closes
    exact free _ last closes
  · intro unclosed c last separator
    obtain ⟨front, rfl⟩ := List.getLast?_eq_some_iff.1 last
    refine unclosed (by simp) ?_
    rw [List.getLast_concat, closesComment, List.contains_iff_mem.2 separator, Bool.or_true]

theorem rdropWhile_append_of_closing {ending : List Char}
    (closes : ∀ c ∈ ending, closesComment c = true) (cs : List Char) :
    (cs ++ ending).rdropWhile closesComment = cs.rdropWhile closesComment := by
  have turned : ∀ c ∈ ending.reverse, closesComment c = true := fun c member => closes c (List.mem_reverse.1 member)
  rw [List.rdropWhile, List.reverse_append, List.dropWhile_append_of_pos turned, List.rdropWhile]

theorem rtakeWhile_append_of_closing {ending : List Char}
    (closes : ∀ c ∈ ending, closesComment c = true) (cs : List Char) :
    (cs ++ ending).rtakeWhile closesComment = cs.rtakeWhile closesComment ++ ending := by
  have turned : ∀ c ∈ ending.reverse, closesComment c = true := fun c member => closes c (List.mem_reverse.1 member)
  rw [List.rtakeWhile, List.reverse_append, List.takeWhile_append_of_pos turned,
    List.reverse_append, List.reverse_reverse, List.rtakeWhile]

theorem closesComment_of_gap_run {gap run : List Char} (blank : ∀ c ∈ gap, isBlank c = true)
    (ordered : run.reverse.Sublist closingSeparators) : ∀ c ∈ gap ++ run, closesComment c = true := by
  intro c member
  rcases List.mem_append.1 member with white | separator
  · rw [closesComment, blank c white, Bool.true_or]
  · have listed := ordered.subset (List.mem_reverse.2 separator)
    rw [closesComment, List.contains_iff_mem.2 listed, Bool.or_true]

/-- Cleaning changes nothing before the end of the bare comment. -/
theorem rdropWhile_cleanChars (cs : List Char) : (cleanChars cs).rdropWhile closesComment = stripped cs := by
  obtain ⟨gap, run, whole, blank, isRun⟩ := exists_cleanChars_append cs
  rw [stripped, whole, rdropWhile_append_of_closing (closesComment_of_gap_run blank isRun.ordered)]

/-- A cleaned comment ends with no separator exactly if nothing but the bare comment's text is left
of it. -/
theorem endsFree_cleanChars_iff_stripped (cs : List Char) :
    EndsFree (cleanChars cs) ↔ cleanChars cs = stripped cs := by
  rw [endsFree_iff (trim_cleanChars cs), rdropWhile_cleanChars, eq_comm]

/-- All separators are taken off exactly if they have the order in which they are looked for. -/
theorem endsFree_cleanChars_iff (cs : List Char) :
    EndsFree (cleanChars cs) ↔ (Text.trimStart (closing cs)).reverse.Sublist closingSeparators := by
  obtain ⟨gap, run, whole, blank, isRun⟩ := exists_cleanChars_append cs
  constructor
  · intro free
    have parts : cleanChars cs ++ closing cs = cleanChars cs ++ (gap ++ run) := by
      rw [← whole]
      conv => lhs; arg 1; rw [(endsFree_cleanChars_iff_stripped cs).1 free]
      exact List.rdropWhile_append_rtakeWhile
    have solid : ∀ c, run.head? = some c → isBlank c = false := fun c first =>
      not_isBlank_of_mem (isRun.ordered.subset (List.mem_reverse.2 (List.mem_of_head? first)))
    rw [List.append_cancel_left parts, Text.trimStart_append_of_blank blank, Text.trimStart_eq_self solid]
    exact isRun.ordered
  · intro ordered c last separator
    obtain ⟨front, left⟩ := List.getLast?_eq_some_iff.1 last
    have closes : ∀ d ∈ c :: (gap ++ run), closesComment d = true := by
      rw [List.forall_mem_cons, closesComment, List.contains_iff_mem.2 separator, Bool.or_true]
      exact ⟨rfl, closesComment_of_gap_run blank isRun.ordered⟩
    have ending : closing cs = front.rtakeWhile closesComment ++ c :: (gap ++ run) := by
      rw [closing, whole, left, List.append_assoc, List.singleton_append, rtakeWhile_append_of_closing closes]
    rw [ending, Text.trimStart_append_cons (not_isBlank_of_mem separator), List.reverse_append] at ordered
    have before : cleanChars cs ++ gap = front ++ (c :: gap) := by
      rw [left, List.append_assoc, List.singleton_append]
    have final : (c :: gap).getLast (List.cons_ne_nil c gap) ∈ (cleanChars cs ++ gap).getLast? := by
      rw [before, List.getLast?_append_of_ne_nil _ (List.cons_ne_nil c gap)]
      exact List.getLast?_eq_some_getLast _
    -- With the character before it the run would still have the order of the separators.
    have turned : (c :: (gap ++ run)).reverse = run.reverse ++ (c :: gap).reverse := by simp
    rw [turned] at ordered
    refine isRun.longest _ final (List.Sublist.trans ?_ ((List.sublist_append_left _ _).trans ordered))
    exact (List.singleton_sublist.2 (List.mem_reverse.2 (List.getLast_mem _))).append_left _

/-! ## Cleaning again -/

theorem foldl_removeAsides_of_not_mem {pairs : List (Char × Char)} (absent : ∀ pair ∈ pairs, pair.1 ∉ cs) :
    pairs.foldl (fun text pair => removeAsides pair.1 pair.2 text) cs = cs := by
  induction pairs with
  | nil => rfl
  | cons pair pairs ih =>
    rw [List.forall_mem_cons] at absent
    rw [List.foldl_cons, removeAsides_eq_keepOutside, keepOutside_of_not_mem absent.1, ih absent.2]

theorem keepOutside_sublist (opener closer : Char) (depth : Nat) (cs : List Char) :
    (keepOutside opener closer depth cs).Sublist cs := by
  fun_induction keepOutside opener closer depth cs with
  | case1 => exact List.Sublist.slnil
  | case2 c rest opens ih => exact ih.cons c
  | case3 c rest plain ih => exact ih.cons_cons c
  | case4 depth c rest opens ih => exact ih.cons c
  | case5 depth c rest _ closes ih => exact ih.cons c
  | case6 depth c rest _ plain ih => exact ih.cons c

theorem foldl_removeAsides_sublist (pairs : List (Char × Char)) (cs : List Char) :
    (pairs.foldl (fun text pair => removeAsides pair.1 pair.2 text) cs).Sublist cs := by
  induction pairs generalizing cs with
  | nil => exact List.Sublist.refl cs
  | cons pair pairs ih =>
    have first : (removeAsides pair.1 pair.2 cs).Sublist cs := by
      rw [removeAsides_eq_keepOutside]
      exact keepOutside_sublist _ _ _ _
    exact (ih _).trans first

/-- Cleaning only takes characters away. -/
theorem cleanChars_sublist (cs : List Char) : (cleanChars cs).Sublist cs := by
  obtain ⟨gap, run, whole, -, -⟩ := exists_cleanChars_append cs
  have bare : (cleanChars cs).Sublist (bareChars cs) := by
    rw [whole]
    exact List.sublist_append_left _ _
  exact (bare.trans (Text.trim_sublist _)).trans (foldl_removeAsides_sublist brackets cs)

theorem bareChars_cleanChars (cs : List Char) : bareChars (cleanChars cs) = cleanChars cs := by
  have absent : ∀ pair ∈ brackets, pair.1 ∉ cleanChars cs := by
    intro pair listed
    have string := opener_not_mem_cleanComment listed (String.ofList cs)
    rwa [cleanComment, String.toList_ofList, String.toList_ofList] at string
  rw [bareChars, foldl_removeAsides_of_not_mem absent, trim_cleanChars]

theorem stripped_cleanChars (cs : List Char) : stripped (cleanChars cs) = stripped cs := by
  rw [stripped, bareChars_cleanChars, rdropWhile_cleanChars]

/-- A second cleaning changes nothing exactly if the first one has left no separator at the end. -/
theorem cleanChars_cleanChars_iff (cs : List Char) :
    cleanChars (cleanChars cs) = cleanChars cs ↔ EndsFree (cleanChars cs) := by
  constructor
  · intro same
    obtain ⟨gap, run, whole, -, isRun⟩ := exists_cleanChars_append (cleanChars cs)
    rw [bareChars_cleanChars, same, List.self_eq_append_right, List.append_eq_nil_iff] at whole
    obtain ⟨rfl, rfl⟩ := whole
    rw [same, List.append_nil] at isRun
    intro c last separator
    exact isRun.longest c last (List.singleton_sublist.2 separator)
  · intro free
    have kept : (cleanChars (cleanChars cs)).rdropWhile closesComment = cleanChars cs := by
      rw [rdropWhile_cleanChars, stripped_cleanChars, (endsFree_cleanChars_iff_stripped cs).1 free]
    have whole : (cleanChars cs).Sublist (cleanChars (cleanChars cs)) := by
      conv => lhs; rw [← kept]
      exact (List.rdropWhile_prefix _ _).sublist
    exact (cleanChars_sublist _).antisymm whole

theorem eq_stripped_of_cleanChars_eq (clean : cleanChars cs = cs) : cs = stripped cs := by
  have free := (cleanChars_cleanChars_iff cs).1 (congrArg cleanChars clean)
  exact clean.symm.trans ((endsFree_cleanChars_iff_stripped cs).1 free)

/-- A comment that is cleaned again and again loses all separators at its end. -/
theorem iterate_cleanChars {n : Nat} (enough : cs.length ≤ n) : cleanChars^[n] cs = stripped cs := by
  induction n generalizing cs with
  | zero =>
    obtain rfl := List.eq_nil_of_length_eq_zero (Nat.le_zero.1 enough)
    exact eq_stripped_of_cleanChars_eq (List.sublist_nil.1 (cleanChars_sublist []))
  | succ n ih =>
    by_cases clean : cleanChars cs = cs
    · rw [Function.iterate_fixed clean]
      exact eq_stripped_of_cleanChars_eq clean
    · have shorter := (cleanChars_sublist cs).length_le
      have differs : (cleanChars cs).length ≠ cs.length := fun same =>
        clean ((cleanChars_sublist cs).eq_of_length same)
      rw [Function.iterate_succ_apply, ih (by omega), stripped_cleanChars]

/-! ## Comments -/

theorem iterate_cleanComment (n : Nat) (comment : String) :
    cleanComment^[n] comment = String.ofList (cleanChars^[n] comment.toList) := by
  induction n generalizing comment with
  | zero => exact String.ofList_toList.symm
  | succ n ih =>
    rw [Function.iterate_succ_apply, Function.iterate_succ_apply, ih, cleanComment, String.toList_ofList]

/-- A cleaned comment is trimmed.  It ends with no separator exactly if the separators that the bare
comment ends with stand, read from the end, in the order in which they are looked for, with nothing
between them; exactly then a second cleaning changes nothing.  Cleaning a comment as often as it has
characters, or more often, gives a comment that is clean in every respect. -/
theorem cleanComment_stripped (comment : String) :
    Text.trimmed (cleanComment comment) = cleanComment comment ∧
      (EndsFree (cleanComment comment).toList ↔
        (Text.trimStart (closing comment.toList)).reverse.Sublist closingSeparators) ∧
      (cleanComment (cleanComment comment) = cleanComment comment ↔ EndsFree (cleanComment comment).toList) ∧
      ∃ clean : String, (∀ n, cleanComment^[comment.length + n] comment = clean) ∧
        Text.trimmed clean = clean ∧ EndsFree clean.toList ∧ cleanComment clean = clean := by
  have trimmed (comment : String) : Text.trimmed (cleanComment comment) = cleanComment comment := by
    rw [Text.trimmed, cleanComment, String.toList_ofList, trim_cleanChars]
  have again (comment : String) :
      cleanComment (cleanComment comment) = cleanComment comment ↔ EndsFree (cleanComment comment).toList := by
    rw [cleanComment, cleanComment, String.ofList_inj, String.toList_ofList, cleanChars_cleanChars_iff]
  refine ⟨trimmed comment, ?_, again comment, ?_⟩
  · rw [cleanComment, String.toList_ofList, endsFree_cleanChars_iff]
  · have limit (n : Nat) : cleanComment^[comment.length + n] comment = String.ofList (stripped comment.toList) := by
      have enough : comment.toList.length ≤ comment.length + n := by
        rw [String.length_toList]
        exact Nat.le_add_right _ _
      rw [iterate_cleanComment, iterate_cleanChars enough]
    have fixed : cleanComment (String.ofList (stripped comment.toList)) =
        String.ofList (stripped comment.toList) := by
      conv => lhs; rw [← limit 0]
      rw [← Function.iterate_succ_apply' cleanComment]
      exact limit 1
    refine ⟨_, limit, ?_, ?_, fixed⟩
    · rw [← fixed]
      exact trimmed _
    · rw [← fixed]
      exact (again _).1 (congrArg cleanComment fixed)

/-- Of two commas one is left, which the next cleaning takes off. -/
theorem not_cleanComment_stripped : cleanComment "Name,," = "Name," ∧ ¬ EndsFree (cleanComment "Name,,").toList ∧
    cleanComment (cleanComment "Name,,") ≠ cleanComment "Name,," := by
  decide +kernel

end Naming
end Scaffold
