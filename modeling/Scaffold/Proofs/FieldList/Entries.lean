import Mathlib.Data.List.Chain
import Scaffold.FieldList
import Scaffold.Proofs.Text.Pieces
import Scaffold.Proofs.Text.Trimming

namespace Scaffold
namespace FieldList

/-!
# Entries of a field list

An entry is gathered from segments between commas.  Its name and its type stand in front of its
second colon and have no commas, since only an entry with two colons takes in a further segment.
What it takes in does not begin an entry, and what stays outside after an entry with two colons
does.
-/

open Text

/-! ## The beginning of an entry -/

/-- A plain name of ASCII: a letter or `_`, and then letters, digits and `_`. -/
def IsName (name : List Char) : Prop :=
  ∃ c rest, name = c :: rest ∧ beginsName c = true ∧ ∀ d ∈ rest, continuesName d = true

theorem continuesName_of_beginsName {c : Char} (begins : beginsName c = true) : continuesName c = true := by
  rw [beginsName, Bool.or_eq_true] at begins
  rw [continuesName, Bool.or_eq_true, Char.isAlphanum, Bool.or_eq_true]
  exact begins.imp_left .inl

theorem startsEntry_of_no_colon {segment : List Char} (plain : ':' ∉ segment) : startsEntry segment = false := by
  have absent : ':' ∉ trimStart segment := fun member => plain ((List.dropWhile_sublist isBlank).subset member)
  rw [startsEntry, cutBefore?_singleton_eq_none absent]

/-- A segment begins an entry when a plain name stands in front of its first colon. -/
theorem startsEntry_colon {name : List Char} (plain : ':' ∉ name) (rest : List Char) :
    startsEntry (name ++ ':' :: rest) = true ↔ IsName (trim name) := by
  have solid : isBlank ':' = false := by decide
  have absent : ':' ∉ trimStart name := fun member => plain ((List.dropWhile_sublist isBlank).subset member)
  have cut : trimStart (name ++ ':' :: rest) = trimStart name ++ ':' :: rest := by
    rw [trimStart, List.dropWhile_append, ← trimStart]
    split
    · next nothing => rw [List.isEmpty_iff.1 nothing, List.dropWhile_cons_of_neg (by simp [solid])]; rfl
    · rfl
  rw [startsEntry, cut, cutBefore?_singleton absent, trim]
  dsimp only
  cases trimEnd (trimStart name) with
  | nil => simp [IsName]
  | cons c others =>
    simp only [IsName, Bool.and_eq_true, List.all_eq_true, List.mem_cons, forall_eq_or_imp]
    constructor
    · rintro ⟨begins, -, continues⟩
      exact ⟨c, others, rfl, begins, continues⟩
    · rintro ⟨_, _, same, begins, continues⟩
      cases same
      exact ⟨begins, continuesName_of_beginsName begins, continues⟩

/-- What follows a segment does not keep it from beginning an entry. -/
theorem startsEntry_append {segment : List Char} (starts : startsEntry segment = true) (more : List Char) :
    startsEntry (segment ++ more) = true := by
  by_cases colon : ':' ∈ segment
  · rcases List.eq_append_cons_of_mem colon with ⟨name, rest, rfl, plain⟩
    rw [startsEntry_colon plain] at starts
    rw [List.append_assoc, List.cons_append, startsEntry_colon plain]
    exact starts
  · rw [startsEntry_of_no_colon colon] at starts
    cases starts

/-! ## Parts -/

section Parts

variable {name logicalType comment entry : List Char}

theorem parts_of_two_colons (plainName : ':' ∉ name) (plainType : ':' ∉ logicalType) (comment : List Char) :
    parts (name ++ ':' :: (logicalType ++ ':' :: comment)) = (name, logicalType, comment) := by
  have first := takeWhile_mark plainName (logicalType ++ ':' :: comment)
  have second := takeWhile_mark plainType comment
  simp only [parts, first.1, first.2, List.drop_one, List.tail_cons, second.1, second.2]

theorem parts_of_one_colon (plainName : ':' ∉ name) (plainType : ':' ∉ logicalType) :
    parts (name ++ ':' :: logicalType) = (name, logicalType, []) := by
  have first := takeWhile_mark plainName logicalType
  have second := takeWhile_of_not_mem plainType
  simp only [parts, first.1, first.2, List.drop_one, List.tail_cons, second.1, second.2, List.tail_nil]

theorem parts_of_no_colon (plain : ':' ∉ name) : parts name = (name, [], []) := by
  have only := takeWhile_of_not_mem plain
  simp only [parts, only.1, only.2, List.drop_nil, List.takeWhile_nil, List.dropWhile_nil]

theorem hasComment_of_two_colons (name logicalType comment : List Char) :
    hasComment (name ++ ':' :: (logicalType ++ ':' :: comment)) = true := by
  simp only [hasComment, List.count_append, List.count_cons_self, decide_eq_true_eq]
  omega

theorem hasComment_of_one_colon (plainName : ':' ∉ name) (plainType : ':' ∉ logicalType) :
    hasComment (name ++ ':' :: logicalType) = false := by
  simp [hasComment, List.count_append, List.count_eq_zero_of_not_mem plainName,
    List.count_eq_zero_of_not_mem plainType]

/-- The colons of an entry say which of the parts it has. -/
theorem entry_cases (entry : List Char) :
    (∃ name logicalType comment, entry = name ++ ':' :: (logicalType ++ ':' :: comment) ∧
      ':' ∉ name ∧ ':' ∉ logicalType) ∨
    (∃ name logicalType, entry = name ++ ':' :: logicalType ∧ ':' ∉ name ∧ ':' ∉ logicalType) ∨ ':' ∉ entry := by
  by_cases first : ':' ∈ entry
  · rcases List.eq_append_cons_of_mem first with ⟨name, rest, rfl, plainName⟩
    by_cases second : ':' ∈ rest
    · rcases List.eq_append_cons_of_mem second with ⟨logicalType, comment, rfl, plainType⟩
      exact .inl ⟨name, logicalType, comment, rfl, plainName, plainType⟩
    · exact .inr (.inl ⟨name, rest, rfl, plainName, second⟩)
  · exact .inr (.inr first)

/-- What is put behind an entry with a comment belongs to the comment. -/
theorem parts_append (commented : hasComment entry = true) (more : List Char) :
    parts (entry ++ more) = ((parts entry).1, (parts entry).2.1, (parts entry).2.2 ++ more) := by
  rcases entry_cases entry with ⟨name, logicalType, comment, rfl, plainName, plainType⟩ |
    ⟨name, logicalType, rfl, plainName, plainType⟩ | plain
  · rw [List.append_assoc, List.cons_append, List.append_assoc, List.cons_append,
      parts_of_two_colons plainName plainType, parts_of_two_colons plainName plainType]
  · rw [hasComment_of_one_colon plainName plainType] at commented; cases commented
  · rw [hasComment, List.count_eq_zero_of_not_mem plain] at commented; cases commented

theorem comment_eq_nil (uncommented : hasComment entry = false) : (parts entry).2.2 = [] := by
  rcases entry_cases entry with ⟨name, logicalType, comment, rfl, plainName, plainType⟩ |
    ⟨name, logicalType, rfl, plainName, plainType⟩ | plain
  · rw [hasComment_of_two_colons] at uncommented; cases uncommented
  · rw [parts_of_one_colon plainName plainType]
  · rw [parts_of_no_colon plain]

theorem plain_name (entry : List Char) : ':' ∉ (parts entry).1 :=
  fun member => absurd (List.all_eq_true.1 List.all_takeWhile ':' member) (by decide)

theorem plain_type (entry : List Char) : ':' ∉ (parts entry).2.1 :=
  fun member => absurd (List.all_eq_true.1 List.all_takeWhile ':' member) (by decide)

end Parts

/-! ## Gathering -/

/-- The commas of a gathered entry stand in its comment, and what follows them begins no entry. -/
structure IsGathered (entry : List Char) : Prop where
  name : ',' ∉ (parts entry).1
  logicalType : ',' ∉ (parts entry).2.1
  comment : ∀ segment ∈ (pieces (· == ',') (parts entry).2.2).tail, startsEntry segment = false

variable {entry segment : List Char} {segments : List (List Char)}

theorem isGathered_of_segment (plain : ',' ∉ segment) : IsGathered segment := by
  rcases entry_cases segment with ⟨name, logicalType, comment, rfl, plainName, plainType⟩ |
    ⟨name, logicalType, rfl, plainName, plainType⟩ | noColon
  · simp only [List.mem_append, List.mem_cons, not_or] at plain
    have unbroken : ∀ c ∈ comment, (c == ',') = false := beq_eq_false_of_not_mem plain.2.2.2.2
    constructor
    all_goals rw [parts_of_two_colons plainName plainType]
    · exact plain.1
    · exact plain.2.2.1
    · rw [pieces_of_unbroken unbroken]
      simp
  · simp only [List.mem_append, List.mem_cons, not_or] at plain
    constructor
    all_goals rw [parts_of_one_colon plainName plainType]
    · exact plain.1
    · exact plain.2.2
    · simp [pieces]
  · constructor
    all_goals rw [parts_of_no_colon noColon]
    · exact plain
    · simp
    · simp [pieces]

/-- An entry with a comment stays gathered when it takes in a segment that begins no entry. -/
theorem IsGathered.absorb (gathered : IsGathered entry) (commented : hasComment entry = true)
    (plain : ',' ∉ segment)
    (quiet : startsEntry segment = false) : IsGathered (entry ++ ',' :: segment) := by
  have unbroken : ∀ c ∈ segment, (c == ',') = false := beq_eq_false_of_not_mem plain
  constructor
  all_goals rw [parts_append commented]
  · exact gathered.name
  · exact gathered.logicalType
  · rw [pieces_append_break (by simp), pieces_of_unbroken unbroken,
      List.tail_append_of_ne_nil (pieces_ne_nil _ _)]
    intro other member
    rcases List.mem_append.1 member with before | last
    · exact gathered.comment other before
    · rw [List.mem_singleton.1 last]; exact quiet

theorem isGathered_of_mem_gather (gathered : IsGathered entry) (plain : ∀ segment ∈ segments, ',' ∉ segment) :
    ∀ result ∈ gather entry segments, IsGathered result := by
  induction segments generalizing entry with
  | nil =>
    intro result member
    rw [List.mem_singleton.1 member]
    exact gathered
  | cons segment rest ih =>
    have clean := plain segment List.mem_cons_self
    have others := fun other member => plain other (List.mem_cons_of_mem segment member)
    rw [gather]
    split
    · next absorbed =>
      rw [Bool.and_eq_true, Bool.not_eq_true'] at absorbed
      exact ih (gathered.absorb absorbed.2 clean absorbed.1) others
    · intro result member
      rcases List.mem_cons.1 member with rfl | later
      · exact gathered
      · exact ih (isGathered_of_segment clean) others result later

/-- The first entry that comes out begins with the one that went in. -/
theorem gather_eq_cons (entry : List Char) (segments : List (List Char)) :
    ∃ more rest, gather entry segments = (entry ++ more) :: rest := by
  induction segments generalizing entry with
  | nil => exact ⟨[], [], by simp [gather]⟩
  | cons segment others ih =>
    rw [gather]
    split
    · rcases ih (entry ++ ',' :: segment) with ⟨more, rest, same⟩
      exact ⟨',' :: segment ++ more, rest, by simpa using same⟩
    · exact ⟨[], gather segment others, by simp⟩

/-- After an entry with a comment comes one that was seen to begin. -/
theorem isChain_gather (entry : List Char) (segments : List (List Char)) :
    (gather entry segments).IsChain (fun entry next => hasComment entry = true → startsEntry next = true) := by
  induction segments generalizing entry with
  | nil => exact .singleton entry
  | cons segment rest ih =>
    rw [gather]
    split
    · exact ih (entry ++ ',' :: segment)
    · next kept =>
      rw [List.isChain_cons]
      refine ⟨?_, ih segment⟩
      intro next first commented
      rcases gather_eq_cons segment rest with ⟨more, others, same⟩
      rw [same] at first
      cases first
      apply startsEntry_append
      simpa [commented] using kept

/-- An entry with a comment takes in all segments up to the next one that begins an entry. -/
theorem gather_append_of_quiet (commented : hasComment entry = true)
    (quiet : ∀ segment ∈ segments, startsEntry segment = false) (rest : List (List Char)) :
    gather entry (segments ++ rest) = gather (entry ++ segments.flatMap (',' :: ·)) rest := by
  induction segments generalizing entry with
  | nil => simp
  | cons segment others ih =>
    have still : hasComment (entry ++ ',' :: segment) = true := by
      rw [hasComment, decide_eq_true_eq] at commented ⊢
      rw [List.count_append]
      omega
    rw [List.cons_append, gather, if_pos (by simp [commented, quiet segment List.mem_cons_self]),
      ih still fun other member => quiet other (List.mem_cons_of_mem segment member)]
    simp

end FieldList
end Scaffold
