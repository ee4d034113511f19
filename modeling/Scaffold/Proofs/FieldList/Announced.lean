import Scaffold.Proofs.FieldList.RoundTrip
import Scaffold.Proofs.Text.Unbroken
import Scaffold.Proofs.Validation.Acceptance

namespace Scaffold
namespace FieldList

/-!
# Fields that a text announces

A text announces a field by a name in front of its first colon.  Two notions of a name meet here: a
field of a request may have any identifier as its name, with letters and digits of every script,
while the commas of a list are told apart by identifiers of ASCII.  On ASCII the two notions are
one.

So a comma in front of a field with a name of ASCII always divides the list, and the two sides are
read one after the other.  In front of another name it divides the list only if the entry before it
has no comment yet.  Behind a comment the field is not seen: its text goes into the comment of the
field before it.
-/

open Text

/-! ## Names of ASCII -/

/-- A text in which every character is one of ASCII. -/
def IsAscii (text : String) : Prop :=
  ∀ c ∈ text.toList, c.toNat < 128

instance (text : String) : Decidable (IsAscii text) :=
  List.decidableBAll (fun c : Char => c.toNat < 128) text.toList

section Names

variable {c : Char} {name : List Char}

theorem ascii_of_continuesName (continues : continuesName c = true) : c.toNat < 128 := by
  rw [continuesName, Bool.or_eq_true, Char.isAlphanum, Bool.or_eq_true] at continues
  rcases continues with (letter | digit) | underscore
  · rcases Bool.or_eq_true_iff.1 letter with upper | lower
    · have last : c.val ≤ 'Z'.val := (of_decide_eq_true upper).2
      exact Nat.lt_of_le_of_lt (UInt32.le_iff_toNat_le.1 last) (by decide)
    · have last : c.val ≤ 'z'.val := of_decide_eq_true (Bool.and_eq_true_iff.1 lower).2
      exact Nat.lt_of_le_of_lt (UInt32.le_iff_toNat_le.1 last) (by decide)
  · exact ascii_of_isDigit digit
  · rw [beq_iff_eq.1 underscore]
    decide

theorem beginsIdentifier_of_ascii (ascii : c.toNat < 128) : Naming.beginsIdentifier c = beginsName c := by
  rw [Naming.beginsIdentifier, isAlphabetic, if_pos ascii, beginsName]

theorem continuesIdentifier_of_ascii (ascii : c.toNat < 128) : Naming.continuesIdentifier c = continuesName c := by
  rw [Naming.continuesIdentifier, isAlphanumeric, isAlphabetic, isNumeric, if_pos ascii,
    if_pos ascii, continuesName, Char.isAlphanum]

/-- The plain names are the identifiers of ASCII. -/
theorem isName_iff : IsName name ↔ Naming.spellsIdentifier name = true ∧ ∀ c ∈ name, c.toNat < 128 := by
  constructor
  · rintro ⟨c, rest, rfl, begins, continues⟩
    have first := ascii_of_continuesName (continuesName_of_beginsName begins)
    have others : ∀ d ∈ rest, d.toNat < 128 := fun d member => ascii_of_continuesName (continues d member)
    refine ⟨?_, List.forall_mem_cons.2 ⟨first, others⟩⟩
    rw [Naming.spellsIdentifier, beginsIdentifier_of_ascii first, begins, Bool.true_and, List.all_eq_true]
    intro d member
    rw [continuesIdentifier_of_ascii (others d member)]
    exact continues d member
  · rintro ⟨spelled, ascii⟩
    cases name with
    | nil => cases spelled
    | cons c rest =>
      rw [List.forall_mem_cons] at ascii
      rw [Naming.spellsIdentifier, beginsIdentifier_of_ascii ascii.1, Bool.and_eq_true, List.all_eq_true] at spelled
      refine ⟨c, rest, rfl, spelled.1, ?_⟩
      intro d member
      rw [← continuesIdentifier_of_ascii (ascii.2 d member)]
      exact spelled.2 d member

end Names

/-! ## Announced names -/

/-- The name that a text announces: what stands in front of its first colon, without outer white
space. -/
def announced? (text : List Char) : Option String :=
  if ':' ∈ text then some (String.ofList (trim (text.takeWhile (· != ':')))) else none

section Announcing

variable {text before : List Char} {name : String}

theorem announced?_colon (plain : ':' ∉ before) (rest : List Char) :
    announced? (before ++ ':' :: rest) = some (String.ofList (trim before)) := by
  rw [announced?, if_pos (by simp), (takeWhile_mark plain rest).1]

theorem exists_colon_of_announced? (announces : announced? text = some name) :
    ∃ before rest, text = before ++ ':' :: rest ∧ ':' ∉ before ∧ String.ofList (trim before) = name := by
  rw [announced?] at announces
  split at announces
  · next colon =>
    rcases List.eq_append_cons_of_mem colon with ⟨before, rest, rfl, plain⟩
    rw [(takeWhile_mark plain rest).1] at announces
    exact ⟨before, rest, rfl, plain, Option.some.inj announces⟩
  · cases announces

/-- A segment begins an entry exactly if it announces an identifier of ASCII. -/
theorem startsEntry_iff (segment : List Char) : startsEntry segment = true ↔
    ∃ name, announced? segment = some name ∧ Naming.isIdentifier name = true ∧ IsAscii name := by
  by_cases colon : ':' ∈ segment
  · rcases List.eq_append_cons_of_mem colon with ⟨before, rest, rfl, plain⟩
    rw [startsEntry_colon plain, announced?_colon plain, isName_iff]
    simp [Naming.isIdentifier, IsAscii]
  · rw [startsEntry_of_no_colon colon, announced?, if_neg colon]
    simp

theorem startsEntry_iff_isAscii (announces : announced? text = some name)
    (identifier : Naming.isIdentifier name = true) :
    startsEntry text = true ↔ IsAscii name := by
  rw [startsEntry_iff, announces]
  simp [identifier]

/-- What follows a text does not change the name that it announces. -/
theorem announced?_append (announces : announced? text = some name) (more : List Char) :
    announced? (text ++ more) = some name := by
  rcases exists_colon_of_announced? announces with ⟨before, rest, rfl, plain, same⟩
  rw [List.append_assoc, List.cons_append, announced?_colon plain, same]

/-- An identifier is announced by the first segment of a text already. -/
theorem exists_first_segment (announces : announced? text = some name)
    (identifier : Naming.isIdentifier name = true) :
    ∃ first rest, pieces (· == ',') text = first :: rest ∧ announced? first = some name := by
  rcases exists_colon_of_announced? announces with ⟨before, rest, rfl, plain, rfl⟩
  have sign : IsSign ',' := ⟨by decide, by decide⟩
  -- The name has no comma and trimming takes none away, so that the first colon stands before the
  -- first comma.
  have noComma : ',' ∉ before := by
    intro member
    have absent := Naming.not_mem_of_isIdentifier sign identifier
    rw [String.toList_ofList] at absent
    exact absent (mem_trim (by decide) member)
  have unbroken : ∀ c ∈ before ++ [':'], (c == ',') = false :=
    beq_eq_false_of_not_mem (by simpa using noComma)
  cases cut : pieces (· == ',') rest with
  | nil => exact absurd cut (pieces_ne_nil _ _)
  | cons first others =>
    refine ⟨before ++ [':'] ++ first, others, ?_, ?_⟩
    · rw [← pieces_append_of_unbroken unbroken cut, List.append_assoc, List.singleton_append]
    · rw [List.append_assoc, List.singleton_append, announced?_colon plain]

/-- The field that is read from an entry has the announced name. -/
theorem name_of_readEntry {field : Field} (announces : announced? text = some name)
    (read : readEntry (trim text) = .ok field) : field.name = name := by
  rcases exists_colon_of_announced? announces with ⟨before, rest, rfl, plain, same⟩
  rcases readEntry_eq_ok read with ⟨-, -, rfl⟩
  rw [trimmedParts_trim]
  simpa only [trimmedParts, parts, (takeWhile_mark plain rest).1] using same

end Announcing

/-! ## Entries of a divided text -/

/-- The text ends in an entry that has come to its comment. -/
def endsInComment (text : List Char) : Bool :=
  (entries text).getLast?.any hasComment

section Dividing

variable {front back first segment : List Char} {rest : List (List Char)}

/-- Segments can be gathered in two goes: the second one begins with the last entry of the first. -/
theorem gather_append (entry : List Char) (segments more : List (List Char)) : ∃ before last,
    gather entry segments = before ++ [last] ∧ gather entry (segments ++ more) = before ++ gather last more := by
  induction segments generalizing entry with
  | nil => exact ⟨[], entry, rfl, rfl⟩
  | cons segment others ih =>
    rw [List.cons_append, gather, gather]
    split
    -- The entry grows and stays the one that may still grow, or it is done and the segment takes
    -- its place.
    · exact ih (entry ++ ',' :: segment)
    · rcases ih segment with ⟨before, last, whole, longer⟩
      refine ⟨entry :: before, last, ?_, ?_⟩
      · rw [whole, List.cons_append]
      · rw [longer, List.cons_append]

theorem entries_of_pieces {text : List Char} (cut : pieces (· == ',') text = first :: rest) :
    entries text = gather first rest := by
  rw [entries, cut]

/-- The entries in front of a comma stay as they are, except for the last one. -/
theorem exists_entries_append (front : List Char) (cut : pieces (· == ',') back = first :: rest) : ∃ before last,
    entries front = before ++ [last] ∧ entries (front ++ ',' :: back) = before ++ gather last (first :: rest) := by
  cases start : pieces (· == ',') front with
  | nil => exact absurd start (pieces_ne_nil _ _)
  | cons segment others =>
    have whole : pieces (· == ',') (front ++ ',' :: back) = segment :: (others ++ first :: rest) := by
      rw [pieces_append_break (by simp), start, cut, List.cons_append]
    rw [entries_of_pieces start, entries_of_pieces whole]
    exact gather_append segment others (first :: rest)

/-- The comma divides the entries unless a comment in front of it takes in what follows. -/
theorem entries_append (cut : pieces (· == ',') back = first :: rest)
    (divides : startsEntry first = true ∨ endsInComment front = false) :
    entries (front ++ ',' :: back) = entries front ++ entries back := by
  rcases exists_entries_append front cut with ⟨before, last, short, long⟩
  have kept : ¬(!startsEntry first && hasComment last) = true := by
    rcases divides with starts | uncommented
    · simp [starts]
    · rw [endsInComment, short, List.getLast?_concat, Option.any_some] at uncommented
      simp [uncommented]
  rw [long, gather, if_neg kept, short, entries_of_pieces cut, List.append_assoc, List.singleton_append]

/-- A comment takes in a segment that does not begin an entry. -/
theorem exists_entries_absorbing (plain : ',' ∉ segment) (quiet : startsEntry segment = false)
    (inside : endsInComment front = true) : ∃ before last, hasComment last = true ∧
      entries front = before ++ [last] ∧
        entries (front ++ ',' :: segment) = before ++ [last ++ ',' :: segment] := by
  rcases exists_entries_append front (pieces_of_unbroken (beq_eq_false_of_not_mem plain)) with
    ⟨before, last, short, long⟩
  rw [endsInComment, short, List.getLast?_concat, Option.any_some] at inside
  refine ⟨before, last, inside, short, ?_⟩
  rw [long, gather, if_pos (by simp [quiet, inside]), gather]

end Dividing

/-! ## Fields of a divided text -/

/-- The two sides of a comma are read one after the other. -/
def Divides (front back : String) : Prop :=
  parse (front ++ "," ++ back) = do
    let fields ← parse front
    let others ← parse back
    return fields ++ others

/-- What follows a comma goes into the comment of the last field in front of it. -/
def Absorbs (front segment : String) : Prop :=
  ∀ fields, parse front = .ok fields → ∃ before field comment,
    fields = before ++ [field] ∧ field.comment = Text.trimmed comment ∧
    parse (front ++ "," ++ segment) =
      .ok (before ++ [{ field with comment := Text.trimmed (comment ++ "," ++ segment) }])

section Reading

variable {entry : List Char} {initial : List (List Char)} {fields : List Field} {front back segment name : String}

theorem readEntries_append (first second : List (List Char)) : readEntries (first ++ second) = do
    let fields ← readEntries first
    let others ← readEntries second
    return fields ++ others := by
  induction first with
  | nil => exact (bind_pure (readEntries second)).symm
  | cons entry rest ih =>
    rw [List.cons_append, readEntries, readEntries, ih]
    simp only [bind_assoc, pure_bind, List.cons_append]

theorem readEntries_concat_eq_ok : readEntries (initial ++ [entry]) = .ok fields ↔
    ∃ before field, readEntries initial = .ok before ∧ readEntry entry = .ok field ∧
      fields = before ++ [field] := by
  rw [readEntries_append, readEntries, readEntries]
  cases readEntries initial with
  | error fault =>
    constructor
    · intro whole
      cases whole
    · rintro ⟨_, _, start, -⟩
      cases start
  | ok before =>
    cases readEntry entry with
    | error fault =>
      constructor
      · intro whole
        cases whole
      · rintro ⟨_, _, -, finish, -⟩
        cases finish
    | ok field =>
      constructor
      · intro whole
        exact ⟨before, field, rfl, rfl, (Except.ok.inj whole).symm⟩
      · rintro ⟨_, _, ⟨⟩, ⟨⟩, rfl⟩
        rfl

/-- An entry with a name and a type stands for a field. -/
theorem readEntry_of_parts (named : (trimmedParts entry).1 ≠ []) (typed : (trimmedParts entry).2.1 ≠ []) :
    readEntry entry = .ok {
      name := String.ofList (trimmedParts entry).1
      logicalType := String.ofList (trimmedParts entry).2.1
      comment := String.ofList (trimmedParts entry).2.2 } := by
  rw [trimmedParts] at named typed
  rw [readEntry]
  dsimp only
  rw [if_neg (by simp [named, typed])]
  rfl

/-! ### Entries with some text -/

/-- The entries as they are read: trimmed, and without those that have no text. -/
def written (raw : List (List Char)) : List (List Char) :=
  (raw.map trim).filter (fun entry => !entry.isEmpty)

theorem parse_eq (text : String) : parse text = readEntries (written (entries text.toList)) :=
  rfl

theorem written_append (first second : List (List Char)) :
    written (first ++ second) = written first ++ written second := by
  rw [written, List.map_append, List.filter_append, written, written]

theorem written_cons_of_colon (colon : ':' ∈ entry) (rest : List (List Char)) :
    written (entry :: rest) = trim entry :: written rest := by
  have solid : trim entry ≠ [] := List.ne_nil_of_mem (mem_trim (by decide) colon)
  rw [written, List.map_cons, List.filter_cons_of_pos (by simpa using solid), written]

theorem written_concat_of_colon (colon : ':' ∈ entry) (raw : List (List Char)) :
    written (raw ++ [entry]) = written raw ++ [trim entry] := by
  rw [written_append, written_cons_of_colon colon]
  rfl

theorem colon_of_hasComment (commented : hasComment entry = true) : ':' ∈ entry := by
  rw [hasComment, decide_eq_true_eq] at commented
  exact List.count_pos_iff.1 (Nat.lt_of_lt_of_le Nat.zero_lt_two commented)

/-! ### Both sides of a comma -/

theorem toList_divided (front back : String) :
    (front ++ "," ++ back).toList = front.toList ++ ',' :: back.toList := by
  simp

theorem divides_of_announced? (announces : announced? back.toList = some name)
    (identifier : Naming.isIdentifier name = true) (free : IsAscii name ∨ endsInComment front.toList = false) :
    Divides front back := by
  rcases exists_first_segment announces identifier with ⟨first, rest, cut, known⟩
  rw [← startsEntry_iff_isAscii known identifier] at free
  rw [Divides, parse_eq, toList_divided, entries_append cut free, written_append, readEntries_append]
  rfl

/-- The first field that is read from a text has the name that the text announces. -/
theorem exists_field_of_announced? (announces : announced? back.toList = some name)
    (identifier : Naming.isIdentifier name = true) (read : parse back = .ok fields) :
    ∃ field rest, fields = field :: rest ∧ field.name = name := by
  rcases exists_first_segment announces identifier with ⟨first, rest, cut, known⟩
  rcases gather_eq_cons first rest with ⟨more, others, gathered⟩
  have longer := announced?_append known more
  have colon : ':' ∈ first ++ more := by
    rcases exists_colon_of_announced? longer with ⟨before, behind, whole, -⟩
    simp [whole]
  rw [parse_eq, entries_of_pieces cut, gathered, written_cons_of_colon colon, readEntries] at read
  cases here : readEntry (trim (first ++ more)) with
  | error fault => rw [here] at read; cases read
  | ok field =>
    cases later : readEntries (written others) with
    | error fault => rw [here, later] at read; cases read
    | ok rest =>
      rw [here, later] at read
      exact ⟨field, rest, (Except.ok.inj read).symm, name_of_readEntry longer here⟩

theorem absorbs_of_quiet (plain : ',' ∉ segment.toList) (quiet : startsEntry segment.toList = false)
    (inside : endsInComment front.toList = true) : Absorbs front segment := by
  rcases exists_entries_absorbing plain quiet inside with ⟨before, last, commented, short, long⟩
  have colon := colon_of_hasComment commented
  -- The name and the type stand before the second colon, which the last entry has already.
  have extended : trimmedParts (last ++ ',' :: segment.toList) =
      ((trimmedParts last).1, (trimmedParts last).2.1, trim ((parts last).2.2 ++ ',' :: segment.toList)) := by
    rw [trimmedParts, parts_append commented, trimmedParts]
  intro fields read
  rw [parse_eq, short, written_concat_of_colon colon, readEntries_concat_eq_ok] at read
  rcases read with ⟨others, field, start, finish, rfl⟩
  rcases readEntry_eq_ok finish with ⟨named, typed, rfl⟩
  rw [trimmedParts_trim] at named typed ⊢
  refine ⟨others, _, String.ofList (parts last).2.2, rfl, ?_, ?_⟩
  · rw [Text.trimmed, String.toList_ofList, trimmedParts]
  · rw [parse_eq, toList_divided, long, written_concat_of_colon (List.mem_append_left _ colon),
      readEntries_concat_eq_ok]
    refine ⟨others, _, start, readEntry_of_parts ?_ ?_, ?_⟩
    all_goals rw [trimmedParts_trim, extended]
    · exact named
    · exact typed
    · simp [Text.trimmed]

end Reading

/-! ## Fields of an accepted request -/

theorem parse_render_iff {fields : List Field} (listable : ∀ field ∈ fields, IsListable field) :
    parse (render fields) = .ok fields ↔
      fields.IsChain (fun field next => field.comment ≠ "" → IsName next.name.toList) := by
  constructor
  · intro read
    exact (wellFormed_of_parse read).named
  · intro named
    exact parse_render ⟨listable, named⟩

/-- A text begins with an entry exactly if it announces an identifier of ASCII.  A comma in front of
such a text divides the list, and outside a comment so does a comma in front of any other announced
identifier; the announced field is then the first one behind the comma.  In a comment, a segment
that announces a name beyond ASCII belongs to the comment.  The fields of an accepted request are
read from their list exactly if each name behind a comment is one of ASCII. -/
theorem announced_kept_apart (front back : String) (request : Request) :
    (startsEntry back.toList = true ↔
      ∃ name, announced? back.toList = some name ∧ Naming.isIdentifier name = true ∧ IsAscii name) ∧
    (∀ name, announced? back.toList = some name → Naming.isIdentifier name = true →
      IsAscii name ∨ endsInComment front.toList = false →
        Divides front back ∧
          ∀ fields, parse back = .ok fields → ∃ field rest, fields = field :: rest ∧ field.name = name) ∧
    (∀ name, announced? back.toList = some name → ¬ IsAscii name → ',' ∉ back.toList →
      endsInComment front.toList = true → Absorbs front back) ∧
    (Validation.check request = [] → (∀ field ∈ request.fields, IsListable field) →
      (parse (render request.fields) = .ok request.fields ↔
        request.fields.IsChain fun field next => field.comment ≠ "" → IsAscii next.name)) := by
  refine ⟨startsEntry_iff back.toList, ?_, ?_, ?_⟩
  · intro name announces identifier free
    exact ⟨divides_of_announced? announces identifier free,
      fun fields read => exists_field_of_announced? announces identifier read⟩
  · intro name announces foreign plain inside
    apply absorbs_of_quiet plain ?_ inside
    rw [← Bool.not_eq_true, startsEntry_iff]
    rintro ⟨other, same, -, ascii⟩
    rw [announces] at same
    cases same
    exact foreign ascii
  · intro accepted listable
    have proper := (Validation.check_eq_nil.1 accepted).fields
    rw [parse_render_iff listable]
    apply List.IsChain.iff_of_mem_imp
    intro field next _ member
    have identifier := (proper next member).identifier
    rw [Naming.isIdentifier] at identifier
    rw [isName_iff, identifier, eq_self, true_and, IsAscii]

/-- A handler for a model with the fields. -/
def orderWith (fields : List Field) : Request where
  component := .one (.layer .handler)
  modelName := "Order"
  fields := fields

/-- A field of ASCII with a comment, and behind it a field whose name has letters that are not of
ASCII. -/
def sizedFields : List Field := [
  { name := "Name", logicalType := "string", comment := "Label" },
  { name := "Größe", logicalType := "int" }]

/-- The field behind a comment is read with a name of ASCII, and goes into the comment with another
name. -/
theorem announced_kept_apart_price :
    (announced? " Price:decimal:Unit price, in cents".toList = some "Price" ∧ Naming.isIdentifier "Price" = true ∧
      IsAscii "Price" ∧ Divides "Name:string:Label, short" " Price:decimal:Unit price, in cents") ∧
    (announced? "Größe:int".toList = some "Größe" ∧ ',' ∉ "Größe:int".toList ∧ ¬ IsAscii "Größe" ∧
      endsInComment "Name:string:Label, short".toList = true ∧ Absorbs "Name:string:Label, short" "Größe:int") ∧
    Validation.check (orderWith commentedFields) = [] ∧ (∀ field ∈ commentedFields, IsListable field) ∧
      (commentedFields.IsChain fun field next => field.comment ≠ "" → IsAscii next.name) := by
  have announced : announced? " Price:decimal:Unit price, in cents".toList = some "Price" := by decide
  have identifier : Naming.isIdentifier "Price" = true := by decide
  have ascii : IsAscii "Price" := by decide
  have foreign : ¬ IsAscii "Größe" := by decide
  have known : announced? "Größe:int".toList = some "Größe" := by decide
  have plain : ',' ∉ "Größe:int".toList := by decide
  have inside : endsInComment "Name:string:Label, short".toList = true := by decide
  have accepted : Validation.check (orderWith commentedFields) = [] := by decide +kernel
  have listable := commentedFields_wellFormed.listable
  have price := announced_kept_apart "Name:string:Label, short" " Price:decimal:Unit price, in cents"
    (orderWith commentedFields)
  have size := announced_kept_apart "Name:string:Label, short" "Größe:int" (orderWith commentedFields)
  refine ⟨⟨announced, identifier, ascii, ?_⟩, ⟨known, plain, foreign, inside, ?_⟩, accepted, listable, ?_⟩
  · exact (price.2.1 "Price" announced identifier (.inl ascii)).1
  · exact size.2.2.1 "Größe" known foreign plain inside
  · exact (price.2.2.2 accepted listable).1 (parse_render commentedFields_wellFormed)

/-- Not every accepted field is read from its list. -/
theorem not_announced_kept_apart :
    (announced? "Größe:int".toList = some "Größe" ∧ Naming.isIdentifier "Größe" = true ∧
      startsEntry "Größe:int".toList = false) ∧
    (Validation.check (orderWith sizedFields) = [] ∧ render sizedFields = "Name:string:Label,Größe:int" ∧
      parse (render sizedFields) =
        .ok [{ name := "Name", logicalType := "string", comment := "Label,Größe:int" }]) ∧
    ¬ ∀ segment : List Char, startsEntry segment = true ↔
      ∃ name, announced? segment = some name ∧ Naming.isIdentifier name = true := by
  have known : announced? "Größe:int".toList = some "Größe" := by decide
  have identifier : Naming.isIdentifier "Größe" = true := by decide +kernel
  have quiet : startsEntry "Größe:int".toList = false := by decide
  refine ⟨⟨known, identifier, quiet⟩, ⟨by decide +kernel, by decide, rfl⟩, fun all => ?_⟩
  have starts := (all "Größe:int".toList).2 ⟨"Größe", known, identifier⟩
  rw [quiet] at starts
  cases starts

end FieldList
end Scaffold
