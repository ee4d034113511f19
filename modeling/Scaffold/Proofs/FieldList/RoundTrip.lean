import Scaffold.Proofs.FieldList.Entries

namespace Scaffold
namespace FieldList

/-!
# Lists that can be written on one line

The lists of fields that reading can give are described without any reference to reading.  They are
exactly those that are read back from the text that lists them: a comment may hold commas as long as
nothing in it looks like the next field, and after a comment the next field has to look like one.
-/

open Text

/-- A name or a type: some text without outer white space and without the marks of the notation. -/
structure IsLabel (text : String) : Prop where
  solid : text ≠ ""
  trimmed : Text.trimmed text = text
  noComma : ',' ∉ text.toList
  noColon : ':' ∉ text.toList

/-- A field that an entry can stand for. -/
structure IsListable (field : Field) : Prop where
  name : IsLabel field.name
  logicalType : IsLabel field.logicalType
  comment : Text.trimmed field.comment = field.comment
  quiet : ∀ segment ∈ (pieces (· == ',') field.comment.toList).tail, startsEntry segment = false
  bare : field.storageTag = "" ∧ field.serializationTag = "" ∧ field.validationRule = ""

/-- The fields can all be listed, and whatever follows a comment is seen to be a field. -/
structure WellFormed (fields : List Field) : Prop where
  listable : ∀ field ∈ fields, IsListable field
  named : fields.IsChain (fun field next => field.comment ≠ "" → IsName next.name.toList)

/-! ## What reading gives -/

section Reading

variable {entry gap comment : List Char} {field : Field} {fields : List Field}

/-- The parts of an entry as a field takes them. -/
def trimmedParts (entry : List Char) : List Char × List Char × List Char :=
  (trim (parts entry).1, trim (parts entry).2.1, trim (parts entry).2.2)

theorem not_mem_of_blank (blank : ∀ c ∈ gap, isBlank c = true) (mark : Char) (solid : isBlank mark = false) :
    mark ∉ gap := by
  intro member
  rw [blank mark member] at solid
  cases solid

theorem trimmedParts_append_left (blank : ∀ c ∈ gap, isBlank c = true) (entry : List Char) :
    trimmedParts (gap ++ entry) = trimmedParts entry := by
  have passed := bne_of_not_mem (not_mem_of_blank blank ':' (by decide))
  simp only [trimmedParts, parts, List.takeWhile_append_of_pos passed, List.dropWhile_append_of_pos passed,
    trim_append_left blank]

theorem trimmedParts_append_right (blank : ∀ c ∈ gap, isBlank c = true) (entry : List Char) :
    trimmedParts (entry ++ gap) = trimmedParts entry := by
  have noColon := not_mem_of_blank blank ':' (by decide)
  rcases entry_cases entry with ⟨name, logicalType, comment, rfl, plainName, plainType⟩ |
    ⟨name, logicalType, rfl, plainName, plainType⟩ | plain
  · rw [trimmedParts, List.append_assoc, List.cons_append, List.append_assoc, List.cons_append,
      parts_of_two_colons plainName plainType, trimmedParts, parts_of_two_colons plainName plainType,
      trim_append_right blank]
  · have plainMore : ':' ∉ logicalType ++ gap := by simp [plainType, noColon]
    rw [trimmedParts, List.append_assoc, List.cons_append, parts_of_one_colon plainName plainMore, trimmedParts,
      parts_of_one_colon plainName plainType, trim_append_right blank]
  · have plainMore : ':' ∉ entry ++ gap := by simp [plain, noColon]
    rw [trimmedParts, parts_of_no_colon plainMore, trimmedParts, parts_of_no_colon plain, trim_append_right blank]

theorem trimmedParts_trim (entry : List Char) : trimmedParts (trim entry) = trimmedParts entry := by
  rcases exists_append_trimStart entry with ⟨lead, leadBlank, start⟩
  rcases exists_trimEnd_append (trimStart entry) with ⟨gap, blank, finish⟩
  conv => rhs; rw [start, trimmedParts_append_left leadBlank, finish, trimmedParts_append_right blank]
  rfl

/-- A comment without its outer white space has no more segments that begin an entry. -/
theorem quiet_trim (quiet : ∀ segment ∈ (pieces (· == ',') comment).tail, startsEntry segment = false) :
    ∀ segment ∈ (pieces (· == ',') (trim comment)).tail, startsEntry segment = false := by
  have unbroken : ∀ {gap : List Char}, (∀ c ∈ gap, isBlank c = true) → ∀ c ∈ gap, (c == ',') = false :=
    fun blank => beq_eq_false_of_not_mem (not_mem_of_blank blank ',' (by decide))
  rcases exists_append_trimStart comment with ⟨lead, leadBlank, start⟩
  rcases exists_trimEnd_append (trimStart comment) with ⟨gap, blank, finish⟩
  rcases exists_pieces_append_of_unbroken (trim comment) (unbroken blank) with ⟨others, last, cut, longer⟩
  rw [cut]
  rw [start, finish, ← trim] at quiet
  cases others with
  | nil => simp
  | cons first middle =>
    rw [pieces_append_of_unbroken (unbroken leadBlank) longer] at quiet
    intro segment member
    rcases List.mem_append.1 member with inner | outer
    · exact quiet segment (List.mem_append_left _ inner)
    · rw [List.mem_singleton.1 outer]
      have still := quiet (last ++ gap) (List.mem_append_right _ (List.mem_singleton_self _))
      -- Were `last` to begin an entry, so would the longer segment that it was cut from.
      rw [← Bool.not_eq_true] at still ⊢
      exact fun starts => still (startsEntry_append starts gap)

theorem readEntry_eq_ok (read : readEntry entry = .ok field) :
    (trimmedParts entry).1 ≠ [] ∧ (trimmedParts entry).2.1 ≠ [] ∧
      field = {
        name := String.ofList (trimmedParts entry).1
        logicalType := String.ofList (trimmedParts entry).2.1
        comment := String.ofList (trimmedParts entry).2.2 } := by
  rw [readEntry] at read
  dsimp only at read
  split at read
  · cases read
  · next solid =>
    cases read
    simp only [Bool.or_eq_true, List.isEmpty_iff, not_or] at solid
    exact ⟨solid.1, solid.2, rfl⟩

/-- The field that a gathered entry stands for can be listed. -/
theorem isListable_of_readEntry (gathered : IsGathered entry) (read : readEntry (trim entry) = .ok field) :
    IsListable field := by
  rcases readEntry_eq_ok read with ⟨name, logicalType, rfl⟩
  rw [trimmedParts_trim] at name logicalType ⊢
  have label : ∀ {part : List Char}, trim part ≠ [] → ',' ∉ part → ':' ∉ part →
      IsLabel (String.ofList (trim part)) := by
    intro part solid noComma noColon
    constructor
    · simpa using solid
    · rw [Text.trimmed, String.toList_ofList, trim_trim]
    · rw [String.toList_ofList]; exact fun member => noComma (mem_of_mem_trim member)
    · rw [String.toList_ofList]; exact fun member => noColon (mem_of_mem_trim member)
  constructor
  case name => exact label name gathered.name (plain_name entry)
  case logicalType => exact label logicalType gathered.logicalType (plain_type entry)
  case comment => rw [Text.trimmed, String.toList_ofList, trimmedParts, trim_trim]
  case quiet =>
    rw [String.toList_ofList]
    exact quiet_trim gathered.comment
  case bare => exact ⟨rfl, rfl, rfl⟩

/-- A field has a comment only if its entry has two colons. -/
theorem hasComment_of_readEntry (read : readEntry (trim entry) = .ok field) (comment : field.comment ≠ "") :
    hasComment entry = true := by
  rcases readEntry_eq_ok read with ⟨-, -, rfl⟩
  rw [trimmedParts_trim] at comment
  by_contra uncommented
  rw [Bool.not_eq_true] at uncommented
  apply comment
  simp [trimmedParts, comment_eq_nil uncommented, trim, trimStart, trimEnd]

theorem isName_of_readEntry (read : readEntry (trim entry) = .ok field) (starts : startsEntry entry = true) :
    IsName field.name.toList := by
  rcases readEntry_eq_ok read with ⟨-, -, rfl⟩
  rw [trimmedParts_trim, String.toList_ofList]
  by_cases colon : ':' ∈ entry
  · rcases List.eq_append_cons_of_mem colon with ⟨name, rest, rfl, plain⟩
    rw [startsEntry_colon plain] at starts
    simpa only [trimmedParts, parts, (takeWhile_mark plain rest).1] using starts
  · rw [startsEntry_of_no_colon colon] at starts
    cases starts

theorem trim_ne_nil_of_startsEntry (starts : startsEntry entry = true) : trim entry ≠ [] := by
  intro nothing
  by_cases colon : ':' ∈ entry
  · have member := mem_trim (by decide) colon
    rw [nothing] at member
    cases member
  · rw [startsEntry_of_no_colon colon] at starts
    cases starts

/-- Whatever is read off gathered entries is well formed, and a first entry that was seen to begin
gives a field with a plain name. -/
theorem wellFormed_of_readEntries {raw : List (List Char)} (gathered : ∀ entry ∈ raw, IsGathered entry)
    (chain : raw.IsChain (fun entry next => hasComment entry = true → startsEntry next = true))
    (read : readEntries ((raw.map trim).filter (fun entry => !entry.isEmpty)) = .ok fields) :
    WellFormed fields ∧
      ∀ first, raw.head? = some first → startsEntry first = true → ∀ field, fields.head? = some field →
        IsName field.name.toList := by
  induction raw generalizing fields with
  | nil =>
    cases read
    exact ⟨⟨by simp, .nil⟩, by simp⟩
  | cons entry rest ih =>
    have others := fun other member => gathered other (List.mem_cons_of_mem entry member)
    rw [List.isChain_cons] at chain
    by_cases nothing : trim entry = []
    · rw [List.map_cons, List.filter_cons_of_neg (by simp [nothing])] at read
      refine ⟨(ih others chain.2 read).1, ?_⟩
      intro first same starts
      cases same
      exact absurd nothing (trim_ne_nil_of_startsEntry starts)
    · rw [List.map_cons, List.filter_cons_of_pos (by simpa using nothing), readEntries] at read
      cases here : readEntry (trim entry) with
      | error fault => rw [here] at read; cases read
      | ok field =>
        cases later : readEntries ((rest.map trim).filter (fun entry => !entry.isEmpty)) with
        | error fault => rw [here, later] at read; cases read
        | ok more =>
          rw [here, later] at read
          cases read
          rcases ih others chain.2 later with ⟨wellFormed, named⟩
          refine ⟨⟨?_, ?_⟩, ?_⟩
          · intro other member
            rcases List.mem_cons.1 member with rfl | inside
            · exact isListable_of_readEntry (gathered entry List.mem_cons_self) here
            · exact wellFormed.listable other inside
          · rw [List.isChain_cons]
            refine ⟨?_, wellFormed.named⟩
            intro next follows comment
            have commented := hasComment_of_readEntry here comment
            cases rest with
            | nil => cases later; cases follows
            | cons second _ => exact named second rfl (chain.1 second rfl commented) next follows
          · intro first same starts other sameField
            cases same
            cases sameField
            exact isName_of_readEntry here starts

/-- Every list that is read is well formed. -/
theorem wellFormed_of_parse {text : String} (read : parse text = .ok fields) : WellFormed fields := by
  have segments : ∀ segment ∈ pieces (· == ',') text.toList, ',' ∉ segment := by
    intro segment member inside
    simpa using unbroken_of_mem_pieces member ',' inside
  rw [parse, entries] at read
  cases cut : pieces (· == ',') text.toList with
  | nil => exact absurd cut (pieces_ne_nil _ _)
  | cons first rest =>
    rw [cut] at read segments
    have start := isGathered_of_segment (segments first List.mem_cons_self)
    have others := fun segment member => segments segment (List.mem_cons_of_mem first member)
    exact (wellFormed_of_readEntries (isGathered_of_mem_gather start others) (isChain_gather first rest) read).1

end Reading

/-! ## What is read back -/

section Rendering

variable {field : Field} {fields : List Field}

theorem joinWith_cons_eq (mark : Char) (first : List Char) (others : List (List Char)) :
    joinWith [mark] (first :: others) = first ++ others.flatMap (mark :: ·) := by
  induction others generalizing first with
  | nil => simp [joinWith]
  | cons next rest ih => rw [joinWith_cons_of_ne_nil _ _ (by simp), ih]; simp

theorem entryText_of_comment (commented : field.comment ≠ "") : entryText field =
    field.name.toList ++ ':' :: (field.logicalType.toList ++ ':' :: field.comment.toList) := by
  rw [entryText, if_neg (by simpa using commented)]
  simp

theorem entryText_of_no_comment (uncommented : field.comment = "") :
    entryText field = field.name.toList ++ ':' :: field.logicalType.toList := by
  rw [entryText, if_pos (by simp [uncommented])]
  simp

theorem trim_toList {text : String} (trimmed : Text.trimmed text = text) : trim text.toList = text.toList := by
  conv => rhs; rw [← trimmed, Text.trimmed, String.toList_ofList]

theorem IsLabel.toList_ne_nil {text : String} (label : IsLabel text) : text.toList ≠ [] := by
  simpa using label.solid

/-- The entry of a field is cut at the commas of its comment; the further segments go into the entry
again. -/
theorem exists_pieces_entryText (listable : IsListable field) : ∃ first others,
    pieces (· == ',') (entryText field) = first :: others ∧
    (∀ rest, gather first (others ++ rest) = gather (entryText field) rest) ∧
    (IsName field.name.toList → startsEntry first = true) := by
  have starts : ∀ rest, IsName field.name.toList → startsEntry (field.name.toList ++ ':' :: rest) = true := by
    intro rest name
    rw [startsEntry_colon listable.name.noColon, trim_toList listable.name.trimmed]
    exact name
  have unbroken : ∀ c ∈ field.name.toList ++ ':' :: field.logicalType.toList, (c == ',') = false := by
    apply beq_eq_false_of_not_mem
    simp [listable.name.noComma, listable.logicalType.noComma]
  by_cases uncommented : field.comment = ""
  · rw [entryText_of_no_comment uncommented]
    exact ⟨_, [], pieces_of_unbroken unbroken, fun _ => rfl, starts _⟩
  · have unbrokenStart : ∀ c ∈ field.name.toList ++ ':' :: (field.logicalType.toList ++ [':']),
        (c == ',') = false := by
      intro c member
      rw [← List.cons_append, ← List.append_assoc, List.mem_append, List.mem_singleton] at member
      rcases member with inside | rfl
      · exact unbroken c inside
      · decide
    cases cut : pieces (· == ',') field.comment.toList with
    | nil => exact absurd cut (pieces_ne_nil _ _)
    | cons first others =>
      have quiet := listable.quiet
      rw [cut, List.tail_cons] at quiet
      have whole := joinWith_pieces ',' field.comment.toList
      rw [cut, joinWith_cons_eq] at whole
      have text : entryText field =
          field.name.toList ++ ':' :: (field.logicalType.toList ++ [':']) ++ field.comment.toList := by
        rw [entryText_of_comment uncommented]
        simp
      have commented := hasComment_of_two_colons field.name.toList field.logicalType.toList first
      refine ⟨field.name.toList ++ ':' :: (field.logicalType.toList ++ ':' :: first), others, ?_, ?_, starts _⟩
      · rw [text, pieces_append_of_unbroken unbrokenStart cut]
        simp
      · intro rest
        rw [gather_append_of_quiet commented quiet, entryText_of_comment uncommented, ← whole]
        simp

theorem trim_entryText (listable : IsListable field) : trim (entryText field) = entryText field := by
  have name := trim_toList listable.name.trimmed
  have logicalType := trim_toList listable.logicalType.trimmed
  by_cases uncommented : field.comment = ""
  · have ends := trim_append_append name listable.name.toList_ne_nil [':'] logicalType
      listable.logicalType.toList_ne_nil
    rw [entryText_of_no_comment uncommented]
    simpa using ends
  · have ends := trim_append_append name listable.name.toList_ne_nil (':' :: (field.logicalType.toList ++ [':']))
      (trim_toList listable.comment) (by simpa using uncommented)
    rw [entryText_of_comment uncommented]
    simpa using ends

theorem readEntry_entryText (listable : IsListable field) : readEntry (entryText field) = .ok field := by
  have cut : parts (entryText field) = (field.name.toList, field.logicalType.toList, field.comment.toList) := by
    by_cases uncommented : field.comment = ""
    · rw [entryText_of_no_comment uncommented,
        parts_of_one_colon listable.name.noColon listable.logicalType.noColon, uncommented]
      rfl
    · rw [entryText_of_comment uncommented,
        parts_of_two_colons listable.name.noColon listable.logicalType.noColon]
  rw [readEntry, cut]
  dsimp only
  rw [trim_toList listable.name.trimmed, trim_toList listable.logicalType.trimmed, trim_toList listable.comment,
    if_neg (by simp [listable.name.solid, listable.logicalType.solid])]
  rcases field with ⟨name, logicalType, storageTag, serializationTag, validationRule, comment⟩
  rcases listable.bare with ⟨storage, serialization, validation⟩
  dsimp only at storage serialization validation
  subst storage serialization validation
  simp only [String.ofList_toList]

/-- The segments of all fields are gathered to the entries of the fields. -/
theorem gather_entryTexts (wellFormed : WellFormed (field :: fields)) :
    gather (entryText field) (fields.flatMap (fun field => pieces (· == ',') (entryText field))) =
      (field :: fields).map entryText := by
  induction fields generalizing field with
  | nil => rfl
  | cons next rest ih =>
    have named := List.isChain_cons_cons.1 wellFormed.named
    have listable := fun other member => wellFormed.listable other (List.mem_cons_of_mem field member)
    have here := wellFormed.listable field List.mem_cons_self
    rcases exists_pieces_entryText (listable next List.mem_cons_self) with ⟨first, others, cut, joined, starts⟩
    have separate : ¬(!startsEntry first && hasComment (entryText field)) = true := by
      by_cases uncommented : field.comment = ""
      · rw [entryText_of_no_comment uncommented,
          hasComment_of_one_colon here.name.noColon here.logicalType.noColon]
        simp
      · simp [starts (named.1 uncommented)]
    rw [List.flatMap_cons, cut, List.cons_append, gather, if_neg separate, joined, ih ⟨listable, named.2⟩]
    rfl

theorem readEntries_entryTexts (listable : ∀ field ∈ fields, IsListable field) :
    readEntries (((fields.map entryText).map trim).filter (fun entry => !entry.isEmpty)) = .ok fields := by
  induction fields with
  | nil => rfl
  | cons field rest ih =>
    have here := listable field List.mem_cons_self
    have solid : entryText field ≠ [] := by simp [entryText]
    rw [List.map_cons, List.map_cons, trim_entryText here, List.filter_cons_of_pos (by simpa using solid),
      readEntries, readEntry_entryText here, ih fun other member =>
        listable other (List.mem_cons_of_mem field member)]
    rfl

/-- A well-formed list is read back from the text that lists it. -/
theorem parse_render (wellFormed : WellFormed fields) : parse (render fields) = .ok fields := by
  rw [parse, render, String.toList_ofList, entries]
  cases fields with
  | nil => rfl
  | cons field rest =>
    rcases exists_pieces_entryText (wellFormed.listable field List.mem_cons_self) with
      ⟨first, others, cut, joined, -⟩
    have segments : pieces (· == ',') (joinWith [','] ((field :: rest).map entryText)) =
        first :: (others ++ rest.flatMap (fun field => pieces (· == ',') (entryText field))) := by
      rw [pieces_joinWith (by simp), List.flatMap_map, List.flatMap_cons, cut]
      rfl
    rw [segments]
    dsimp only
    rw [joined, gather_entryTexts wellFormed]
    exact readEntries_entryTexts wellFormed.listable

end Rendering

/-- Reading gives well-formed lists only, and gives each of them for the text that lists it. -/
theorem parse_image (fields : List Field) :
    (∀ text, parse text = .ok fields → WellFormed fields) ∧
      (WellFormed fields → parse (render fields) = .ok fields) :=
  ⟨fun _ => wellFormed_of_parse, parse_render⟩

/-- The comma and the second colon of the comment do not end it. -/
def commentedFields : List Field := [
  { name := "Name", logicalType := "string", comment := "first, and the last: both" },
  { name := "Age", logicalType := "int" }]

theorem commentedFields_wellFormed : WellFormed commentedFields where
  listable := by
    have label : ∀ text ∈ ["Name", "string", "Age", "int"], IsLabel text := by
      intro text member
      simp only [List.mem_cons, List.not_mem_nil, or_false] at member
      rcases member with rfl | rfl | rfl | rfl <;> constructor <;> decide
    intro field member
    simp only [commentedFields, List.mem_cons, List.not_mem_nil, or_false] at member
    rcases member with rfl | rfl
    · exact ⟨label _ (by simp), label _ (by simp), by decide, by decide, rfl, rfl, rfl⟩
    · exact ⟨label _ (by simp), label _ (by simp), by decide, by decide, rfl, rfl, rfl⟩
  named := by
    have letters : ['g', 'e'].all continuesName = true := by decide
    have age : IsName "Age".toList := ⟨'A', ['g', 'e'], rfl, by decide, List.all_eq_true.1 letters⟩
    exact .cons_cons (fun _ => age) (.singleton _)

theorem parse_image_commented :
    WellFormed commentedFields ∧ render commentedFields = "Name:string:first, and the last: both,Age:int" ∧
      parse (render commentedFields) = .ok commentedFields :=
  ⟨commentedFields_wellFormed, by decide, (parse_image commentedFields).2 commentedFields_wellFormed⟩

end FieldList
end Scaffold
