import Scaffold.Json.Decode
import Scaffold.Proofs.Json.Literal

namespace Scaffold
namespace Json

/-!
# Documents that are read back

Both layouts of a document are instances of one: tokens with white space in some places between
them, which a style chooses.  Whatever the style, a document without floating-point numbers and with
integers of at most 64 bits is read back as it was.  The reader needs no more fuel than the text has
characters, because every step into a value or on to the next item passes at least one of them.
-/

/-! ## Layouts -/

/-- The white space of a layout: before an item or a closing bracket of the given level, and behind
a colon. -/
structure Style where
  line : Nat → List Char
  space : List Char

namespace Style

/-- No white space at all. -/
def compact : Style :=
  ⟨fun _ => [], []⟩

/-- One item a line. -/
def indented : Style :=
  ⟨newLine, [' ']⟩

/-- Nothing but white space stands between the tokens. -/
structure IsBlank (style : Style) : Prop where
  line : ∀ level, ∀ c ∈ style.line level, isGap c = true
  space : ∀ c ∈ style.space, isGap c = true

theorem compact_isBlank : compact.IsBlank :=
  ⟨fun _ c member => by simp [compact] at member, fun c member => by simp [compact] at member⟩

theorem indented_isBlank : indented.IsBlank where
  line level c member := by
    rcases List.mem_cons.1 member with rfl | blank
    · rfl
    · rw [List.eq_of_mem_replicate blank]
      rfl
  space c member := by
    rw [List.mem_singleton.1 member]
    rfl

end Style

variable (style : Style)

mutual

/-- The document in a style, the surrounding text being at the given level. -/
def spell (level : Nat) : Value → List Char
  | .null => "null".toList
  | .bool b => (if b then "true" else "false").toList
  | .integer n => integerText n
  | .float x => Decimal.pointed x
  | .string s => quote s
  | .array [] => ['[', ']']
  | .array (item :: rest) =>
    '[' :: style.line (level + 1) ++ spell (level + 1) item ++ spellItems (level + 1) rest ++
      style.line level ++ [']']
  | .object [] => ['\x7b', '\x7d']
  | .object ((key, value) :: rest) =>
    '\x7b' :: style.line (level + 1) ++ quote key ++ ':' :: style.space ++ spell (level + 1) value
      ++ spellMembers (level + 1) rest ++ style.line level ++ ['\x7d']

/-- Further items, each after a comma. -/
def spellItems (level : Nat) : List Value → List Char
  | [] => []
  | item :: rest => ',' :: style.line level ++ spell level item ++ spellItems level rest

/-- Further members, each after a comma. -/
def spellMembers (level : Nat) : List (String × Value) → List Char
  | [] => []
  | (key, value) :: rest =>
    ',' :: style.line level ++ quote key ++ ':' :: style.space ++ spell level value ++ spellMembers level rest

end

mutual

theorem pretty_eq_spell (level : Nat) : (v : Value) → pretty level v = spell .indented level v
  | .null | .bool _ | .integer _ | .float _ | .string _ | .array [] | .object [] => by rw [pretty, spell]
  | .array (item :: rest) => by
    rw [pretty, spell, pretty_eq_spell (level + 1) item, prettyItems_eq_spellItems (level + 1) rest]
    rfl
  | .object ((key, value) :: rest) => by
    rw [pretty, spell, pretty_eq_spell (level + 1) value, prettyMembers_eq_spellMembers (level + 1) rest]
    simp [Style.indented]

theorem prettyItems_eq_spellItems (level : Nat) :
    (items : List Value) → prettyItems level items = spellItems .indented level items
  | [] => by rw [prettyItems, spellItems]
  | item :: rest => by
    rw [prettyItems, spellItems, pretty_eq_spell level item, prettyItems_eq_spellItems level rest]
    rfl

theorem prettyMembers_eq_spellMembers (level : Nat) :
    (members : List (String × Value)) → prettyMembers level members = spellMembers .indented level members
  | [] => by rw [prettyMembers, spellMembers]
  | (key, value) :: rest => by
    rw [prettyMembers, spellMembers, pretty_eq_spell level value, prettyMembers_eq_spellMembers level rest]
    simp [Style.indented]

end

mutual

theorem compact_eq_spell (level : Nat) : (v : Value) → compact v = spell .compact level v
  | .null | .bool _ | .integer _ | .float _ | .string _ | .array [] | .object [] => by rw [compact, spell]
  | .array (item :: rest) => by
    rw [compact, spell, compact_eq_spell (level + 1) item, compactItems_eq_spellItems (level + 1) rest]
    simp [Style.compact]
  | .object ((key, value) :: rest) => by
    rw [compact, spell, compact_eq_spell (level + 1) value, compactMembers_eq_spellMembers (level + 1) rest]
    simp [Style.compact]

theorem compactItems_eq_spellItems (level : Nat) :
    (items : List Value) → compactItems items = spellItems .compact level items
  | [] => by rw [compactItems, spellItems]
  | item :: rest => by
    rw [compactItems, spellItems, compact_eq_spell level item, compactItems_eq_spellItems level rest]
    simp [Style.compact]

theorem compactMembers_eq_spellMembers (level : Nat) :
    (members : List (String × Value)) → compactMembers members = spellMembers .compact level members
  | [] => by rw [compactMembers, spellMembers]
  | (key, value) :: rest => by
    rw [compactMembers, spellMembers, compact_eq_spell level value, compactMembers_eq_spellMembers level rest]
    simp [Style.compact]

end

/-! ## Reading -/

mutual

/-- The document holds no floating-point number, and no integer of more than 64 bits. -/
def IsExact : Value → Prop
  | .integer n => FitsWord n
  | .float _ => False
  | .array items => AllExact items
  | .object members => AllMembersExact members
  | _ => True

/-- `IsExact` for each item. -/
def AllExact : List Value → Prop
  | [] => True
  | item :: rest => IsExact item ∧ AllExact rest

/-- `IsExact` for the value of each member. -/
def AllMembersExact : List (String × Value) → Prop
  | [] => True
  | (_, value) :: rest => IsExact value ∧ AllMembersExact rest

end

theorem allExact_map {α : Type} {f : α → Value} {values : List α} (each : ∀ value ∈ values, IsExact (f value)) :
    AllExact (values.map f) := by
  induction values with
  | nil => trivial
  | cons value rest ih =>
    rcases List.forall_mem_cons.1 each with ⟨first, others⟩
    exact ⟨first, ih others⟩

theorem isExact_strings (texts : List String) : IsExact (.strings texts) :=
  allExact_map fun _ _ => trivial

/-- What a document can begin with. -/
def BeginsValue (c : Char) : Prop :=
  isGap c = false ∧ c ≠ ']'

theorem beginsValue_of_isDigit {c : Char} (digit : isDigit c = true) : BeginsValue c := by
  constructor
  · rw [isGap]
    simp only [Bool.or_eq_false_iff, beq_eq_false_iff_ne]
    refine ⟨⟨⟨?_, ?_⟩, ?_⟩, ?_⟩ <;> rintro rfl <;> exact absurd digit (by decide)
  · rintro rfl
    exact absurd digit (by decide)

theorem exists_cons_integerText (n : Int) : ∃ c rest, integerText n = c :: rest ∧ BeginsValue c := by
  rw [integerText]
  split
  · exact ⟨'-', _, rfl, rfl, by decide⟩
  · cases digits : Decimal.digits n.natAbs with
    | nil => exact absurd digits (Decimal.digits_ne_nil _)
    | cons c rest =>
      have member : c ∈ Decimal.digits n.natAbs := by rw [digits]; exact List.mem_cons_self
      exact ⟨c, rest, rfl, beginsValue_of_isDigit (isDigit_of_mem member)⟩

theorem exists_cons_spell {v : Value} (exact : IsExact v) (level : Nat) :
    ∃ c rest, spell style level v = c :: rest ∧ BeginsValue c := by
  cases v with
  | null => exact ⟨_, _, by rw [spell]; rfl, rfl, by decide⟩
  | bool b => cases b <;> exact ⟨_, _, by rw [spell]; rfl, rfl, by decide⟩
  | integer n =>
    rcases exists_cons_integerText n with ⟨c, rest, text, begins⟩
    exact ⟨c, rest, by rw [spell, text], begins⟩
  | float x => exact exact.elim
  | string s => exact ⟨_, _, by rw [spell, quote]; rfl, rfl, by decide⟩
  | array items =>
    cases items with
    | nil => exact ⟨_, _, by rw [spell], rfl, by decide⟩
    | cons item rest => exact ⟨_, _, by rw [spell]; rfl, rfl, by decide⟩
  | object members =>
    rcases members with _ | ⟨⟨key, value⟩, rest⟩
    · exact ⟨_, _, by rw [spell], rfl, by decide⟩
    · exact ⟨_, _, by rw [spell]; rfl, rfl, by decide⟩

theorem skipGap_append {gap : List Char} (blank : ∀ c ∈ gap, isGap c = true) (cs : List Char) :
    skipGap (gap ++ cs) = skipGap cs :=
  List.dropWhile_append_of_pos blank

theorem skipGap_cons {c : Char} (solid : isGap c = false) (cs : List Char) : skipGap (c :: cs) = c :: cs :=
  List.dropWhile_cons_of_neg (by simp [solid])

/-- White space, brackets and commas end a number. -/
theorem stops_append {gap : List Char} (blank : ∀ c ∈ gap, isGap c = true) {cs : List Char} (stops : Stops cs) :
    Stops (gap ++ cs) := by
  cases gap with
  | nil => exact stops
  | cons c rest =>
    rintro d first
    cases first
    have white := blank c List.mem_cons_self
    simp only [isGap, Bool.or_eq_true, beq_iff_eq] at white
    rcases white with ((rfl | rfl) | rfl) | rfl <;> rfl

theorem stops_cons {c : Char} (apart : isNumberPart c = false) (cs : List Char) : Stops (c :: cs) := by
  rintro d first
  cases first
  exact apart

variable {style}

theorem readValue_integer {n : Int} (fits : FitsWord n) (fuel : Nat) {rest : List Char} (stops : Stops rest) :
    readValue (fuel + 1) (integerText n ++ rest) = (.integer n, some rest) := by
  have read := numberReading_digits fits
  rw [integerText]
  by_cases negative : n < 0
  · rw [if_pos negative, List.cons_append, readValue]
    simp only [negative, decide_true] at read
    simp only [Char.reduceBEq, Bool.false_eq_true, if_false, if_true, readNumber_digits true _ stops, read]
  · rw [if_neg negative]
    simp only [negative, decide_false] at read
    have digitsRead := readNumber_digits false n.natAbs stops
    rw [read] at digitsRead
    cases digits : Decimal.digits n.natAbs with
    | nil => exact absurd digits (Decimal.digits_ne_nil _)
    | cons c others =>
      have digit : isDigit c = true := isDigit_of_mem (by rw [digits]; exact List.mem_cons_self)
      have other : ∀ d, isDigit d = false → (c == d) = false := by
        intro d notDigit
        rw [beq_eq_false_iff_ne]
        rintro rfl
        rw [digit] at notDigit
        cases notDigit
      rw [digits] at digitsRead
      rw [List.cons_append, readValue, other '"' rfl, other '[' rfl, other '\x7b' rfl, other 'n' rfl, other 't' rfl,
        other 'f' rfl, other '-' rfl, if_pos digit]
      exact digitsRead

theorem readValue_string (fuel : Nat) (s : String) (rest : List Char) :
    readValue (fuel + 1) (quote s ++ rest) = (.string s, some rest) := by
  rw [quote, List.cons_append, List.cons_append, readValue, List.append_assoc, List.singleton_append,
    readLiteral_quoted]
  simp

theorem readValue_word (fuel : Nat) (rest : List Char) :
    readValue (fuel + 1) ("null".toList ++ rest) = (.null, some rest) ∧
      readValue (fuel + 1) ("true".toList ++ rest) = (.bool true, some rest) ∧
      readValue (fuel + 1) ("false".toList ++ rest) = (.bool false, some rest) :=
  ⟨rfl, rfl, rfl⟩

theorem length_spell_pos (style : Style) {v : Value} (exact : IsExact v) (level : Nat) :
    0 < (spell style level v).length := by
  rcases exists_cons_spell style exact level with ⟨c, rest, text, -⟩
  rw [text]
  exact Nat.succ_pos _

/-- What a reader does behind an item: with a closing bracket the array ends. -/
theorem readItems_last {fuel : Nat} {cs : List Char} {item : Reading} {gap more : List Char}
    (blank : ∀ c ∈ gap, isGap c = true) (read : readValue fuel cs = (item, some (gap ++ ']' :: more))) :
    readItems (fuel + 1) cs = ([item], none, some more) := by
  rw [readItems, read]
  dsimp only
  rw [skipGap_append blank, skipGap_cons rfl]
  rfl

/-- What a reader does behind an item: after a comma it goes on with the next one. -/
theorem readItems_next {fuel : Nat} {cs : List Char} {item : Reading} {gap : List Char}
    {c : Char} {more : List Char}
    (blank : ∀ c ∈ gap, isGap c = true) (begins : BeginsValue c)
    (read : readValue fuel cs = (item, some (',' :: gap ++ c :: more))) :
    readItems (fuel + 1) cs =
      (item :: (readItems fuel (c :: more)).1, (readItems fuel (c :: more)).2) := by
  have inner : skipGap (gap ++ c :: more) = c :: more := by rw [skipGap_append blank, skipGap_cons begins.1]
  have notEnd := begins.2
  simp only [readItems, read, List.cons_append, skipGap_cons (c := ',') rfl, inner]
  split
  · next same => cases same; exact absurd rfl notEnd
  · rfl

/-- An array that is not empty. -/
theorem readValue_bracket {fuel : Nat} {gap : List Char} {c : Char} {more : List Char}
    (blank : ∀ c ∈ gap, isGap c = true) (begins : BeginsValue c) :
    readValue (fuel + 1) ('[' :: (gap ++ c :: more)) =
      (.array (readItems fuel (c :: more)).1 (readItems fuel (c :: more)).2.1,
        (readItems fuel (c :: more)).2.2) := by
  have inner : skipGap (gap ++ c :: more) = c :: more := by rw [skipGap_append blank, skipGap_cons begins.1]
  have notEnd := begins.2
  rw [readValue, inner]
  dsimp only [Char.reduceBEq]
  simp only [Bool.false_eq_true, if_false, if_true]
  split
  · next same => cases same
  · next same => cases same; exact absurd rfl notEnd
  · rfl

/-- An object that is not empty. -/
theorem readValue_brace {fuel : Nat} {gap : List Char} {more : List Char} (blank : ∀ c ∈ gap, isGap c = true) :
    readValue (fuel + 1) ('\x7b' :: (gap ++ '"' :: more)) =
      (.object (readMembers fuel ('"' :: more)).1 (readMembers fuel ('"' :: more)).2.1,
        (readMembers fuel ('"' :: more)).2.2) := by
  have inner : skipGap (gap ++ '"' :: more) = '"' :: more := by rw [skipGap_append blank, skipGap_cons rfl]
  rw [readValue, inner]
  rfl

/-- What is read of the members once the value of the first one has been read. -/
def membersBehind (fuel : Nat) (key : String) (value : Reading) (rest : List Char) :
    List (String × Reading) × Option Flaw × Option (List Char) :=
  match skipGap rest with
  | [] => ([(key, value)], some .truncated, none)
  | '\x7d' :: rest => ([(key, value)], none, some rest)
  | ',' :: rest =>
    let (members, flaw, rest) := readMembers fuel (skipGap rest)
    ((key, value) :: members, flaw, rest)
  | _ => ([(key, value)], some .malformed, none)

/-- A member whose value is read, up to what stands behind the value. -/
theorem readMembers_key {fuel : Nat} (key : String) {space : List Char} {c : Char} {cs rest : List Char}
    {value : Reading} (blank : ∀ c ∈ space, isGap c = true) (begins : BeginsValue c)
    (read : readValue fuel (c :: cs) = (value, some rest)) :
    readMembers (fuel + 1) (quote key ++ ':' :: (space ++ c :: cs)) = membersBehind fuel key value rest := by
  have inner : skipGap (space ++ c :: cs) = c :: cs := by rw [skipGap_append blank, skipGap_cons begins.1]
  rw [quote, List.cons_append, List.cons_append, readMembers, List.append_assoc, List.singleton_append,
    readLiteral_quoted]
  dsimp only
  rw [skipGap_cons rfl, String.ofList_toList]
  simp only [inner, read]
  rfl

theorem readMembers_last {fuel : Nat} (key : String) {space : List Char} {c : Char} {cs gap more : List Char}
    {value : Reading} (blank : ∀ c ∈ space, isGap c = true) (closing : ∀ c ∈ gap, isGap c = true)
    (begins : BeginsValue c) (read : readValue fuel (c :: cs) = (value, some (gap ++ '\x7d' :: more))) :
    readMembers (fuel + 1) (quote key ++ ':' :: (space ++ c :: cs)) = ([(key, value)], none, some more) := by
  rw [readMembers_key key blank begins read, membersBehind, skipGap_append closing, skipGap_cons rfl]
  rfl

theorem readMembers_next {fuel : Nat} (key : String) {space : List Char} {c : Char} {cs gap more : List Char}
    {value : Reading} (blank : ∀ c ∈ space, isGap c = true) (between : ∀ c ∈ gap, isGap c = true)
    (begins : BeginsValue c) (read : readValue fuel (c :: cs) = (value, some (',' :: (gap ++ '"' :: more)))) :
    readMembers (fuel + 1) (quote key ++ ':' :: (space ++ c :: cs)) =
      ((key, value) :: (readMembers fuel ('"' :: more)).1, (readMembers fuel ('"' :: more)).2) := by
  have inner : skipGap (gap ++ '"' :: more) = '"' :: more := by rw [skipGap_append between, skipGap_cons rfl]
  rw [readMembers_key key blank begins read, membersBehind, skipGap_cons rfl]
  simp only [inner]

mutual

/-- A document is read back from its text, whatever follows. -/
theorem readValue_spell (blank : style.IsBlank) (level : Nat) : (v : Value) → IsExact v →
    ∀ (fuel : Nat) (rest : List Char), (spell style level v).length ≤ fuel → Stops rest →
    readValue fuel (spell style level v ++ rest) = (.ofValue v, some rest)
  | v, exact, 0, rest, enough, _ => by
    have some := length_spell_pos style exact level
    omega
  | .null, _, fuel + 1, rest, _, _ => by
    rw [spell, (readValue_word fuel rest).1, Reading.ofValue]
  | .bool true, _, fuel + 1, rest, _, _ => by
    rw [spell, if_pos rfl, (readValue_word fuel rest).2.1, Reading.ofValue]
  | .bool false, _, fuel + 1, rest, _, _ => by
    rw [spell, if_neg Bool.false_ne_true, (readValue_word fuel rest).2.2, Reading.ofValue]
  | .integer n, exact, fuel + 1, rest, _, stops => by
    rw [spell, readValue_integer exact fuel stops, Reading.ofValue]
  | .string s, _, fuel + 1, rest, _, _ => by
    rw [spell, readValue_string, Reading.ofValue]
  | .array [], _, fuel + 1, rest, _, _ => by
    rw [spell, Reading.ofValue, Reading.ofItems]
    rfl
  | .array (item :: others), exact, fuel + 1, rest, enough, _ => by
    rcases exists_cons_spell style exact.1 (level + 1) with ⟨c, text, same, begins⟩
    have inner := readItems_spell blank (level + 1) (blank.line level) (item :: others)
      (by simp) exact fuel rest (by
        simp only [spell, List.length_append, List.length_cons, List.length_nil, List.head_cons,
          List.tail_cons] at enough ⊢
        omega)
    simp only [List.head_cons, List.tail_cons, same, List.cons_append, List.append_assoc] at inner
    simp only [spell, same, List.cons_append, List.append_assoc, List.nil_append]
    rw [readValue_bracket (blank.line (level + 1)) begins, inner, Reading.ofValue]
  | .object [], _, fuel + 1, rest, _, _ => by
    rw [spell, Reading.ofValue, Reading.ofMembers]
    rfl
  | .object ((key, value) :: others), exact, fuel + 1, rest, enough, _ => by
    have inner := readMembers_spell blank (level + 1) (blank.line level) ((key, value) :: others)
      (by simp) exact fuel rest (by
        simp only [spell, List.length_append, List.length_cons, List.length_nil, List.head_cons,
          List.tail_cons] at enough ⊢
        omega)
    simp only [List.head_cons, List.tail_cons, quote, List.cons_append, List.append_assoc, List.nil_append] at inner
    simp only [spell, quote, List.cons_append, List.append_assoc, List.nil_append]
    rw [readValue_brace (blank.line (level + 1)), inner, Reading.ofValue]

/-- The items of an array are read back from behind its opening bracket. -/
theorem readItems_spell (blank : style.IsBlank) (level : Nat) {gap : List Char}
    (closing : ∀ c ∈ gap, isGap c = true) :
    (items : List Value) → (some : items ≠ []) → AllExact items → ∀ (fuel : Nat) (more : List Char),
    (spell style level (items.head some)).length + (spellItems style level items.tail).length < fuel →
    readItems fuel (spell style level (items.head some) ++ spellItems style level items.tail ++
      (gap ++ ']' :: more)) =
      (Reading.ofItems items, none, .some more)
  | _, _, _, 0, _, enough => by omega
  | [item], _, exact, fuel + 1, more, enough => by
    simp only [List.head_cons, List.tail_cons, spellItems, List.append_nil, List.length_nil] at enough ⊢
    have read := readValue_spell blank level item exact.1 fuel (gap ++ ']' :: more) (by omega)
      (stops_append closing (stops_cons rfl _))
    rw [readItems_last closing read, Reading.ofItems, Reading.ofItems]
  | item :: next :: others, _, exact, fuel + 1, more, enough => by
    simp only [List.head_cons, List.tail_cons, spellItems, List.length_append, List.length_cons] at enough ⊢
    have long := length_spell_pos style exact.1 level
    rcases exists_cons_spell style exact.2.1 level with ⟨c, rest, text, begins⟩
    have later := readItems_spell blank level closing (next :: others) (by simp) exact.2 fuel more
      (by simp only [List.head_cons, List.tail_cons]; omega)
    have read := readValue_spell blank level item exact.1 fuel
      (',' :: style.line level ++ c :: (rest ++ spellItems style level others ++ (gap ++ ']' :: more)))
      (by omega) (stops_cons rfl _)
    simp only [List.head_cons, List.tail_cons, text] at later
    have whole := readItems_next (blank.line level) begins read
    simp only [List.cons_append, List.append_assoc] at later whole
    simp only [text, List.cons_append, List.append_assoc, Reading.ofItems]
    rw [whole, later]
    rfl

/-- The members of an object are read back from behind its opening bracket. -/
theorem readMembers_spell (blank : style.IsBlank) (level : Nat) {gap : List Char}
    (closing : ∀ c ∈ gap, isGap c = true) :
    (members : List (String × Value)) → (some : members ≠ []) → AllMembersExact members →
    ∀ (fuel : Nat) (more : List Char),
    (quote (members.head some).1).length + (spell style level (members.head some).2).length +
      (spellMembers style level members.tail).length < fuel →
    readMembers fuel (quote (members.head some).1 ++
      ':' :: (style.space ++ (spell style level (members.head some).2 ++
        (spellMembers style level members.tail ++ (gap ++ '\x7d' :: more))))) =
      (Reading.ofMembers members, none, .some more)
  | _, _, _, 0, _, enough => by omega
  | [(key, value)], _, exact, fuel + 1, more, enough => by
    simp only [List.head_cons, List.tail_cons, spellMembers, List.length_nil] at enough ⊢
    rcases exists_cons_spell style exact.1 level with ⟨c, rest, text, begins⟩
    have read := readValue_spell blank level value exact.1 fuel (gap ++ '\x7d' :: more) (by omega)
      (stops_append closing (stops_cons rfl _))
    rw [text, List.cons_append] at read
    rw [text, List.nil_append, List.cons_append, readMembers_last key blank.space closing begins read,
      Reading.ofMembers, Reading.ofMembers]
  | (key, value) :: (nextKey, next) :: others, _, exact, fuel + 1, more, enough => by
    simp only [List.head_cons, List.tail_cons, spellMembers, List.length_append, List.length_cons] at enough ⊢
    rcases exists_cons_spell style exact.1 level with ⟨c, rest, text, begins⟩
    have long := length_spell_pos style exact.1 level
    have later := readMembers_spell blank level closing ((nextKey, next) :: others) (by simp) exact.2 fuel
      more (by simp only [List.head_cons, List.tail_cons]; omega)
    simp only [List.head_cons, List.tail_cons, quote, List.cons_append, List.append_assoc, List.nil_append] at later
    have read := readValue_spell blank level value exact.1 fuel
      (',' :: (style.line level ++ '"' :: (nextKey.toList.flatMap escapeChar ++ '"' :: ':' :: (style.space ++
        (spell style level next ++ (spellMembers style level others ++ (gap ++ '\x7d' :: more)))))))
      (by omega) (stops_cons rfl _)
    rw [text, List.cons_append] at read
    have whole := readMembers_next key blank.space (blank.line level) begins read
    rw [later] at whole
    simp only [text, quote, List.cons_append, List.append_assoc, List.nil_append] at whole ⊢
    rw [whole]
    rfl

end

/-! ## Whole texts -/

/-- A text that spells a document holds that document and nothing else. -/
theorem read_spell (blank : style.IsBlank) {v : Value} (exact : IsExact v) :
    read (String.ofList (spell style 0 v)) = ⟨.ofValue v, false⟩ := by
  rcases exists_cons_spell style exact 0 with ⟨c, rest, text, begins⟩
  have whole := readValue_spell blank 0 v exact (2 * (spell style 0 v).length + 2) [] (by omega)
    (fun c first => by cases first)
  rw [List.append_nil] at whole
  have start : skipGap (spell style 0 v) = spell style 0 v := by rw [text, skipGap_cons begins.1]
  rw [read, String.toList_ofList]
  simp only [start, whole]
  rfl

theorem read_prettyText {v : Value} (exact : IsExact v) : read v.prettyText = ⟨.ofValue v, false⟩ := by
  rw [Value.prettyText, pretty_eq_spell, read_spell Style.indented_isBlank exact]

theorem read_compactText {v : Value} (exact : IsExact v) : read v.compactText = ⟨.ofValue v, false⟩ := by
  rw [Value.compactText, compact_eq_spell 0, read_spell Style.compact_isBlank exact]

/-- Decoding the text of a document, in either layout, is decoding the document. -/
theorem decodeText_text {α : Type} (decode : Decoder α) {v : Value} (exact : IsExact v) :
    decodeText decode v.prettyText = decode (.ofValue v) ∧
      decodeText decode v.compactText = decode (.ofValue v) := by
  rw [decodeText, decodeText, read_prettyText exact, read_compactText exact]
  dsimp only [bind, Except.bind]
  cases decode (.ofValue v) <;> exact ⟨rfl, rfl⟩

end Json
end Scaffold
