import Mathlib.Data.String.Basic
import Scaffold.Proofs.Naming.Boundaries
import Scaffold.Proofs.Naming.Kebab
import Scaffold.Proofs.Naming.Plural
import Scaffold.Proofs.Naming.Words

namespace Scaffold

/-!
# Names of tables

A table has the name that a request gives it, and otherwise the plural of the model name in snake
case.  The rule for table names, which allows ASCII only and sets a limit, is applied to given
names.  A derived name is made by rules of its own: it has a letter beyond ASCII whenever a letter
of the model name has no small letter in ASCII, and an underscore more for each word.
-/

namespace Text

/-! ## Letters with small letters in ASCII -/

/-- The lower case of the character lies in ASCII: it does so itself, or it is the Kelvin sign, of
which the small letter is `k`. -/
def lowersToAscii (c : Char) : Bool :=
  c.toNat < 128 || c == '\u212a'

theorem not_lowersToAscii_iff {c : Char} : lowersToAscii c = false ↔ 128 ≤ c.toNat ∧ c.toNat ≠ 0x212a := by
  have kelvin : c = '\u212a' ↔ c.toNat = 0x212a := by
    rw [← Char.toNat_inj]
    rfl
  rw [lowersToAscii, Bool.or_eq_false_iff, decide_eq_false_iff_not, Nat.not_lt, beq_eq_false_iff_ne, Ne, kelvin]

/-- What a single capital beyond ASCII is moved to is not the Kelvin sign, and in ASCII only if the
capital is the Kelvin sign. -/
theorem lowerShifts_foreign : ∀ shift ∈ lowerShifts,
    shift.stretch.lo = 0x212a ∧ shift.stretch.hi = 0x212a ∨
      128 ≤ shift.stretch.lo + shift.distance ∧ shift.image.holds 0x212a = false := by
  decide +kernel

theorem lowerExpansions_foreign : ∀ entry ∈ lowerExpansions,
    ∃ value ∈ entry.2, lowersToAscii (Char.ofNat value) = false := by
  decide

/-- Beyond ASCII the lower case stays there, and is no Kelvin sign. -/
theorem exists_foreign_lowerChar {c : Char} (foreign : lowersToAscii c = false) :
    ∃ d ∈ lowerChar c, lowersToAscii d = false := by
  obtain ⟨beyond, other⟩ := not_lowersToAscii_iff.1 foreign
  rw [lowerChar, if_neg (Nat.not_lt.2 beyond)]
  rcases mapCase_cases lowerExpansions lowerShifts c with
    ⟨entry, listed, -, mapped⟩ | ⟨-, ⟨shift, listed, inside, mapped⟩ | ⟨-, mapped⟩⟩
  · obtain ⟨value, member, high⟩ := lowerExpansions_foreign entry listed
    rw [mapped]
    exact ⟨_, List.mem_map_of_mem member, high⟩
  · rw [mapped]
    refine ⟨_, List.mem_singleton_self _, not_lowersToAscii_iff.2 ?_⟩
    have bounds := Stride.bounds_of_holds inside
    rw [toNat_ofNat_of_valid (reaches_lower.moved listed inside).2]
    rcases lowerShifts_foreign shift listed with kelvin | ⟨high, apart⟩
    · omega
    · have there := shift.holds_image inside (by omega)
      refine ⟨by omega, fun same => ?_⟩
      rw [same, apart] at there
      exact Bool.false_ne_true there
  · rw [mapped]
    exact ⟨c, List.mem_singleton_self c, foreign⟩

theorem exists_foreign_lowerAfter {seen cs : List Char} (foreign : ∃ c ∈ cs, lowersToAscii c = false) :
    ∃ d ∈ lowerAfter seen cs, lowersToAscii d = false := by
  obtain ⟨c, member, foreign⟩ := foreign
  induction cs generalizing seen with
  | nil => cases member
  | cons first rest ih =>
    rw [lowerAfter]
    rcases List.mem_cons.1 member with rfl | later
    · have here : ∃ d ∈ (if c == 'Σ'
          then (if meetsCased seen && !meetsCased rest then ['ς'] else ['σ']) else lowerChar c),
          lowersToAscii d = false := by
        split
        · split
          · exact ⟨'ς', List.mem_singleton_self _, by decide⟩
          · exact ⟨'σ', List.mem_singleton_self _, by decide⟩
        · exact exists_foreign_lowerChar foreign
      obtain ⟨d, made, high⟩ := here
      exact ⟨d, List.mem_append_left _ made, high⟩
    · obtain ⟨d, made, high⟩ := ih later
      exact ⟨d, List.mem_append_right _ made, high⟩

end Text

namespace Naming

open Validation (isTableChar)

variable {c : Char} {cs : List Char}

theorem exists_foreign_snake (foreign : ∃ c ∈ cs, Text.lowersToAscii c = false) :
    ∃ d ∈ snake cs, Text.lowersToAscii d = false := by
  obtain ⟨c, member, high⟩ := foreign
  rw [snake_eq_spread]
  refine Text.exists_foreign_lowerAfter ⟨c, ?_, high⟩
  obtain ⟨i, here⟩ := List.mem_iff_getElem?.1 member
  have inside := (List.getElem?_eq_some_iff.1 here).1
  rw [spread, List.mem_flatMap]
  exact ⟨i, List.mem_range.2 inside, List.mem_append_left _ (here ▸ List.mem_singleton_self c)⟩

theorem exists_foreign_plural_snake (some : cs ≠ []) (foreign : ∃ c ∈ cs, Text.lowersToAscii c = false) :
    ∃ d ∈ pluralChars (snake cs), Text.lowersToAscii d = false := by
  have lowered : ∃ d ∈ Text.lowerChars (snake cs), Text.lowersToAscii d = false :=
    Text.exists_foreign_lowerAfter (exists_foreign_snake foreign)
  obtain ⟨d, member, high⟩ := lowered
  have plain : isSmall d = false := by
    rw [← Bool.not_eq_true]
    intro small
    exact absurd (ascii_of_isSmall small) (Nat.not_lt.2 (Text.not_lowersToAscii_iff.1 high).1)
  exact ⟨d, (replacesEnding_pluralChars (snake_ne_nil some)).mem_of_not_isSmall member plain, high⟩

/-! ## Names in ASCII -/

/-- The number of places at which a word of the name ends and another one begins. -/
def wordBreaks (cs : List Char) : Nat :=
  (List.range cs.length).countP fun i => IsBoundary cs i

theorem length_spread (cs : List Char) : (spread cs).length = cs.length + wordBreaks cs := by
  have places (places : List Nat) (inside : ∀ i ∈ places, i < cs.length) :
      (places.flatMap fun i => cs[i]?.toList ++ gapAt cs i).length =
        places.length + places.countP fun i => IsBoundary cs i := by
    induction places with
    | nil => rfl
    | cons i rest ih =>
      rw [List.forall_mem_cons] at inside
      have gap : (gapAt cs i).length = if IsBoundary cs i then 1 else 0 := by
        rw [gapAt]
        split <;> rfl
      rw [List.flatMap_cons, List.length_append, List.length_append,
        List.getElem?_eq_getElem inside.1, gap, ih inside.2, List.countP_cons, List.length_cons,
        Option.toList_some, List.length_singleton]
      simp only [decide_eq_true_eq]
      omega
  rw [spread, places _ fun i member => List.mem_range.1 member, List.length_range, wordBreaks]

theorem ascii_of_isTableChar (plain : isTableChar c = true) : c.toNat < 128 := by
  rcases Bool.or_eq_true_iff.1 plain with letter | underscore
  · exact (Bool.or_eq_true_iff.1 letter).elim ascii_of_isSmall Text.ascii_of_isDigit
  · rw [beq_iff_eq.1 underscore]
    decide

/-- In ASCII, what a table name may hold is not changed by a case mapping, trimmed or encoded in
several bytes. -/
theorem isTableChar_ascii (plain : isTableChar c = true) :
    isCapital c = false ∧ Text.isBlank c = false ∧ c.utf8Size = 1 :=
  Text.ascii_cases (fun c => isTableChar c = true → isCapital c = false ∧ Text.isBlank c = false ∧
    c.utf8Size = 1) (by decide)
    (ascii_of_isTableChar plain) plain

theorem utf8Len_of_isTableChar (plain : ∀ c ∈ cs, isTableChar c = true) : String.utf8Len cs = cs.length := by
  induction cs with
  | nil => rfl
  | cons c rest ih =>
    rw [List.forall_mem_cons] at plain
    rw [String.utf8Len_cons, ih plain.2, (isTableChar_ascii plain.1).2.2, List.length_cons]

theorem trim_of_isTableChar (plain : ∀ c ∈ cs, isTableChar c = true) : Text.trim cs = cs := by
  rw [Text.trim_eq_self_iff]
  constructor
  · exact fun c first => (isTableChar_ascii (plain c (List.mem_of_head? first))).2.1
  · exact fun c last => (isTableChar_ascii (plain c (List.mem_of_getLast? last))).2.1

/-- The small letter of a character of an identifier may stand in a table name if it lies in
ASCII. -/
theorem lowerChar_of_lowersToAscii (ascii : Text.lowersToAscii c = true) (inside : continuesIdentifier c = true) :
    ∃ d, Text.lowerChar c = [d] ∧ isTableChar d = true := by
  rcases Bool.or_eq_true_iff.1 ascii with below | kelvin
  · have low : c.toNat < 128 := of_decide_eq_true below
    refine ⟨c.toLower, by rw [Text.lowerChar, if_pos low], ?_⟩
    exact Text.ascii_cases (fun c => continuesIdentifier c = true → isTableChar c.toLower = true)
      (by decide) low inside
  · obtain rfl := beq_iff_eq.1 kelvin
    exact ⟨'k', by decide +kernel, by decide⟩

/-- A text that is part of an identifier and has its small letters in ASCII. -/
def IsAsciiName (cs : List Char) : Prop :=
  ∀ c ∈ cs, Text.lowersToAscii c = true ∧ continuesIdentifier c = true

theorem lowerAfter_of_isAsciiName (name : IsAsciiName cs) (seen : List Char) :
    (Text.lowerAfter seen cs).length = cs.length ∧ ∀ d ∈ Text.lowerAfter seen cs, isTableChar d = true := by
  induction cs generalizing seen with
  | nil => exact ⟨rfl, fun d member => absurd member List.not_mem_nil⟩
  | cons c rest ih =>
    obtain ⟨⟨ascii, inside⟩, others⟩ := List.forall_mem_cons.1 name
    obtain ⟨length, plain⟩ := ih others (c :: seen)
    obtain ⟨d, lowered, small⟩ := lowerChar_of_lowersToAscii ascii inside
    have usual : (c == 'Σ') = false := by
      rw [beq_eq_false_iff_ne]
      rintro rfl
      exact absurd ascii (by decide)
    rw [Text.lowerAfter, usual, if_neg Bool.false_ne_true, lowered, List.singleton_append, List.length_cons, length,
      List.length_cons, List.forall_mem_cons]
    exact ⟨rfl, small, plain⟩

theorem isAsciiName_spread (name : IsAsciiName cs) : IsAsciiName (spread cs) := by
  intro c member
  have underscore : Text.lowersToAscii '_' = true ∧ continuesIdentifier '_' = true := by decide
  rw [spread_eq_spreadAt] at member
  rcases mem_of_mem_spreadAt member with kept | rfl
  · exact name c kept
  · exact underscore

theorem snake_of_isAsciiName (name : IsAsciiName cs) :
    (snake cs).length = cs.length + wordBreaks cs ∧ ∀ d ∈ snake cs, isTableChar d = true := by
  rw [snake_eq_spread, ← length_spread]
  exact lowerAfter_of_isAsciiName (isAsciiName_spread name) []

/-- The plural of such a name in snake case may stand for a table, as far as its characters go.  It
has about as many of them as the name has characters and word breaks together. -/
theorem plural_snake_of_isAsciiName (name : IsAsciiName cs) (some : cs ≠ []) :
    (∀ d ∈ pluralChars (snake cs), isTableChar d = true) ∧
      cs.length + wordBreaks cs ≤ (pluralChars (snake cs)).length + 1 ∧
      (pluralChars (snake cs)).length ≤ cs.length + wordBreaks cs + 3 := by
  obtain ⟨length, plain⟩ := snake_of_isAsciiName name
  have lower : Text.lowerChars (snake cs) = snake cs :=
    lowerAfter_of_isUncapped [] fun d member =>
      ⟨ascii_of_isTableChar (plain d member), (isTableChar_ascii (plain d member)).1⟩
  have replaces := replacesEnding_pluralChars (snake_ne_nil some)
  rw [lower] at replaces
  rw [← length]
  refine ⟨fun d member => ?_, replaces.length_le⟩
  rcases replaces.mem_or_isSmall member with kept | small
  · exact plain d kept
  · simp [isTableChar, small]

theorem toList_plural_snakeCase (name : String) :
    (plural (snakeCase name)).toList = pluralChars (snake name.toList) := by
  rw [plural, snakeCase, String.toList_ofList, String.toList_ofList]

section Derived

variable {name : String} (identifier : isIdentifier name = true)
include identifier

theorem plural_snakeCase_ne_empty : plural (snakeCase name) ≠ "" := by
  intro empty
  have chars := congrArg String.toList empty
  rw [toList_plural_snakeCase] at chars
  exact (replacesEnding_pluralChars
    (snake_ne_nil (Validation.toList_ne_nil_of_isIdentifier identifier))).ne_nil chars

theorem lowersToAscii_of_isTableName (table : Validation.IsTableName (plural (snakeCase name))) :
    ∀ c ∈ name.toList, Text.lowersToAscii c = true := by
  intro c member
  rw [← Bool.not_eq_false]
  intro foreign
  obtain ⟨d, inside, high⟩ :=
    exists_foreign_plural_snake (Validation.toList_ne_nil_of_isIdentifier identifier) ⟨c, member, foreign⟩
  rw [← toList_plural_snakeCase] at inside
  have low := ascii_of_isTableChar (Validation.isTableChar_iff.2 (table.plain d inside))
  exact absurd low (Nat.not_lt.2 (Text.not_lowersToAscii_iff.1 high).1)

variable (ascii : ∀ c ∈ name.toList, Text.lowersToAscii c = true)
include ascii

theorem plural_snakeCase_of_lowersToAscii :
    (∀ c ∈ (plural (snakeCase name)).toList, isTableChar c = true) ∧
      name.length + wordBreaks name.toList ≤ (plural (snakeCase name)).utf8ByteSize + 1 ∧
      (plural (snakeCase name)).utf8ByteSize ≤ name.length + wordBreaks name.toList + 3 := by
  have asciiName : IsAsciiName name.toList := fun c member =>
    ⟨ascii c member, continuesIdentifier_of_mem identifier member⟩
  have form := plural_snake_of_isAsciiName asciiName (Validation.toList_ne_nil_of_isIdentifier identifier)
  rw [← toList_plural_snakeCase] at form
  rwa [← String.utf8Len_toList, utf8Len_of_isTableChar form.1, ← String.length_toList]

theorem isTableName_plural_snakeCase (fits : (plural (snakeCase name)).utf8ByteSize ≤ 64) :
    Validation.IsTableName (plural (snakeCase name)) := by
  refine ⟨fits, fun c member => Validation.isTableChar_iff.1 ?_⟩
  exact (plural_snakeCase_of_lowersToAscii identifier ascii).1 c member

end Derived
end Naming

/-! ## The name that a request stands for -/

namespace Request

open Naming (wordBreaks)

variable {request : Request}

theorem resolvedTableName_of_given {name : String} (given : request.tableName = some name) (some : name ≠ "")
    (table : Validation.IsTableName name) : request.resolvedTableName = name := by
  have trimmed : Text.trimmed name = name := by
    rw [Text.trimmed, Naming.trim_of_isTableChar fun c member =>
      Validation.isTableChar_iff.2 (table.plain c member), String.ofList_toList]
  rw [resolvedTableName, given?, given, Option.map_some, trimmed,
    Option.filter_some_pos (by simpa using some), Option.getD_some]

theorem resolvedTableName_of_ungiven (ungiven : request.tableName.getD "" = "") :
    request.resolvedTableName = Naming.plural (Naming.snakeCase request.modelName) := by
  rw [resolvedTableName]
  cases given : request.tableName with
  | none => rfl
  | some name =>
    rw [given, Option.getD_some] at ungiven
    rw [ungiven]
    rfl

/-- The name of a table is never empty.  If it is given it keeps the rule for table names.  If it is
not, it keeps the rule exactly when all letters of the model name have small letters in ASCII and
the limit is not exceeded; then its size is about the number of characters and word breaks of the
model name. -/
theorem isTableName_resolvedTableName (accepted : Validation.check request = []) :
    request.resolvedTableName ≠ "" ∧
      (∀ name, request.tableName = some name → name ≠ "" →
        request.resolvedTableName = name ∧ Validation.IsTableName name) ∧
      (request.tableName.getD "" = "" →
        (Validation.IsTableName request.resolvedTableName ↔
          (∀ c ∈ request.modelName.toList, Text.lowersToAscii c = true) ∧
            request.resolvedTableName.utf8ByteSize ≤ 64) ∧
        ((∀ c ∈ request.modelName.toList, Text.lowersToAscii c = true) →
          request.modelName.length + wordBreaks request.modelName.toList ≤
            request.resolvedTableName.utf8ByteSize + 1 ∧
          request.resolvedTableName.utf8ByteSize ≤
            request.modelName.length + wordBreaks request.modelName.toList + 3)) := by
  have proper := Validation.check_eq_nil.1 accepted
  have identifier := proper.modelName.identifier
  have table {name : String} (given : request.tableName = some name) (some : name ≠ "") :
      Validation.IsTableName name :=
    (proper.tableName name given).resolve_left some
  refine ⟨?_, fun name given some => ?_, fun ungiven => ?_⟩
  · by_cases ungiven : request.tableName.getD "" = ""
    · rw [resolvedTableName_of_ungiven ungiven]
      exact Naming.plural_snakeCase_ne_empty identifier
    · cases given : request.tableName with
      | none => exact absurd (given ▸ rfl) ungiven
      | some name =>
        rw [given, Option.getD_some] at ungiven
        rwa [resolvedTableName_of_given given ungiven (table given ungiven)]
  · exact ⟨resolvedTableName_of_given given some (table given some), table given some⟩
  · rw [resolvedTableName_of_ungiven ungiven]
    constructor
    · constructor
      · exact fun kept => ⟨Naming.lowersToAscii_of_isTableName identifier kept, kept.notLong⟩
      · exact fun ⟨ascii, fits⟩ => Naming.isTableName_plural_snakeCase identifier ascii fits
    · exact fun ascii => (Naming.plural_snakeCase_of_lowersToAscii identifier ascii).2

/-- A model with a name of two words and no given table. -/
def salesPerson : Request where
  component := .one (.layer .model)
  modelName := "SalesPerson"
  fields := [{ name := "total", logicalType := "string" }]

theorem isTableName_resolvedTableName_salesPerson :
    Validation.check salesPerson = [] ∧ salesPerson.tableName.getD "" = "" ∧
      salesPerson.resolvedTableName = "sales_people" ∧
      Validation.IsTableName salesPerson.resolvedTableName := by
  have accepted : Validation.check salesPerson = [] := by decide
  have plural : salesPerson.resolvedTableName = "sales_people" := by decide +kernel
  have ascii : ∀ c ∈ salesPerson.modelName.toList, Text.lowersToAscii c = true := List.all_eq_true.1 (by decide)
  have fits : salesPerson.resolvedTableName.utf8ByteSize ≤ 64 := by
    rw [plural]
    decide
  exact ⟨accepted, rfl, plural, ((isTableName_resolvedTableName accepted).2.2 rfl).1.2 ⟨ascii, fits⟩⟩

/-- A model with a name of twenty-five words, no longer than the limit for model names. -/
def manyWords : Request :=
  { salesPerson with modelName := "AbAbAbAbAbAbAbAbAbAbAbAbAbAbAbAbAbAbAbAbAbAbAbAbAb" }

/-- A model with a letter beyond ASCII in its name. -/
def accented : Request :=
  { salesPerson with modelName := "Café" }

/-- Acceptance does not keep derived names to the rule: they can be too long or have a letter beyond
ASCII.  The same names are not accepted when they are given. -/
theorem not_isTableName_resolvedTableName :
    (Validation.check manyWords = [] ∧ manyWords.resolvedTableName.utf8ByteSize = 75 ∧
      Validation.check { manyWords with tableName := some manyWords.resolvedTableName } ≠ []) ∧
    Validation.check accented = [] ∧ accented.resolvedTableName = "cafés" ∧
      Validation.check { accented with tableName := some accented.resolvedTableName } ≠ [] ∧
    ¬ ∀ request, Validation.check request = [] → Validation.IsTableName request.resolvedTableName := by
  have accepted : Validation.check manyWords = [] := by decide +kernel
  have size : manyWords.resolvedTableName.utf8ByteSize = 75 := by decide +kernel
  refine ⟨⟨accepted, size, by decide +kernel⟩, by decide +kernel, by decide +kernel,
    by decide +kernel, fun all => ?_⟩
  exact absurd (all manyWords accepted).notLong (by rw [size]; decide)

end Request
end Scaffold
