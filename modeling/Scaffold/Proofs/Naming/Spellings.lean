import Mathlib.Data.List.Basic
import Mathlib.Tactic.MkIffOfInductiveProp
import Scaffold.Proofs.Naming.Boundaries
import Scaffold.Proofs.Text.Pieces

namespace Scaffold
namespace Naming

/-!
# One name in four spellings

A name that consists of words can be written with underscores, with hyphens, or with capitals at the
word starts, and with the first of these capitals left small.  From each of the four spellings the
others can be made, so that nothing of the name is lost, as long as every word begins with a small
letter and has something behind it: a capital by itself would be taken for the beginning of an
acronym, and a digit has no capital form.
-/

/-- A word of a name: a small letter, and small letters and digits behind it. -/
structure Word where
  first : Char
  others : List Char
  small : isSmall first = true
  some : others ≠ []
  plain : ∀ c ∈ others, isSmall c = true ∨ c.isDigit = true

namespace Word

/-- The word as it stands between underscores. -/
def chars (word : Word) : List Char :=
  word.first :: word.others

/-- The word with a capital. -/
def capital (word : Word) : List Char :=
  word.first.toUpper :: word.others

end Word

/-- The words with `_` between them. -/
def snakeForm (words : List Word) : String :=
  String.ofList (Text.joinWith ['_'] (words.map Word.chars))

/-- The words with `-` between them. -/
def kebabForm (words : List Word) : String :=
  String.ofList (Text.joinWith ['-'] (words.map Word.chars))

/-- The words with capitals, one directly after the other. -/
def pascalForm (words : List Word) : String :=
  String.ofList (words.flatMap Word.capital)

/-- The words with capitals, but for the first one. -/
def camelForm (words : List Word) : String :=
  match words.flatMap Word.capital with
  | [] => ""
  | c :: rest => String.ofList (c.toLower :: rest)

/-! ## Characters of words -/

/-- What the characters behind the first of a word have in common. -/
@[mk_iff]
structure IsPlain (c : Char) : Prop where
  ascii : c.toNat < 128
  ends : endsWord c = true
  uncapped : isCapital c = false
  kept : c.toLower = c
  unbroken : isWordBreak c = false
  alphanumeric : Text.isAlphanumeric c = true

/-- What the first character of a word has in common with those of other words, as it is and as a
capital. -/
@[mk_iff]
structure IsStart (c : Char) : Prop where
  uncapped : Text.isUppercase c = false
  ascii : c.toUpper.toNat < 128
  capital : isCapital c.toUpper = true
  back : c.toUpper.toLower = c
  uppercase : Text.isUppercase c.toUpper = true
  alphanumeric : Text.isAlphanumeric c.toUpper = true

instance (c : Char) : Decidable (IsPlain c) :=
  decidable_of_iff' _ (isPlain_iff c)

instance (c : Char) : Decidable (IsStart c) :=
  decidable_of_iff' _ (isStart_iff c)

theorem isPlain_of_isSmall {c : Char} (small : isSmall c = true) : IsPlain c :=
  Text.ascii_cases (fun c => isSmall c = true → IsPlain c) (by decide) (ascii_of_isSmall small) small

theorem isPlain_of_isDigit {c : Char} (digit : c.isDigit = true) : IsPlain c :=
  Text.ascii_cases (fun c => c.isDigit = true → IsPlain c) (by decide) (Text.ascii_of_isDigit digit) digit

theorem isStart_of_isSmall {c : Char} (small : isSmall c = true) : IsStart c :=
  Text.ascii_cases (fun c => isSmall c = true → IsStart c) (by decide) (ascii_of_isSmall small) small

namespace Word

variable (word : Word)

theorem isStart : IsStart word.first :=
  isStart_of_isSmall word.small

theorem isPlain_others : ∀ c ∈ word.others, IsPlain c :=
  fun c member => (word.plain c member).elim isPlain_of_isSmall isPlain_of_isDigit

theorem isPlain_chars : ∀ c ∈ word.chars, IsPlain c :=
  List.forall_mem_cons.2 ⟨isPlain_of_isSmall word.small, word.isPlain_others⟩

theorem capitalize_chars : capitalize word.chars = word.capital := by
  have kept : word.others.flatMap Text.lowerChar = word.others := by
    rw [List.flatMap_congr fun c member => lowerChar_of_not_isCapital (word.isPlain_others c member).ascii
      (word.isPlain_others c member).uncapped, List.flatMap_singleton']
  rw [chars, capitalize, Text.upperChar, if_pos (ascii_of_isSmall word.small), kept]
  rfl

end Word

/-! ## To capitals -/

theorem isPascal_joinWith (mark : Char) (word : Word) (words : List Word) :
    isPascal (Text.joinWith [mark] ((word :: words).map Word.chars)) = false := by
  rw [List.map_cons, Word.chars, Text.joinWith_cons_cons, isPascal, List.head?_cons, Option.any_some,
    word.isStart.uncapped, Bool.false_and]

theorem pascal_joinWith {mark : Char} (breaks : isWordBreak mark = true) (words : List Word) :
    pascal (Text.joinWith [mark] (words.map Word.chars)) = words.flatMap Word.capital := by
  cases words with
  | nil => rfl
  | cons word others =>
    have whole : ∀ chars ∈ (word :: others).map Word.chars, Text.pieces isWordBreak chars = [chars] := by
      rw [List.forall_mem_map]
      exact fun word _ => Text.pieces_of_unbroken fun c member => (word.isPlain_chars c member).unbroken
    have solid : ∀ chars ∈ (word :: others).map Word.chars, (!chars.isEmpty) = true := by
      rw [List.forall_mem_map]
      exact fun word _ => rfl
    have some : (word :: others).map Word.chars ≠ [] := List.cons_ne_nil _ _
    rw [pascal, isPascal_joinWith, if_neg Bool.false_ne_true, Text.pieces_joinWith_of_break breaks some,
      List.flatMap_congr whole, List.flatMap_singleton', List.filter_eq_self.2 solid, List.flatMap_map]
    exact List.flatMap_congr fun word _ => word.capitalize_chars

/-- A name that is spelt with capitals stands for itself. -/
theorem pascal_flatMap_capital (words : List Word) :
    pascal (words.flatMap Word.capital) = words.flatMap Word.capital := by
  cases words with
  | nil => rfl
  | cons word others =>
    have letters : ((word :: others).flatMap Word.capital).all Text.isAlphanumeric = true := by
      rw [List.all_flatMap, List.all_eq_true]
      intro word _
      rw [Word.capital, List.all_cons, word.isStart.alphanumeric, Bool.true_and, List.all_eq_true]
      exact fun c member => (word.isPlain_others c member).alphanumeric
    have starts : ((word :: others).flatMap Word.capital).head?.any Text.isUppercase = true :=
      word.isStart.uppercase
    rw [pascal, isPascal, letters, starts]
    rfl

/-! ## To underscores -/

/-- Where small letters and digits are followed by a capital, a word ends. -/
theorem spreadAt_of_isPlain {run : List Char} (plain : ∀ c ∈ run, IsPlain c) (some : run ≠ []) (tail : List Char) :
    spreadAt meetsWord (run ++ tail) =
      run ++ (if tail.head?.any isCapital then ['_'] else []) ++ spreadAt meetsWord tail := by
  induction run with
  | nil => exact absurd rfl some
  | cons c more ih =>
    rcases List.forall_mem_cons.1 plain with ⟨first, others⟩
    cases more with
    | nil =>
      have here : meetsWord (c :: tail) = tail.head?.any isCapital := by
        cases tail <;> simp [meetsWord, first.ends]
      rw [List.cons_append, spreadAt, List.nil_append, here]
      rfl
    | cons d more =>
      have inner : meetsWord (c :: (d :: more ++ tail)) = false := by
        simp [meetsWord, (others d List.mem_cons_self).uncapped]
      rw [List.cons_append, spreadAt, inner, ih others (List.cons_ne_nil d more)]
      rfl

/-- There is no boundary behind the first character of a word. -/
theorem spreadAt_word (c : Char) (word : Word) (tail : List Char) :
    spreadAt meetsWord (c :: word.others ++ tail) =
      c :: word.others ++ (if tail.head?.any isCapital then ['_'] else []) ++ spreadAt meetsWord tail := by
  have inner : meetsWord (c :: (word.others ++ tail)) = false := by
    rcases List.exists_cons_of_ne_nil word.some with ⟨d, more, whole⟩
    have uncapped := (word.isPlain_others d (by simp [whole])).uncapped
    simp [whole, meetsWord, uncapped]
  rw [List.cons_append, spreadAt, inner, spreadAt_of_isPlain word.isPlain_others word.some]
  rfl

/-- Words end before the next capital, however the first of them begins. -/
theorem spreadAt_capitals (c : Char) (word : Word) (words : List Word) :
    spreadAt meetsWord (c :: word.others ++ words.flatMap Word.capital) =
      Text.joinWith ['_'] ((c :: word.others) :: words.map Word.capital) := by
  induction words generalizing c word with
  | nil =>
    rw [List.flatMap_nil, spreadAt_word]
    simp [spreadAt, Text.joinWith]
  | cons next words ih =>
    have capital : ((next :: words).flatMap Word.capital).head?.any isCapital = true :=
      next.isStart.capital
    rw [spreadAt_word, capital, List.flatMap_cons, Word.capital, ih]
    rfl

/-! ## In lower case -/

namespace Word

variable (word : Word)

theorem map_toLower_others : word.others.map Char.toLower = word.others := by
  rw [List.map_congr_left fun c member => (word.isPlain_others c member).kept, List.map_id']

theorem map_toLower_capital : word.capital.map Char.toLower = word.chars := by
  rw [capital, List.map_cons, word.isStart.back, word.map_toLower_others, chars]

theorem ascii_capital : ∀ c ∈ word.capital, c.toNat < 128 :=
  List.forall_mem_cons.2 ⟨word.isStart.ascii, fun c member => (word.isPlain_others c member).ascii⟩

end Word

/-- Whether the first word has its capital or not, the words are found again. -/
theorem snake_capitals {c : Char} (ascii : c.toNat < 128) {word : Word} (same : c.toLower = word.first)
    (words : List Word) :
    snake (c :: word.others ++ words.flatMap Word.capital) =
      Text.joinWith ['_'] ((word :: words).map Word.chars) := by
  have plain : ∀ text ∈ (c :: word.others) :: words.map Word.capital, ∀ d ∈ text, d.toNat < 128 := by
    rw [List.forall_mem_cons, List.forall_mem_cons, List.forall_mem_map]
    exact ⟨⟨ascii, fun d member => (word.isPlain_others d member).ascii⟩, fun next _ => next.ascii_capital⟩
  have lower : ((c :: word.others) :: words.map Word.capital).map (List.map Char.toLower) =
      (word :: words).map Word.chars := by
    rw [List.map_cons, List.map_cons, same, word.map_toLower_others, List.map_map, List.map_cons, Word.chars]
    exact congrArg _ (List.map_congr_left fun next _ => next.map_toLower_capital)
  rw [snake_eq_spreadAt, spreadAt_capitals, Text.lowerChars,
    lowerAfter_of_ascii (Text.forall_mem_joinWith (List.forall_mem_singleton.2 (by decide)) plain),
      Text.map_joinWith, lower]
  rfl

/-- With hyphens for the underscores. -/
theorem hyphenate_joinWith (words : List Word) :
    (Text.joinWith ['_'] (words.map Word.chars)).map (fun c => if c == '_' then '-' else c) =
      Text.joinWith ['-'] (words.map Word.chars) := by
  have kept : ∀ word : Word, word.chars.map (fun c => if c == '_' then '-' else c) = word.chars := by
    intro word
    have same : ∀ c ∈ word.chars, (if c == '_' then '-' else c) = c := by
      intro c member
      have unbroken := (word.isPlain_chars c member).unbroken
      rw [isWordBreak, Bool.or_eq_false_iff, Bool.or_eq_false_iff] at unbroken
      rw [unbroken.1.1, if_neg Bool.false_ne_true]
    rw [List.map_congr_left same, List.map_id']
  rw [Text.map_joinWith, List.map_map]
  exact congrArg _ (List.map_congr_left fun word _ => kept word)

/-! ## The spellings as texts -/

section

variable (words : List Word)

theorem camelForm_cons (word : Word) :
    camelForm (word :: words) = String.ofList (word.chars ++ words.flatMap Word.capital) := by
  have first := word.isStart.back
  rw [camelForm, List.flatMap_cons, Word.capital, List.cons_append]
  dsimp only
  rw [first]
  rfl

theorem camelForm_eq : camelForm words = String.ofList (lowerFirst (words.flatMap Word.capital)) := by
  cases words with
  | nil => rfl
  | cons word others =>
    have first := word.isStart.back
    rw [camelForm_cons, List.flatMap_cons, Word.capital, List.cons_append, lowerFirst, Text.lowerChar,
      if_pos word.isStart.ascii, first]
    rfl

theorem pascalCase_pascalForm : pascalCase (pascalForm words) = pascalForm words := by
  rw [pascalCase, pascalForm, String.toList_ofList, pascal_flatMap_capital]

theorem camelCase_of_pascalCase {s : String} (same : pascalCase s = pascalForm words) :
    camelCase s = camelForm words := by
  have letters := congrArg String.toList same
  rw [pascalCase, pascalForm, String.toList_ofList, String.toList_ofList] at letters
  rw [camelCase, letters, camelForm_eq]

theorem snake_nil : snake [] = [] := by
  rw [snake_eq_spreadAt]
  rfl

theorem snakeCase_pascalForm : snakeCase (pascalForm words) = snakeForm words := by
  rw [snakeCase, pascalForm, snakeForm, String.toList_ofList]
  cases words with
  | nil => rw [List.flatMap_nil, snake_nil]; rfl
  | cons word others =>
    rw [← snake_capitals word.isStart.ascii word.isStart.back]
    rfl

theorem snakeCase_camelForm : snakeCase (camelForm words) = snakeForm words := by
  cases words with
  | nil => exact congrArg String.ofList snake_nil
  | cons word others =>
    have first := isPlain_of_isSmall word.small
    rw [snakeCase, camelForm_cons, snakeForm, String.toList_ofList, Word.chars,
      snake_capitals first.ascii first.kept]

theorem kebabCase_of_snakeCase {s : String} (same : snakeCase s = snakeForm words) :
    kebabCase s = kebabForm words := by
  have letters := congrArg String.toList same
  rw [snakeCase, snakeForm, String.toList_ofList, String.toList_ofList] at letters
  rw [kebabCase, kebab, letters, hyphenate_joinWith, kebabForm]

/-- Each spelling of a name is found again from the others. -/
theorem spellings_agree :
    pascalCase (snakeForm words) = pascalForm words ∧ pascalCase (kebabForm words) = pascalForm words ∧
      camelCase (snakeForm words) = camelForm words ∧ camelCase (pascalForm words) = camelForm words ∧
      snakeCase (pascalForm words) = snakeForm words ∧ snakeCase (camelForm words) = snakeForm words ∧
      kebabCase (pascalForm words) = kebabForm words ∧ kebabCase (camelForm words) = kebabForm words := by
  have joined {mark : Char} (breaks : isWordBreak mark = true) :
      pascalCase (String.ofList (Text.joinWith [mark] (words.map Word.chars))) = pascalForm words := by
    rw [pascalCase, String.toList_ofList, pascal_joinWith breaks, pascalForm]
  refine ⟨joined (by decide), joined (by decide), ?_, ?_, snakeCase_pascalForm words,
    snakeCase_camelForm words, ?_, ?_⟩
  · exact camelCase_of_pascalCase words (joined (by decide))
  · exact camelCase_of_pascalCase words (pascalCase_pascalForm words)
  · exact kebabCase_of_snakeCase words (snakeCase_pascalForm words)
  · exact kebabCase_of_snakeCase words (snakeCase_camelForm words)

end

end Naming
end Scaffold
