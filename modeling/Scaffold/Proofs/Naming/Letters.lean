import Scaffold.Proofs.Naming.Passes

namespace Scaffold
namespace Naming

/-!
# The letters of a name

Snake case changes the case of a name and puts underscores between its words, and nothing else: with
the underscores left out, a name in snake case reads like the name in small letters.  The one small
letter with two forms is the sigma, which is written in the final form where a word ends, so that
both forms are read as one here.
-/

/-- The small sigma in its usual form, any other character itself. -/
def plainSigma (c : Char) : Char :=
  if c == 'ς' then 'σ' else c

/-- A text without underscores and with one form of the small sigma. -/
def unspaced (cs : List Char) : List Char :=
  (cs.filter (· != '_')).map plainSigma

/-- What a character of a name contributes to the letters of the name in small letters. -/
def smallLetters (c : Char) : List Char :=
  if c == 'Σ' then ['σ'] else unspaced (Text.lowerChar c)

@[simp] theorem unspaced_append (front back : List Char) :
    unspaced (front ++ back) = unspaced front ++ unspaced back := by
  simp [unspaced]

@[simp] theorem smallLetters_underscore : smallLetters '_' = [] := by
  decide

/-! ## Lower case, character by character -/

theorem unspaced_lowerAfter (seen cs : List Char) :
    unspaced (Text.lowerAfter seen cs) = cs.flatMap smallLetters := by
  induction cs generalizing seen with
  | nil => rfl
  | cons c rest ih =>
    rw [Text.lowerAfter, unspaced_append, ih, List.flatMap_cons, smallLetters]
    congr 1
    split
    · -- Both forms of the small sigma read alike.
      split <;> rfl
    · rfl

theorem unspaced_lowerChars (cs : List Char) : unspaced (Text.lowerChars cs) = cs.flatMap smallLetters :=
  unspaced_lowerAfter [] cs

/-! ## Words -/

/-- A reading that skips underscores does not see where the words were parted. -/
theorem flatMap_spreadAt {α : Type} {reading : Char → List α} (skips : reading '_' = []) (meets : List Char → Bool)
    (cs : List Char) : (spreadAt meets cs).flatMap reading = cs.flatMap reading := by
  induction cs with
  | nil => rfl
  | cons c rest ih =>
    rw [spreadAt, List.flatMap_cons, List.flatMap_cons, List.flatMap_append, ih]
    split <;> simp [skips]

/-- Snake case keeps the letters of a name. -/
theorem unspaced_snake (cs : List Char) : unspaced (snake cs) = unspaced (Text.lowerChars cs) := by
  rw [snake_eq_spreadAt, unspaced_lowerChars, flatMap_spreadAt smallLetters_underscore, unspaced_lowerChars]

/-! ## Names without capitals

Words are only split at capitals, and the first character of a name has nothing to be split from.
-/

section Capless

variable {c : Char} {cs rest : List Char}

theorem spreadAt_cons_of_capless (capless : ∀ d ∈ rest, isCapital d = false) :
    spreadAt meetsWord (c :: rest) = c :: rest := by
  induction rest generalizing c with
  | nil => rfl
  | cons d others ih =>
    rw [List.forall_mem_cons] at capless
    have inner : meetsWord (c :: d :: others) = false := by simp [meetsWord, capless.1]
    rw [spreadAt_cons_of_not inner, ih capless.2]

/-- A name without capitals behind its first character is only lower-cased. -/
theorem snake_cons_of_capless (capless : ∀ d ∈ rest, isCapital d = false) :
    snake (c :: rest) = Text.lowerChars (c :: rest) := by
  rw [snake_eq_spreadAt, spreadAt_cons_of_capless capless]

end Capless

/-- A text that is written in ASCII without capitals. -/
def IsUncapped (cs : List Char) : Prop :=
  ∀ c ∈ cs, c.toNat < 128 ∧ isCapital c = false

instance (cs : List Char) : Decidable (IsUncapped cs) :=
  List.decidableBAll _ cs

theorem lowerChar_of_not_isCapital {c : Char} (ascii : c.toNat < 128) (small : isCapital c = false) :
    Text.lowerChar c = [c] := by
  refine Text.ascii_cases (fun c => isCapital c = false → Text.lowerChar c = [c]) ?_ ascii small
  decide

theorem lowerAfter_cons_of_ascii {c : Char} (ascii : c.toNat < 128) (seen rest : List Char) :
    Text.lowerAfter seen (c :: rest) = Text.lowerChar c ++ Text.lowerAfter (c :: seen) rest := by
  have latin : (c == 'Σ') = false := by
    rw [beq_eq_false_iff_ne]
    rintro rfl
    exact absurd ascii (by decide)
  rw [Text.lowerAfter, latin]
  rfl

theorem lowerAfter_of_ascii {cs : List Char} (ascii : ∀ c ∈ cs, c.toNat < 128) (seen : List Char) :
    Text.lowerAfter seen cs = cs.map Char.toLower := by
  induction cs generalizing seen with
  | nil => rfl
  | cons c rest ih =>
    rcases List.forall_mem_cons.1 ascii with ⟨first, others⟩
    rw [lowerAfter_cons_of_ascii first, ih others, Text.lowerChar, if_pos first]
    rfl

theorem lowerAfter_of_isUncapped {cs : List Char} (seen : List Char) (uncapped : IsUncapped cs) :
    Text.lowerAfter seen cs = cs := by
  have kept : ∀ c ∈ cs, c.toLower = c := by
    intro c member
    rcases uncapped c member with ⟨ascii, small⟩
    have same := lowerChar_of_not_isCapital ascii small
    rw [Text.lowerChar, if_pos ascii] at same
    exact List.head_eq_of_cons_eq same
  rw [lowerAfter_of_ascii fun c member => (uncapped c member).1, List.map_congr_left kept, List.map_id']

/-- Snake case has nothing to do on a name in ASCII without capitals. -/
theorem snake_of_isUncapped {cs : List Char} (uncapped : IsUncapped cs) : snake cs = cs := by
  cases cs with
  | nil => rw [snake_eq_spreadAt]; rfl
  | cons c rest =>
    have capless : ∀ d ∈ rest, isCapital d = false := fun d member => (uncapped d (List.mem_cons_of_mem c member)).2
    rw [snake_cons_of_capless capless, Text.lowerChars, lowerAfter_of_isUncapped [] uncapped]

end Naming
end Scaffold
