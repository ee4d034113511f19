import Scaffold.Proofs.Naming.TableName

namespace Scaffold

/-!
# Plurals of compounds

The words of a compound stand between underscores.  Lower case takes a compound word by word,
because an underscore ends the search for the cased character that decides the form of a small
sigma.  The rules for plurals read a compound from its end: an irregular word is the last word as a
whole, and the endings that the other rules look for lie within the last word.  One rule looks
further, the one for `y` after a consonant, at the character before the `y`.  If the last word is
the letter `y` alone, that is the underscore, which counts as a consonant there, although a `y` with
nothing before it does not follow that rule.
-/

namespace Text

variable {seen front : List Char}

/-! ## Lower case, word by word -/

theorem meetsCased_underscore (cs : List Char) : meetsCased ('_' :: cs) = false :=
  meetsCased_cons_of_solid (by decide) cs

/-- Nothing behind an underscore is found from before it. -/
theorem meetsCased_append_underscore (front back : List Char) :
    meetsCased (front ++ '_' :: back) = meetsCased front := by
  induction front with
  | nil => exact meetsCased_underscore back
  | cons c rest ih =>
    rw [List.cons_append]
    cases solid : isCaseIgnorable c with
    | true => rw [meetsCased_cons_of_ignorable solid, meetsCased_cons_of_ignorable solid, ih]
    | false => rw [meetsCased_cons_of_solid solid, meetsCased_cons_of_solid solid]

theorem lowerAfter_append_underscore (seen front back : List Char) :
    lowerAfter seen (front ++ '_' :: back) = lowerAfter seen front ++
      lowerAfter (front.reverse ++ seen) ('_' :: back) := by
  induction front generalizing seen with
  | nil => rfl
  | cons c rest ih =>
    rw [List.cons_append, lowerAfter, lowerAfter, meetsCased_append_underscore, ih,
      List.append_assoc, List.reverse_cons, List.append_assoc, List.singleton_append]

/-- What was seen before an underscore does not matter behind it. -/
theorem lowerAfter_of_underscore (seen before cs : List Char) :
    lowerAfter (seen ++ '_' :: before) cs = lowerAfter seen cs := by
  induction cs generalizing seen with
  | nil => rfl
  | cons c rest ih =>
    have later := ih (c :: seen)
    rw [List.cons_append] at later
    rw [lowerAfter, lowerAfter, meetsCased_append_underscore, later]

theorem lowerChars_append_underscore (front back : List Char) :
    lowerChars (front ++ '_' :: back) = lowerChars front ++ '_' :: lowerChars back := by
  have behind := lowerAfter_of_underscore [] (front.reverse ++ []) back
  rw [List.nil_append] at behind
  rw [lowerChars, lowerAfter_append_underscore, Naming.lowerAfter_cons_of_ascii (by decide), behind]
  rfl

/-- Only one letter beyond ASCII has its small letter in ASCII, and that is not `y`. -/
theorem lowerChar_eq_y {c : Char} (small : lowerChar c = ['y']) : c = 'y' ∨ c = 'Y' := by
  have near : lowersToAscii c = true := by
    rw [← Bool.not_eq_false]
    intro foreign
    obtain ⟨d, member, high⟩ := exists_foreign_lowerChar foreign
    rw [small, List.mem_singleton] at member
    rw [member] at high
    exact absurd high (by decide)
  rcases Bool.or_eq_true_iff.1 near with ascii | kelvin
  · exact ascii_cases (fun c => lowerChar c = ['y'] → c = 'y' ∨ c = 'Y') (by decide) (of_decide_eq_true ascii) small
  · rw [beq_iff_eq.1 kelvin] at small
    exact absurd small (by decide +kernel)

theorem lowerChars_eq_y_iff {cs : List Char} : lowerChars cs = ['y'] ↔ cs = ['y'] ∨ cs = ['Y'] := by
  constructor
  · intro small
    cases cs with
    | nil => cases small
    | cons c rest =>
      rw [lowerChars, lowerAfter] at small
      split at small
      · -- Neither form of the small sigma is a `y`.
        split at small <;> exact absurd (List.head_eq_of_cons_eq small) (by decide)
      · rcases List.append_eq_singleton_iff.1 small with ⟨nothing, -⟩ | ⟨first, nothing⟩
        · exact absurd nothing (lowerChar_ne_nil c)
        · obtain rfl : rest = [] := by
            by_contra more
            exact lowerAfter_ne_nil more nothing
          simpa using lowerChar_eq_y first
  · rintro (rfl | rfl) <;> decide

/-! ## Endings of compounds -/

/-- An ending without underscore lies within the last word. -/
theorem isSuffix_append_underscore {suffix : List Char} (whole : '_' ∉ suffix) (front word : List Char) :
    suffix <:+ front ++ '_' :: word ↔ suffix <:+ word := by
  have before (c : Char) (rest : List Char) (inside : '_' ∈ c :: rest) :
      suffix <:+ c :: rest ↔ suffix <:+ rest := by
    rw [List.suffix_cons_iff]
    exact or_iff_right fun same => whole (same ▸ inside)
  induction front with
  | nil => exact before '_' word List.mem_cons_self
  | cons c rest ih => exact (before c _ (by simp)).trans ih

theorem dropSuffix?_append_underscore {suffix : List Char} (whole : '_' ∉ suffix) (front word : List Char) :
    dropSuffix? suffix (front ++ '_' :: word) = (dropSuffix? suffix word).map (front ++ '_' :: ·) := by
  rw [dropSuffix?, dropSuffix?]
  by_cases ends : suffix <:+ word
  · have shorter := ends.length_le
    rw [if_pos (List.isSuffixOf_iff_suffix.2 ((isSuffix_append_underscore whole front word).2 ends)),
      if_pos (List.isSuffixOf_iff_suffix.2 ends), Option.map_some, List.take_append,
        List.length_append, List.length_cons]
    have past : front.length + (word.length + 1) - suffix.length =
        front.length + (word.length - suffix.length + 1) := by omega
    rw [past, List.take_of_length_le (by omega), Nat.add_sub_cancel_left, List.take_succ_cons]
  · rw [if_neg (mt (fun found =>
      (isSuffix_append_underscore whole front word).1 (List.isSuffixOf_iff_suffix.1 found)) ends),
      if_neg (mt List.isSuffixOf_iff_suffix.1 ends)]
    rfl

end Text

namespace Naming

variable {word : List Char}

theorem takeWhile_of_whole (whole : '_' ∉ word) (before : List Char) :
    (word.reverse ++ before).takeWhile (· != '_') = word.reverse ++ before.takeWhile (· != '_') := by
  refine List.takeWhile_append_of_pos fun c member => bne_iff_ne.2 ?_
  rintro rfl
  exact whole (List.mem_reverse.1 member)

theorem lastWord_of_whole (whole : '_' ∉ word) : lastWord word = ([], word) := by
  have last := takeWhile_of_whole whole []
  rw [List.append_nil, List.takeWhile_nil, List.append_nil] at last
  rw [lastWord, last, List.reverse_reverse, Nat.sub_self, List.take_zero]

theorem lastWord_append_underscore (whole : '_' ∉ word) (front : List Char) :
    lastWord (front ++ '_' :: word) = (front ++ ['_'], word) := by
  have last : ((front ++ '_' :: word).reverse.takeWhile (· != '_')).reverse = word := by
    rw [List.reverse_append, List.reverse_cons, List.append_assoc, takeWhile_of_whole whole]
    simp
  rw [lastWord, last, List.append_cons, List.take_left' (by simp; omega)]

/-- What is before the `y` of a compound is what is before it in the last word, unless the `y` is
that word. -/
theorem stemBeforeY_append_underscore (longer : word ≠ ['y']) (front : List Char) (follows : Char → Bool) :
    (Text.dropSuffix? ['y'] (front ++ '_' :: word)).filter (fun stem => stem.getLast?.any follows) =
      ((Text.dropSuffix? ['y'] word).filter fun stem => stem.getLast?.any follows).map (front ++ '_' :: ·) := by
  rw [Text.dropSuffix?_append_underscore (by decide)]
  cases found : Text.dropSuffix? ['y'] word with
  | none => rfl
  | some stem =>
    have some : stem ≠ [] := by
      rintro rfl
      exact longer (eq_append_of_dropSuffix? found)
    have last : (front ++ '_' :: stem).getLast? = stem.getLast? := by
      rw [List.append_cons, List.getLast?_append, List.getLast?_eq_some_getLast some]
      rfl
    rw [Option.map_some, Option.filter_some, Option.filter_some, last]
    split <;> rfl

theorem regularPlural_append_underscore (longer : word ≠ ['y']) (front : List Char) :
    regularPlural (front ++ '_' :: word) = front ++ '_' :: regularPlural word := by
  have plain : ∀ ending ∈ sibilantEndings, '_' ∉ ending := by decide
  have sibilant : (sibilantEndings.any fun ending => ending.isSuffixOf (front ++ '_' :: word)) =
      sibilantEndings.any fun ending => ending.isSuffixOf word := by
    rw [Bool.eq_iff_iff, List.any_eq_true, List.any_eq_true]
    refine exists_congr fun ending => and_congr_right fun listed => ?_
    rw [List.isSuffixOf_iff_suffix, List.isSuffixOf_iff_suffix]
    exact Text.isSuffix_append_underscore (plain ending listed) front word
  rw [regularPlural, regularPlural, stemBeforeY_append_underscore longer, sibilant,
    Text.dropSuffix?_append_underscore (by decide), Text.dropSuffix?_append_underscore (by decide)]
  cases (Text.dropSuffix? ['y'] word).filter fun stem => stem.getLast?.any fun c => !isVowel c with
  | some stem => simp
  | none =>
    cases sibilantEndings.any fun ending => ending.isSuffixOf word with
    | true => simp
    | false =>
      cases Text.dropSuffix? ['f'] word with
      | some stem => simp
      | none => cases Text.dropSuffix? ['f', 'e'] word <;> simp

theorem regularPlural_underscore_y (front : List Char) :
    regularPlural (front ++ ['_', 'y']) = front ++ '_' :: "ies".toList := by
  have stem : Text.dropSuffix? ['y'] (front ++ ['_', 'y']) = some (front ++ ['_']) :=
    Text.dropSuffix?_append_underscore (by decide) front ['y']
  have consonant : (!isVowel '_') = true := by decide
  rw [regularPlural, stem, Option.filter_some, List.getLast?_concat, Option.any_some, consonant, if_pos rfl]
  exact List.append_assoc front ['_'] _

/-! ## Plurals -/

theorem pluralChars_of_lastWord {cs head last : List Char} (some : cs ≠ [])
    (cut : lastWord (Text.lowerChars cs) = (head, last)) :
    pluralChars cs = ((irregularPlural? last).map (head ++ ·)).getD (regularPlural (Text.lowerChars cs)) := by
  rw [pluralChars, if_neg (by simpa using some)]
  dsimp only
  rw [cut]
  cases irregularPlural? last <;> rfl

theorem underscore_not_mem_lowerChars (whole : '_' ∉ word) : '_' ∉ Text.lowerChars word := by
  intro member
  rcases Text.mem_lowerAfter member with inside | high
  · exact whole inside
  · exact absurd high (by decide)

/-- The plural of a compound. -/
theorem pluralChars_append_underscore (some : word ≠ []) (whole : '_' ∉ word) (front : List Char) :
    pluralChars (front ++ '_' :: word) = Text.lowerChars front ++
      '_' :: if Text.lowerChars word = ['y'] then "ies".toList else pluralChars word := by
  have lowered := underscore_not_mem_lowerChars whole
  have compound := lastWord_append_underscore lowered (Text.lowerChars front)
  rw [← Text.lowerChars_append_underscore] at compound
  rw [pluralChars_of_lastWord (by simp) compound, pluralChars_of_lastWord some (lastWord_of_whole lowered),
    Text.lowerChars_append_underscore]
  by_cases letter : Text.lowerChars word = ['y']
  · have regular : irregularPlural? ['y'] = none := by decide
    rw [if_pos letter, letter, regular, regularPlural_underscore_y]
    rfl
  · rw [if_neg letter, regularPlural_append_underscore letter]
    cases irregularPlural? (Text.lowerChars word) <;> simp

/-- The plural of a compound is the head in small letters and the plural of the last word, unless
that word is the letter `y`, which has the plural `ys` by itself and `ies` behind an underscore. -/
theorem plural_compound (head word : String) (some : word ≠ "") (whole : '_' ∉ word.toList) :
    plural (head ++ "_" ++ word) =
        Text.lower (head ++ "_") ++ (if word = "y" ∨ word = "Y" then "ies" else plural word) ∧
      (plural (head ++ "_" ++ word) = Text.lower (head ++ "_") ++ plural word ↔ word ≠ "y" ∧ word ≠ "Y") := by
  have letter : Text.lowerChars word.toList = ['y'] ↔ word = "y" ∨ word = "Y" := by
    rw [Text.lowerChars_eq_y_iff, ← String.toList_inj, ← String.toList_inj]
    rfl
  have lowered : (Text.lower (head ++ "_")).toList = Text.lowerChars head.toList ++ ['_'] := by
    rw [Text.lower, String.toList_ofList, String.toList_append]
    exact Text.lowerChars_append_underscore head.toList []
  have parts : (head ++ "_" ++ word).toList = head.toList ++ '_' :: word.toList := by simp
  have compound : plural (head ++ "_" ++ word) =
      Text.lower (head ++ "_") ++ (if word = "y" ∨ word = "Y" then "ies" else plural word) := by
    rw [← String.toList_inj, String.toList_append, lowered, plural, parts, String.toList_ofList,
      pluralChars_append_underscore (mt String.toList_eq_nil_iff.1 some) whole]
    simp only [letter, apply_ite String.toList, plural, String.toList_ofList, List.append_assoc,
      List.singleton_append]
  refine ⟨compound, ?_⟩
  rw [compound, String.append_right_inj, ← not_or]
  by_cases alone : word = "y" ∨ word = "Y"
  · have differs : "ies" ≠ plural "y" ∧ "ies" ≠ plural "Y" := by decide
    rw [if_pos alone]
    refine iff_of_false (fun same => ?_) (not_not_intro alone)
    rcases alone with rfl | rfl
    · exact differs.1 same
    · exact differs.2 same
  · rw [if_neg alone]
    exact iff_of_true rfl alone

theorem plural_compound_salesPerson :
    "Person" ≠ "" ∧ '_' ∉ "Person".toList ∧ plural "Sales_Person" = "sales_people" := by
  have some : "Person" ≠ "" := by decide
  have whole : '_' ∉ "Person".toList := by decide
  refine ⟨some, whole, ?_⟩
  exact ((plural_compound "Sales" "Person" some whole).2.2 (by decide)).trans (by decide)

/-- The underscore before a `y` counts as a consonant. -/
theorem not_plural_compound_y :
    plural "point_y" = "point_ies" ∧ plural "y" = "ys" ∧ Text.lower "point_" = "point_" ∧
    ¬ ∀ head word : String, word ≠ "" → '_' ∉ word.toList →
      plural (head ++ "_" ++ word) = Text.lower (head ++ "_") ++ plural word := by
  have compound : plural ("point" ++ "_" ++ "y") ≠ Text.lower ("point" ++ "_") ++ plural "y" := by decide
  refine ⟨by decide, by decide, by decide, fun all => ?_⟩
  exact compound (all "point" "y" (by decide) (by decide))

end Naming
end Scaffold
