import Scaffold.Proofs.FileTree.Overlay
import Scaffold.Proofs.Text.Pieces

namespace Scaffold

/-!
# The steps of a path

Not every segment of a path leads somewhere: an empty one and `.` stay where they are met.  The
others are the steps of the path, and they alone decide where it ends.  Cutting off the last segment
of a path takes its last step away, and what is left ends in a step again, or has none.
-/

namespace FilePath

/-- Whether a segment leads away from where it is met. -/
def leads (segment : String) : Bool :=
  !(segment == "" || segment == ".")

/-- The segments of a path that lead somewhere. -/
def steps (path : String) : List String :=
  (segments path).filter leads

/-- The last segment of the path is a step. -/
def EndsInStep (path : String) : Prop :=
  ∃ front last, segments path = front ++ [last] ∧ leads last = true

/-- The path has nothing behind its last step. -/
def IsTidy (path : String) : Prop :=
  steps path = [] ∨ EndsInStep path

theorem steps_append_slash (front back : List Char) :
    steps (String.ofList (front ++ '/' :: back)) = steps (String.ofList front) ++ steps (String.ofList back) := by
  simp only [steps, segments, String.toList_ofList]
  rw [Text.pieces_append_break (by decide), List.map_append, List.filter_append]

/-! ## What stands at the end -/

/-- The last segment, seen from the last character on. -/
theorem segments_reverse {name rest : List Char} (unbroken : ∀ c ∈ name, (c == '/') = false)
    (cut : rest = [] ∨ ∃ others, rest = '/' :: others) :
    segments (String.ofList (name ++ rest).reverse) =
      (if rest.isEmpty then [] else segments (String.ofList rest.tail.reverse)) ++
        [String.ofList name.reverse] := by
  have whole : Text.pieces (· == '/') name.reverse = [name.reverse] := by
    apply Text.pieces_of_unbroken
    intro c member
    exact unbroken c (List.mem_reverse.1 member)
  rcases cut with rfl | ⟨others, rfl⟩
  · rw [List.append_nil, segments, String.toList_ofList, whole]
    rfl
  · have turned : (name ++ '/' :: others).reverse = others.reverse ++ '/' :: name.reverse := by simp
    rw [turned, segments, String.toList_ofList, Text.pieces_append_break (by decide), whole, List.map_append]
    rw [List.isEmpty_cons, if_neg Bool.false_ne_true, List.tail_cons, segments, String.toList_ofList]
    rfl

/-- A text in two parts: what it has before the first slash, and the rest. -/
theorem exists_name (r : List Char) : ∃ name rest, r = name ++ rest ∧ r.dropWhile (· != '/') = rest ∧
    (∀ c ∈ name, (c == '/') = false) ∧ (rest = [] ∨ ∃ others, rest = '/' :: others) := by
  refine ⟨r.takeWhile (· != '/'), r.dropWhile (· != '/'), List.takeWhile_append_dropWhile.symm, rfl, ?_, ?_⟩
  · intro c member
    have differs := List.all_eq_true.1 List.all_takeWhile c member
    simpa using differs
  · cases left : r.dropWhile (· != '/') with
    | nil => exact .inl rfl
    | cons c others =>
      have mark := List.head_dropWhile_not (· != '/') (l := r) (by simp [left])
      simp only [left, List.head_cons] at mark
      exact .inr ⟨others, by simpa using mark⟩

theorem getLast?_trimBack (r : List Char) : (trimBack r).getLast? = r.getLast? := by
  fun_induction trimBack r with
  | case1 c rest ih => rw [ih, List.getLast?_cons_cons]
  | case2 rest ih => rw [ih, List.getLast?_cons_cons]
  | case3 r _ _ => rfl

theorem trimBack_suffix (r : List Char) : trimBack r <:+ r := by
  fun_induction trimBack r with
  | case1 c rest ih => exact ih.trans (List.suffix_cons _ _)
  | case2 rest ih => exact ih.trans (List.suffix_cons _ _)
  | case3 r _ _ => exact List.suffix_rfl

theorem steps_trimBack (r : List Char) :
    steps (String.ofList (trimBack r).reverse) = steps (String.ofList r.reverse) := by
  fun_induction trimBack r with
  | case1 c rest ih =>
    rw [ih, List.reverse_cons (a := '/'), steps_append_slash]
    exact (List.append_nil _).symm
  | case2 rest ih =>
    have turned : ('.' :: '/' :: rest).reverse = rest.reverse ++ '/' :: ['.'] := by simp
    rw [ih, List.reverse_cons, turned, steps_append_slash, steps_append_slash]
    rfl
  | case3 r _ _ => rfl

theorem isTidy_trimBack (r : List Char) : IsTidy (String.ofList (trimBack r).reverse) := by
  fun_induction trimBack r with
  | case1 c rest ih => exact ih
  | case2 rest ih => exact ih
  | case3 r noSlash noDot =>
    obtain ⟨name, rest, rfl, -, unbroken, cut⟩ := exists_name r
    have last := segments_reverse unbroken cut
    cases name with
    | nil =>
      -- There is nothing before the slash, and so nothing behind it.
      left
      rcases cut with rfl | ⟨others, rfl⟩
      · rfl
      · cases others with
        | nil => rfl
        | cons c others => exact (noSlash c others rfl).elim
    | cons c name =>
      by_cases here : (c :: name) = ['.']
      · left
        rcases cut with rfl | ⟨others, rfl⟩
        · rw [here]
          rfl
        · exact (noDot others (by rw [here]; rfl)).elim
      · right
        refine ⟨_, _, last, ?_⟩
        have notBlank : String.ofList (c :: name).reverse ≠ "" := by
          intro same
          have chars := congrArg String.toList same
          simp at chars
        have notDot : String.ofList (c :: name).reverse ≠ "." := by
          intro same
          have chars := congrArg String.toList same
          rw [String.toList_ofList] at chars
          exact here (by simpa using congrArg List.reverse chars)
        simp only [leads, Bool.not_eq_true', Bool.or_eq_false_iff, beq_eq_false_iff_ne]
        exact ⟨notBlank, notDot⟩

/-! ## Cutting off the last segment -/

theorem isAbsolute_eq (path : String) : isAbsolute path = (path.toList.reverse.getLast? == some '/') := by
  rw [isAbsolute, List.getLast?_reverse]

section

variable {name rest : List Char} (unbroken : ∀ c ∈ name, (c == '/') = false) (notBlank : name ≠ [])
include unbroken notBlank

/-- Nothing has to be trimmed from a path that ends in a step. -/
theorem trimBack_of_name (notDot : name ≠ ['.']) : trimBack (name ++ rest) = name ++ rest := by
  obtain ⟨c, name, rfl⟩ := List.exists_cons_of_ne_nil notBlank
  rw [trimBack.eq_def]
  split
  · next d others shape =>
    obtain rfl := (List.cons.inj shape).1
    exact absurd (unbroken _ List.mem_cons_self) (by decide)
  · next others shape =>
    obtain ⟨rfl, behind⟩ := List.cons.inj shape
    cases name with
    | nil => exact absurd rfl notDot
    | cons d name =>
      obtain rfl := (List.cons.inj behind).1
      exact absurd (unbroken '/' (by simp)) (by decide)
  · rfl

theorem parent?_of_name (notDot : name ≠ ['.']) (cut : rest = [] ∨ ∃ others, rest = '/' :: others) :
    parent? (String.ofList (name ++ rest).reverse) = some (String.ofList (trimBack rest).reverse) := by
  have dropped : (name ++ rest).dropWhile (· != '/') = rest := by
    rw [List.dropWhile_append_of_pos (by simpa using unbroken)]
    rcases cut with rfl | ⟨others, rfl⟩ <;> rfl
  rw [parent?, String.toList_ofList, List.reverse_reverse, trimBack_of_name unbroken notBlank notDot]
  split
  · next empty => exact absurd (List.append_eq_nil_iff.1 empty).1 notBlank
  · next slash =>
    obtain ⟨c, name, rfl⟩ := List.exists_cons_of_ne_nil notBlank
    obtain rfl := (List.cons.inj slash).1
    exact absurd (unbroken _ List.mem_cons_self) (by decide)
  · rw [dropped]

/-- A path begins like the one that is left when its last segment is cut off. -/
theorem getLast?_name (cut : rest = [] ∨ ∃ others, rest = '/' :: others) :
    ((trimBack rest).getLast? == some '/') = ((name ++ rest).getLast? == some '/') := by
  rw [getLast?_trimBack]
  rcases cut with rfl | ⟨others, rfl⟩
  · rw [List.append_nil, List.getLast?_eq_some_getLast notBlank]
    exact (unbroken _ (List.getLast_mem notBlank)).symm
  · rw [List.getLast?_append, List.getLast?_cons]
    rfl

end

/-- The path that is left when the last step is cut off. -/
theorem exists_parent {path last : String} {front : List String} (ends : segments path = front ++ [last])
    (moves : leads last = true) :
    ∃ parent, parent? path = some parent ∧ steps parent = front.filter leads ∧ isAbsolute parent = isAbsolute path ∧
      parent.length < path.length ∧ IsTidy parent ∧ ∀ c ∈ parent.toList, c ∈ path.toList := by
  obtain ⟨name, rest, whole, -, unbroken, cut⟩ := exists_name path.toList.reverse
  obtain rfl : path = String.ofList (name ++ rest).reverse := by
    rw [← whole, List.reverse_reverse, String.ofList_toList]
  have split := segments_reverse unbroken cut
  rw [ends] at split
  obtain ⟨frontIs, lastIs⟩ := List.append_inj' split rfl
  obtain rfl := (List.cons.inj lastIs).1
  have notBlank : name ≠ [] := by
    rintro rfl
    exact Bool.noConfusion moves
  have notDot : name ≠ ['.'] := by
    rintro rfl
    exact absurd moves (by decide)
  refine ⟨_, parent?_of_name unbroken notBlank notDot cut, ?_, ?_, ?_, isTidy_trimBack rest, ?_⟩
  · rw [steps_trimBack, frontIs]
    rcases cut with rfl | ⟨others, rfl⟩
    · rfl
    · rw [List.reverse_cons, steps_append_slash]
      exact List.append_nil _
  · rw [isAbsolute_eq, isAbsolute_eq, String.toList_ofList, List.reverse_reverse, whole]
    exact getLast?_name unbroken notBlank cut
  · have shorter := (trimBack_suffix rest).length_le
    have long : 0 < name.length := List.length_pos_iff.2 notBlank
    rw [String.length_ofList, String.length_ofList, List.length_reverse, List.length_reverse, List.length_append]
    omega
  · intro c member
    rw [String.toList_ofList, List.mem_reverse] at member ⊢
    exact List.mem_append_right _ ((trimBack_suffix rest).subset member)

/-! ## Joining -/

theorem steps_join (root : String) {path : String} (relative : isAbsolute path = false) :
    steps (join root path) = steps root ++ steps path := by
  obtain ⟨front, blanks, whole, empty, joined, -⟩ := segments_join root relative
  have nowhere : blanks.filter leads = [] := by
    rw [List.filter_eq_nil_iff]
    intro blank member
    rw [empty blank member]
    decide
  rw [steps, steps, steps, joined, whole, List.filter_append, List.filter_append, nowhere, List.append_nil]

theorem EndsInStep.join {path : String} (ends : EndsInStep path) (root : String)
    (relative : isAbsolute path = false) : EndsInStep (join root path) := by
  obtain ⟨front, last, whole, moves⟩ := ends
  obtain ⟨before, blanks, -, -, joined, -⟩ := segments_join root relative
  exact ⟨before ++ front, last, by rw [joined, whole, List.append_assoc], moves⟩

end FilePath
end Scaffold
