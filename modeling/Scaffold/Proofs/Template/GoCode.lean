import Mathlib.Data.List.Dedup

namespace Scaffold

/-!
# Go source without its remarks

A remark is what stands between two slashes and the end of their line.  One scan over a text prints
the code that is left when the remarks are taken away, each with the white space before it.  White
space and a single slash are held back until the scan knows whether they belong to the code.

There are two ways to look at slashes.  Taken plainly, two slashes open a remark wherever they stand
on a line.  To the lexer of the language they do not within literals and block comments.

Two texts that differ in their remarks only are scanned side by side: a footing says what is known
of the two scans at one place of the texts.
-/

namespace GoCode

/-- What the scan is within.  A slash may open a remark or a block comment, a star may close one. -/
inductive Mode
  | code | slash | remark | quoted | quotedEscape | rune | runeEscape | raw | block | star
  deriving DecidableEq

namespace Mode

/-- Every mode. -/
def all : List Mode :=
  [code, slash, remark, quoted, quotedEscape, rune, runeEscape, raw, block, star]

/-- The modes of a scan that does not look for literals. -/
def plain : List Mode :=
  [code, slash, remark]

/-- The mode behind a character of the code. -/
def ofCode (lexical : Bool) (c : Char) : Mode :=
  if c = '/' then slash
  else if lexical && c == '"' then quoted
  else if lexical && c == '\'' then rune
  else if lexical && c == '\x60' then raw
  else code

/-- The mode behind one more character.  A literal in quotes ends with its line at the latest. -/
def next (lexical : Bool) (mode : Mode) (c : Char) : Mode :=
  match mode with
  | code => ofCode lexical c
  | slash => if c = '/' then remark else if lexical && c == '*' then block else ofCode lexical c
  | remark => if c = '\n' then code else remark
  | quoted => if c = '"' ∨ c = '\n' then code else if c = '\\' then quotedEscape else quoted
  | quotedEscape => if c = '\n' then code else quoted
  | rune => if c = '\'' ∨ c = '\n' then code else if c = '\\' then runeEscape else rune
  | runeEscape => if c = '\n' then code else rune
  | raw => if c = '\x60' then code else raw
  | block => if c = '*' then star else block
  | star => if c = '/' then code else if c = '*' then star else block

/-- The mode behind a text. -/
def behind (lexical : Bool) (mode : Mode) (cs : List Char) : Mode :=
  cs.foldl (next lexical) mode

theorem ofCode_eq_slash {lexical : Bool} {c : Char} (slashed : ofCode lexical c = slash) : c = '/' := by
  by_contra other
  rw [ofCode, if_neg other] at slashed
  split_ifs at slashed

/-- Only a slash can make the scan wait for another one. -/
theorem next_eq_slash {lexical : Bool} {mode : Mode} {c : Char} (slashed : next lexical mode c = slash) :
    c = '/' := by
  cases mode with
  | code => exact ofCode_eq_slash slashed
  | slash =>
    dsimp only [next] at slashed
    split_ifs at slashed
    exact ofCode_eq_slash slashed
  | _ =>
    dsimp only [next] at slashed
    split_ifs at slashed

theorem mem_all (mode : Mode) : mode ∈ all := by
  cases mode <;> decide

theorem next_mem_plain {mode : Mode} (known : mode ∈ plain) (c : Char) : next false mode c ∈ plain := by
  have outside : ofCode false c ∈ plain := by
    unfold ofCode
    split_ifs <;> simp_all [plain]
  simp only [plain, List.mem_cons, List.not_mem_nil, or_false] at known
  rcases known with rfl | rfl | rfl
  · exact outside
  · dsimp only [next]
    split_ifs
    · decide
    · simp_all
    · exact outside
  · dsimp only [next]
    split_ifs <;> decide

theorem behind_mem_plain {mode : Mode} (known : mode ∈ plain) (cs : List Char) : behind false mode cs ∈ plain := by
  induction cs generalizing mode with
  | nil => exact known
  | cons c rest ih => exact ih (next_mem_plain known c)

/-- A remark reaches to the end of its line. -/
theorem behind_remark (lexical : Bool) {cs : List Char} (unbroken : '\n' ∉ cs) :
    behind lexical remark cs = remark := by
  induction cs with
  | nil => rfl
  | cons c rest ih =>
    rw [List.mem_cons, not_or] at unbroken
    rw [behind, List.foldl_cons, next, if_neg (Ne.symm unbroken.1)]
    exact ih unbroken.2

/-- The characters that may end a stretch of code. -/
def marks : List Char :=
  ['/', '"', '\'', '\x60']

theorem behind_code (lexical : Bool) {cs : List Char} (solid : ∀ mark ∈ marks, mark ∉ cs) :
    behind lexical code cs = code := by
  induction cs with
  | nil => rfl
  | cons c rest ih =>
    have same : next lexical code c = code := by
      have own (mark : Char) (listed : mark ∈ marks) : c ≠ mark := fun equal =>
        solid mark listed (equal ▸ List.mem_cons_self)
      simp [next, ofCode, own '/' (by decide), own '"' (by decide), own '\'' (by decide), own '\x60' (by decide)]
    rw [behind, List.foldl_cons, same]
    exact ih fun mark listed member => solid mark listed (List.mem_cons_of_mem c member)

end Mode

/-! ## The scan -/

/-- White space that goes with the remark behind it. -/
def isGap (c : Char) : Bool :=
  c == ' ' || c == '\t'

/-- The scan at one place of a text, with the white space that is held back. -/
@[ext] structure Scan where
  mode : Mode
  held : List Char := []
  idle : mode = .remark → held = [] := by simp

/-- What is still to be printed when the text ends here. -/
def Scan.pending (scan : Scan) : List Char :=
  if scan.mode = .slash then scan.held ++ ['/'] else scan.held

/-- Scans one character and prints what now turns out to be code. -/
def Scan.step (lexical : Bool) (scan : Scan) (c : Char) : Scan × List Char :=
  -- A slash that is followed by no other belongs to the code, and so does what stands before it.
  let held := if scan.mode = .slash then [] else scan.held
  let settled := if scan.mode = .slash then scan.pending else []
  match scan.mode.next lexical c with
  | .remark => ({ mode := .remark }, [])
  | .slash => ({ mode := .slash, held }, settled)
  | .code => if isGap c then ({ mode := .code, held := held ++ [c] }, settled)
    else ({ mode := .code }, settled ++ held ++ [c])
  | mode => ({ mode }, settled ++ held ++ [c])

namespace Scan

variable {lexical : Bool} {scan : Scan} {c : Char}

theorem step_mode (lexical : Bool) (scan : Scan) (c : Char) :
    (scan.step lexical c).1.mode = scan.mode.next lexical c := by
  unfold step
  dsimp only
  split
  · next entered => exact entered.symm
  · next entered => exact entered.symm
  · next entered => split <;> exact entered.symm
  · rfl

theorem step_of_remark (entered : scan.mode.next lexical c = .remark) :
    scan.step lexical c = ({ mode := .remark }, []) := by
  unfold step
  dsimp only
  rw [entered]

/-- A character other than white space and slashes decides what becomes of all that was held
back. -/
theorem held_step (solid : isGap c = false) (other : c ≠ '/') : (scan.step lexical c).1.held = [] := by
  unfold step
  dsimp only
  split
  · rfl
  · next entered => exact absurd (Mode.next_eq_slash entered) other
  · rw [if_neg (by rw [solid]; exact Bool.false_ne_true)]
  · rfl

/-- A line ends in code, and nothing is held back behind it, once the scan is outside of
literals. -/
theorem step_lineFeed (outside : scan.mode ∈ [Mode.code, Mode.remark]) (nothing : scan.held = []) :
    scan.step lexical '\n' = ({ mode := .code }, ['\n']) := by
  obtain ⟨mode, held, idle⟩ := scan
  obtain rfl : held = [] := nothing
  rcases List.mem_pair.1 outside with same | same
  · obtain rfl : mode = .code := same
    cases lexical <;> rfl
  · obtain rfl : mode = .remark := same
    cases lexical <;> rfl

/-- Scans a text and prints its code. -/
def run (lexical : Bool) (scan : Scan) : List Char → Scan × List Char
  | [] => (scan, [])
  | c :: rest =>
    let first := scan.step lexical c
    let others := run lexical first.1 rest
    (others.1, first.2 ++ others.2)

theorem run_append (lexical : Bool) (scan : Scan) (before after : List Char) : scan.run lexical (before ++ after) =
    (((scan.run lexical before).1.run lexical after).1,
      (scan.run lexical before).2 ++ ((scan.run lexical before).1.run lexical after).2) := by
  induction before generalizing scan with
  | nil => rfl
  | cons c rest ih =>
    rw [List.cons_append, run, run, ih]
    dsimp only
    rw [List.append_assoc]

theorem run_mode (lexical : Bool) (scan : Scan) (cs : List Char) :
    (scan.run lexical cs).1.mode = scan.mode.behind lexical cs := by
  induction cs generalizing scan with
  | nil => rfl
  | cons c rest ih => rw [run, ih, step_mode, Mode.behind, Mode.behind, List.foldl_cons]

/-- Nothing of a remark is printed. -/
theorem run_of_remark (inside : scan.mode = .remark) {cs : List Char} (unbroken : '\n' ∉ cs) :
    scan.run lexical cs = (scan, []) := by
  induction cs with
  | nil => rfl
  | cons c rest ih =>
    rw [List.mem_cons, not_or] at unbroken
    have entered : scan.mode.next lexical c = .remark := by rw [inside, Mode.next, if_neg (Ne.symm unbroken.1)]
    have same : scan.step lexical c = (scan, []) := by
      rw [step_of_remark entered]
      congr
      · exact inside.symm
      · exact (scan.idle inside).symm
    rw [run, same, ih unbroken.2]
    rfl

/-- What opens a remark. -/
def opening : List Char :=
  [' ', '/', '/']

/-- Behind code or a remark, nothing is printed of another remark with its white space. -/
theorem run_opening (outside : scan.mode ∈ [Mode.code, Mode.remark]) (nothing : scan.held = []) {cs : List Char}
    (unbroken : '\n' ∉ cs) : scan.run lexical (opening ++ cs) = ({ mode := .remark }, []) := by
  have opened : scan.run lexical opening = ({ mode := .remark }, []) := by
    obtain ⟨mode, held, idle⟩ := scan
    obtain rfl : held = [] := nothing
    rcases List.mem_pair.1 outside with same | same
    · obtain rfl : mode = .code := same
      cases lexical <;> rfl
    · obtain rfl : mode = .remark := same
      cases lexical <;> rfl
  rw [run_append, opened, run_of_remark rfl unbroken]
  rfl

end Scan

/-- `codeOf` on characters. -/
def codeChars (lexical : Bool) (cs : List Char) : List Char :=
  let scanned := Scan.run lexical { mode := .code } cs
  scanned.2 ++ scanned.1.pending

/-- The code of a text.  When `lexical` is set, slashes within literals and block comments open no
remark. -/
def codeOf (lexical : Bool) (text : String) : String :=
  String.ofList (codeChars lexical text.toList)

example : codeOf true "a := \"x//y\" / 2 \t// half\n" = "a := \"x//y\" / 2\n" := by decide +kernel

example : codeOf false "a := \"x//y\" / 2 \t// half\n" = "a := \"x\n" := by decide +kernel

/-! ## Two scans side by side -/

/-- What is known of two scans at one place. -/
inductive Footing
  /-- They are the same, in one of some modes; what is held back is only known to be nothing unless
  `loose` is set. -/
  | same (modes : List Mode) (loose : Bool)
  /-- Each is in code or in a remark, and nothing is held back: they meet at the end of the line. -/
  | parted
  deriving DecidableEq

namespace Footing

/-- Whether two scans are on a footing. -/
def Holds : Footing → Scan → Scan → Prop
  | same modes loose, scan, other => scan = other ∧ scan.mode ∈ modes ∧ (loose = false → scan.held = [])
  | parted, scan, other => (scan.mode ∈ [Mode.code, Mode.remark] ∧ scan.held = []) ∧
      other.mode ∈ [Mode.code, Mode.remark] ∧ other.held = []

/-- Texts that end on a footing have no code left to tell them apart. -/
theorem Holds.pending_eq {footing : Footing} {scan other : Scan} (holds : footing.Holds scan other) :
    scan.pending = other.pending := by
  cases footing with
  | same modes loose => rw [holds.1]
  | parted =>
    have nothing {scan : Scan} (outside : scan.mode ∈ [Mode.code, Mode.remark]) (none : scan.held = []) :
        scan.pending = [] := by
      rw [Scan.pending, if_neg, none]
      intro slashed
      rw [slashed] at outside
      exact absurd outside (by decide)
    rw [nothing holds.1.1 holds.1.2, nothing holds.2.1 holds.2.2]

/-- Whether one footing says no less than another. -/
def below : Footing → Footing → Bool
  | same modes loose, same others wide => modes.all others.contains && (!loose || wide)
  | same modes loose, parted => modes.all [Mode.code, Mode.remark].contains && !loose
  | parted, same _ _ => false
  | parted, parted => true

theorem below_refl (footing : Footing) : footing.below footing = true := by
  cases footing with
  | same modes loose => cases loose <;> simp [below]
  | parted => rfl

theorem Holds.of_below {footing wider : Footing} (below : footing.below wider = true) {scan other : Scan}
    (holds : footing.Holds scan other) : wider.Holds scan other := by
  cases footing with
  | parted =>
    cases wider with
    | parted => exact holds
    | same modes loose => cases below
  | same modes loose =>
    obtain ⟨rfl, known, nothing⟩ := holds
    cases wider with
    | same others wide =>
      simp only [Footing.below, Bool.and_eq_true, List.all_eq_true, List.contains_iff_mem, Bool.or_eq_true,
        Bool.not_eq_true'] at below
      refine ⟨rfl, below.1 _ known, fun tight => nothing ?_⟩
      rw [tight] at below
      exact below.2.resolve_right Bool.false_ne_true
    | parted =>
      simp only [Footing.below, Bool.and_eq_true, List.all_eq_true, List.contains_iff_mem,
        Bool.not_eq_true'] at below
      have both := And.intro (below.1 _ known) (nothing below.2)
      exact ⟨both, both⟩

/-- Two texts print the same code when their scans begin on the footing `before`, and leave them on
the footing `after`. -/
def Leads (lexical : Bool) (before after : Footing) (text twin : List Char) : Prop :=
  ∀ scan other, before.Holds scan other →
    (scan.run lexical text).2 = (other.run lexical twin).2 ∧
      after.Holds (scan.run lexical text).1 (other.run lexical twin).1

variable {lexical : Bool} {before after last : Footing} {text twin more further : List Char}

theorem Leads.refl (footing : Footing) : Leads lexical footing footing [] [] :=
  fun _ _ holds => ⟨rfl, holds⟩

theorem Leads.append (first : Leads lexical before after text twin)
    (second : Leads lexical after last more further) :
    Leads lexical before last (text ++ more) (twin ++ further) := by
  intro scan other holds
  obtain ⟨same, between⟩ := first scan other holds
  obtain ⟨others, ends⟩ := second _ _ between
  rw [Scan.run_append, Scan.run_append, same, others]
  exact ⟨rfl, ends⟩

theorem Leads.of_below {start finish : Footing} (starts : before.below start = true)
    (leads : Leads lexical start finish text twin) (ends : finish.below after = true) :
    Leads lexical before after text twin := by
  intro scan other holds
  obtain ⟨same, left⟩ := leads scan other (holds.of_below starts)
  exact ⟨same, left.of_below ends⟩

/-- Texts that lead somewhere from the start have the same code. -/
theorem Leads.codeOf_eq (leads : Leads lexical (.same [.code] false) after text twin) :
    codeOf lexical (String.ofList text) = codeOf lexical (String.ofList twin) := by
  obtain ⟨same, ends⟩ := leads { mode := .code } { mode := .code } ⟨rfl, List.mem_singleton_self _, fun _ => rfl⟩
  simp only [codeOf, codeChars, String.toList_ofList, same, ends.pending_eq]

/-! ## Where a text leads -/

/-- Whether something may be held back behind a text, if this may be so before it. -/
def loosened (loose : Bool) (cs : List Char) : Bool :=
  match cs.getLast? with
  | none => loose
  | some c => isGap c || c == '/'

/-- The footing behind a text that both sides have; scans that are parted have to meet at once. -/
def read (lexical : Bool) : Footing → List Char → Option Footing
  | same modes loose, cs => some (same (modes.map (Mode.behind lexical · cs)).dedup (loosened loose cs))
  | parted, [] => some parted
  | parted, c :: rest =>
    if c = '\n' then some (same [Mode.code.behind lexical rest] (loosened false rest)) else none

theorem held_run {loose : Bool} {scan : Scan} {cs : List Char} (nothing : loose = false → scan.held = [])
    (tight : loosened loose cs = false) : (scan.run lexical cs).1.held = [] := by
  rcases cs.eq_nil_or_concat with rfl | ⟨early, c, rfl⟩
  · exact nothing tight
  · rw [List.concat_eq_append] at tight ⊢
    rw [loosened, List.getLast?_append, List.getLast?_singleton, Option.some_or, Bool.or_eq_false_iff] at tight
    rw [Scan.run_append]
    exact Scan.held_step tight.1 (by simpa using tight.2)

theorem leads_same (modes : List Mode) (loose : Bool) (cs : List Char) :
    Leads lexical (same modes loose)
      (same (modes.map (Mode.behind lexical · cs)).dedup (loosened loose cs)) cs cs := by
  rintro scan _ ⟨rfl, known, nothing⟩
  refine ⟨rfl, rfl, ?_, held_run nothing⟩
  rw [List.mem_dedup, Scan.run_mode]
  exact List.mem_map_of_mem known

/-- Where a text that both sides have leads. -/
theorem leads_of_read (found : before.read lexical text = some after) : Leads lexical before after text text := by
  cases before with
  | same modes loose =>
    obtain rfl := Option.some.inj found
    exact leads_same modes loose text
  | parted =>
    cases text with
    | nil =>
      obtain rfl := Option.some.inj found
      exact .refl _
    | cons c rest =>
      rw [read] at found
      split_ifs at found with ends
      obtain rfl := Option.some.inj found
      obtain rfl := ends
      have line : Leads lexical parted (same [.code] false) ['\n'] ['\n'] := by
        rintro scan other ⟨⟨outside, nothing⟩, also, none⟩
        simp only [Scan.run, Scan.step_lineFeed outside nothing, Scan.step_lineFeed also none]
        exact ⟨trivial, rfl, List.mem_singleton_self _, fun _ => rfl⟩
      have others := line.append (leads_same [.code] false rest)
      exact others

/-- Remarks may differ, wherever both sides stand in one. -/
theorem leads_remark (loose : Bool) (unbroken : '\n' ∉ text) (also : '\n' ∉ twin) :
    Leads lexical (same [.remark] loose) (same [.remark] false) text twin := by
  rintro scan _ ⟨rfl, known, -⟩
  have inside := List.mem_singleton.1 known
  rw [Scan.run_of_remark inside unbroken, Scan.run_of_remark inside also]
  exact ⟨rfl, rfl, known, fun _ => scan.idle inside⟩

/-- A remark with its opening, or nothing at all. -/
def IsRemark (text : List Char) : Prop :=
  text = [] ∨ ∃ remark, '\n' ∉ remark ∧ text = Scan.opening ++ remark

/-- Behind code, each side may have a remark or not. -/
theorem leads_parted (first : IsRemark text) (second : IsRemark twin) :
    Leads lexical (same [.code, .remark] false) parted text twin := by
  have one {scan : Scan} (known : scan.mode ∈ [Mode.code, Mode.remark])
      (nothing : scan.held = []) {text : List Char}
      (remark : IsRemark text) : (scan.run lexical text).2 = [] ∧
        (scan.run lexical text).1.mode ∈ [Mode.code, Mode.remark] ∧ (scan.run lexical text).1.held = [] := by
    rcases remark with rfl | ⟨remark, unbroken, rfl⟩
    · exact ⟨rfl, known, nothing⟩
    · rw [Scan.run_opening known nothing unbroken]
      exact ⟨rfl, by decide, rfl⟩
  rintro scan _ ⟨rfl, known, nothing⟩
  have tight := nothing rfl
  obtain ⟨shown, outside, held⟩ := one known tight first
  obtain ⟨other, also, none⟩ := one known tight second
  exact ⟨shown.trans other.symm, ⟨outside, held⟩, also, none⟩

/-! ## What may be met at a place -/

/-- The modes that an unknown text may lead to. -/
def spread (lexical : Bool) (modes : List Mode) : List Mode :=
  if lexical = false ∧ modes.all Mode.plain.contains = true then Mode.plain else Mode.all

/-- An unknown text that both sides have leads to one and the same place. -/
theorem leads_spread (modes : List Mode) (loose : Bool) (cs : List Char) :
    Leads lexical (same modes loose) (same (spread lexical modes) true) cs cs := by
  rintro scan _ ⟨rfl, known, -⟩
  refine ⟨rfl, rfl, ?_, nofun⟩
  rw [Scan.run_mode, spread]
  split_ifs with narrow
  · obtain ⟨rfl, plain⟩ := narrow
    rw [List.all_eq_true] at plain
    exact Mode.behind_mem_plain (List.contains_iff_mem.1 (plain _ known)) cs
  · exact Mode.mem_all _

/-- A text that keeps each of the modes leads back to them. -/
theorem leads_kept {modes : List Mode} (loose : Bool) (kept : ∀ mode ∈ modes, mode.behind lexical text = mode) :
    Leads lexical (same modes loose) (same modes true) text text := by
  rintro scan _ ⟨rfl, known, -⟩
  refine ⟨rfl, rfl, ?_, nofun⟩
  rw [Scan.run_mode, kept _ known]
  exact known

/-- What is known when either of two ways may have been taken. -/
def join : Footing → Footing → Option Footing
  | same modes loose, same others wide => some (same (modes ∪ others) (loose || wide))
  | _, _ => none

theorem below_join {footing other joined : Footing} (found : footing.join other = some joined) :
    footing.below joined = true ∧ other.below joined = true := by
  cases footing with
  | parted => cases found
  | same modes loose =>
    cases other with
    | parted => cases found
    | same others wide =>
      obtain rfl := Option.some.inj found
      cases loose <;> cases wide <;> simp +contextual [below]

end Footing
end GoCode
end Scaffold
