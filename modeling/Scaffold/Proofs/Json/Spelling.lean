import Mathlib.Logic.Relation
import Scaffold.Proofs.Json.Row

namespace Scaffold
namespace Json

/-!
# Records that are spelled otherwise

The decoder of a record goes through the members of an object one by one and refuses a second key
for a column that it has found already.  What it comes to is described here without any order: the
members that name columns, under the names of these, are the row, provided that no column is named
twice, that each value passes the check of its column, and that nothing is missing which has to be
there.

So an object may be rewritten in many ways before it is decoded: its members in another order, a key
in another spelling, a member under a key that names no column, a value in another form, or the
values alone in the order of the columns.
-/

theorem bind_eq_ok {ε α β : Type} {first : Except ε α} {next : α → Except ε β} {result : β} :
    (first >>= next) = .ok result ↔ ∃ value, first = .ok value ∧ next value = .ok result := by
  cases first with
  | error fault => exact ⟨nofun, fun ⟨_, absurd, _⟩ => nomatch absurd⟩
  | ok value => exact ⟨fun same => ⟨value, rfl, same⟩, fun ⟨_, same, done⟩ => Except.ok.inj same ▸ done⟩

/-! ## Looking up in a row -/

namespace Row

variable {row other : Row} {name : String} {reading : Reading}

theorem mem_of_lookup (found : row.lookup name = some reading) : (name, reading) ∈ row := by
  obtain ⟨before, after, rfl, -⟩ := List.lookup_eq_some_iff.1 found
  exact List.mem_append_right before List.mem_cons_self

theorem lookup_of_mem (distinct : (row.map Prod.fst).Nodup) (member : (name, reading) ∈ row) :
    row.lookup name = some reading := by
  obtain ⟨before, after, rfl⟩ := List.append_of_mem member
  rw [List.map_append, List.map_cons, List.nodup_middle, List.nodup_cons, List.mem_append, not_or] at distinct
  rw [List.lookup_eq_some_iff]
  refine ⟨before, after, rfl, fun entry early => ?_⟩
  rw [bne_iff_ne]
  rintro rfl
  exact distinct.1.1 (List.mem_map.2 ⟨entry, early, rfl⟩)

theorem isSome_lookup : (row.lookup name).isSome = true ↔ name ∈ row.map Prod.fst := by
  constructor
  · intro found
    obtain ⟨reading, same⟩ := Option.isSome_iff_exists.1 found
    exact List.mem_map_of_mem (f := Prod.fst) (mem_of_lookup same)
  · intro named
    rw [← Option.ne_none_iff_isSome]
    obtain ⟨entry, member, rfl⟩ := List.mem_map.1 named
    intro absent
    rw [List.lookup_eq_none_iff] at absent
    exact absurd (absent entry member) (by simp)

/-- A row in another order holds the same under each name, as long as no name stands there twice. -/
theorem lookup_of_perm (order : row.Perm other) (distinct : (row.map Prod.fst).Nodup) (name : String) :
    other.lookup name = row.lookup name := by
  cases found : row.lookup name with
  | some reading =>
    exact lookup_of_mem ((order.map Prod.fst).nodup_iff.1 distinct) (order.subset (mem_of_lookup found))
  | none =>
    rw [← Option.not_isSome_iff_eq_none, isSome_lookup, ← (order.map Prod.fst).mem_iff, ← isSome_lookup, found]
    exact Bool.false_ne_true

end Row

namespace Layout

variable {layout : Layout} {members others : List (String × Reading)} {row result : Row}

/-! ## The row of an object -/

/-- The members that name a column, each under the name of its column. -/
def entries (layout : Layout) (members : List (String × Reading)) : Row :=
  members.filterMap fun member => (layout.column? member.1).map fun column => (column.name, member.2)

theorem entries_append (layout : Layout) (members others : List (String × Reading)) :
    layout.entries (members ++ others) = layout.entries members ++ layout.entries others :=
  List.filterMap_append

theorem entries_cons_of_unknown {key : String} (unknown : layout.column? key = none) (value : Reading) :
    layout.entries ((key, value) :: members) = layout.entries members := by
  rw [entries, List.filterMap_cons, unknown]
  rfl

theorem entries_cons_of_known {key : String} {column : Column}
    (known : layout.column? key = some column) (value : Reading) :
    layout.entries ((key, value) :: members) = (column.name, value) :: layout.entries members := by
  rw [entries, List.filterMap_cons, known]
  rfl

theorem mem_entries {name : String} {value : Reading} : (name, value) ∈ layout.entries members ↔
    ∃ key column, (key, value) ∈ members ∧ layout.column? key = some column ∧ column.name = name := by
  rw [entries, List.mem_filterMap]
  constructor
  · rintro ⟨⟨key, other⟩, member, found⟩
    obtain ⟨column, known, same⟩ := Option.map_eq_some_iff.1 found
    cases same
    exact ⟨key, column, member, known, rfl⟩
  · rintro ⟨key, column, member, known, rfl⟩
    exact ⟨(key, value), member, by rw [known]; rfl⟩

/-- What each member of an object has to be: a value that its column takes, or anything well formed
under a key that names no column. -/
def Suits (layout : Layout) (member : String × Reading) : Prop :=
  match layout.column? member.1 with
  | some column => column.check member.2 = .ok ()
  | none => member.2.flaw? = none

theorem suits_of_known {key : String} {column : Column}
    (known : layout.column? key = some column) (value : Reading) :
    layout.Suits (key, value) ↔ column.check value = .ok () := by
  rw [Suits, known]

theorem suits_of_unknown {key : String} (unknown : layout.column? key = none) (value : Reading) :
    layout.Suits (key, value) ↔ value.flaw? = none := by
  rw [Suits, unknown]

/-- Going through the members gives their entries, when these name each column once and no column of
the row before. -/
theorem takeMembers_eq_ok (distinct : (row.map Prod.fst).Nodup) : layout.takeMembers row members = .ok result ↔
    ((row ++ layout.entries members).map Prod.fst).Nodup ∧ (∀ member ∈ members, layout.Suits member) ∧
      result = row ++ layout.entries members := by
  induction members generalizing row with
  | nil =>
    have nothing : row ++ layout.entries [] = row := List.append_nil row
    rw [takeMembers, nothing, Except.ok.injEq]
    exact ⟨fun same => ⟨distinct, List.forall_mem_nil _, same.symm⟩, fun admitted => admitted.2.2.symm⟩
  | cons member rest ih =>
    obtain ⟨key, value⟩ := member
    rw [takeMembers, List.forall_mem_cons]
    cases known : layout.column? key with
    | none =>
      rw [suits_of_unknown known, entries_cons_of_unknown known]
      cases flaw : value.flaw? with
      | none =>
        dsimp only
        rw [ih distinct, eq_self_iff_true, true_and]
      | some flaw =>
        constructor
        · intro through
          cases through
        · rintro ⟨-, ⟨plain, -⟩, -⟩
          cases plain
    | some column =>
      rw [suits_of_known known, entries_cons_of_known known]
      dsimp only
      split
      · next found =>
        constructor
        · intro through
          cases through
        · rintro ⟨apart, -⟩
          rw [List.map_append, List.map_cons, List.nodup_middle, List.nodup_cons, List.mem_append] at apart
          exact absurd (.inl (Row.isSome_lookup.1 found)) apart.1
      · next fresh =>
        have longer : ((row ++ [(column.name, value)]).map Prod.fst).Nodup := by
          rw [Row.isSome_lookup] at fresh
          rw [List.map_append, List.map_singleton, ← List.concat_eq_append]
          exact distinct.concat fresh
        cases checked : column.check value with
        | error fault =>
          constructor
          · intro through
            cases through
          · rintro ⟨-, ⟨checks, -⟩, -⟩
            cases checks
        | ok =>
          have later := ih longer
          rw [List.append_assoc, List.singleton_append] at later
          exact later.trans (by simp only [true_and])

/-- What an object has to be to be decoded as a row, without regard to the order of its members. -/
structure Admits (layout : Layout) (members : List (String × Reading)) : Prop where
  distinct : ((layout.entries members).map Prod.fst).Nodup
  suits : ∀ member ∈ members, layout.Suits member
  complete : ∀ column ∈ layout.columns, column.mandatory = true →
    column.name ∈ (layout.entries members).map Prod.fst

theorem missing?_eq_none : layout.missing? row = none ↔
    ∀ column ∈ layout.columns, column.mandatory = true → column.name ∈ row.map Prod.fst := by
  rw [missing?, Option.map_eq_none_iff, List.find?_eq_none]
  refine forall₂_congr fun column member => ?_
  rw [← Row.isSome_lookup]
  cases column.mandatory <;> simp

/-- An object is decoded exactly when it is admitted, and then to the entries of its members. -/
theorem row_object_eq_ok :
    layout.row (.object members none) = .ok row ↔ layout.Admits members ∧ row = layout.entries members := by
  have taken (result : Row) := @takeMembers_eq_ok layout members [] result List.nodup_nil
  rw [Layout.row, bind_eq_ok]
  constructor
  · rintro ⟨found, through, last⟩
    obtain ⟨distinct, suits, rfl⟩ := (taken found).1 through
    dsimp only [List.nil_append] at last distinct
    split at last
    · cases last
    · next nothing =>
      exact ⟨⟨distinct, suits, missing?_eq_none.1 nothing⟩, (Except.ok.inj last).symm⟩
  · rintro ⟨admits, rfl⟩
    refine ⟨layout.entries members, (taken _).2 ⟨admits.distinct, admits.suits, rfl⟩, ?_⟩
    rw [missing?_eq_none.2 admits.complete]

/-- Nothing unsuitable stands in an object that is decoded. -/
theorem suits_of_row {flaw : Option Flaw} (decoded : layout.row (.object members flaw) = .ok row) :
    ∀ member ∈ members, layout.Suits member := by
  rw [Layout.row, bind_eq_ok] at decoded
  obtain ⟨found, through, -⟩ := decoded
  exact ((@takeMembers_eq_ok layout _ [] found List.nodup_nil).1 through).2.1

/-! ## One column twice -/

/-- Two members of an object, in whichever spelling, name the same column. -/
def Repeats (layout : Layout) (members : List (String × Reading)) : Prop :=
  ∃ before key value between other further after column,
    members = before ++ (key, value) :: (between ++ (other, further) :: after) ∧
      layout.column? key = some column ∧ layout.column? other = some column

/-- An object with two members for one column is not decoded, wherever the members stand and even if
they agree. -/
theorem row_of_repeats (repeats : layout.Repeats members) (flaw : Option Flaw) :
    layout.row (.object members flaw) ≠ .ok row := by
  obtain ⟨before, key, value, between, other, further, after, column, rfl, first, second⟩ := repeats
  intro decoded
  rw [Layout.row, bind_eq_ok] at decoded
  obtain ⟨found, through, -⟩ := decoded
  have distinct := ((@takeMembers_eq_ok layout _ [] found List.nodup_nil).1 through).1
  rw [List.nil_append, entries_append, entries_cons_of_known first, entries_append, entries_cons_of_known second,
    List.map_append, List.map_cons, List.nodup_middle, List.nodup_cons, List.map_append, List.map_cons] at distinct
  apply distinct.1
  simp

/-! ## Rewriting -/

/-- The value of a column: the one in the object, or what stands for a column that is left out. -/
def valueIn (layout : Layout) (blank : Row) (members : List (String × Reading)) (column : Column) : Reading :=
  ((layout.entries members).lookup column.name).getD ((blank.lookup column.name).getD .null)

/-- One way to write a record otherwise.  The row `blank` tells what stands for the columns that may
be left out, and `within` how the value under the name of a column may be rewritten in its turn. -/
inductive Rewrites (layout : Layout) (blank : Row) (within : String → Reading → Reading → Prop) :
    Reading → Reading → Prop
  /-- The members in another order. -/
  | reorder {members others : List (String × Reading)} (order : members.Perm others) :
    Rewrites layout blank within (.object members none) (.object others none)
  /-- A key in another spelling of the same column. -/
  | respell (before after : List (String × Reading)) {key other : String} {column : Column} (value : Reading)
      (known : layout.column? key = some column) (accepted : layout.column? other = some column) :
    Rewrites layout blank within (.object (before ++ (key, value) :: after) none)
      (.object (before ++ (other, value) :: after) none)
  /-- One more member, under a key that names no column. -/
  | extend (before after : List (String × Reading)) {key : String} {value : Reading}
      (unknown : layout.column? key = none) (whole : value.flaw? = none) :
    Rewrites layout blank within (.object (before ++ after) none) (.object (before ++ (key, value) :: after) none)
  /-- The values of all columns alone, in the order of the columns. -/
  | enumerate (members : List (String × Reading)) :
    Rewrites layout blank within (.object members none)
      (.array (layout.columns.map (layout.valueIn blank members)) none)
  /-- A value in another form. -/
  | inside (before after : List (String × Reading)) {key : String} {column : Column} {value other : Reading}
      (known : layout.column? key = some column) (rewritten : within column.name value other) :
    Rewrites layout blank within (.object (before ++ (key, value) :: after) none)
      (.object (before ++ (key, other) :: after) none)

/-- How what is found under a name follows from what was found there before the record was
rewritten. -/
inductive Follows (blank : Option Reading) (within : Reading → Reading → Prop) :
    Option Reading → Option Reading → Prop
  | same (found : Option Reading) : Follows blank within found found
  | inside {value other : Reading} (rewritten : within value other) : Follows blank within (some value) (some other)
  | filled {value : Reading} (stands : blank = some value) : Follows blank within none (some value)

/-- What a column is decoded to stays, if the rewriting of its values and what stands for it agree
with its decoder. -/
theorem Follows.get {α : Type} {blank : Option Reading} {within : Reading → Reading → Prop} {before after : Row}
    {name : String} {decode : Decoder α} {default value : α}
    (follows : Follows blank within (before.lookup name) (after.lookup name))
    (agrees : ∀ reading other, within reading other → ∀ found, decode reading = .ok found →
      decode other = .ok found)
    (stands : ∀ reading, blank = some reading → decode reading = .ok default)
    (decoded : before.get name decode default = .ok value) : after.get name decode default = .ok value := by
  rw [Row.get] at decoded ⊢
  generalize before.lookup name = found, after.lookup name = further at follows decoded
  cases follows with
  | same _ => exact decoded
  | inside rewritten => exact agrees _ _ rewritten value decoded
  | filled stood => exact (stands _ stood).trans decoded

/-- What a layout has to bring along so that its records may be rewritten. -/
structure Supports (layout : Layout) (blank : Row) (within : String → Reading → Reading → Prop) : Prop where
  named : (layout.columns.map Column.name).Nodup
  stands : ∀ column ∈ layout.columns, column.mandatory = false →
    ∃ reading, blank.lookup column.name = some reading ∧ column.check reading = .ok ()
  keeps : ∀ column ∈ layout.columns, ∀ value other, within column.name value other → column.check value = .ok () →
    column.check other = .ok ()

theorem mem_columns_of_column? {key : String} {column : Column} (known : layout.column? key = some column) :
    column ∈ layout.columns :=
  List.mem_of_find?_eq_some known

variable {blank : Row} {within : String → Reading → Reading → Prop}

/-- An array with a value for each column is decoded to the row of these values. -/
theorem takeItems_map {value : Column → Reading} {columns : List Column} (count : Nat)
    (checked : ∀ column ∈ columns, column.check (value column) = .ok ()) :
    layout.takeItems none count columns (columns.map value) =
      .ok (columns.map fun column => (column.name, value column)) := by
  induction columns generalizing count with
  | nil => rfl
  | cons column rest ih =>
    rw [List.forall_mem_cons] at checked
    rw [List.map_cons, takeItems, checked.1]
    dsimp only [bind, Except.bind]
    rw [ih (count + 1) checked.2]
    rfl

theorem lookup_map_name {value : Column → Reading}
    (named : (layout.columns.map Column.name).Nodup) {column : Column}
    (member : column ∈ layout.columns) :
    (layout.columns.map fun column => (column.name, value column)).lookup column.name = some (value column) := by
  apply Row.lookup_of_mem
  · rw [List.map_map]
    exact named
  · exact List.mem_map_of_mem (f := fun column => (column.name, value column)) member

/-- The value of a column either stands in the object or is what stands for it when it is left
out. -/
theorem valueIn_cases (supports : layout.Supports blank within) (admits : layout.Admits members) {column : Column}
    (member : column ∈ layout.columns) : column.check (layout.valueIn blank members column) = .ok () ∧
      Follows (blank.lookup column.name) (within column.name) ((layout.entries members).lookup column.name)
        (some (layout.valueIn blank members column)) := by
  rw [valueIn]
  cases found : (layout.entries members).lookup column.name with
  | some value =>
    obtain ⟨key, other, listed, known, same⟩ := mem_entries.1 (Row.mem_of_lookup found)
    obtain rfl := List.inj_on_of_nodup_map supports.named (mem_columns_of_column? known) member same
    exact ⟨(suits_of_known known value).1 (admits.suits _ listed), .same _⟩
  | none =>
    have optional : column.mandatory = false := by
      rw [Bool.eq_false_iff]
      intro mandatory
      have there := Row.isSome_lookup.2 (admits.complete column member mandatory)
      rw [found] at there
      cases there
    obtain ⟨reading, stood, checked⟩ := supports.stands column member optional
    rw [stood]
    exact ⟨checked, .filled rfl⟩

/-- What is found under the name of each column of a row follows from what is found there in another
one. -/
def RowFollows (layout : Layout) (blank : Row) (within : String → Reading → Reading → Prop)
    (row after : Row) : Prop :=
  ∀ name ∈ layout.columns.map Column.name,
    Follows (blank.lookup name) (within name) (row.lookup name) (after.lookup name)

theorem RowFollows.of_lookup_eq (same : ∀ name, result.lookup name = row.lookup name) :
    layout.RowFollows blank within row result := by
  intro name _
  rw [same]
  exact .same _

theorem row_of_reorder (order : members.Perm others) (decoded : layout.row (.object members none) = .ok row) :
    ∃ after, layout.row (.object others none) = .ok after ∧ layout.RowFollows blank within row after := by
  obtain ⟨admits, rfl⟩ := row_object_eq_ok.1 decoded
  have moved : (layout.entries members).Perm (layout.entries others) := order.filterMap _
  have names := moved.map Prod.fst
  refine ⟨layout.entries others, row_object_eq_ok.2 ⟨⟨?_, ?_, ?_⟩, rfl⟩, ?_⟩
  · exact names.nodup_iff.1 admits.distinct
  · exact fun member listed => admits.suits member (order.mem_iff.2 listed)
  · exact fun column member mandatory => names.subset (admits.complete column member mandatory)
  · exact .of_lookup_eq (Row.lookup_of_perm moved admits.distinct)

/-- An object with the entries of another one is decoded to the same row, if its members are
suitable. -/
theorem row_of_same_entries (same : layout.entries others = layout.entries members)
    (suits : (∀ member ∈ members, layout.Suits member) → ∀ member ∈ others, layout.Suits member)
    (decoded : layout.row (.object members none) = .ok row) :
    ∃ after, layout.row (.object others none) = .ok after ∧ layout.RowFollows blank within row after := by
  obtain ⟨admits, rfl⟩ := row_object_eq_ok.1 decoded
  obtain ⟨distinct, suited, complete⟩ := admits
  rw [← same] at distinct complete
  exact ⟨_, row_object_eq_ok.2 ⟨⟨distinct, suits suited, complete⟩, rfl⟩, .of_lookup_eq fun name => by rw [same]⟩

theorem row_of_inside (supports : layout.Supports blank within)
    {before after : List (String × Reading)} {key : String}
    {column : Column} {value other : Reading} (known : layout.column? key = some column)
    (rewritten : within column.name value other)
    (decoded : layout.row (.object (before ++ (key, value) :: after) none) = .ok row) :
    ∃ result, layout.row (.object (before ++ (key, other) :: after) none) = .ok result ∧
      layout.RowFollows blank within row result := by
  obtain ⟨admits, rfl⟩ := row_object_eq_ok.1 decoded
  obtain ⟨distinct, suits, complete⟩ := admits
  have split (value : Reading) : layout.entries (before ++ (key, value) :: after) =
      layout.entries before ++ (column.name, value) :: layout.entries after := by
    rw [entries_append, entries_cons_of_known known]
  have names : (layout.entries (before ++ (key, other) :: after)).map Prod.fst =
      (layout.entries (before ++ (key, value) :: after)).map Prod.fst := by
    rw [split, split, List.map_append, List.map_append, List.map_cons, List.map_cons]
  rw [List.forall_mem_append, List.forall_mem_cons, suits_of_known known] at suits
  rw [← names] at complete
  have distinctAfter := distinct
  rw [← names] at distinctAfter
  refine ⟨_, row_object_eq_ok.2 ⟨⟨distinctAfter, ?_, complete⟩, rfl⟩, fun name _ => ?_⟩
  · rw [List.forall_mem_append, List.forall_mem_cons, suits_of_known known]
    exact ⟨suits.1, supports.keeps column (mem_columns_of_column? known) value other rewritten suits.2.1, suits.2.2⟩
  · rw [split] at distinct ⊢
    rw [split] at distinctAfter ⊢
    by_cases own : name = column.name
    · rw [own, Row.lookup_of_mem distinct (List.mem_append_right _ List.mem_cons_self),
        Row.lookup_of_mem distinctAfter (List.mem_append_right _ List.mem_cons_self)]
      exact .inside rewritten
    · have aside : (name == column.name) = false := beq_eq_false_iff_ne.2 own
      rw [List.lookup_append, List.lookup_append, List.lookup_cons, List.lookup_cons, aside]
      exact .same _

theorem row_of_enumerate (supports : layout.Supports blank within)
    (decoded : layout.row (.object members none) = .ok row) :
    ∃ after, layout.row (.array (layout.columns.map (layout.valueIn blank members)) none) = .ok after ∧
      layout.RowFollows blank within row after := by
  obtain ⟨admits, rfl⟩ := row_object_eq_ok.1 decoded
  refine ⟨_, takeItems_map 0 fun column member => (valueIn_cases supports admits member).1, ?_⟩
  rw [RowFollows, List.forall_mem_map]
  intro column member
  rw [lookup_map_name supports.named member]
  exact (valueIn_cases supports admits member).2

/-- A record that has been rewritten is decoded to a row that says the same under the name of each
column. -/
theorem row_of_rewrites (supports : layout.Supports blank within) {reading other : Reading} {row : Row}
    (rewrites : layout.Rewrites blank within reading other) (decoded : layout.row reading = .ok row) :
    ∃ after, layout.row other = .ok after ∧ layout.RowFollows blank within row after := by
  cases rewrites with
  | reorder order => exact row_of_reorder order decoded
  | @respell before after key other column value known accepted =>
    refine row_of_same_entries ?_ (fun suits => ?_) decoded
    · rw [entries_append, entries_append, entries_cons_of_known known, entries_cons_of_known accepted]
    · rw [List.forall_mem_append, List.forall_mem_cons, suits_of_known known] at suits
      rw [List.forall_mem_append, List.forall_mem_cons, suits_of_known accepted]
      exact suits
  | @extend before after key value unknown whole =>
    refine row_of_same_entries ?_ (fun suits => ?_) decoded
    · rw [entries_append, entries_append, entries_cons_of_unknown unknown]
    · rw [List.forall_mem_append] at suits
      rw [List.forall_mem_append, List.forall_mem_cons, suits_of_unknown unknown]
      exact ⟨suits.1, whole, suits.2⟩
  | enumerate members => exact row_of_enumerate supports decoded
  | inside before after known rewritten => exact row_of_inside supports known rewritten decoded

end Layout
end Json
end Scaffold
