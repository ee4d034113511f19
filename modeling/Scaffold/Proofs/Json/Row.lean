import Mathlib.Data.List.Nodup
import Scaffold.Json.Decode

namespace Scaffold
namespace Json

/-!
# Rows that are decoded

An object whose keys are names of columns, each at most once, gives the row of its own members,
provided that the values pass the checks of their columns and that no column is missing which has to
be there.
-/

/-- A column takes each value that it can decode. -/
theorem Column.check_of_decode {α : Type} {decode : Decoder α} {reading : Reading} {value : α}
    (decoded : decode reading = .ok value) (name : String) (aliases : List String) :
    (Column.required name aliases decode).check reading = .ok () ∧
      (Column.defaulted name aliases decode).check reading = .ok () := by
  have dropped : ((decode reading).map fun _ => ()) = .ok () := by
    rw [decoded]
    rfl
  exact ⟨dropped, dropped⟩

namespace Layout

variable {layout : Layout} {row : Row} {members : List (String × Reading)}

/-- Each member stands under the name of a column that takes its value. -/
def Takes (layout : Layout) (members : List (String × Reading)) : Prop :=
  ∀ member ∈ members, ∃ column, layout.column? member.1 = some column ∧ column.name = member.1 ∧
    column.check member.2 = .ok ()

theorem takes_nil : layout.Takes [] :=
  fun _ member => absurd member List.not_mem_nil

theorem Takes.cons {key : String} {value : Reading} {column : Column} (rest : layout.Takes members)
    (known : layout.column? key = some column) (named : column.name = key) (checked : column.check value = .ok ()) :
    layout.Takes ((key, value) :: members) :=
  List.forall_mem_cons.2 ⟨⟨column, known, named, checked⟩, rest⟩

theorem lookup_eq_none_of_not_mem {name : String} (fresh : name ∉ row.map Prod.fst) : row.lookup name = none := by
  rw [List.lookup_eq_none_iff]
  intro member recorded
  rw [bne_iff_ne]
  rintro rfl
  exact fresh (List.mem_map_of_mem recorded)

theorem takeMembers_of_takes (takes : layout.Takes members)
    (distinct : (row.map Prod.fst ++ members.map Prod.fst).Nodup) :
    layout.takeMembers row members = .ok (row ++ members) := by
  induction members generalizing row with
  | nil => rw [takeMembers, List.append_nil]
  | cons member rest ih =>
    rcases member with ⟨key, value⟩
    rcases List.forall_mem_cons.1 takes with ⟨⟨column, known, named, checked⟩, others⟩
    dsimp only at known named checked
    subst named
    rw [List.map_cons, List.nodup_middle, List.nodup_cons, List.mem_append, not_or] at distinct
    rw [takeMembers, known]
    dsimp only
    rw [lookup_eq_none_of_not_mem distinct.1.1, checked]
    have later := @ih (row ++ [(column.name, value)]) others (by
      rw [List.map_append, List.append_assoc, List.map_singleton, List.singleton_append, List.nodup_middle]
      exact List.nodup_cons.2 ⟨by rw [List.mem_append, not_or]; exact distinct.1, distinct.2⟩)
    rw [List.append_assoc, List.singleton_append] at later
    exact later

/-- An object with the columns of a record is decoded to the row of its members. -/
theorem row_of_takes (takes : layout.Takes members) (distinct : (members.map Prod.fst).Nodup)
    (complete : ∀ column ∈ layout.columns, column.mandatory = true → column.name ∈ members.map Prod.fst) :
    layout.row (.object members none) = .ok members := by
  have taken := @takeMembers_of_takes layout [] members takes (by simpa using distinct)
  have nothing : layout.missing? members = none := by
    rw [missing?, Option.map_eq_none_iff, List.find?_eq_none]
    intro column member
    by_cases mandatory : column.mandatory = true
    · rcases List.mem_map.1 (complete column member mandatory) with ⟨entry, recorded, named⟩
      have there : members.lookup column.name ≠ none := by
        intro absent
        rw [List.lookup_eq_none_iff] at absent
        exact absurd (absent entry recorded) (by simp [named])
      simp [there]
    · simp [mandatory]
  rw [Layout.row, taken]
  dsimp only [bind, Except.bind, List.nil_append]
  rw [nothing]

/-- An object whose keys are all columns of a record, in their order, is decoded to the row of its
members. -/
theorem row_of_keys (takes : layout.Takes members) (keys : members.map Prod.fst = layout.columns.map Column.name)
    (distinct : (layout.columns.map Column.name).Nodup) : layout.row (.object members none) = .ok members := by
  apply row_of_takes takes
  · rw [keys]
    exact distinct
  · rw [keys]
    exact fun column member _ => List.mem_map_of_mem member

end Layout

theorem Row.get_of_lookup {α : Type} {row : Row} {name : String} {reading : Reading}
    (found : row.lookup name = some reading) (decode : Decoder α) (default : α) :
    row.get name decode default = decode reading := by
  rw [Row.get, found]

/-- A list is decoded when each of its items is. -/
theorem Decode.items_map {α β : Type} {decode : Decoder α} {f : β → Reading} {g : β → α} {values : List β}
    (each : ∀ value ∈ values, decode (f value) = .ok (g value)) :
    Decode.items decode (values.map f) = .ok (values.map g) := by
  induction values with
  | nil => rfl
  | cons value rest ih =>
    rcases List.forall_mem_cons.1 each with ⟨first, others⟩
    rw [List.map_cons, Decode.items, first]
    dsimp only [bind, Except.bind]
    rw [ih others]
    rfl

theorem ofItems_eq_map (items : List Value) : Reading.ofItems items = items.map Reading.ofValue := by
  induction items with
  | nil => rfl
  | cons item rest ih => rw [Reading.ofItems, ih, List.map_cons]

theorem decode_strings (texts : List String) :
    Decode.list Decode.string (.ofValue (.strings texts)) = .ok texts := by
  have each : ∀ text ∈ texts, Decode.string (Reading.string text) = .ok (id text) := fun _ _ => rfl
  rw [Value.strings, Reading.ofValue, ofItems_eq_map, List.map_map, Decode.list]
  have items := Decode.items_map each
  rw [List.map_id] at items
  exact congrArg (fun result => result.bind fun values => Except.ok values) items

end Json
end Scaffold
