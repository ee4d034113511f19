import Scaffold.Proofs.Naming.PropertyName
import Scaffold.Proofs.Template.Imports
import Scaffold.Proofs.Template.Remarks

namespace Scaffold

open GoCode

/-!
# Comments and display names

The display name of a model and the comments of its fields are free texts.  The templates print them
in remarks only, so two requests that differ in them alone have files with the same code, as long as
no free text that is printed leaves its line.
-/

namespace Field

/-- The field without its comment. -/
def uncommented (field : Field) : Field :=
  { field with comment := "" }

end Field

namespace Request

/-- The request without its free texts. -/
def unremarked (request : Request) : Request :=
  { request with displayName := none, fields := request.fields.map Field.uncommented }

/-- The free texts that a bundled template prints, under the name of its file. -/
def remarksIn (request : Request) (file : String) : List String :=
  if file = "handler.go.tera" then []
  else if file = "model.go.tera" then request.resolvedDisplayName :: request.fields.map Field.comment
  else if file = "handler_types.go.tera" then
    request.resolvedDisplayName :: request.fields.map fun field => Naming.cleanComment field.comment
  else [request.resolvedDisplayName]

end Request

namespace GoCode

/-- Texts that are printed as they were given end what they begin: the lexer finds itself where it
was before. -/
structure Settles (moduleName : String) (fields : List Field) : Prop where
  moduleName : Mode.quoted.behind true moduleName.toList = .quoted
  goType : ∀ field ∈ fields, Mode.code.behind true (FieldType.goType field.logicalType).target.toList = .code
  serializationKey : ∀ field ∈ fields, Mode.raw.behind true field.serializationKey.toList = .raw
  storageTag : ∀ field ∈ fields, Mode.raw.behind true (Text.trimmed field.storageTag).toList = .raw
  validationRule : ∀ field ∈ fields, Mode.raw.behind true (Text.trimmed field.validationRule).toList = .raw

end GoCode

/-! ## Identifiers are code -/

namespace Text

theorem toNat_of_ofNat_eq {n : Nat} {mark : Char} (same : Char.ofNat n = mark) (some : mark ≠ '\x00') :
    n = mark.toNat := by
  by_cases valid : n.isValidChar
  · rw [← same, toNat_ofNat_of_valid valid]
  · have none : Char.ofNat n = '\x00' := dif_neg valid
    exact absurd (same.symm.trans none) some

/-- No character has the backquote for its upper case, except the backquote. -/
theorem backquote_not_mem_upperChar {c : Char} (other : c ≠ '\x60') : '\x60' ∉ upperChar c := by
  intro member
  rw [upperChar] at member
  split at member
  · next ascii =>
    have table : ∀ n < 128, Char.ofNat n ≠ '\x60' → '\x60' ≠ (Char.ofNat n).toUpper := by decide
    exact ascii_cases (fun c => c ≠ '\x60' → '\x60' ≠ c.toUpper) table ascii other (List.mem_singleton.1 member)
  · rcases mapCase_cases upperExpansions upperShifts c with
      ⟨entry, known, -, mapped⟩ | ⟨-, ⟨shift, known, inside, mapped⟩ | ⟨-, mapped⟩⟩
    · have table : ∀ entry ∈ upperExpansions, '\x60' ∉ entry.2.map Char.ofNat := by decide +kernel
      rw [mapped] at member
      exact table entry known member
    · have table : ∀ shift ∈ upperShifts,
          shift.stretch.hi + shift.distance < 96 ∨ 96 < shift.stretch.lo + shift.distance := by decide +kernel
      have apart := table shift known
      have bounds := Stride.bounds_of_holds inside
      rw [mapped, List.mem_singleton] at member
      have same : (c.toNat + shift.distance).toNat = 96 := toNat_of_ofNat_eq member.symm (by decide)
      omega
    · rw [mapped, List.mem_singleton] at member
      exact other member.symm

end Text

namespace GoCode

/-- One statement for each sign.  Over all characters it would be too much to decide. -/
theorem forall_marks_iff {holds : Char → Prop} : (∀ mark ∈ '\n' :: Mode.marks, holds mark) ↔
    holds '\n' ∧ holds '/' ∧ holds '"' ∧ holds '\'' ∧ holds '\x60' := by
  simp only [Mode.marks, List.forall_mem_cons, List.not_mem_nil, false_imp_iff, implies_true, and_true]

/-- A text without line feeds, slashes and quotes. -/
def IsSolid (text : String) : Prop :=
  ∀ mark ∈ '\n' :: Mode.marks, mark ∉ text.toList

theorem IsSolid.behind {text : String} (solid : IsSolid text) (lexical : Bool) :
    ∀ mode ∈ [Mode.code, Mode.remark], mode.behind lexical text.toList = mode := by
  rw [IsSolid, List.forall_mem_cons] at solid
  rw [List.forall_mem_cons, List.forall_mem_singleton]
  exact ⟨Mode.behind_code lexical solid.2, Mode.behind_remark lexical solid.1⟩

theorem IsSolid.append {text more : String} (solid : IsSolid text) (also : IsSolid more) :
    IsSolid (text ++ more) := by
  intro mark listed
  rw [String.toList_append, List.mem_append, not_or]
  exact ⟨solid mark listed, also mark listed⟩

theorem isSign_of_mark {mark : Char} (listed : mark ∈ '\n' :: Mode.marks) : Text.IsSign mark := by
  have table : ∀ mark ∈ '\n' :: Mode.marks, mark.toNat < 97 ∧ mark.isAlphanum = false ∧ mark ≠ '_' :=
    forall_marks_iff.2 (by decide)
  exact ⟨(table mark listed).1, (table mark listed).2⟩

theorem isSolid_of_isIdentifier {name : String} (identifier : Naming.isIdentifier name = true) : IsSolid name :=
  fun _ listed => Naming.not_mem_of_isIdentifier (isSign_of_mark listed) identifier

/-- The exported identifier of a field is code as its name is. -/
theorem isSolid_sanitize {field : Field} (proper : Validation.IsProper field) :
    IsSolid (Naming.sanitize field.name) := by
  intro mark listed member
  have absent := isSolid_of_isIdentifier proper.identifier mark listed
  rw [Naming.sanitize, String.toList_ofList] at member
  by_cases quote : mark = '\x60'
  · subst quote
    rw [Naming.sanitizeChars_of_isIdentifier proper.identifier proper.notReserved] at member
    cases letters : field.name.toList with
    | nil =>
      rw [letters] at member
      cases member
    | cons c rest =>
      rw [letters] at absent member
      rw [List.mem_cons, not_or] at absent
      rcases List.mem_append.1 member with first | others
      · exact Text.backquote_not_mem_upperChar (Ne.symm absent.1) first
      · exact absent.2 others
  · have low : ∀ mark ∈ '\n' :: Mode.marks, mark ≠ '\x60' → mark.toNat < 65 :=
      forall_marks_iff.2 (by decide)
    exact Naming.not_mem_sanitizeChars (low mark listed quote) absent member

end GoCode

/-! ## Two requests with the same code -/

namespace Template
namespace Bundled

/-- A field of each request, the same but for the comments. -/
def AreFacing (first second : Request) (view twin : FieldView) : Prop :=
  ∃ field ∈ first.fields, ∃ other ∈ second.fields, field.uncommented = other.uncommented ∧
    view = FieldView.ofField field ∧ twin = FieldView.ofField other

section

variable {first second : Request} {moduleName : String} {now : Instant} {component : Component} {lexical : Bool}
  {level : Level} {loops others : List LoopState}

/-- Requests with the same rest are the same but for the display name and the fields. -/
theorem eq_of_unremarked (same : first.unremarked = second.unremarked) :
    second = { first with displayName := second.displayName, fields := second.fields } := by
  obtain ⟨component, model, display, fields, table, path, options⟩ := first
  obtain ⟨component', model', display', fields', table', path', options'⟩ := second
  simp only [Request.unremarked, Request.mk.injEq, true_and] at same ⊢
  obtain ⟨rfl, rfl, -, rfl, rfl, rfl⟩ := same
  exact ⟨rfl, rfl, rfl, rfl, rfl⟩

theorem forall₂_uncommented (same : first.unremarked = second.unremarked) :
    List.Forall₂ (fun field other => field.uncommented = other.uncommented) first.fields second.fields := by
  have pairs : first.fields.map Field.uncommented = second.fields.map Field.uncommented :=
    congrArg Request.fields same
  rwa [← List.forall₂_eq_eq_eq, List.forall₂_map_left_iff, List.forall₂_map_right_iff] at pairs

theorem forall₂_areFacing (same : first.unremarked = second.unremarked) :
    List.Forall₂ (AreFacing first second) (Blueprint.build moduleName now first component).fields
      (Blueprint.build moduleName now second component).fields := by
  obtain ⟨long, pairs⟩ := List.forall₂_iff_zip.1 (forall₂_uncommented same)
  dsimp only [Blueprint.build]
  rw [List.forall₂_map_left_iff, List.forall₂_map_right_iff, List.forall₂_iff_zip]
  refine ⟨long, fun {field other} pair => ?_⟩
  obtain ⟨own, opposite⟩ := List.of_mem_zip pair
  exact ⟨field, own, other, opposite, pairs pair, rfl, rfl⟩

theorem hasTimeField_eq (same : first.unremarked = second.unremarked) :
    (Blueprint.build moduleName now first component).hasTimeField =
      (Blueprint.build moduleName now second component).hasTimeField := by
  have types (request : Request) : (Blueprint.build moduleName now request component).hasTimeField =
      request.unremarked.fields.any fun field => (FieldType.goType field.logicalType).temporal := by
    simp only [Blueprint.hasTimeField, Blueprint.build, Request.unremarked, List.any_map, Function.comp_def,
      FieldView.ofField, Field.uncommented]
  rw [types, types, same]

/-! ### What is shared -/

theorem isCommon_text {kept : List Mode} {own opposite : Option Json.Value} {text : String}
    (shown : own = some (.string text)) (facing : opposite = some (.string text))
    (keeps : ∀ mode ∈ kept, mode.behind lexical text.toList = mode) : IsCommon lexical kept own opposite := by
  refine ⟨shown.trans facing.symm, fun found known => ?_⟩
  obtain rfl := Option.some.inj (shown.symm.trans known)
  exact keeps

/-- What the lexer relies on is only asked of it. -/
theorem keeps_of_lexical {mode : Mode} {text : List Char} (keeps : lexical = true → mode.behind true text = mode) :
    ∀ known ∈ if lexical then [mode] else [], known.behind lexical text = known := by
  cases lexical with
  | false => exact fun _ absurd => nomatch absurd
  | true =>
    rw [if_pos rfl, List.forall_mem_singleton]
    exact keeps rfl

theorem isSolid_packageNameOf (component : Component) : IsSolid (Blueprint.packageNameOf component) := by
  unfold Blueprint.packageNameOf
  split <;> exact forall_marks_iff.2 (by decide)

theorem isCommon_file (accepted : Validation.check first = []) (same : first.unremarked = second.unremarked)
    (settles : lexical = true → Settles moduleName first.fields) : ∀ entry ∈ shared lexical .file,
      IsCommon lexical entry.2 (lookup [] (Blueprint.build moduleName now first component).encode entry.1)
        (lookup [] (Blueprint.build moduleName now second component).encode entry.1) := by
  have model : IsSolid first.modelName :=
    isSolid_of_isIdentifier (Validation.check_eq_nil.1 accepted).modelName.identifier
  have named (suffix : String) (solid : '\n' ∉ suffix.toList ∧ '/' ∉ suffix.toList ∧ '"' ∉ suffix.toList ∧
      '\'' ∉ suffix.toList ∧ '\x60' ∉ suffix.toList) :=
    (model.append (forall_marks_iff.2 solid)).behind lexical
  have nothing (text : String) : ∀ mode ∈ ([] : List Mode), mode.behind lexical text.toList = mode := nofun
  have time : (Blueprint.build moduleName now first component).hasTimeField =
      (Blueprint.build moduleName now second component).hasTimeField := hasTimeField_eq same
  rw [eq_of_unremarked same] at time ⊢
  simp only [shared, List.forall_mem_cons, List.not_mem_nil, false_imp_iff, implies_true, and_true]
  refine ⟨?_, ?_, ?_, ?_, isCommon_text rfl rfl (model.behind lexical),
    isCommon_text rfl rfl (named "Repository" (by decide)), isCommon_text rfl rfl (named "Service" (by decide)),
    isCommon_text rfl rfl (named "Handler" (by decide)), isCommon_text rfl rfl (named "CreateRequest" (by decide)),
    isCommon_text rfl rfl (named "UpdateRequest" (by decide)),
      isCommon_text rfl rfl (named "ListRequest" (by decide)),
    isCommon_text rfl rfl (named "Response" (by decide)), ?_, isCommon_text rfl rfl (nothing _),
    isCommon_text rfl rfl (nothing _), isCommon_text rfl rfl (nothing _), isCommon_text rfl rfl (nothing _),
    isCommon_text rfl rfl (nothing _)⟩
  · refine isCommon_text rfl rfl (List.forall_mem_singleton.2 (Mode.behind_remark lexical ?_))
    exact now.lineFeed_not_mem_zuluText
  · refine isCommon_text rfl rfl (List.forall_mem_singleton.2 ?_)
    exact (isSolid_packageNameOf component).behind lexical _ List.mem_cons_self
  · exact ⟨congrArg (fun flag => some (Json.Value.bool flag)) time, fun _ _ => nofun⟩
  · exact isCommon_text rfl rfl (keeps_of_lexical fun set => (settles set).moduleName)
  · refine isCommon_text rfl rfl (List.forall_mem_singleton.2 ?_)
    dsimp only [Blueprint.build, Names.ofRequest]
    cases Area.ofPackagePath first.packagePath <;> cases lexical <;> decide +kernel

/-- Views of a field with different comments differ in what comes from the comment. -/
theorem ofField_of_uncommented {field other : Field} (same : field.uncommented = other.uncommented) :
    FieldView.ofField other = { FieldView.ofField field with
      comment := (FieldView.ofField other).comment
      cleanComment := (FieldView.ofField other).cleanComment
      label := (FieldView.ofField other).label } := by
  obtain ⟨name, type, storage, tag, rule, comment⟩ := field
  obtain ⟨name', type', storage', tag', rule', comment'⟩ := other
  simp only [Field.uncommented, Field.mk.injEq, and_true] at same
  obtain ⟨rfl, rfl, rfl, rfl, rfl⟩ := same
  simp only [FieldView.ofField, Field.serializationKey]

theorem isCommon_member {kept : List Mode} {state twin : LoopState} {view opposite : FieldView} {key text : String}
    (named : state.name = "f") (also : twin.name = "f") (shown : state.value = view.encode)
    (facing : twin.value = opposite.encode) (data other : Json.Value)
    (own : descend view.encode [key] = some (.string text))
    (there : descend opposite.encode [key] = some (.string text))
    (keeps : ∀ mode ∈ kept, mode.behind lexical text.toList = mode) :
    IsCommon lexical kept (lookup [state] data ["f", key]) (lookup [twin] other ["f", key]) := by
  rw [lookup_member named shown, lookup_member also facing, own, there]
  exact isCommon_text rfl rfl keeps

theorem isCommon_field (accepted : Validation.check first = [])
    (settles : lexical = true → Settles moduleName first.fields)
    {state twin : LoopState} {view opposite : FieldView} (pair : AreFacing first second view opposite)
    (named : state.name = "f") (also : twin.name = "f") (shown : state.value = view.encode)
    (facing : twin.value = opposite.encode) (data other : Json.Value) :
    ∀ entry ∈ shared lexical .field,
      IsCommon lexical entry.2 (lookup [state] data entry.1) (lookup [twin] other entry.1) := by
  obtain ⟨field, own, field', -, same, rfl, rfl⟩ := pair
  have name :=
    (isSolid_sanitize ((Validation.check_eq_nil.1 accepted).fields field own)).behind lexical _
      List.mem_cons_self
  have type := keeps_of_lexical fun set => (settles set).goType field own
  have tag := keeps_of_lexical fun set => (settles set).serializationKey field own
  have storage := keeps_of_lexical fun set => (settles set).storageTag field own
  have rule := keeps_of_lexical fun set => (settles set).validationRule field own
  -- The texts are taken as they are, so that nothing is computed when they are looked up.
  have sources : (FieldView.ofField field).name = Naming.sanitize field.name ∧
      (FieldView.ofField field).goType = (FieldType.goType field.logicalType).target ∧
      (FieldView.ofField field).jsonKey = field.serializationKey ∧
      (FieldView.ofField field).storageTag = Text.trimmed field.storageTag ∧
      (FieldView.ofField field).validationRule = Text.trimmed field.validationRule := by
    simp only [FieldView.ofField, and_self]
  rw [ofField_of_uncommented same] at facing
  rw [← sources.1] at name
  rw [← sources.2.1] at type
  rw [← sources.2.2.1] at tag
  rw [← sources.2.2.2.1] at storage
  rw [← sources.2.2.2.2] at rule
  generalize FieldView.ofField field = view at *
  simp only [shared, List.forall_mem_cons, List.not_mem_nil, false_imp_iff, implies_true, and_true]
  exact ⟨isCommon_member named also shown facing data other rfl rfl (List.forall_mem_singleton.2 name),
    isCommon_member named also shown facing data other rfl rfl type,
    isCommon_member named also shown facing data other rfl rfl tag,
    isCommon_member named also shown facing data other rfl rfl storage,
    isCommon_member named also shown facing data other rfl rfl rule⟩

/-! ### What is printed freely -/

theorem lookup_display {related : FieldView → FieldView → Prop} (meets : Meets related level loops others)
    (b other : Blueprint) :
    lookup loops b.encode ["names", "display"] = some (.string b.names.display) ∧
      lookup others other.encode ["names", "display"] = some (.string other.names.display) := by
  cases meets with
  | file => exact ⟨rfl, rfl⟩
  | @field state twin view opposite pair named also shown facing =>
    have elsewhere {state : LoopState} (named : state.name = "f") (data : Json.Value) :
        lookup [state] data ["names", "display"] = descend data ["names", "display"] := by
      simp [lookup, LoopState.find?, named]
    rw [elsewhere named, elsewhere also]
    exact ⟨rfl, rfl⟩

/-- A text of a field is only found in the listing of the fields. -/
theorem exists_of_lookup_member {key : String} {textOf : FieldView → String}
    (holds : ∀ view : FieldView, descend view.encode [key] = some (.string (textOf view)))
    (meets : Meets (AreFacing first second) level loops others) (b other : Blueprint) {found : Json.Value}
    (shown : lookup loops b.encode ["f", key] = some found ∨ lookup others other.encode ["f", key] = some found) :
    ∃ field ∈ first.fields ++ second.fields, found = .string (textOf (FieldView.ofField field)) := by
  cases meets with
  | file => rcases shown with absurd | absurd <;> cases absurd
  | field pair named also own opposite =>
    obtain ⟨field, listed, field', listed', -, rfl, rfl⟩ := pair
    rw [lookup_member named own, lookup_member also opposite, holds, holds, Option.some_or,
      Option.some_or, Option.some_inj, Option.some_inj] at shown
    rcases shown with rfl | rfl
    · exact ⟨field, List.mem_append_left _ listed, rfl⟩
    · exact ⟨field', List.mem_append_right _ listed', rfl⟩

theorem twins_build (accepted : Validation.check first = []) (same : first.unremarked = second.unremarked)
    (settles : lexical = true → Settles moduleName first.fields) {remarks : List Path}
    (unbroken : ∀ level loops others, Meets (AreFacing first second) level loops others → ∀ path ∈ remarks, ∀ found,
      lookup loops (Blueprint.build moduleName now first component).encode path = some found ∨
        lookup others (Blueprint.build moduleName now second component).encode path = some found →
      '\n' ∉ valueText found) :
    Twins lexical remarks (AreFacing first second) (Blueprint.build moduleName now first component)
      (Blueprint.build moduleName now second component) where
  common := by
    intro level loops others meets
    cases meets with
    | file => exact isCommon_file accepted same settles
    | field pair named also shown facing => exact isCommon_field accepted settles pair named also shown facing _ _
  unbroken := unbroken
  fields := forall₂_areFacing same

theorem unbroken_display (own : '\n' ∉ first.resolvedDisplayName.toList)
    (opposite : '\n' ∉ second.resolvedDisplayName.toList)
    (meets : Meets (AreFacing first second) level loops others) {found : Json.Value}
    (shown : lookup loops (Blueprint.build moduleName now first component).encode
      ["names", "display"] = some found ∨
      lookup others (Blueprint.build moduleName now second component).encode ["names", "display"] = some found) :
    '\n' ∉ valueText found := by
  have sides := lookup_display meets (Blueprint.build moduleName now first component)
    (Blueprint.build moduleName now second component)
  rw [sides.1, sides.2, Option.some_inj, Option.some_inj] at shown
  rcases shown with rfl | rfl
  · exact own
  · exact opposite

/-- Nothing but the display name is printed. -/
theorem unbroken_heading
    (plain : ∀ remark ∈ [first.resolvedDisplayName] ++ [second.resolvedDisplayName], '\n' ∉ remark.toList) :
    ∀ level loops others, Meets (AreFacing first second) level loops others → ∀ path ∈ [["names", "display"]],
      ∀ found, lookup loops (Blueprint.build moduleName now first component).encode path = some found ∨
        lookup others (Blueprint.build moduleName now second component).encode path = some found →
      '\n' ∉ valueText found := by
  rw [List.singleton_append, List.forall_mem_cons, List.forall_mem_singleton] at plain
  intro level loops others meets path free found shown
  obtain rfl := List.mem_singleton.1 free
  exact unbroken_display plain.1 plain.2 meets shown

theorem unbroken_member {key : String} (textOf : FieldView → String)
    (holds : ∀ view : FieldView, descend view.encode [key] = some (.string (textOf view)))
    (own : ∀ field ∈ first.fields, '\n' ∉ (textOf (FieldView.ofField field)).toList)
    (opposite : ∀ field ∈ second.fields, '\n' ∉ (textOf (FieldView.ofField field)).toList)
    (meets : Meets (AreFacing first second) level loops others) {b other : Blueprint} {found : Json.Value}
    (shown : lookup loops b.encode ["f", key] = some found ∨ lookup others other.encode ["f", key] = some found) :
    '\n' ∉ valueText found := by
  obtain ⟨field, listed, rfl⟩ := exists_of_lookup_member holds meets b other shown
  exact List.forall_mem_append.2 ⟨own, opposite⟩ field listed

theorem cleanComment_ofField (field : Field) :
    (FieldView.ofField field).cleanComment = Naming.cleanComment field.comment := by
  simp only [FieldView.ofField]

end

/-! ## The files -/

theorem exists_code {b other : Blueprint} {related : FieldView → FieldView → Prop} {lexical : Bool}
    {remarks : List Path}
    {source : String} {outline : List Outline} (name : String) (twins : Twins lexical remarks related b other)
    (parsed : parse? source = some ⟨Outline.nodes outline⟩) (followed : IsFollowed lexical remarks outline)
    (shows : ∀ b : Blueprint, ∃ text, renderNodes [] b.encode (Outline.nodes outline) = .ok text) :
    ∃ text twin, rendered name source b = .ok text ∧ rendered name source other = .ok twin ∧
      codeOf lexical text = codeOf lexical twin := by
  obtain ⟨text, shown⟩ := shows b
  obtain ⟨twin, facing⟩ := shows other
  exact ⟨_, _, rendered_eq_ok name parsed shown, rendered_eq_ok name parsed facing,
    codeOf_eq_of_isFollowed twins followed shown facing⟩

/-- Two accepted requests that differ in their display names and comments only have files with the
same code, if what each template prints of these texts stays within its line.  Slashes are taken
plainly, or as the lexer takes them provided that the texts which are printed as they were given end
what they begin. -/
theorem code_of_free_texts {first second : Request} (moduleName : String) (now : Instant) (component : Component)
    (accepted : Validation.check first = []) (same : first.unremarked = second.unremarked) (lexical : Bool)
    (settles : lexical = true → Settles moduleName first.fields) {file source : String}
    (listed : (file, source) ∈ files)
    (plain : ∀ remark ∈ first.remarksIn file ++ second.remarksIn file, '\n' ∉ remark.toList) (name : String) :
    ∃ text twin, rendered name source (Blueprint.build moduleName now first component) = .ok text ∧
      rendered name source (Blueprint.build moduleName now second component) = .ok twin ∧
      codeOf lexical text = codeOf lexical twin := by
  simp only [files, List.mem_cons, Prod.mk.injEq, List.not_mem_nil, or_false] at listed
  rcases listed with ⟨rfl, rfl⟩ | ⟨rfl, rfl⟩ | ⟨rfl, rfl⟩ | ⟨rfl, rfl⟩ | ⟨rfl, rfl⟩
  · have shows (b : Blueprint) := (displays_model b).imp fun _ both => both.1
    refine exists_code _ (twins_build accepted same settles ?_) parse?_model (isFollowed_model lexical) shows
    simp only [Request.remarksIn, String.reduceEq, if_false, if_true, List.cons_append, List.forall_mem_cons,
      List.forall_mem_append, List.forall_mem_map] at plain
    obtain ⟨own, comments, opposite, others⟩ := plain
    intro level loops facing meets path free found shown
    simp only [modelRemarks, List.mem_cons, List.not_mem_nil, or_false] at free
    rcases free with rfl | rfl
    · exact unbroken_display own opposite meets shown
    · exact unbroken_member FieldView.comment (fun _ => rfl) comments others meets shown
  · exact exists_code _ (twins_build accepted same settles (unbroken_heading plain)) parse?_repository
      (isFollowed_repository lexical) exists_repository
  · exact exists_code _ (twins_build accepted same settles (unbroken_heading plain)) parse?_service
      (isFollowed_service lexical) exists_service
  · have shows (b : Blueprint) := (displays_handler b).imp fun _ both => both.1
    refine exists_code _ (twins_build accepted same settles ?_) parse?_handler (isFollowed_handler lexical) shows
    exact fun _ _ _ _ path free => absurd free List.not_mem_nil
  · have shows (b : Blueprint) := (displays_types b).imp fun _ both => both.1
    refine exists_code _ (twins_build accepted same settles ?_) parse?_handlerTypes (isFollowed_types lexical) shows
    simp only [Request.remarksIn, String.reduceEq, if_false, if_true, List.cons_append, List.forall_mem_cons,
      List.forall_mem_append, List.forall_mem_map] at plain
    obtain ⟨own, comments, opposite, others⟩ := plain
    intro level loops facing meets path free found shown
    simp only [typesRemarks, List.mem_cons, List.not_mem_nil, or_false] at free
    rcases free with rfl | rfl
    · exact unbroken_display own opposite meets shown
    · simp only [← cleanComment_ofField] at comments others
      exact unbroken_member FieldView.cleanComment (fun _ => rfl) comments others meets shown

/-- A product with a price that has a comment. -/
def pricedRequest (storageTag comment : String) (displayName : Option String) : Request where
  component := .one (.layer .model)
  modelName := "Product"
  displayName
  fields := [{ name := "price", logicalType := "decimal", storageTag, comment }]

theorem code_of_free_texts_priced :
    let first := pricedRequest "size:12" "It\x60s \"net\" // in cents" (some "Goods")
    let second := pricedRequest "size:12" "" none
    Validation.check first = [] ∧ first.unremarked = second.unremarked ∧ Settles "shop" first.fields ∧
      (∀ remark ∈ first.remarksIn "model.go.tera" ++ second.remarksIn "model.go.tera", '\n' ∉ remark.toList) ∧
      ∃ text twin,
        rendered "model.go" model (Blueprint.build "shop" default first (.one (.layer .model))) = .ok text ∧
        rendered "model.go" model (Blueprint.build "shop" default second (.one (.layer .model))) = .ok twin ∧
        codeOf true text = codeOf true twin := by
  intro first second
  have accepted : Validation.check first = [] := by decide
  have settles : Settles "shop" first.fields := by constructor <;> decide +kernel
  have same : first.unremarked = second.unremarked := by decide
  have plain : ∀ remark ∈ first.remarksIn "model.go.tera" ++ second.remarksIn "model.go.tera",
      '\n' ∉ remark.toList := by
    decide +kernel
  exact ⟨accepted, same, settles, plain,
    code_of_free_texts "shop" default _ accepted same true (fun _ => settles) List.mem_cons_self plain "model.go"⟩

/-- The lines of a text, each up to its first two slashes. -/
def slashedLines (cs : List Char) : List (List Char) :=
  (Text.pieces (· == '\n') cs).map fun line => ((Text.cutBefore? ['/', '/'] line).map Prod.fst).getD line

/-- The model of a product, as it is printed. -/
def modelChars (request : Request) : Except Failure (List Char) :=
  renderNodes [] (Blueprint.build "shop" default request (.one (.layer .model))).encode
    (Outline.nodes (modelHead ++ modelStruct ++ modelTail))

theorem exists_modelChars (request : Request) : ∃ cs, modelChars request = .ok cs ∧
    rendered "model.go" model (Blueprint.build "shop" default request (.one (.layer .model))) =
      .ok (String.ofList cs) := by
  obtain ⟨cs, shown, -⟩ := displays_model (Blueprint.build "shop" default request (.one (.layer .model)))
  exact ⟨cs, shown, rendered_eq_ok _ parse?_model shown⟩

/-- Without the white space before a remark, one sees whether there was a comment.  A comment with a
line feed leaves its remark.  A tag with a backquote takes the remark of its field into a
literal. -/
theorem not_code_of_free_texts :
    (∀ tag ∈ ["", "\x60"], ∀ comment ∈ ["", "net", "gross", "net\n\tGhost string"],
      Validation.check (pricedRequest tag comment none) = [] ∧
        (pricedRequest tag comment none).unremarked = (pricedRequest tag "" none).unremarked) ∧
    ∃ textOf : String → String → String,
      (∀ tag comment, rendered "model.go" model
        (Blueprint.build "shop" default (pricedRequest tag comment none) (.one (.layer .model))) =
          .ok (textOf tag comment)) ∧
      slashedLines (textOf "" "net").toList ≠ slashedLines (textOf "" "").toList ∧
      (∀ lexical, codeOf lexical (textOf "" "net") ≠ codeOf lexical (textOf "" "net\n\tGhost string")) ∧
      codeOf true (textOf "\x60" "net") ≠ codeOf true (textOf "\x60" "gross") := by
  refine ⟨by decide, ?_⟩
  choose charsOf printed shown using fun tag comment => exists_modelChars (pricedRequest tag comment none)
  have apart {α : Type} {look : List Char → α} {tag comment other : String}
      (differs : (modelChars (pricedRequest tag comment none)).toOption.map look ≠
        (modelChars (pricedRequest tag other none)).toOption.map look) :
      look (charsOf tag comment) ≠ look (charsOf tag other) := by
    rw [printed, printed] at differs
    exact fun same => differs (congrArg some same)
  refine ⟨fun tag comment => String.ofList (charsOf tag comment), shown, ?_, fun lexical => ?_, ?_⟩
  all_goals simp only [codeOf, String.toList_ofList, ne_eq, String.ofList_inj]
  all_goals
    refine apart ?_
    simp only [modelChars, modelHead, modelStruct, modelMember, modelTail, listing,
      List.cons_append, List.nil_append, Outline.nodes, Outline.node, toList_literal]
  · decide +kernel
  · cases lexical <;> decide +kernel
  · decide +kernel

end Bundled
end Template
end Scaffold
