import Scaffold.Proofs.FieldType.Mention
import Scaffold.Proofs.Instant.RoundTrip
import Scaffold.Proofs.Template.Agreement

namespace Scaffold

/-!
# The import of the package `time`

The files with the fields of a model import the package `time` when the flag of some field's type is
set.  So they import it exactly when some field mentions it, as long as the flag is right for each
type that is written out in Go.
-/

namespace Instant

theorem lineFeed_not_mem_padded (width n : Nat) : '\n' ∉ padded width n :=
  fun member => absurd (isDigit_of_mem_padded member) (by decide)

theorem lineFeed_not_mem_yearText (year : Int) : '\n' ∉ yearText year := by
  rw [yearText]
  split
  · exact lineFeed_not_mem_padded _ _
  · split <;> simp [lineFeed_not_mem_padded]

theorem lineFeed_not_mem_fractionText (nano : Nat) : '\n' ∉ fractionText nano := by
  rw [fractionText]
  split
  · exact List.not_mem_nil
  split
  · simp [lineFeed_not_mem_padded]
  split <;> simp [lineFeed_not_mem_padded]

theorem lineFeed_not_mem_zuluText (t : Instant) : '\n' ∉ t.zuluText.toList := by
  simp [zuluText, localText, lineFeed_not_mem_padded, lineFeed_not_mem_yearText, lineFeed_not_mem_fractionText]

end Instant

namespace Template
namespace Bundled

open Text (feeds)

/-! ## Reading imports -/

/-- Whether lines of Go import the package, alone or in a list; `listed` tells whether they begin
within a list. -/
def importsIn (package : List Char) (listed : Bool) : List (List Char) → Bool
  | [] => false
  | line :: rest =>
    if listed then line == "\t\"".toList ++ package ++ ['"'] || importsIn package (line != [')']) rest
    else line == "import \"".toList ++ package ++ ['"'] || importsIn package (line == "import (".toList) rest

/-- What the first line of a type's declaration begins with. -/
def typeMark : List Char := "type ".toList

/-- The lines before the first declaration of a type, among which the imports stand. -/
def preamble (text : String) : List (List Char) :=
  (Text.pieces (· == '\n') text.toList).takeWhile (fun line => !typeMark.isPrefixOf line)

/-- Whether a file imports the package. -/
def importsPackage (package text : String) : Bool :=
  importsIn package.toList false (preamble text)

theorem preamble_ofList {first : List Char} {rows : List (List Char)} (unbroken : ∀ row ∈ first :: rows, '\n' ∉ row)
    (other : ∀ row ∈ first :: rows, typeMark.isPrefixOf row = false) (after : List Char) :
    preamble (String.ofList (first ++ feeds rows ++ '\n' :: (typeMark ++ after))) = first :: rows := by
  rcases List.forall_mem_cons.1 unbroken with ⟨firstUnbroken, rowsUnbroken⟩
  rcases List.exists_cons_of_ne_nil (Text.pieces_ne_nil (· == '\n') after) with ⟨piece, others, cut⟩
  have opening : Text.pieces (· == '\n') (typeMark ++ after) = (typeMark ++ piece) :: others :=
    Text.pieces_append_of_unbroken (Text.beq_eq_false_of_not_mem (by decide)) cut
  have alone : Text.pieces (· == '\n') first = [first] :=
    Text.pieces_of_unbroken (Text.beq_eq_false_of_not_mem firstUnbroken)
  have before : ∀ row ∈ [first] ++ rows, (!typeMark.isPrefixOf row) = true := by
    intro row member
    rw [other row member, Bool.not_false]
  have found : (!typeMark.isPrefixOf (typeMark ++ piece)) = false := by
    rw [List.isPrefixOf_iff_prefix.2 (List.prefix_append _ _), Bool.not_true]
  rw [preamble, String.toList_ofList, Text.pieces_feeds rowsUnbroken, opening, alone,
    List.takeWhile_append_of_pos before, List.takeWhile_cons, found]
  simp

/-! ## The heads of the files -/

variable {b : Blueprint}

@[simp] theorem isTruthy_bool (truth : Bool) : isTruthy (.bool truth) = truth := rfl

/-- The first line of every file. -/
def signature (b : Blueprint) : List Char :=
  "// Code generated by crudforge at ".toList ++ b.generatedAt.zuluText.toList ++ ['.']

/-- The lines between the first one and the struct of the model. -/
def modelPreamble (b : Blueprint) : List (List Char) :=
  [[], "package ".toList ++ b.packageName.toList, [], "import (".toList]
    ++ (if b.hasTimeField then ["\t\"time\"".toList] else [])
    ++ ["\t\"".toList ++ b.moduleName.toList ++ "/internal/shared/types\"".toList, [')'], [],
      "// ".toList ++ b.names.model.toList ++ ' ' :: b.names.display.toList]

/-- The lines between the first one and the first struct of the types. -/
def typesPreamble (b : Blueprint) : List (List Char) :=
  [[], "package types".toList, []]
    ++ (if b.hasTimeField then ["import \"time\"".toList, []] else [])
    ++ ["// ".toList ++ b.names.createRequest.toList ++ " is the body of a create call".toList]

theorem render_modelHead (b : Blueprint) :
    renderNodes [] b.encode (Outline.nodes modelHead) = .ok (signature b ++ feeds (modelPreamble b)) := by
  simp only [modelHead, lookup_nil, Blueprint.encode, Names.encode, descend, List.lookup_cons,
    String.reduceBEq, Outline.render_text, Outline.render_value, Outline.render_option,
    Outline.render_nil, Outline.map_ok, Outline.ite_ok, Option.any_some, isTruthy_bool,
    valueText_string]
  unfold signature modelPreamble feeds
  generalize b.generatedAt.zuluText.toList = time
  cases b.hasTimeField
  all_goals
    simp only [Bool.false_eq_true, if_false, if_true, List.flatMap_cons, List.flatMap_nil,
      toList_literal, List.append_assoc, List.cons_append, List.nil_append, List.append_nil]

theorem render_typesHead (b : Blueprint) : ∃ head,
    renderNodes [] b.encode (Outline.nodes typesHead) = .ok head ∧
      head ++ " is the body of a create call".toList = signature b ++ feeds (typesPreamble b) := by
  simp only [typesHead, lookup_nil, Blueprint.encode, Names.encode, descend, List.lookup_cons,
    String.reduceBEq, Outline.render_text, Outline.render_value, Outline.render_option,
    Outline.render_nil, Outline.map_ok, Outline.ite_ok, Option.any_some, isTruthy_bool,
    valueText_string]
  refine ⟨_, rfl, ?_⟩
  unfold signature typesPreamble feeds
  generalize b.generatedAt.zuluText.toList = time
  cases b.hasTimeField
  all_goals
    simp only [Bool.false_eq_true, if_false, if_true, List.flatMap_cons, List.flatMap_nil,
      toList_literal, List.append_assoc, List.cons_append, List.nil_append, List.append_nil]

/-! ## What the heads import -/

theorem importsIn_signature {package : List Char} (rows : List (List Char)) :
    importsIn package false (signature b :: rows) = importsIn package false rows := by
  unfold signature
  generalize b.generatedAt.zuluText.toList = time
  simp [importsIn]

theorem importsIn_modelPreamble (b : Blueprint) :
    importsIn "time".toList false (modelPreamble b) = b.hasTimeField := by
  -- The package of the base types is the only other one, and its path has a slash.
  have other : b.moduleName.toList ++ "/internal/shared/types\"".toList ≠ "time\"".toList := by
    intro same
    have slash : '/' ∈ b.moduleName.toList ++ "/internal/shared/types\"".toList := by simp
    rw [same] at slash
    exact absurd slash (by decide)
  unfold modelPreamble
  cases b.hasTimeField
  · simpa [importsIn] using other
  · simp [importsIn]

theorem importsIn_typesPreamble (b : Blueprint) :
    importsIn "time".toList false (typesPreamble b) = b.hasTimeField := by
  unfold typesPreamble
  cases b.hasTimeField <;> simp [importsIn]

/-- What the heads of the files print stays within one line. -/
structure HasPlainHead (b : Blueprint) : Prop where
  packageName : '\n' ∉ b.packageName.toList
  moduleName : '\n' ∉ b.moduleName.toList
  model : '\n' ∉ b.names.model.toList
  display : '\n' ∉ b.names.display.toList
  createRequest : '\n' ∉ b.names.createRequest.toList

theorem modelPreamble_rows (plain : HasPlainHead b) :
    ∀ row ∈ modelPreamble b, '\n' ∉ row ∧ typeMark.isPrefixOf row = false := by
  have packageName := plain.packageName
  have moduleName := plain.moduleName
  have model := plain.model
  have display := plain.display
  unfold modelPreamble typeMark
  cases b.hasTimeField <;> simp [packageName, moduleName, model, display, List.isPrefixOf]

theorem typesPreamble_rows (plain : HasPlainHead b) :
    ∀ row ∈ typesPreamble b, '\n' ∉ row ∧ typeMark.isPrefixOf row = false := by
  have createRequest := plain.createRequest
  unfold typesPreamble typeMark
  cases b.hasTimeField <;> simp [createRequest, List.isPrefixOf]

theorem signature_row (b : Blueprint) : '\n' ∉ signature b ∧ typeMark.isPrefixOf (signature b) = false := by
  have unbroken := b.generatedAt.lineFeed_not_mem_zuluText
  unfold signature typeMark
  generalize b.generatedAt.zuluText.toList = time at unbroken
  simp [unbroken, List.isPrefixOf]

/-- A file imports what the lines of its head import. -/
theorem importsPackage_ofList {package : String} {rows : List (List Char)}
    (plain : ∀ row ∈ rows, '\n' ∉ row ∧ typeMark.isPrefixOf row = false) (after : List Char) :
    importsPackage package (String.ofList (signature b ++ feeds rows ++ '\n' :: (typeMark ++ after))) =
      importsIn package.toList false rows := by
  have all : ∀ row ∈ signature b :: rows, '\n' ∉ row ∧ typeMark.isPrefixOf row = false :=
    List.forall_mem_cons.2 ⟨signature_row b, plain⟩
  rw [importsPackage, preamble_ofList (fun row member => (all row member).1) (fun row member => (all row member).2),
    importsIn_signature]

theorem exists_append_of_render_text {s : String} {rest : List Outline} {text : List Char}
    (shown : renderNodes [] b.encode (Outline.nodes (.text s :: rest)) = .ok text) :
    ∃ after, text = s.toList ++ after := by
  rw [Outline.render_text] at shown
  cases behind : renderNodes [] b.encode (Outline.nodes rest) with
  | error failure =>
    rw [behind] at shown
    cases shown
  | ok after =>
    rw [behind] at shown
    exact ⟨after, (Except.ok.inj shown).symm⟩

/-! ## The files -/

theorem exists_modelText_importing (plain : HasPlainHead b) :
    ∃ text, rendered "model.go" model b = .ok text ∧ importsPackage "time" text = b.hasTimeField := by
  obtain ⟨tail, tailShown⟩ := exists_text_around b modelTail (by simp)
  obtain ⟨text, shown, -⟩ := displays_modelStruct (b := b) ⟨tail, tailShown, .done tail⟩
  obtain ⟨after, rfl⟩ := exists_append_of_render_text shown
  have whole := Outline.render_append (render_modelHead b) shown
  rw [← List.append_assoc] at whole
  refine ⟨_, rendered_eq_ok "model.go" parse?_model whole, ?_⟩
  exact (importsPackage_ofList (modelPreamble_rows plain) after).trans (importsIn_modelPreamble b)

theorem exists_typesText_importing (plain : HasPlainHead b) :
    ∃ text, rendered "handler_types.go" handlerTypes b = .ok text ∧
      importsPackage "time" text = b.hasTimeField := by
  obtain ⟨head, headShown, headText⟩ := render_typesHead b
  obtain ⟨text, shown, -⟩ := displays_typesStructs b
  obtain ⟨after, rfl⟩ := exists_append_of_render_text shown
  have cut : " is the body of a create call\ntype ".toList = " is the body of a create call".toList ++
      '\n' :: typeMark := by
    decide
  have joined : head ++ (" is the body of a create call\ntype ".toList ++ after) =
      signature b ++ feeds (typesPreamble b) ++ '\n' :: (typeMark ++ after) := by
    rw [cut, List.append_assoc, ← List.append_assoc head, headText, List.cons_append]
  have whole : renderNodes [] b.encode (Outline.nodes typesOutline) =
      .ok (signature b ++ feeds (typesPreamble b) ++ '\n' :: (typeMark ++ after)) := by
    rw [typesOutline, List.append_assoc, List.append_assoc, List.append_assoc, ← joined]
    exact Outline.render_append headShown shown
  refine ⟨_, rendered_eq_ok "handler_types.go" parse?_handlerTypes whole, ?_⟩
  exact (importsPackage_ofList (typesPreamble_rows plain) after).trans (importsIn_typesPreamble b)

/-! ## The fields of a request -/

theorem lineFeed_not_mem_packageNameOf (component : Component) :
    '\n' ∉ (Blueprint.packageNameOf component).toList := by
  unfold Blueprint.packageNameOf
  split <;> decide

theorem hasPlainHead_build {request : Request} {moduleName : String} (now : Instant) (component : Component)
    (accepted : Validation.check request = []) (moduleLine : '\n' ∉ moduleName.toList)
    (displayLine : '\n' ∉ request.resolvedDisplayName.toList) :
    HasPlainHead (Blueprint.build moduleName now request component) := by
  have named : '\n' ∉ request.modelName.toList :=
    Naming.not_mem_of_isIdentifier Text.isSign_lineFeed (Validation.check_eq_nil.1 accepted).modelName.identifier
  exact ⟨lineFeed_not_mem_packageNameOf component, moduleLine, named, displayLine,
    lineFeed_not_mem_append named (by decide)⟩

section

variable {request : Request} {moduleName : String} {now : Instant} {component : Component}

theorem hasTimeField_iff_temporal : (Blueprint.build moduleName now request component).hasTimeField = true ↔
    ∃ field ∈ request.fields, (FieldType.goType field.logicalType).temporal = true := by
  simp only [Blueprint.hasTimeField, Blueprint.build, List.any_map, List.any_eq_true, Function.comp_apply,
    FieldView.ofField]

/-- The flag of a blueprint tells whether `time.Time` is found in the Go type of some field. -/
theorem hasTimeField_iff_contains : (Blueprint.build moduleName now request component).hasTimeField = true ↔
    ∃ field ∈ request.fields, Text.contains (FieldType.goType field.logicalType).target "time.Time" = true := by
  rw [hasTimeField_iff_temporal]
  refine exists_congr fun field => and_congr_right fun _ => ?_
  rw [FieldType.temporal_eq_mentionsTime, FieldType.mentionsTime]

/-- It tells whether some field mentions the package `time`, if the search does so for each type
that is written out. -/
theorem hasTimeField_iff_mentions (telling : ∀ field ∈ request.fields, FieldType.IsTelling field.logicalType) :
    (Blueprint.build moduleName now request component).hasTimeField = true ↔
      ∃ field ∈ request.fields,
        FieldType.mentionsPackage "time" (FieldType.goType field.logicalType).target = true := by
  rw [hasTimeField_iff_temporal]
  refine exists_congr fun field => and_congr_right fun member => ?_
  rw [(telling field member).temporal_eq]

end

/-- The files with the fields of an accepted request import the package `time` exactly when
`time.Time` is found in the Go type of some field; that is exactly when some field mentions the
package, as long as the search tells so for each type that is written out. -/
theorem time_imported_iff_mentioned {request : Request} {moduleName : String} (now : Instant)
    (component : Component)
    (accepted : Validation.check request = []) (moduleLine : '\n' ∉ moduleName.toList)
    (displayLine : '\n' ∉ request.resolvedDisplayName.toList) :
    ∃ modelText typesText,
      rendered "model.go" model (Blueprint.build moduleName now request component) = .ok modelText ∧
      rendered "handler_types.go" handlerTypes (Blueprint.build moduleName now request component) = .ok typesText ∧
      ∀ text ∈ [modelText, typesText],
        (importsPackage "time" text = true ↔
          ∃ field ∈ request.fields, Text.contains (FieldType.goType field.logicalType).target "time.Time" = true) ∧
        ((∀ field ∈ request.fields, FieldType.IsTelling field.logicalType) →
          (importsPackage "time" text = true ↔ ∃ field ∈ request.fields,
            FieldType.mentionsPackage "time" (FieldType.goType field.logicalType).target = true)) := by
  have plain := hasPlainHead_build now component accepted moduleLine displayLine
  obtain ⟨modelText, modelShown, modelImports⟩ := exists_modelText_importing plain
  obtain ⟨typesText, typesShown, typesImports⟩ := exists_typesText_importing plain
  refine ⟨modelText, typesText, modelShown, typesShown, ?_⟩
  rw [List.forall_mem_cons, List.forall_mem_singleton, modelImports, typesImports]
  exact ⟨⟨hasTimeField_iff_contains, hasTimeField_iff_mentions⟩, hasTimeField_iff_contains,
    hasTimeField_iff_mentions⟩

/-- An event with a date given by a keyword and one that is written out. -/
def eventRequest : Request where
  component := .one (.layer .handler)
  modelName := "Event"
  fields := [
    { name := "title", logicalType := "string" },
    { name := "begins", logicalType := "datetime" },
    { name := "ends", logicalType := " []time.Time" },
    { name := "seats", logicalType := "seating.Chart" }]

theorem time_imported_iff_mentioned_event :
    Validation.check eventRequest = [] ∧ (∀ field ∈ eventRequest.fields, FieldType.IsTelling field.logicalType) ∧
      ∃ modelText,
        rendered "model.go" model
          (Blueprint.build "shop" default eventRequest (.one (.layer .model))) = .ok modelText ∧
        importsPackage "time" modelText = true := by
  have accepted : Validation.check eventRequest = [] := by decide
  have telling : ∀ field ∈ eventRequest.fields, FieldType.IsTelling field.logicalType := by decide
  have moduleLine : '\n' ∉ "shop".toList := by decide
  obtain ⟨modelText, _, shown, _, tells⟩ :=
    time_imported_iff_mentioned default (.one (.layer .model)) accepted moduleLine (by decide)
  refine ⟨accepted, telling, modelText, shown, ((tells modelText List.mem_cons_self).2 telling).2 ?_⟩
  decide

/-- A field of a type that is written out. -/
def timedRequest (logicalType : String) : Request where
  component := .one (.layer .handler)
  modelName := "Timer"
  fields := [{ name := "lapse", logicalType }]

/-- Without the condition the import may be missing, as for a duration, and it may be there without
need, as for a type of another package whose name ends the same way. -/
theorem not_time_imported_iff_mentioned :
    (Validation.check (timedRequest "time.Duration") = [] ∧
      FieldType.mentionsPackage "time" (FieldType.goType "time.Duration").target = true ∧
      ∃ modelText typesText,
        rendered "model.go" model
          (Blueprint.build "shop" default (timedRequest "time.Duration") .all) = .ok modelText ∧
        rendered "handler_types.go" handlerTypes
          (Blueprint.build "shop" default (timedRequest "time.Duration") .all)
          = .ok typesText ∧
        importsPackage "time" modelText = false ∧ importsPackage "time" typesText = false) ∧
      Validation.check (timedRequest "mytime.Time") = [] ∧
      FieldType.mentionsPackage "time" (FieldType.goType "mytime.Time").target = false ∧
      ∃ modelText typesText,
        rendered "model.go" model
          (Blueprint.build "shop" default (timedRequest "mytime.Time") .all) = .ok modelText ∧
        rendered "handler_types.go" handlerTypes (Blueprint.build "shop" default (timedRequest "mytime.Time") .all)
          = .ok typesText ∧
        importsPackage "time" modelText = true ∧ importsPackage "time" typesText = true := by
  have files (logicalType : String) (accepted : Validation.check (timedRequest logicalType) = []) :
      ∃ modelText typesText,
        rendered "model.go" model (Blueprint.build "shop" default (timedRequest logicalType) .all) = .ok modelText ∧
        rendered "handler_types.go" handlerTypes (Blueprint.build "shop" default (timedRequest logicalType) .all)
          = .ok typesText ∧
        importsPackage "time" modelText = (FieldType.goType logicalType).temporal ∧
        importsPackage "time" typesText = (FieldType.goType logicalType).temporal := by
    have moduleLine : '\n' ∉ "shop".toList := by decide
    have displayLine : '\n' ∉ (timedRequest logicalType).resolvedDisplayName.toList := by
      change '\n' ∉ "Timer".toList
      decide
    have flag : (Blueprint.build "shop" default (timedRequest logicalType) .all).hasTimeField =
        (FieldType.goType logicalType).temporal := by
      rw [Bool.eq_iff_iff, hasTimeField_iff_temporal]
      simp only [timedRequest, List.mem_singleton, exists_eq_left]
    have plain := hasPlainHead_build default .all accepted moduleLine displayLine
    obtain ⟨modelText, modelShown, modelImports⟩ := exists_modelText_importing plain
    obtain ⟨typesText, typesShown, typesImports⟩ := exists_typesText_importing plain
    exact ⟨modelText, typesText, modelShown, typesShown, modelImports.trans flag, typesImports.trans flag⟩
  have missing : Validation.check (timedRequest "time.Duration") = [] := by decide
  have needless : Validation.check (timedRequest "mytime.Time") = [] := by decide
  exact ⟨⟨missing, by decide, files _ missing⟩, needless, by decide, files _ needless⟩

end Bundled
end Template
end Scaffold
