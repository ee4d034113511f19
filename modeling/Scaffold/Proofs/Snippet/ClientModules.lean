import Scaffold.Proofs.Naming.Words
import Scaffold.Proofs.Snippet.WireNames
import Scaffold.Proofs.Template.Declarations

namespace Scaffold
namespace Snippets

/-!
# Modules of the client

The page and the dialog of a model import functions and a type from its client module, and the page
imports the dialog.  Of the lines of these files only the imports begin as an import does, as long
as nothing that is printed on them has a line feed.
-/

open Template.Bundled (HasLine linesOf Shows)

/-! ## Lines of a paragraph -/

theorem linesOf_of_unbroken {line : String} (unbroken : '\n' ∉ line.toList) : linesOf line = [line] := by
  rw [linesOf, Text.pieces_of_unbroken (Text.beq_eq_false_of_not_mem unbroken), List.map_singleton,
    String.ofList_toList]

theorem linesOf_append_feed (first second : String) :
    linesOf (first ++ "\n" ++ second) = linesOf first ++ linesOf second := by
  have feed : (first ++ "\n" ++ second).toList = first.toList ++ '\n' :: second.toList := by simp
  rw [linesOf, feed, Text.pieces_append_break (by simp), List.map_append]
  rfl

/-- The lines of a paragraph are those of its parts. -/
theorem linesOf_paragraph_eq_flatMap {parts : List String} (some : parts ≠ []) :
    linesOf (paragraph parts) = parts.flatMap linesOf := by
  rw [paragraph]
  induction parts with
  | nil => exact absurd rfl some
  | cons part rest ih =>
    cases rest with
    | nil => rw [String.intercalate_singleton, List.flatMap_singleton]
    | cons next more =>
      rw [String.intercalate_cons_cons, linesOf_append_feed, ih (List.cons_ne_nil _ _)]
      rfl

theorem linesOf_paragraph {lines : List String} (some : lines ≠ [])
    (unbroken : ∀ line ∈ lines, '\n' ∉ line.toList) :
    linesOf (paragraph lines) = lines := by
  have alone : ∀ line ∈ lines, linesOf line = [line] := fun line member =>
    linesOf_of_unbroken (unbroken line member)
  rw [linesOf_paragraph_eq_flatMap some, List.flatMap_congr alone, List.flatMap_singleton']

/-! ## Imports -/

/-- The line that imports by a clause from a source. -/
def importLine (clause source : String) : String :=
  "import " ++ clause ++ " from '" ++ source ++ "'"

/-- The line imports by this clause from this source. -/
structure IsImport (line clause source : String) : Prop where
  spelling : line = importLine clause source
  plainClause : '\'' ∉ clause.toList
  plainSource : '\'' ∉ source.toList

theorem toList_importLine (clause source : String) : (importLine clause source).toList =
    ("import " ++ clause ++ " from ").toList ++ '\'' :: (source.toList ++ ['\'']) := by
  simp [importLine]

/-- A line imports in one way. -/
theorem IsImport.unique {line clause source otherClause otherSource : String} (first : IsImport line clause source)
    (second : IsImport line otherClause otherSource) : clause = otherClause ∧ source = otherSource := by
  have same := congrArg String.toList (first.spelling.symm.trans second.spelling)
  rw [toList_importLine, toList_importLine] at same
  have before {clause : String} (plain : '\'' ∉ clause.toList) :
      '\'' ∉ ("import " ++ clause ++ " from ").toList := by
    simp [plain]
  have cut := Text.takeWhile_mark (before first.plainClause) (source.toList ++ ['\''])
  have otherCut := Text.takeWhile_mark (before second.plainClause) (otherSource.toList ++ ['\''])
  rw [same] at cut
  have clauses : ("import " ++ otherClause ++ " from ").toList = ("import " ++ clause ++ " from ").toList :=
    otherCut.1.symm.trans cut.1
  have sources : '\'' :: (otherSource.toList ++ ['\'']) = '\'' :: (source.toList ++ ['\'']) :=
    otherCut.2.symm.trans cut.2
  simp only [String.toList_append, List.append_assoc, List.append_cancel_left_eq,
    List.append_cancel_right_eq] at clauses
  rw [List.cons.injEq, List.append_cancel_right_eq] at sources
  exact ⟨(String.toList_inj.1 clauses).symm, (String.toList_inj.1 sources.2).symm⟩

/-- The words of a clause. -/
def clauseWords (clause : List Char) : List String :=
  ((Text.pieces (fun c => !Naming.continuesIdentifier c) clause).filter (fun word => !word.isEmpty)).map
    String.ofList

/-- The names that a clause imports. -/
def importedNames (clause : String) : List String :=
  (clauseWords clause.toList).filter (fun word => word != "type")

theorem clauseWords_cons_break {c : Char} (breaks : Naming.continuesIdentifier c = false) (rest : List Char) :
    clauseWords (c :: rest) = clauseWords rest := by
  rw [clauseWords, ← List.nil_append (c :: rest), Text.pieces_append_break (by simp [breaks])]
  rfl

theorem clauseWords_append_break {word : String} (identifier : Naming.isIdentifier word = true) {c : Char}
    (breaks : Naming.continuesIdentifier c = false) (rest : List Char) :
    clauseWords (word.toList ++ c :: rest) = word :: clauseWords rest := by
  have solid : ∀ d ∈ word.toList, (!Naming.continuesIdentifier d) = false := by
    intro d member
    rw [Naming.continuesIdentifier_of_mem identifier member, Bool.not_true]
  have some : word.toList.isEmpty = false :=
    List.isEmpty_eq_false_iff.2 (Validation.toList_ne_nil_of_isIdentifier identifier)
  rw [clauseWords, Text.pieces_append_break (by simp [breaks]), Text.pieces_of_unbroken solid, List.filter_append,
    List.filter_singleton, some, List.map_append]
  simp [clauseWords]

/-- The clause that imports two functions and a type. -/
def namedClause (first second type : String) : String :=
  "\x7b " ++ first ++ ", " ++ second ++ ", type " ++ type ++ " \x7d"

theorem importedNames_namedClause {first second type : String} (firstWord : Naming.isIdentifier first = true)
    (secondWord : Naming.isIdentifier second = true) (typeWord : Naming.isIdentifier type = true)
    (proper : "type" ∉ [first, second, type]) :
    importedNames (namedClause first second type) = [first, second, type] := by
  have letters : (namedClause first second type).toList =
      '\x7b' :: ' ' :: (first.toList ++ ',' :: ' ' :: (second.toList ++ ',' :: ' ' :: ("type".toList ++ ' ' ::
        (type.toList ++ ' ' :: '\x7d' :: [])))) := by
    simp [namedClause]
  have brace : Naming.continuesIdentifier '\x7b' = false ∧ Naming.continuesIdentifier '\x7d' = false := by decide
  have space : Naming.continuesIdentifier ' ' = false ∧ Naming.continuesIdentifier ',' = false := by decide
  have keyword : Naming.isIdentifier "type" = true := by decide
  rw [importedNames, letters, clauseWords_cons_break brace.1, clauseWords_cons_break space.1,
    clauseWords_append_break firstWord space.2, clauseWords_cons_break space.1,
    clauseWords_append_break secondWord space.2, clauseWords_cons_break space.1,
    clauseWords_append_break keyword space.1, clauseWords_append_break typeWord space.1,
    clauseWords_cons_break brace.2]
  simp only [List.mem_cons, List.not_mem_nil, or_false, not_or] at proper
  simp [clauseWords, Text.pieces, Ne.symm proper.1, Ne.symm proper.2.1, Ne.symm proper.2.2]

/-! ## The page and the dialog -/

/-- The line is within a line, and is no import by its first character. -/
def IsOther (line : String) : Prop :=
  '\n' ∉ line.toList ∧ line.toList.head? ≠ some 'i'

theorem IsOther.not_isImport {line : String} (other : IsOther line) (clause source : String) :
    ¬ IsImport line clause source := by
  intro reads
  apply other.2
  rw [reads.spelling, toList_importLine]
  simp [Template.toList_literal]

/-- The text imports by this clause from this source. -/
def Imports (text clause source : String) : Prop :=
  ∃ line ∈ linesOf text, IsImport line clause source

/-- The lines that import all that is listed by clause and source. -/
def importLines (imports : List (String × String)) : List String :=
  imports.map fun entry => importLine entry.1 entry.2

/-- A text with imports between other lines imports just that. -/
theorem imports_paragraph_iff {before after : List String} {imports : List (String × String)}
    {clause source : String}
    (some : before ≠ []) (early : ∀ line ∈ before, IsOther line) (late : ∀ line ∈ after, IsOther line)
    (plain : ∀ entry ∈ imports, ∀ mark ∈ ['\'', '\n'], mark ∉ entry.1.toList ∧ mark ∉ entry.2.toList) :
    Imports (paragraph (before ++ importLines imports ++ after)) clause source ↔ (clause, source) ∈ imports := by
  have reads : ∀ entry ∈ imports, IsImport (importLine entry.1 entry.2) entry.1 entry.2 := by
    intro entry listed
    have quotes := plain entry listed '\'' (by decide)
    exact ⟨rfl, quotes.1, quotes.2⟩
  have unbroken : ∀ line ∈ importLines imports, '\n' ∉ line.toList := by
    intro line member
    obtain ⟨entry, listed, rfl⟩ := List.mem_map.1 member
    have feeds := plain entry listed '\n' (by decide)
    simp [importLine, Template.toList_literal, feeds.1, feeds.2]
  have lines : linesOf (paragraph (before ++ importLines imports ++ after)) =
      before ++ importLines imports ++ after := by
    apply linesOf_paragraph (by simp [some])
    simp only [List.forall_mem_append]
    exact ⟨⟨fun line member => (early line member).1, unbroken⟩, fun line member => (late line member).1⟩
  rw [Imports, lines]
  constructor
  · rintro ⟨line, member, read⟩
    rcases List.mem_append.1 member with member | member
    · rcases List.mem_append.1 member with member | member
      · exact absurd read ((early line member).not_isImport _ _)
      · obtain ⟨entry, listed, rfl⟩ := List.mem_map.1 member
        obtain ⟨rfl, rfl⟩ := read.unique (reads entry listed)
        exact listed
    · exact absurd read ((late line member).not_isImport _ _)
  · intro listed
    refine ⟨importLine clause source, ?_, reads (clause, source) listed⟩
    exact List.mem_append_left _ (List.mem_append_right _ (List.mem_map.2 ⟨(clause, source), listed, rfl⟩))

variable {b : Blueprint}

/-- What the page imports, each by a clause from a source. -/
def pageImports (names : Names) : List (String × String) := [
  ("\x7b onMounted, reactive, ref \x7d", "vue"),
  (namedClause ("delete" ++ names.model) ("get" ++ names.model ++ "List") (names.model ++ "Info"),
    "@/api/" ++ names.kebab),
  (names.model ++ "Dialog", "./modules/" ++ names.kebab ++ "-dialog.vue")]

/-- What the dialog imports, each by a clause from a source. -/
def dialogImports (names : Names) : List (String × String) := [
  ("\x7b computed, reactive, ref, watch \x7d", "vue"),
  ("type \x7b FormInstance, FormRules \x7d", "element-plus"),
  (namedClause ("create" ++ names.model) ("update" ++ names.model) (names.model ++ "Info"),
    "@/api/" ++ names.kebab)]

section

variable {view : FieldView} (oneLine : view.IsOneLine)
include oneLine

theorem isOther_searchItem : ∀ line ∈ searchItem view, IsOther line := by
  have tsName := oneLine.tsName
  have label := oneLine.label
  simp only [searchItem, searchControl]
  split <;> simp [IsOther, Template.toList_literal, tsName, label]

theorem isOther_tableColumn : ∀ line ∈ tableColumn view, IsOther line := by
  have tsName := oneLine.tsName
  have label := oneLine.label
  simp only [tableColumn]
  split <;> simp [IsOther, Template.toList_literal, tsName, label]

theorem lineFeed_not_mem_formControl : '\n' ∉ (formControl view).toList := by
  have tsName := oneLine.tsName
  simp only [formControl]
  repeat' split
  all_goals simp [Template.toList_literal, tsName]

theorem isOther_formItem : ∀ line ∈ formItem view, IsOther line := by
  have tsName := oneLine.tsName
  have label := oneLine.label
  have control := lineFeed_not_mem_formControl oneLine
  simp only [formItem]
  split <;> simp [IsOther, Template.toList_literal, tsName, label, control]

theorem isOther_requiredRule : IsOther (requiredRule view) := by
  have tsName := oneLine.tsName
  have label := oneLine.label
  simp [requiredRule, IsOther, tsName, label]

end

section

variable (lacks : b.names.Lacks '\n') (display : '\n' ∉ b.names.display.toList)
  (oneLine : ∀ view ∈ b.fields, view.IsOneLine)

include lacks oneLine in
theorem isOther_pageMarkup : ∀ line ∈ pageMarkup b, IsOther line := by
  have kebab := lacks.kebab
  have search : ∀ line ∈ (b.fields.filter isSearchable).flatMap searchItem, IsOther line := by
    intro line member
    obtain ⟨view, listed, inside⟩ := List.mem_flatMap.1 member
    exact isOther_searchItem (oneLine view (List.mem_filter.1 listed).1) line inside
  have columns : ∀ line ∈ b.fields.flatMap tableColumn, IsOther line := by
    intro line member
    obtain ⟨view, listed, inside⟩ := List.mem_flatMap.1 member
    exact isOther_tableColumn (oneLine view listed) line inside
  simp only [pageMarkup, List.forall_mem_append]
  refine ⟨⟨⟨⟨?_, search⟩, ?_⟩, columns⟩, ?_⟩
  all_goals simp [IsOther, Template.toList_literal, kebab]

include display oneLine in
theorem isOther_dialogMarkup : ∀ line ∈ dialogMarkup b, IsOther line := by
  have items : ∀ line ∈ b.fields.flatMap formItem, IsOther line := by
    intro line member
    obtain ⟨view, listed, inside⟩ := List.mem_flatMap.1 member
    exact isOther_formItem (oneLine view listed) line inside
  simp only [dialogMarkup, List.forall_mem_append]
  refine ⟨⟨?_, items⟩, ?_⟩
  all_goals simp [IsOther, Template.toList_literal, display]

end

/-- The line that opens a script. -/
def scriptTag : String :=
  "<script setup lang=\"ts\">"

theorem isOther_scriptTag : IsOther scriptTag :=
  ⟨by decide, by decide⟩

theorem pageScript_eq (names : Names) : pageScript names =
    [scriptTag] ++ importLines (pageImports names) ++ (pageScript names).drop 4 := by
  have client : "import \x7b delete" ++ names.model ++ ", get" ++ names.model ++ "List, type " ++ names.model
      ++ "Info \x7d from '@/api/" ++ names.kebab ++ "'" =
      importLine (namedClause ("delete" ++ names.model) ("get" ++ names.model ++ "List") (names.model ++ "Info"))
        ("@/api/" ++ names.kebab) := by
    simp [importLine, namedClause, ← String.toList_inj, Template.toList_literal]
  have dialog : "import " ++ names.model ++ "Dialog from './modules/" ++ names.kebab ++ "-dialog.vue'" =
      importLine (names.model ++ "Dialog") ("./modules/" ++ names.kebab ++ "-dialog.vue") := by
    simp [importLine, ← String.toList_inj, Template.toList_literal]
  simp only [importLines, pageImports, List.map_cons, List.map_nil, ← client, ← dialog]
  rfl

theorem dialogScript_eq (b : Blueprint) : dialogScript b =
    [scriptTag] ++ importLines (dialogImports b.names) ++ (dialogScript b).drop 4 := by
  have client : "import \x7b create" ++ b.names.model ++ ", update" ++ b.names.model ++ ", type " ++ b.names.model
      ++ "Info \x7d from '@/api/" ++ b.names.kebab ++ "'" =
      importLine (namedClause ("create" ++ b.names.model) ("update" ++ b.names.model) (b.names.model ++ "Info"))
        ("@/api/" ++ b.names.kebab) := by
    simp [importLine, namedClause, ← String.toList_inj, Template.toList_literal]
  simp only [importLines, dialogImports, List.map_cons, List.map_nil, ← client]
  rfl

section

variable (lacks : ∀ mark ∈ ['\'', '\n'], b.names.Lacks mark) (oneLine : ∀ view ∈ b.fields, view.IsOneLine)
include lacks

theorem isOther_pageScript : ∀ line ∈ (pageScript b.names).drop 4, IsOther line := by
  have model := (lacks '\n' (by decide)).model
  simp [pageScript, IsOther, Template.toList_literal, model]

include oneLine in
theorem isOther_dialogScript : ∀ line ∈ (dialogScript b).drop 4, IsOther line := by
  have model := (lacks '\n' (by decide)).model
  have rules : ∀ line ∈ (b.fields.filter FieldView.required).map requiredRule, IsOther line := by
    intro line member
    obtain ⟨view, listed, rfl⟩ := List.mem_map.1 member
    exact isOther_requiredRule (oneLine view (List.mem_filter.1 listed).1)
  simp only [dialogScript, List.cons_append, List.nil_append, List.drop_succ_cons, List.drop_zero]
  generalize (b.fields.filter FieldView.required).map requiredRule = lines at rules
  simp only [List.forall_mem_cons, List.forall_mem_append]
  simp only [IsOther] at rules
  simpa [IsOther, Template.toList_literal, model, forall_and] using rules

theorem plain_pageImports : ∀ entry ∈ pageImports b.names, ∀ mark ∈ ['\'', '\n'],
    mark ∉ entry.1.toList ∧ mark ∉ entry.2.toList := by
  have quote := lacks '\'' (by decide)
  have feed := lacks '\n' (by decide)
  simp [pageImports, namedClause, Template.toList_literal, quote.model, quote.kebab, feed.model, feed.kebab]

theorem plain_dialogImports : ∀ entry ∈ dialogImports b.names, ∀ mark ∈ ['\'', '\n'],
    mark ∉ entry.1.toList ∧ mark ∉ entry.2.toList := by
  have quote := lacks '\'' (by decide)
  have feed := lacks '\n' (by decide)
  simp [dialogImports, namedClause, Template.toList_literal, quote.model, quote.kebab, feed.model, feed.kebab]

include oneLine in
/-- The page imports what is listed, and nothing else. -/
theorem exists_page_importing : ∃ snippet, frontendPage b = [snippet] ∧
    snippet.targetFile = viewDirectory b.names ++ "/index.vue" ∧
    ∀ clause source, Imports snippet.content clause source ↔ (clause, source) ∈ pageImports b.names := by
  have early : ∀ line ∈ pageMarkup b ++ [scriptTag], IsOther line := by
    rw [List.forall_mem_append, List.forall_mem_singleton]
    exact ⟨isOther_pageMarkup (lacks '\n' (by decide)) oneLine, isOther_scriptTag⟩
  refine ⟨_, rfl, rfl, fun clause source => ?_⟩
  dsimp only [Placement.toSnippet]
  rw [pageScript_eq, ← List.append_assoc, ← List.append_assoc]
  exact imports_paragraph_iff (by simp) early (isOther_pageScript lacks) (plain_pageImports lacks)

include oneLine in
/-- The dialog imports what is listed, and nothing else. -/
theorem exists_dialog_importing (display : '\n' ∉ b.names.display.toList) : ∃ snippet, frontendForm b = [snippet] ∧
    snippet.targetFile = viewDirectory b.names ++ "/modules/" ++ b.names.kebab ++ "-dialog.vue" ∧
    ∀ clause source, Imports snippet.content clause source ↔ (clause, source) ∈ dialogImports b.names := by
  have early : ∀ line ∈ dialogMarkup b ++ [scriptTag], IsOther line := by
    rw [List.forall_mem_append, List.forall_mem_singleton]
    exact ⟨isOther_dialogMarkup display oneLine, isOther_scriptTag⟩
  refine ⟨_, rfl, rfl, fun clause source => ?_⟩
  dsimp only [Placement.toSnippet]
  rw [dialogScript_eq, ← List.append_assoc, ← List.append_assoc]
  exact imports_paragraph_iff (by simp) early (isOther_dialogScript lacks oneLine) (plain_dialogImports lacks)

end

/-! ## What the client module exports -/

/-- The text exports a function or an interface of this name. -/
def Exports (text name : String) : Prop :=
  HasLine ("export function " ++ name ++ "(") text ∨ HasLine ("export interface " ++ name ++ " \x7b") text

/-- The functions of the client module. -/
def clientCalls (model : String) : List String :=
  ["get" ++ model ++ "List", "get" ++ model ++ "ById", "create" ++ model, "update" ++ model, "delete" ++ model]

theorem hasLine_clientFunctions {model api name : String} (plainModel : '\n' ∉ model.toList)
    (plainApi : '\n' ∉ api.toList)
    (listed : name ∈ clientCalls model) :
    HasLine ("export function " ++ name ++ "(") (clientFunctions model api) := by
  rw [clientFunctions, HasLine, linesOf_paragraph (by simp)]
  · simp only [clientCalls, List.mem_cons, List.not_mem_nil, or_false] at listed
    simp only [List.mem_cons, exists_eq_or_imp]
    rcases listed with rfl | rfl | rfl | rfl | rfl
    all_goals simp [Template.toList_literal]
  · simp [Template.toList_literal, plainModel, plainApi]

theorem hasLine_append_of_feed {start first second : String} (ended : ['\n'] <:+ first.toList)
    (found : HasLine start second) : HasLine start (first ++ second) := by
  obtain ⟨head, ended⟩ := ended
  obtain ⟨line, listed, begins⟩ := found
  refine ⟨line, ?_, begins⟩
  rw [linesOf, String.toList_append, ← ended, List.append_assoc, List.singleton_append,
    Text.pieces_append_break (by simp), List.map_append]
  exact List.mem_append_right _ listed

theorem hasLine_of_shows {row : String} {rows : List String} {blocks : List (List String)} {text : String}
    (unbroken : '\n' ∉ row.toList) (shows : Shows ((row :: rows) :: blocks) text.toList) : HasLine row text := by
  generalize letters : text.toList = cs at shows
  cases shows with
  | next before block rest =>
    apply Template.Bundled.hasLine_of_infix unbroken
    rw [letters, List.map_cons, Text.feeds_cons]
    exact ⟨before, _, by simp only [List.append_assoc]; rfl⟩

/-- The client module exports its calls and the type of a stored model. -/
theorem exists_client_exporting (b : Blueprint) (model : '\n' ∉ b.names.model.toList)
    (api : '\n' ∉ b.names.apiBase.toList) : ∃ snippet, frontendApi b = [snippet] ∧
      snippet.targetFile = "web/src/api/" ++ b.names.kebab ++ ".ts" ∧
      ∀ name ∈ (b.names.model ++ "Info") :: clientCalls b.names.model, Exports snippet.content name := by
  obtain ⟨snippet, produced, shows⟩ := exists_client b
  obtain rfl := (List.cons.inj produced).1
  refine ⟨_, rfl, rfl, List.forall_mem_cons.2 ⟨.inr ?_, fun name listed => .inl ?_⟩⟩
  · exact hasLine_of_shows (by simp [Template.toList_literal, model]) shows
  · obtain ⟨head, headText⟩ : ∃ text, (bodyInterface b "UpdateRequest" "?").toList = text ++ ['\n'] :=
      exists_block_feed (by simp)
    refine hasLine_append_of_feed ?_ (hasLine_clientFunctions model api listed)
    rw [String.toList_append, headText, ← List.append_assoc]
    exact List.suffix_append _ _

end Snippets
end Scaffold
