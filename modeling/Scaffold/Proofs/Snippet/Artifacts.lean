import Scaffold.Proofs.Snippet.References

namespace Scaffold

/-!
# The artifacts of a model

The files of the layers and the snippets of a model are generated one by one, each from names that
are put together anew.  They still fit together: whatever one of them names, another one declares.
A display name or a comment that breaks out of its line or its quotation marks can name anything, so
these texts are taken to stay where they are printed.
-/

open Snippets
open Template.Bundled (HasLine linesOf rendered handlerMethods)

/-- What is generated for a model: the files of its layers and its snippets. -/
structure Artifacts where
  model : String
  repository : String
  service : String
  handler : String
  routes : Snippet
  providers : Snippet
  aggregate : Snippet
  migration : Snippet
  permissions : Snippet
  client : Snippet
  page : Snippet
  dialog : Snippet
  menuEntry : Snippet
  menuAlias : Snippet

namespace Artifacts

/-- The artifacts are those of the request, each from the blueprint of its component. -/
structure AreGenerated (artifacts : Artifacts) (moduleName : String) (now : Instant) (request : Request) :
    Prop where
  model : rendered "model.go" Template.Bundled.model
    (Blueprint.build moduleName now request (.one (.layer .model))) = .ok artifacts.model
  repository : rendered "repository.go" Template.Bundled.repository
    (Blueprint.build moduleName now request (.one (.layer .repository))) = .ok artifacts.repository
  service : rendered "service.go" Template.Bundled.service
    (Blueprint.build moduleName now request (.one (.layer .service))) = .ok artifacts.service
  handler : rendered "handler.go" Template.Bundled.handler
    (Blueprint.build moduleName now request (.one (.layer .handler))) = .ok artifacts.handler
  routes : SnippetKind.routes.produce (Blueprint.build moduleName now request (.ofSnippet .routes)) =
    [artifacts.routes]
  wire : SnippetKind.wire.produce (Blueprint.build moduleName now request (.ofSnippet .wire)) =
    [artifacts.providers, artifacts.aggregate]
  migration : SnippetKind.migration.produce (Blueprint.build moduleName now request (.ofSnippet .migration)) =
    [artifacts.migration]
  permissions : SnippetKind.permission.produce (Blueprint.build moduleName now request (.ofSnippet .permission)) =
    [artifacts.permissions]
  client : SnippetKind.frontendApi.produce (Blueprint.build moduleName now request (.ofSnippet .frontendApi)) =
    [artifacts.client]
  page : SnippetKind.frontendPage.produce (Blueprint.build moduleName now request (.ofSnippet .frontendPage)) =
    [artifacts.page]
  dialog : SnippetKind.frontendForm.produce (Blueprint.build moduleName now request (.ofSnippet .frontendForm)) =
    [artifacts.dialog]
  menu : SnippetKind.frontendRoute.produce (Blueprint.build moduleName now request (.ofSnippet .frontendRoute)) =
    [artifacts.menuEntry, artifacts.menuAlias]

/-- Whatever one of the artifacts names, another one declares. -/
structure Resolve (artifacts : Artifacts) (kebab : String) : Prop where
  providers : ∀ line ∈ linesOf artifacts.providers.content,
    Provides (packageFile? artifacts.repository artifacts.service artifacts.handler) line
  routes : ∀ line ∈ linesOf artifacts.routes.content, Registers artifacts.handler artifacts.permissions.content line
  migration : ∀ line ∈ linesOf artifacts.migration.content, Migrates artifacts.model line
  menuEntry : ∀ line ∈ linesOf artifacts.menuEntry.content,
    Enters artifacts.permissions.content artifacts.menuAlias.content artifacts.page.targetFile line
  menuView : ∃ name, "    component: RoutesAlias." ++ name ++ "," ∈ linesOf artifacts.menuEntry.content
  imports : ∀ importer ∈ [artifacts.page, artifacts.dialog], ∀ clause source,
    Imports importer.content clause source →
    IsSupplied artifacts.client artifacts.dialog importer clause source
  clientTarget : artifacts.client.targetFile = "web/src/api/" ++ kebab ++ ".ts"
  clientImports : ∀ importer ∈ [artifacts.page, artifacts.dialog], ∃ clause,
    Imports importer.content clause ("@/api/" ++ kebab) ∧ importedNames clause ≠ []
  dialogImport : ∃ clause path, Imports artifacts.page.content clause ("./" ++ path)

end Artifacts

/-- The texts of a request that are shown to users stay within one line, and its display name within
quotation marks. -/
structure Request.IsOneLine (request : Request) : Prop where
  display : '\n' ∉ request.resolvedDisplayName.toList
  quoted : '\'' ∉ request.resolvedDisplayName.toList
  comments : ∀ field ∈ request.fields, '\n' ∉ field.comment.toList

section

variable {request : Request} (moduleName : String) (now : Instant) (accepted : Validation.check request = [])
include accepted

/-- The files of the layers declare the type of the model, the constructors and the methods of the
handler. -/
theorem exists_layers_declaring : ∃ modelText repositoryText serviceText handlerText,
    rendered "model.go" Template.Bundled.model
      (Blueprint.build moduleName now request (.one (.layer .model))) = .ok modelText ∧
    rendered "repository.go" Template.Bundled.repository
      (Blueprint.build moduleName now request (.one (.layer .repository))) = .ok repositoryText ∧
    rendered "service.go" Template.Bundled.service
      (Blueprint.build moduleName now request (.one (.layer .service))) = .ok serviceText ∧
    rendered "handler.go" Template.Bundled.handler
      (Blueprint.build moduleName now request (.one (.layer .handler))) = .ok handlerText ∧
    HasLine ("type " ++ request.modelName ++ " struct \x7b") modelText ∧
    (∀ entry ∈ constructors request.modelName, ∃ file,
      packageFile? repositoryText serviceText handlerText entry.1 = some file ∧
        HasLine ("func " ++ entry.2 ++ "(") file) ∧
    ∀ method ∈ handlerMethods, HasLine ("func (h *" ++ (request.modelName ++ "Handler") ++ (") " ++ method ++ "("))
      handlerText := by
  have model := Naming.not_mem_of_isIdentifier Text.isSign_lineFeed
    (Validation.check_eq_nil.1 accepted).modelName.identifier
  have named (layer : String) (plain : '\n' ∉ layer.toList) : '\n' ∉ (request.modelName ++ layer).toList := by
    rw [String.toList_append, List.mem_append, not_or]
    exact ⟨model, plain⟩
  have line (layer : String) : "func New" ++ (request.modelName ++ layer) ++ "(" =
      "func " ++ ("New" ++ request.modelName ++ layer) ++ "(" := by
    simp [← String.toList_inj, Template.toList_literal]
  obtain ⟨modelText, modelShown, struct⟩ := Template.Bundled.exists_model_declaring
    (b := Blueprint.build moduleName now request (.one (.layer .model))) model
  obtain ⟨repositoryText, repositoryShown, repository⟩ := Template.Bundled.exists_repository_declaring
    (b := Blueprint.build moduleName now request (.one (.layer .repository))) (named "Repository" (by decide))
  obtain ⟨serviceText, serviceShown, service⟩ := Template.Bundled.exists_service_declaring
    (b := Blueprint.build moduleName now request (.one (.layer .service))) (named "Service" (by decide))
  obtain ⟨handlerText, handlerShown, handler, methods⟩ := Template.Bundled.exists_handler_declaring
    (b := Blueprint.build moduleName now request (.one (.layer .handler))) (named "Handler" (by decide))
  refine ⟨modelText, repositoryText, serviceText, handlerText, modelShown, repositoryShown,
    serviceShown, handlerShown, struct, ?_, methods⟩
  simp only [constructors, List.forall_mem_cons, List.not_mem_nil, false_imp_iff, implies_true, and_true, ← line]
  exact ⟨⟨repositoryText, rfl, repository⟩, ⟨serviceText, rfl, service⟩, ⟨handlerText, rfl, handler⟩⟩

theorem exists_areGenerated : ∃ artifacts : Artifacts, artifacts.AreGenerated moduleName now request := by
  obtain ⟨model, repository, service, handler, modelShown, repositoryShown, serviceShown, handlerShown, -⟩ :=
    exists_layers_declaring moduleName now accepted
  exact ⟨⟨model, repository, service, handler, _, _, _, _, _, _, _, _, _, _⟩,
    modelShown, repositoryShown, serviceShown, handlerShown, rfl, rfl, rfl, rfl, rfl, rfl, rfl, rfl⟩

/-- The artifacts of an accepted request refer to what others of them declare. -/
theorem artifacts_resolve (oneLine : request.IsOneLine) :
    ∃ artifacts : Artifacts, artifacts.AreGenerated moduleName now request ∧
      artifacts.Resolve (Naming.kebabCase request.modelName) := by
  have proper := Validation.check_eq_nil.1 accepted
  have word : Naming.isIdentifier (Names.ofRequest request).model = true := proper.modelName.identifier
  have display : '\n' ∉ (Names.ofRequest request).display.toList := oneLine.display
  have lacks : ∀ mark, Text.IsSign mark → mark ≠ '-' → (Names.ofRequest request).Lacks mark :=
    fun mark sign other => Names.lacks_ofRequest accepted sign other
  have feed := lacks '\n' Text.isSign_lineFeed (by decide)
  have quote := lacks '"' isSign_quote (by decide)
  have marks : ∀ mark ∈ ['\'', '\n'], (Names.ofRequest request).Lacks mark := by
    rw [List.forall_mem_cons, List.forall_mem_singleton]
    exact ⟨lacks '\'' isSign_apostrophe (by decide), feed⟩
  have views : ∀ view ∈ request.fields.map FieldView.ofField, view.IsOneLine :=
    List.forall_mem_map.2 fun field member =>
      FieldView.isOneLine_ofField (proper.fields field member).identifier (oneLine.comments field member)
  have api : '\n' ∉ (Names.ofRequest request).apiBase.toList := by
    change '\n' ∉ ("/admin-api/" ++ (Names.ofRequest request).kebab).toList
    simp [Template.toList_literal, feed.kebab]
  have path : '\n' ∉ (Names.ofRequest request).routePath.toList ∧
      '"' ∉ (Names.ofRequest request).routePath.toList := by
    change '\n' ∉ ("/" ++ (Names.ofRequest request).kebab).toList ∧
      '"' ∉ ("/" ++ (Names.ofRequest request).kebab).toList
    simp [Template.toList_literal, feed.kebab, quote.kebab]
  obtain ⟨modelText, repositoryText, serviceText, handlerText, modelShown, repositoryShown,
    serviceShown, handlerShown, struct, constructed, methods⟩ :=
    exists_layers_declaring moduleName now accepted
  obtain ⟨providers, aggregate, wire, provided⟩ :=
    exists_wire_providing word display constructed
  obtain ⟨permissions, permission, defined⟩ := exists_permission_defining lacks display api
  obtain ⟨routes, routesMade, registered⟩ :=
    exists_routes_registering word lacks display rfl path methods defined
  obtain ⟨migration, migrationMade, migrated⟩ := exists_migration_migrating word lacks struct
  obtain ⟨menuEntry, menuAlias, menu, entered, viewed⟩ :=
    exists_frontendRoute_entering word lacks display oneLine.quoted defined
  obtain ⟨client, clientMade, clientTarget, exported⟩ :=
    exists_client_exporting (Blueprint.build moduleName now request (.ofSnippet .frontendApi)) feed.model api
  obtain ⟨page, pageMade, pageTarget, pageReads⟩ :=
    exists_page_importing (b := Blueprint.build moduleName now request (.ofSnippet .frontendPage))
      marks views
  obtain ⟨dialog, dialogMade, dialogTarget, dialogReads⟩ :=
    exists_dialog_importing (b := Blueprint.build moduleName now request (.ofSnippet .frontendForm))
      marks views display
  change page.targetFile = viewDirectory (Names.ofRequest request) ++ "/index.vue" at pageTarget
  rw [← pageTarget] at entered
  let artifacts : Artifacts := {
    model := modelText, repository := repositoryText, service := serviceText, handler := handlerText
    routes, providers, aggregate, migration, permissions, client, page, dialog, menuEntry, menuAlias }
  have supplied := isSupplied_imports word clientTarget exported pageReads dialogReads pageTarget dialogTarget
  refine ⟨artifacts, ?_, ?_⟩
  · exact ⟨modelShown, repositoryShown, serviceShown, handlerShown, routesMade, wire, migrationMade,
      permission, clientMade, pageMade, dialogMade, menu⟩
  · exact ⟨provided, registered, migrated, entered, ⟨_, viewed⟩, supplied, clientTarget,
      exists_client_import word pageReads dialogReads, exists_dialog_import pageReads⟩

end

/-- A catalog whose texts have separators and quotation marks. -/
def catalogRequest : Request where
  component := .all
  modelName := "CatalogItem"
  displayName := some "Catalog \"item\""
  fields := [
    { name := "title", logicalType := "string", comment := "Full title, shown in lists"
      validationRule := "required" },
    { name := "isActive", logicalType := "bool", comment := "It's active" }]

theorem artifacts_resolve_catalog : Validation.check catalogRequest = [] ∧ catalogRequest.IsOneLine ∧
    ∃ artifacts : Artifacts, artifacts.AreGenerated "shop" default catalogRequest ∧
      artifacts.Resolve "catalog-item" ∧
      linesOf artifacts.providers.content = [
        "\t// Catalog \"item\"", "\trepository.NewCatalogItemRepository,", "\tservice.NewCatalogItemService,",
        "\thandler.NewCatalogItemHandler,"] := by
  have accepted : Validation.check catalogRequest = [] := by decide
  have oneLine : catalogRequest.IsOneLine := ⟨by decide, by decide, by decide⟩
  obtain ⟨artifacts, generated, resolve⟩ := artifacts_resolve "shop" default accepted oneLine
  have kebab : Naming.kebabCase catalogRequest.modelName = "catalog-item" := by decide +kernel
  rw [kebab] at resolve
  refine ⟨accepted, oneLine, artifacts, generated, resolve, ?_⟩
  have made := congrArg (fun made => (made.map fun snippet => linesOf snippet.content).head?) generated.wire
  rw [List.map_cons, List.head?_cons] at made
  refine Option.some.inj (made.symm.trans ?_)
  decide +kernel

/-- A bill under a display name, with a comment on its field. -/
def shownBill (display comment : String) : Request where
  component := .all
  modelName := "Bill"
  displayName := some display
  fields := [{ name := "total", logicalType := "string", comment }]

/-- The display name goes on in a line that looks like a constructor. -/
def brokenDisplay : Request :=
  shownBill "Bills\n\tghost.NewGhost," ""

/-- The display name goes on in quotation marks of its own. -/
def quotedDisplay : Request :=
  shownBill "Bills', authMark: 'system.ghost:list" ""

/-- The comment goes on in a line that looks like an import. -/
def brokenComment : Request :=
  shownBill "Bills" "Total\nimport Ghost from './ghost.vue'\nof the bill"

theorem not_provides_ghost (repository service handler : String) :
    ¬ Provides (packageFile? repository service handler) "\tghost.NewGhost," := by
  intro provides
  generalize spelling : "\tghost.NewGhost," = line at provides
  cases provides with
  | comment text => simp [← String.toList_inj, Template.toList_literal] at spelling
  | @provider package name file word found declared =>
    have known : package = "repository" ∨ package = "service" ∨ package = "handler" := by
      by_contra other
      simp only [not_or, ← beq_eq_false_iff_ne] at other
      simp [packageFile?, List.lookup_cons, other] at found
    rcases known with rfl | rfl | rfl
    all_goals simp [← String.toList_inj, Template.toList_literal] at spelling

theorem not_enters_ghost (permissions aliases page : String) :
    ¬ Enters permissions aliases page "      title: 'Bills', authMark: 'system.ghost:list'," := by
  intro enters
  generalize spelling : "      title: 'Bills', authMark: 'system.ghost:list'," = line at enters
  cases enters with
  | frame known =>
    subst spelling
    exact absurd known (by decide)
  | @text key value known plain =>
    simp only [List.mem_cons, List.not_mem_nil, or_false] at known
    rcases known with rfl | rfl | rfl
    · simp [← String.toList_inj, Template.toList_literal] at spelling
    · simp [← String.toList_inj, Template.toList_literal] at spelling
    · have parts : "      title: 'Bills', authMark: 'system.ghost:list'," =
          "      title" ++ ": '" ++ "Bills', authMark: 'system.ghost:list" ++ "'," := by decide
      rw [parts, ← String.toList_inj] at spelling
      simp only [String.toList_append, List.append_cancel_right_eq, List.append_cancel_left_eq] at spelling
      rw [← spelling] at plain
      exact plain (by decide)
  | view => simp [← String.toList_inj, Template.toList_literal] at spelling
  | button => simp [← String.toList_inj, Template.toList_literal] at spelling

theorem not_isSupplied_ghost {client dialog importer : Snippet} (clause : String)
    (target : dialog.targetFile = "web/src/views/bill/modules/bill-dialog.vue") :
    ¬ IsSupplied client dialog importer clause "./ghost.vue" := by
  intro supplied
  generalize spelling : "./ghost.vue" = source at supplied
  cases supplied with
  | library known =>
    subst spelling
    exact absurd known (by decide)
  | client => simp [← String.toList_inj, Template.toList_literal] at spelling
  | @dialog directory path own same =>
    have beside : path = "ghost.vue" := by
      rw [show "./ghost.vue" = "./" ++ "ghost.vue" by decide, ← String.toList_inj] at spelling
      simp only [String.toList_append, List.append_cancel_left_eq] at spelling
      exact (String.toList_inj.1 spelling).symm
    rw [target, beside] at same
    have ending := congrArg (fun file : String => file.toList.reverse.take 10) same
    simp [Template.toList_literal] at ending

/-- The request is accepted and its artifacts are generated, but they refer to something that none
of them declares. -/
structure Request.Misleads (request : Request) : Prop where
  accepted : Validation.check request = []
  generated : ∃ artifacts : Artifacts, artifacts.AreGenerated "shop" default request
  lost : ¬ ∃ artifacts : Artifacts, artifacts.AreGenerated "shop" default request ∧
    artifacts.Resolve (Naming.kebabCase request.modelName)

theorem misleads_of_lost {request : Request} (accepted : Validation.check request = [])
    (lost : ∀ artifacts : Artifacts, artifacts.AreGenerated "shop" default request →
      ¬ artifacts.Resolve (Naming.kebabCase request.modelName)) : request.Misleads :=
  ⟨accepted, exists_areGenerated "shop" default accepted, fun ⟨artifacts, generated, resolve⟩ =>
    lost artifacts generated resolve⟩

theorem misleads_brokenDisplay : brokenDisplay.Misleads := by
  refine misleads_of_lost (by decide) fun artifacts generated resolve => ?_
  refine not_provides_ghost _ _ _ (resolve.providers _ ?_)
  rw [← (List.cons.inj generated.wire).1, Placement.toSnippet, linesOf_paragraph_eq_flatMap (List.cons_ne_nil _ _)]
  exact List.mem_flatMap.2 ⟨_, List.mem_cons_self, by decide⟩

theorem misleads_quotedDisplay : quotedDisplay.Misleads := by
  refine misleads_of_lost (by decide) fun artifacts generated resolve => ?_
  refine not_enters_ghost _ _ _ (resolve.menuEntry _ ?_)
  rw [← (List.cons.inj generated.menu).1, Placement.toSnippet, routeEntry,
    linesOf_paragraph_eq_flatMap (List.cons_ne_nil _ _)]
  exact List.mem_flatMap.2 ⟨"      title: 'Bills', authMark: 'system.ghost:list',", by decide, by decide⟩

theorem misleads_brokenComment : brokenComment.Misleads := by
  refine misleads_of_lost (by decide) fun artifacts generated resolve => ?_
  have target : artifacts.dialog.targetFile = "web/src/views/bill/modules/bill-dialog.vue" := by
    rw [← (List.cons.inj generated.dialog).1]
    decide +kernel
  refine not_isSupplied_ghost "Ghost" target (resolve.imports artifacts.page List.mem_cons_self "Ghost" _ ?_)
  refine ⟨"import Ghost from './ghost.vue'", ?_, by decide, by decide, by decide⟩
  rw [← (List.cons.inj generated.page).1, Placement.toSnippet,
    linesOf_paragraph_eq_flatMap (by simp [pageScript])]
  let item := "      <el-form-item label=\"Total\nimport Ghost from './ghost.vue'\nof the bill\">"
  refine List.mem_flatMap.2 ⟨item, List.mem_append_left _ ?_, ?_⟩
  · decide +kernel
  · decide

/-- Without the condition a line of a snippet may refer to something that is declared nowhere. -/
theorem not_artifacts_resolve : brokenDisplay.Misleads ∧ quotedDisplay.Misleads ∧ brokenComment.Misleads :=
  ⟨misleads_brokenDisplay, misleads_quotedDisplay, misleads_brokenComment⟩

end Scaffold
