import Scaffold.Proofs.Snippet.ClientModules

namespace Scaffold

/-!
# References between the artifacts of a model

Files and snippets of a model name things that others of them declare: constructors, methods, a
type, permissions, an alias, and what the pages import.  A snippet is read line by line.  Each line
has one of a few shapes, and a shape that refers to something comes with the line that declares it.
-/

open Template.Bundled (HasLine linesOf handlerMethods)
open Text (paragraph)

namespace Snippets

/-! ## Shapes of lines -/

/-- The text defines the permission. -/
def Defines (text code : String) : Prop :=
  '"' ∉ code.toList ∧ HasLine ("\t\x7bCode: \"" ++ code ++ "\",") text

/-- The file of the package that a provider comes from. -/
def packageFile? (repository service handler package : String) : Option String :=
  [("repository", repository), ("service", service), ("handler", handler)].lookup package

/-- A line of the provider list: a comment, or a constructor that the file of its package
declares. -/
inductive Provides (file? : String → Option String) : String → Prop
  | comment (text : String) : Provides file? ("\t// " ++ text)
  | provider {package name file : String} (word : Naming.isIdentifier name = true)
      (found : file? package = some file) (declared : HasLine ("func " ++ name ++ "(") file) :
      Provides file? ("\t" ++ package ++ "." ++ name ++ ",")

/-- A line of the registered routes: a comment, the group and its braces, or a route with a method
that the handler has and a permission that is defined. -/
inductive Registers (handler permissions : String) : String → Prop
  | comment (text : String) : Registers handler permissions ("\t// " ++ text)
  | group {name path : String} (plainName : '.' ∉ name.toList) (plainPath : '"' ∉ path.toList) :
      Registers handler permissions ("\t" ++ name ++ " := router.Group(\"" ++ path ++ "\")")
  | opening : Registers handler permissions "\t\x7b"
  | closing : Registers handler permissions "\t\x7d"
  | route {call path code type method : String} (plainCall : '(' ∉ call.toList) (plainPath : '"' ∉ path.toList)
      (words : Naming.isIdentifier type = true ∧ Naming.isIdentifier method = true)
      (served : HasLine ("func (h *" ++ type ++ (") " ++ method ++ "(")) handler)
      (permitted : Defines permissions code) :
      Registers handler permissions
        ("\t\t" ++ call ++ "(\"" ++ path ++ "\", middleware.RequirePermission(\"" ++ code
        ++ "\"), handlers." ++ type ++ "." ++ method ++ ")")

/-- The line of the migration list: a type that the model's file declares. -/
inductive Migrates (model : String) : String → Prop
  | entry {type : String} (word : Naming.isIdentifier type = true)
      (declared : HasLine ("type " ++ type ++ " struct \x7b") model) (table : String) :
      Migrates model ("\t\t&models." ++ type ++ "\x7b\x7d, // " ++ table)

/-- The alias is defined by a text, as the path of a page. -/
def Aliases (text name page : String) : Prop :=
  ∃ path, '\'' ∉ path.toList ∧ HasLine ("  " ++ name ++ " = '" ++ path ++ "',") text ∧
    page = "web/src/views" ++ path ++ ".vue"

/-- The lines of a menu route that say nothing about its model. -/
def menuFrame : List String :=
  ["  \x7b", "    meta: \x7b", "      keepAlive: true,", "      authList: [", "      ]", "    \x7d", "  \x7d,"]

/-- A line of the menu route: part of its frame, a text, the page by its alias, or a button with a
permission that is defined. -/
inductive Enters (permissions aliases page : String) : String → Prop
  | frame {line : String} (known : line ∈ menuFrame) : Enters permissions aliases page line
  | text {key value : String} (known : key ∈ ["    path", "    name", "      title"])
    (plain : '\'' ∉ value.toList) :
      Enters permissions aliases page (key ++ ": '" ++ value ++ "',")
  | view {name : String} (word : Naming.isIdentifier name = true) (resolved : Aliases aliases name page) :
      Enters permissions aliases page ("    component: RoutesAlias." ++ name ++ ",")
  | button {title code ending : String} (plainTitle : '\'' ∉ title.toList) (plainCode : '\'' ∉ code.toList)
      (permitted : Defines permissions code) (last : ending ∈ ["", ","]) :
      Enters permissions aliases page
        ("        \x7b title: '" ++ title ++ "', authMark: '" ++ code ++ "' \x7d" ++ ending)

/-- What a file of the client imports: a library, exported names of the client module, or the dialog
beside it. -/
inductive IsSupplied (client dialog importer : Snippet) (clause : String) : String → Prop
  | library {source : String} (known : source ∈ ["vue", "element-plus"]) :
    IsSupplied client dialog importer clause source
  | client {path : String} (target : client.targetFile = "web/src/" ++ path ++ ".ts")
      (exported : ∀ name ∈ importedNames clause, Exports client.content name) :
      IsSupplied client dialog importer clause ("@/" ++ path)
  | dialog {directory path : String} (own : importer.targetFile = directory ++ "/index.vue")
      (target : dialog.targetFile = directory ++ "/" ++ path) :
        IsSupplied client dialog importer clause ("./" ++ path)

/-! ## Snippets for the server -/

theorem isSign_quote : Text.IsSign '"' :=
  ⟨by decide, by decide⟩

theorem isSign_apostrophe : Text.IsSign '\'' :=
  ⟨by decide, by decide⟩

theorem isSign_parenthesis : Text.IsSign '(' :=
  ⟨by decide, by decide⟩

theorem isIdentifier_around {first name last : String} (opens : Naming.isIdentifier first = true)
    (word : Naming.isIdentifier name = true) (closes : last.toList.all Naming.continuesIdentifier = true) :
    Naming.isIdentifier (first ++ name ++ last) = true :=
  Naming.isIdentifier_append (Naming.isIdentifier_append opens (Naming.all_continuesIdentifier word)) closes

section

variable {names : Names} (word : Naming.isIdentifier names.model = true)
  (lacks : ∀ mark, Text.IsSign mark → mark ≠ '-' → names.Lacks mark) (display : '\n' ∉ names.display.toList)

/-- The constructors of the provider list. -/
def constructors (model : String) : List (String × String) := [
  ("repository", "New" ++ model ++ "Repository"), ("service", "New" ++ model ++ "Service"),
  ("handler", "New" ++ model ++ "Handler")]

include word display in
/-- Of the two snippets for injection, the first provides the constructors. -/
theorem exists_wire_providing {file? : String → Option String}
    (declared : ∀ entry ∈ constructors names.model, ∃ file, file? entry.1 = some file ∧
      HasLine ("func " ++ entry.2 ++ "(") file) :
    ∃ providers aggregate, wire names = [providers, aggregate] ∧
      ∀ line ∈ linesOf providers.content, Provides file? line := by
  have model := Naming.not_mem_of_isIdentifier Text.isSign_lineFeed word
  have provides (package layer : String)
      (known : (package, "New" ++ names.model ++ layer) ∈ constructors names.model)
      (closes : layer.toList.all Naming.continuesIdentifier = true) :
      Provides file? ("\t" ++ package ++ "." ++ ("New" ++ names.model ++ layer) ++ ",") := by
    obtain ⟨file, found, declares⟩ := declared _ known
    exact .provider (isIdentifier_around (by decide) word closes) found declares
  have repository := provides "repository" "Repository" (by simp [constructors]) (by decide)
  have service := provides "service" "Service" (by simp [constructors]) (by decide)
  have handler := provides "handler" "Handler" (by simp [constructors]) (by decide)
  refine ⟨_, _, rfl, ?_⟩
  simp only [Placement.toSnippet]
  rw [linesOf_paragraph (List.cons_ne_nil _ _)]
  · simp only [List.forall_mem_cons, List.not_mem_nil, false_imp_iff, implies_true, and_true]
    refine ⟨.comment _, ?_, ?_, ?_⟩
    · convert repository using 1
      simp [← String.toList_inj, Template.toList_literal]
    · convert service using 1
      simp [← String.toList_inj, Template.toList_literal]
    · convert handler using 1
      simp [← String.toList_inj, Template.toList_literal]
  · simp [Template.toList_literal, model, display]

include word lacks in
/-- The migration list takes the type of the model. -/
theorem exists_migration_migrating {file : String}
    (declared : HasLine ("type " ++ names.model ++ " struct \x7b") file) :
    ∃ snippet, migration names = [snippet] ∧ ∀ line ∈ linesOf snippet.content, Migrates file line := by
  have feed := lacks '\n' Text.isSign_lineFeed (by decide)
  refine ⟨_, rfl, ?_⟩
  simp only [Placement.toSnippet]
  rw [linesOf_of_unbroken (by simp [Template.toList_literal, feed.model, feed.table]), List.forall_mem_singleton]
  exact Migrates.entry word declared names.table

include lacks display in
/-- The permissions of a model are defined, one for each action. -/
theorem exists_permission_defining (api : '\n' ∉ names.apiBase.toList) :
    ∃ snippet, permission names = [snippet] ∧
      ∀ action ∈ permissionActions, Defines snippet.content (permissionModule names ++ ":" ++ action.1) := by
  have feed := (lacks '\n' Text.isSign_lineFeed (by decide)).permissionRoot
  have quote := (lacks '"' isSign_quote (by decide)).permissionRoot
  have actions : ∀ action ∈ permissionActions,
      '"' ∉ action.1.toList ∧ '\n' ∉ action.1.toList ∧ '\n' ∉ action.2.toList := by
    decide
  refine ⟨_, rfl, fun action listed => ⟨?_, permissionLine names action, ?_, ?_⟩⟩
  · have plain := (actions action listed).1
    simp [permissionModule, Template.toList_literal, quote, plain]
  · simp only [Placement.toSnippet]
    rw [linesOf_paragraph (List.cons_ne_nil _ _)]
    · exact List.mem_cons_of_mem _ (List.mem_map_of_mem listed)
    · simp only [List.forall_mem_cons, List.forall_mem_map]
      refine ⟨?_, fun other known => ?_⟩
      · simp [permissionModule, Template.toList_literal, feed, display]
      · have plain := (actions other known).2
        unfold permissionLine
        simp [permissionModule, Template.toList_literal, feed, display, api, plain]
  · unfold permissionLine
    simp [Template.toList_literal]

include word lacks display in
/-- The routes of a model are served by the methods of its handler and guarded by its
permissions. -/
theorem exists_routes_registering {handler permissions : String} (type : names.handler = names.model ++ "Handler")
    (path : '\n' ∉ names.routePath.toList ∧ '"' ∉ names.routePath.toList)
    (served : ∀ method ∈ handlerMethods, HasLine ("func (h *" ++ names.handler ++ (") " ++ method ++ "(")) handler)
    (permitted : ∀ action ∈ permissionActions, Defines permissions (permissionModule names ++ ":" ++ action.1)) :
    ∃ snippet, routes names = [snippet] ∧ ∀ line ∈ linesOf snippet.content, Registers handler permissions line := by
  have feed := lacks '\n' Text.isSign_lineFeed (by decide)
  have point := lacks '.' Names.isSign_point (by decide)
  have parenthesis := lacks '(' isSign_parenthesis (by decide)
  have handlerWord : Naming.isIdentifier names.handler = true := by
    rw [type]
    exact Naming.isIdentifier_append word (by decide)
  have handlerFeed : '\n' ∉ names.handler.toList := Naming.not_mem_of_isIdentifier Text.isSign_lineFeed handlerWord
  have known : ∀ route ∈ crudRoutes, route.method ∈ handlerMethods ∧ Naming.isIdentifier route.method = true ∧
      '(' ∉ route.verb.toList ∧ '"' ∉ route.path.toList ∧ route.action ∈ permissionActions.map Prod.fst := by
    decide
  have plain : ∀ route ∈ crudRoutes, '\n' ∉ route.method.toList ∧ '\n' ∉ route.verb.toList ∧
      '\n' ∉ route.path.toList ∧
      '\n' ∉ route.action.toList := by
    decide
  refine ⟨_, rfl, ?_⟩
  simp only [Placement.toSnippet]
  rw [linesOf_paragraph (by simp)]
  · simp only [List.forall_mem_append, List.forall_mem_cons, List.forall_mem_map, List.not_mem_nil, false_imp_iff,
      implies_true, and_true]
    refine ⟨⟨⟨?_, ?_, .opening⟩, fun route listed => ?_⟩, .closing⟩
    · rw [String.append_assoc]
      exact .comment _
    · have plainName : '.' ∉ (names.lowerCamel ++ "Group").toList := by
        simp [Template.toList_literal, point.lowerCamel]
      convert Registers.group plainName path.2 using 1
      simp [← String.toList_inj, Template.toList_literal]
    · obtain ⟨method, methodWord, verb, plainPath, action⟩ := known route listed
      obtain ⟨entry, allowed, same⟩ := List.mem_map.1 action
      have permission := permitted entry allowed
      rw [same] at permission
      have plainCall : '(' ∉ (names.lowerCamel ++ "Group." ++ route.verb).toList := by
        simp [Template.toList_literal, parenthesis.lowerCamel, verb]
      convert Registers.route plainCall plainPath ⟨handlerWord, methodWord⟩ (served _ method) permission using 1
      unfold routeLine permissionModule
      simp [← String.toList_inj, Template.toList_literal]
  · simp only [List.forall_mem_append, List.forall_mem_cons, List.forall_mem_map, List.not_mem_nil, false_imp_iff,
      implies_true, and_true]
    refine ⟨⟨⟨?_, ?_, by decide⟩, fun route listed => ?_⟩, by decide⟩
    · simp [Template.toList_literal, display]
    · simp [Template.toList_literal, feed.lowerCamel, path.1]
    · unfold routeLine
      simp [Template.toList_literal, feed.lowerCamel, feed.permissionRoot, handlerFeed, plain route listed]

/-! ## Snippets for the client -/

include word lacks display in
/-- The menu route shows the page of the model by its alias, with buttons that the permissions
guard. -/
theorem exists_frontendRoute_entering {permissions : String} (quoted : '\'' ∉ names.display.toList)
    (permitted : ∀ action ∈ permissionActions, Defines permissions (permissionModule names ++ ":" ++ action.1)) :
    ∃ entry pageAlias, frontendRoute names = [entry, pageAlias] ∧
      (∀ line ∈ linesOf entry.content,
        Enters permissions pageAlias.content (viewDirectory names ++ "/index.vue") line) ∧
      "    component: RoutesAlias." ++ names.model ++ "," ∈ linesOf entry.content := by
  have feed := lacks '\n' Text.isSign_lineFeed (by decide)
  have quote := lacks '\'' isSign_apostrophe (by decide)
  have aliasLine : '\n' ∉ (routeAlias names).toList := by
    simp [routeAlias, Template.toList_literal, feed.model, feed.kebab, display]
  have resolved : Aliases (routeAlias names) names.model (viewDirectory names ++ "/index.vue") := by
    refine ⟨"/" ++ names.kebab ++ "/index", by simp [Template.toList_literal, quote.kebab],
      ⟨routeAlias names, ?_, ?_⟩, ?_⟩
    · rw [linesOf_of_unbroken aliasLine]
      exact List.mem_singleton_self _
    · simp [routeAlias, Template.toList_literal]
    · simp [viewDirectory, ← String.toList_inj, Template.toList_literal]
  have button (title action ending : String) (known : action ∈ permissionActions.map Prod.fst)
      (plain : '\'' ∉ title.toList ∧ '\'' ∉ action.toList) (last : ending ∈ ["", ","]) :
      Enters permissions (routeAlias names) (viewDirectory names ++ "/index.vue")
        (authMark names title action ++ ending) := by
    obtain ⟨entry, allowed, rfl⟩ := List.mem_map.1 known
    have plainCode : '\'' ∉ (permissionModule names ++ ":" ++ entry.1).toList := by
      simp [permissionModule, Template.toList_literal, quote.permissionRoot, plain.2]
    convert Enters.button plain.1 plainCode (permitted entry allowed) last using 1
    unfold authMark permissionModule
    simp [← String.toList_inj, Template.toList_literal]
  have text (key value : String) (known : key ∈ ["    path", "    name", "      title"])
      (plain : '\'' ∉ value.toList) :
      Enters permissions (routeAlias names) (viewDirectory names ++ "/index.vue") (key ++ ": '" ++ value ++ "',") :=
    .text known plain
  have path := text "    path" ("/" ++ names.kebab) (by decide) (by simp [Template.toList_literal, quote.kebab])
  have name := text "    name" names.model (by decide) quote.model
  have title := text "      title" names.display (by decide) quoted
  have create := button "Create" "create" "," (by decide) (by decide) (by decide)
  have update := button "Edit" "update" "," (by decide) (by decide) (by decide)
  have delete := button "Delete" "delete" "" (by decide) (by decide) (by decide)
  refine ⟨_, _, rfl, ?_⟩
  simp only [Placement.toSnippet]
  rw [routeEntry, linesOf_paragraph (List.cons_ne_nil _ _)]
  · refine ⟨?_, by simp⟩
    simp only [List.forall_mem_cons, List.not_mem_nil, false_imp_iff, implies_true, and_true]
    refine ⟨.frame (by decide), ?_, ?_, .view word resolved, .frame (by decide), ?_,
      .frame (by decide), .frame (by decide), create, update, ?_, .frame (by decide),
      .frame (by decide), .frame (by decide)⟩
    · convert path using 1
      simp [← String.toList_inj, Template.toList_literal]
    · convert name using 1
      simp
    · convert title using 1
      simp
    · convert delete using 1
      rw [String.append_empty]
  · unfold authMark
    simp [Template.toList_literal, feed.model, feed.kebab, feed.permissionRoot, display]

end

theorem clientCalls_words {model call : String} (word : Naming.isIdentifier model = true)
    (listed : call ∈ clientCalls model) :
    Naming.isIdentifier call = true ∧ call ≠ "type" := by
  have solid := Naming.all_continuesIdentifier word
  have apart {call : String} (begins : call.toList.head? ≠ some 't') : call ≠ "type" := by
    rintro rfl
    exact begins (by decide)
  simp only [clientCalls, List.mem_cons, List.not_mem_nil, or_false] at listed
  rcases listed with rfl | rfl | rfl | rfl | rfl
  · exact ⟨isIdentifier_around (by decide) word (by decide), apart (by simp [Template.toList_literal])⟩
  · exact ⟨isIdentifier_around (by decide) word (by decide), apart (by simp [Template.toList_literal])⟩
  all_goals
    exact ⟨Naming.isIdentifier_append (by decide) solid, apart (by simp [Template.toList_literal])⟩

section

variable {names : Names} {client dialog importer : Snippet} (word : Naming.isIdentifier names.model = true)
  (target : client.targetFile = "web/src/api/" ++ names.kebab ++ ".ts")
  (exported : ∀ name ∈ (names.model ++ "Info") :: clientCalls names.model, Exports client.content name)

include word in
theorem importedNames_calls {first second : String} (firstCall : first ∈ clientCalls names.model)
    (secondCall : second ∈ clientCalls names.model) :
    importedNames (namedClause first second (names.model ++ "Info")) = [first, second, names.model ++ "Info"] := by
  obtain ⟨firstWord, firstApart⟩ := clientCalls_words word firstCall
  obtain ⟨secondWord, secondApart⟩ := clientCalls_words word secondCall
  have typeWord : Naming.isIdentifier (names.model ++ "Info") = true :=
    Naming.isIdentifier_append word (by decide)
  have typeApart : names.model ++ "Info" ≠ "type" := by
    intro same
    have last := congrArg (fun s => s.toList.getLast?) same
    simp [Template.toList_literal] at last
  apply importedNames_namedClause firstWord secondWord typeWord
  simp [firstApart.symm, secondApart.symm, typeApart.symm]

include word target exported in
theorem isSupplied_calls {first second : String} (firstCall : first ∈ clientCalls names.model)
    (secondCall : second ∈ clientCalls names.model) :
    IsSupplied client dialog importer (namedClause first second (names.model ++ "Info"))
      ("@/api/" ++ names.kebab) := by
  rw [show "@/api/" ++ names.kebab = "@/" ++ ("api/" ++ names.kebab) by
    simp [← String.toList_inj, Template.toList_literal]]
  refine .client ?_ ?_
  · rw [target]
    simp [← String.toList_inj, Template.toList_literal]
  · rw [importedNames_calls word firstCall secondCall]
    simp only [List.forall_mem_cons] at exported ⊢
    exact ⟨exported.2 first firstCall, exported.2 second secondCall, exported.1, by simp⟩

include word target exported in
theorem isSupplied_pageImports (own : importer.targetFile = viewDirectory names ++ "/index.vue")
    (dialogTarget : dialog.targetFile = viewDirectory names ++ "/modules/" ++ names.kebab ++ "-dialog.vue")
    {clause source : String} (listed : (clause, source) ∈ pageImports names) :
    IsSupplied client dialog importer clause source := by
  simp only [pageImports, List.mem_cons, List.not_mem_nil, or_false, Prod.mk.injEq] at listed
  rcases listed with ⟨-, rfl⟩ | ⟨rfl, rfl⟩ | ⟨-, rfl⟩
  · exact .library (by decide)
  · exact isSupplied_calls word target exported (by simp [clientCalls]) (by simp [clientCalls])
  · rw [show "./modules/" ++ names.kebab ++ "-dialog.vue" = "./" ++ ("modules/" ++ names.kebab ++ "-dialog.vue") by
      simp [← String.toList_inj, Template.toList_literal]]
    refine .dialog own ?_
    rw [dialogTarget]
    simp [← String.toList_inj, Template.toList_literal]

include word target exported in
theorem isSupplied_dialogImports {clause source : String} (listed : (clause, source) ∈ dialogImports names) :
    IsSupplied client dialog importer clause source := by
  simp only [dialogImports, List.mem_cons, List.not_mem_nil, or_false, Prod.mk.injEq] at listed
  rcases listed with ⟨-, rfl⟩ | ⟨-, rfl⟩ | ⟨rfl, rfl⟩
  · exact .library (by decide)
  · exact .library (by decide)
  · exact isSupplied_calls word target exported (by simp [clientCalls]) (by simp [clientCalls])

variable {page : Snippet}
  (pageReads : ∀ clause source, Imports page.content clause source ↔ (clause, source) ∈ pageImports names)
  (dialogReads : ∀ clause source, Imports dialog.content clause source ↔ (clause, source) ∈ dialogImports names)

include word target exported pageReads dialogReads in
theorem isSupplied_imports (own : page.targetFile = viewDirectory names ++ "/index.vue")
    (dialogTarget : dialog.targetFile = viewDirectory names ++ "/modules/" ++ names.kebab ++ "-dialog.vue") :
    ∀ importer ∈ [page, dialog], ∀ clause source, Imports importer.content clause source →
      IsSupplied client dialog importer clause source := by
  rw [List.forall_mem_cons, List.forall_mem_singleton]
  refine ⟨fun clause source read => ?_, fun clause source read => ?_⟩
  · exact isSupplied_pageImports word target exported own dialogTarget ((pageReads clause source).1 read)
  · exact isSupplied_dialogImports word target exported ((dialogReads clause source).1 read)

include word pageReads dialogReads in
/-- Both files import names from the client module. -/
theorem exists_client_import : ∀ importer ∈ [page, dialog], ∃ clause,
    Imports importer.content clause ("@/api/" ++ names.kebab) ∧ importedNames clause ≠ [] := by
  rw [List.forall_mem_cons, List.forall_mem_singleton]
  constructor
  · refine ⟨_, (pageReads _ _).2 (List.mem_cons_of_mem _ List.mem_cons_self), ?_⟩
    rw [importedNames_calls word (by simp [clientCalls]) (by simp [clientCalls])]
    exact List.cons_ne_nil _ _
  · refine ⟨_, (dialogReads _ _).2 (List.mem_cons_of_mem _ (List.mem_cons_of_mem _ List.mem_cons_self)), ?_⟩
    rw [importedNames_calls word (by simp [clientCalls]) (by simp [clientCalls])]
    exact List.cons_ne_nil _ _

include pageReads in
/-- The page imports a file beside it. -/
theorem exists_dialog_import : ∃ clause path, Imports page.content clause ("./" ++ path) := by
  refine ⟨names.model ++ "Dialog", "modules/" ++ names.kebab ++ "-dialog.vue", (pageReads _ _).2 ?_⟩
  have source : "./" ++ ("modules/" ++ names.kebab ++ "-dialog.vue") =
      "./modules/" ++ names.kebab ++ "-dialog.vue" := by
    simp [← String.toList_inj, Template.toList_literal]
  rw [source]
  simp [pageImports]

end

end Snippets
end Scaffold
