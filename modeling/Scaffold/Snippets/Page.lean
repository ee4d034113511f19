import Scaffold.Snippets.Placement

namespace Scaffold
namespace Snippets

/-!
# The list page of a model

A page with a search form, a table and paging.
-/

/-- The directory of a model's pages. -/
def viewDirectory (names : Names) : String :=
  "web/src/views/" ++ names.kebab

/-- Whether the page offers to search by a field: it is a flag, or text that is no time. -/
def isSearchable (field : FieldView) : Bool :=
  field.isStatus || (field.tsType == "string" && !field.temporal)

/-- The control by which a field is searched. -/
def searchControl (field : FieldView) : List String :=
  if field.isStatus then [
    "        <el-select v-model=\"query." ++ field.tsName ++ "\" clearable>",
    "          <el-option label=\"Enabled\" :value=\"1\" />",
    "          <el-option label=\"Disabled\" :value=\"0\" />",
    "        </el-select>"]
  else ["        <el-input v-model=\"query." ++ field.tsName ++ "\" clearable />"]

/-- The part of the search form for a field. -/
def searchItem (field : FieldView) : List String :=
  ["      <el-form-item label=\"" ++ field.label ++ "\">"] ++ searchControl field ++ ["      </el-form-item>"]

/-- The table column of a field. -/
def tableColumn (field : FieldView) : List String :=
  if field.isStatus then [
    "      <el-table-column prop=\"" ++ field.tsName ++ "\" label=\"" ++ field.label ++ "\">",
    "        <template #default=\"\x7b row \x7d\">",
    "          <el-tag :type=\"row." ++ field.tsName ++ " ? 'success' : 'info'\">\x7b\x7b row." ++ field.tsName
      ++ " ? 'Enabled' : 'Disabled' \x7d\x7d</el-tag>",
    "        </template>",
    "      </el-table-column>"]
  else ["      <el-table-column prop=\"" ++ field.tsName ++ "\" label=\"" ++ field.label ++ "\" />"]

/-- The markup of the page. -/
def pageMarkup (blueprint : Blueprint) : List String :=
  ["<template>", "  <div class=\"page-content\">", "    <el-form :model=\"query\" inline>"]
  ++ (blueprint.fields.filter isSearchable).flatMap searchItem
  ++ ["      <el-button type=\"primary\" @click=\"load\">Search</el-button>",
    "      <el-button @click=\"openDialog()\">Add</el-button>",
    "    </el-form>", "",
    "    <el-table :data=\"rows\" v-loading=\"loading\">",
    "      <el-table-column prop=\"id\" label=\"ID\" width=\"80\" />"]
  ++ blueprint.fields.flatMap tableColumn
  ++ ["      <el-table-column label=\"Actions\" width=\"160\">",
    "        <template #default=\"\x7b row \x7d\">",
    "          <el-button link @click=\"openDialog(row)\">Edit</el-button>",
    "          <el-button link type=\"danger\" @click=\"remove(row)\">Delete</el-button>",
    "        </template>",
    "      </el-table-column>",
    "    </el-table>", "",
    "    <el-pagination v-model:current-page=\"query.page\" v-model:page-size=\"query.page_size\""
      ++ " :total=\"total\" @change=\"load\" />",
    "    <" ++ blueprint.names.kebab ++ "-dialog v-model=\"dialogVisible\" :row=\"current\" @saved=\"load\" />",
    "  </div>",
    "</template>", ""]

/-- The script of the page. -/
def pageScript (names : Names) : List String := [
  "<script setup lang=\"ts\">",
  "import \x7b onMounted, reactive, ref \x7d from 'vue'",
  "import \x7b delete" ++ names.model ++ ", get" ++ names.model ++ "List, type " ++ names.model
    ++ "Info \x7d from '@/api/" ++ names.kebab ++ "'",
  "import " ++ names.model ++ "Dialog from './modules/" ++ names.kebab ++ "-dialog.vue'", "",
  "defineOptions(\x7b name: '" ++ names.model ++ "' \x7d)", "",
  "const query = reactive<Record<string, any>>(\x7b page: 1, page_size: 20 \x7d)",
  "const rows = ref<" ++ names.model ++ "Info[]>([])",
  "const total = ref(0)",
  "const loading = ref(false)",
  "const dialogVisible = ref(false)",
  "const current = ref<" ++ names.model ++ "Info>()", "",
  "async function load() \x7b",
  "  loading.value = true",
  "  try \x7b",
  "    const res = await get" ++ names.model ++ "List(query)",
  "    rows.value = res.list",
  "    total.value = res.total",
  "  \x7d finally \x7b",
  "    loading.value = false",
  "  \x7d",
  "\x7d", "",
  "function openDialog(row?: " ++ names.model ++ "Info) \x7b",
  "  current.value = row",
  "  dialogVisible.value = true",
  "\x7d", "",
  "async function remove(row: " ++ names.model ++ "Info) \x7b",
  "  await delete" ++ names.model ++ "(row.id)",
  "  await load()",
  "\x7d", "",
  "onMounted(load)",
  "</script>"]

/-- The list page of a model. -/
def frontendPage (blueprint : Blueprint) : List Snippet :=
  let names := blueprint.names
  let placement : Placement := {
    category := "frontend_page"
    targetFile := viewDirectory names ++ "/index.vue"
    marker? := none
    insertionPoint := "new file"
    description := names.display ++ " list page"
    priority := 1 }
  [placement.toSnippet names (paragraph (pageMarkup blueprint ++ pageScript names))]

end Snippets
end Scaffold
