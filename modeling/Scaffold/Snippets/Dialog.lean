import Scaffold.Snippets.Page

namespace Scaffold
namespace Snippets

/-!
# The edit dialog of a model

A form with one control for each field, by which a record is created or changed.
-/

/-- The name of a field in lower case, by which some controls are chosen. -/
def lowerName (field : FieldView) : String :=
  Text.lower field.sourceName

/-- Words in a field's name that ask for room. -/
def wideNames : List String :=
  ["description", "remark", "content"]

/-- Whether a field takes the whole width of the form. -/
def isWide (field : FieldView) : Bool :=
  FieldType.pointee field.goType == "bool" || wideNames.any (fun word => Text.contains (lowerName field) word)

/-- The control by which a field is edited. -/
def formControl (field : FieldView) : String :=
  let binding := "v-model=\"form." ++ field.tsName ++ "\""
  let base := FieldType.pointee field.goType
  if field.isStatus && base != "bool" then
    "<el-select " ++ binding ++ "><el-option label=\"Enabled\" :value=\"1\" />"
      ++ "<el-option label=\"Disabled\" :value=\"0\" /></el-select>"
  else if base == "bool" then "<el-switch " ++ binding ++ " />"
  else if field.temporal then
    "<el-date-picker " ++ binding ++ " type=\""
      ++ (if Text.contains (lowerName field) "date" then "date" else "datetime") ++ "\" />"
  else if field.tsType == "number" then "<el-input-number " ++ binding ++ " />"
  else if Text.contains (lowerName field) "password" then
    "<el-input " ++ binding ++ " type=\"password\" show-password />"
  else if isWide field then "<el-input " ++ binding ++ " type=\"textarea\" :rows=\"3\" />"
  else "<el-input " ++ binding ++ " />"

/-- The part of the form for a field. -/
def formItem (field : FieldView) : List String := [
  "        <el-col :span=\"" ++ (if isWide field then "24" else "12") ++ "\">",
  "          <el-form-item label=\"" ++ field.label ++ "\" prop=\"" ++ field.tsName ++ "\">",
  "            " ++ formControl field,
  "          </el-form-item>",
  "        </el-col>"]

/-- The markup of the dialog. -/
def dialogMarkup (blueprint : Blueprint) : List String :=
  let display := blueprint.names.display
  ["<template>",
    "  <el-dialog v-model=\"visible\" :title=\"form.id ? 'Edit " ++ display ++ "' : 'Add " ++ display
      ++ "'\" width=\"640px\">",
    "    <el-form ref=\"formRef\" :model=\"form\" :rules=\"rules\" label-width=\"100px\">",
    "      <el-row :gutter=\"16\">"]
  ++ blueprint.fields.flatMap formItem
  ++ ["      </el-row>",
    "    </el-form>",
    "    <template #footer>",
    "      <el-button @click=\"visible = false\">Cancel</el-button>",
    "      <el-button type=\"primary\" @click=\"submit\">Save</el-button>",
    "    </template>",
    "  </el-dialog>",
    "</template>", ""]

/-- The rule of a field that must not be left empty. -/
def requiredRule (field : FieldView) : String :=
  "  " ++ field.tsName ++ ": [\x7b required: true, message: '" ++ field.label
    ++ " is required', trigger: 'blur' \x7d],"

/-- The script of the dialog. -/
def dialogScript (blueprint : Blueprint) : List String :=
  let model := blueprint.names.model
  ["<script setup lang=\"ts\">",
    "import \x7b computed, reactive, ref, watch \x7d from 'vue'",
    "import type \x7b FormInstance, FormRules \x7d from 'element-plus'",
    "import \x7b create" ++ model ++ ", update" ++ model ++ ", type " ++ model ++ "Info \x7d from '@/api/"
      ++ blueprint.names.kebab ++ "'", "",
    "const props = defineProps<\x7b modelValue: boolean; row?: " ++ model ++ "Info \x7d>()",
    "const emit = defineEmits(['update:modelValue', 'saved'])",
    "const visible = computed(\x7b",
    "  get: () => props.modelValue,",
    "  set: (v) => emit('update:modelValue', v)",
    "\x7d)",
    "const formRef = ref<FormInstance>()",
    "const form = reactive<Record<string, any>>(\x7b\x7d)", "",
    "const rules: FormRules = \x7b"]
  ++ (blueprint.fields.filter FieldView.required).map requiredRule
  ++ ["\x7d", "",
    "watch(",
    "  () => props.row,",
    "  (row) => \x7b",
    "    Object.keys(form).forEach((key) => delete form[key])",
    "    Object.assign(form, row ?? \x7b\x7d)",
    "  \x7d,",
    "  \x7b immediate: true \x7d",
    ")", "",
    "async function submit() \x7b",
    "  await formRef.value?.validate()",
    "  if (form.id) \x7b",
    "    await update" ++ model ++ "(form.id, form)",
    "  \x7d else \x7b",
    "    await create" ++ model ++ "(form as any)",
    "  \x7d",
    "  visible.value = false",
    "  emit('saved')",
    "\x7d",
    "</script>"]

/-- The edit dialog of a model. -/
def frontendForm (blueprint : Blueprint) : List Snippet :=
  let names := blueprint.names
  let placement : Placement := {
    category := "frontend_form"
    targetFile := viewDirectory names ++ "/modules/" ++ names.kebab ++ "-dialog.vue"
    marker? := none
    insertionPoint := "new file"
    description := names.display ++ " create/edit dialog"
    priority := 2 }
  [placement.toSnippet names (paragraph (dialogMarkup blueprint ++ dialogScript blueprint))]

end Snippets
end Scaffold
