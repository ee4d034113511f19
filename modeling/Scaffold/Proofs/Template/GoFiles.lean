import Scaffold.Proofs.Template.Outline
import Scaffold.Template.Bundled

namespace Scaffold
namespace Template

/-!
# Outlines of the bundled templates

What the templates with a line for each field are read as.  The lines stand in loops, and a loop
takes the line feed before its tags away, so each line begins with the feed that ends the line
before it.

A listing of fields is a type name with an opening behind it, one line for each field, and a closing
line.  The outlines are cut into these listings and what stands between them.
-/

namespace Bundled

/-- A name, an opening, and one line for each field. -/
def listing (before : String) (named : String) (opening : String) (member : List Outline) (after : String) :
    List Outline := [
  .text before, .value ["names", named], .text opening, .loop "f" ["fields"] member, .text after]

/-! ## The model -/

/-- The line of a field in the struct of the model. -/
def modelMember : List Outline := [
  .text "\n\t",
  .value ["f", "name"],
  .text " ",
  .value ["f", "go_type"],
  .text " \x60",
  .option ["f", "storage_tag"] [
    .text "gorm:\"",
    .value ["f", "storage_tag"],
    .text "\" "],
  .text "json:\"",
  .value ["f", "json_key"],
  .text "\"\x60",
  .option ["f", "comment"] [
    .text " // ",
    .value ["f", "comment"],
    .text ""],
  .text ""]

/-- The model up to its struct. -/
def modelHead : List Outline := [
  .text "// Code generated by crudforge at ",
  .value ["generated_at"],
  .text ".\n\npackage ",
  .value ["package_name"],
  .text "\n\nimport (",
  .option ["has_time_field"] [
    .text "\n\t\"time\""],
  .text "\n\t\"",
  .value ["module_name"],
  .text "/internal/shared/types\"\n)\n\n// ",
  .value ["names", "model"],
  .text " ",
  .value ["names", "display"]]

/-- The struct of the model. -/
def modelStruct : List Outline :=
  listing "\ntype " "model" " struct \x7b\n\ttypes.BaseModel" modelMember "\n\x7d\n\n// TableName maps "

/-- The model behind its struct. -/
def modelTail : List Outline := [
  .value ["names", "model"],
  .text " to its table\nfunc (",
  .value ["names", "model"],
  .text ") TableName() string \x7b\n\treturn \"",
  .value ["names", "table"],
  .text "\"\n\x7d\n"]

set_option maxRecDepth 4000 in
theorem parse?_model : parse? model = some ⟨Outline.nodes (modelHead ++ modelStruct ++ modelTail)⟩ := by
  apply parse?_of_spell
  simp only [model, tokens?, toList_block, List.flatMap_cons, List.flatMap_nil, modelHead, modelStruct, modelMember,
    modelTail, listing, List.cons_append, List.nil_append, Outline.spell, Outline.spellPart, toList_literal]
  decide +kernel

/-! ## The types of a handler -/

/-- The line of a field that is given for a response. -/
def responseMember : List Outline := [
  .text "\n\t",
  .value ["f", "name"],
  .text " ",
  .value ["f", "go_type"],
  .text " \x60json:\"",
  .value ["f", "json_key"],
  .text "\"\x60"]

/-- The line of a field that is sent with a request, up to its comment. -/
def requestMember : List Outline := [
  .text "\n\t",
  .value ["f", "name"],
  .text " ",
  .value ["f", "go_type"],
  .text " \x60json:\"",
  .value ["f", "json_key"],
  .text "\"",
  .option ["f", "validation_rule"] [
    .text " binding:\"",
    .value ["f", "validation_rule"],
    .text "\""],
  .text "\x60"]

/-- The comment behind the line of a field. -/
def memberComment : List Outline := [
  .option ["f", "clean_comment"] [
    .text " // ",
    .value ["f", "clean_comment"],
    .text ""],
  .text ""]

/-- The types up to the first struct. -/
def typesHead : List Outline := [
  .text "// Code generated by crudforge at ",
  .value ["generated_at"],
  .text ".\n\npackage types\n",
  .option ["has_time_field"] [
    .text "\nimport \"time\"\n"],
  .text "\n// ",
  .value ["names", "create_request"]]

def createStruct : List Outline :=
  listing " is the body of a create call\ntype " "create_request" " struct \x7b" (requestMember ++ memberComment)
    "\n\x7d\n\n// "

def updateStruct : List Outline :=
  listing " is the body of an update call\ntype " "update_request" " struct \x7b" requestMember "\n\x7d\n\n// "

/-- The types between the structs of the requests and of the response. -/
def listStruct : List Outline := [
  .value ["names", "list_request"],
  .text " carries paging for list calls\ntype ",
  .value ["names", "list_request"],
  .text (" struct \x7b\n\tPage     int \x60form:\"page\" binding:\"omitempty,min=1\"\x60\n" ++
    "\tPageSize int \x60form:\"page_size\" binding:\"omitempty,min=1,max=100\"\x60\n\x7d\n\n// "),
  .value ["names", "response"],
  .text " is what the API returns for one ",
  .value ["names", "display"]]

def responseStruct : List Outline :=
  listing "\ntype " "response" " struct \x7b\n\tID uint \x60json:\"id\"\x60" responseMember "\n\x7d\n"

/-- All types of a handler. -/
def typesOutline : List Outline :=
  typesHead ++ createStruct ++ .value ["names", "update_request"] :: updateStruct ++ listStruct ++ responseStruct

set_option maxRecDepth 4000 in
theorem parse?_handlerTypes : parse? handlerTypes = some ⟨Outline.nodes typesOutline⟩ := by
  apply parse?_of_spell
  simp only [handlerTypes, tokens?, toList_block, List.flatMap_cons, List.flatMap_nil, typesOutline, typesHead,
    createStruct, updateStruct, listStruct, responseStruct, responseMember, requestMember, memberComment, listing,
    List.cons_append, List.nil_append, Outline.spell, Outline.spellPart, String.toList_append, toList_literal]
  decide +kernel

/-! ## The handler -/

/-- The line that copies a field from `source`. -/
def assignment (source : String) : List Outline := [
  .text "\n\t\t",
  .value ["f", "name"],
  .text source,
  .value ["f", "name"],
  .text ","]

/-- The handler up to the entity that is created. -/
def handlerHead : List Outline := [
  .text "// Code generated by crudforge at ",
  .value ["generated_at"],
  .text ".\n\npackage ",
  .value ["package_name"],
  .text "\n\nimport (\n\t\"net/http\"\n\t\"strconv\"\n\n\t\"github.com/gin-gonic/gin\"\n\n\t\"",
  .value ["module_name"],
  .text "/",
  .value ["names", "namespace_dir"],
  .text "/service\"\n\t\"",
  .value ["module_name"],
  .text "/",
  .value ["names", "namespace_dir"],
  .text "/types\"\n\t\"",
  .value ["module_name"],
  .text "/internal/shared/models\"\n)\n\n// ",
  .value ["names", "handler"],
  .text " serves ",
  .value ["names", "api_base"],
  .text "\ntype ",
  .value ["names", "handler"],
  .text " struct \x7b\n\tservice service.",
  .value ["names", "service"],
  .text "\n\x7d\n\nfunc New",
  .value ["names", "handler"],
  .text "(svc service.",
  .value ["names", "service"],
  .text ") *",
  .value ["names", "handler"],
  .text " \x7b\n\treturn &",
  .value ["names", "handler"],
  .text "\x7bservice: svc\x7d\n\x7d\n\n// GetList GET ",
  .value ["names", "route_path"],
  .text "\nfunc (h *",
  .value ["names", "handler"],
  .text ") GetList(c *gin.Context) \x7b\n\tvar req types.",
  .value ["names", "list_request"],
  .text ("\n\tif err := c.ShouldBindQuery(&req); err != nil \x7b\n" ++
    "\t\tc.JSON(http.StatusBadRequest, gin.H\x7b\"error\": err.Error()\x7d)\n\t\treturn\n\t\x7d\n\n" ++
    "\titems, total, err := h.service.List(c.Request.Context(), req.Page, req.PageSize)\n" ++
    "\tif err != nil \x7b\n" ++
    "\t\tc.JSON(http.StatusInternalServerError, gin.H\x7b\"error\": err.Error()\x7d)\n\t\treturn\n\t\x7d\n\n" ++
    "\tlist := make([]types."),
  .value ["names", "response"],
  .text ", 0, len(items))\n\tfor _, item := range items \x7b\n\t\tlist = append(list, to",
  .value ["names", "response"],
  .text ("(item))\n\t\x7d\n\tc.JSON(http.StatusOK, gin.H\x7b\"list\": list, \"total\": total\x7d)\n\x7d\n\n" ++
    "// GetByID GET "),
  .value ["names", "route_path"],
  .text "/:id\nfunc (h *",
  .value ["names", "handler"],
  .text ") GetByID(c *gin.Context) \x7b\n\tid, ok := parse",
  .value ["names", "model"],
  .text ("ID(c)\n\tif !ok \x7b\n\t\treturn\n\t\x7d\n\n" ++
    "\tentity, err := h.service.GetByID(c.Request.Context(), id)\n\tif err != nil \x7b\n" ++
    "\t\tc.JSON(http.StatusNotFound, gin.H\x7b\"error\": err.Error()\x7d)\n\t\treturn\n\t\x7d\n" ++
    "\tc.JSON(http.StatusOK, to"),
  .value ["names", "response"],
  .text "(entity))\n\x7d\n\n// Create POST ",
  .value ["names", "route_path"],
  .text "\nfunc (h *",
  .value ["names", "handler"],
  .text ") Create(c *gin.Context) \x7b\n\tvar req types.",
  .value ["names", "create_request"]]

/-- The entity that is created. -/
def createdEntity : List Outline :=
  listing
    ("\n\tif err := c.ShouldBindJSON(&req); err != nil \x7b\n" ++
      "\t\tc.JSON(http.StatusBadRequest, gin.H\x7b\"error\": err.Error()\x7d)\n\t\treturn\n\t\x7d\n\n" ++
      "\tentity := &models.")
    "model" "\x7b" (assignment ": req.")
    ("\n\t\x7d\n\tif err := h.service.Create(c.Request.Context(), entity); err != nil \x7b\n" ++
      "\t\tc.JSON(http.StatusInternalServerError, gin.H\x7b\"error\": err.Error()\x7d)\n\t\treturn\n\t\x7d\n" ++
      "\tc.JSON(http.StatusCreated, to")

/-- The handler between the two entities. -/
def handlerMiddle : List Outline := [
  .value ["names", "response"],
  .text "(entity))\n\x7d\n\n// Update PUT ",
  .value ["names", "route_path"],
  .text "/:id\nfunc (h *",
  .value ["names", "handler"],
  .text ") Update(c *gin.Context) \x7b\n\tid, ok := parse",
  .value ["names", "model"],
  .text "ID(c)\n\tif !ok \x7b\n\t\treturn\n\t\x7d\n\n\tvar req types.",
  .value ["names", "update_request"]]

/-- The entity that is updated. -/
def updatedEntity : List Outline :=
  listing
    ("\n\tif err := c.ShouldBindJSON(&req); err != nil \x7b\n" ++
      "\t\tc.JSON(http.StatusBadRequest, gin.H\x7b\"error\": err.Error()\x7d)\n\t\treturn\n\t\x7d\n\n" ++
      "\tentity := &models.")
    "model" "\x7b" (assignment ": req.")
    ("\n\t\x7d\n\tentity.ID = id\n" ++
      "\tif err := h.service.Update(c.Request.Context(), entity); err != nil \x7b\n" ++
      "\t\tc.JSON(http.StatusInternalServerError, gin.H\x7b\"error\": err.Error()\x7d)\n\t\treturn\n\t\x7d\n" ++
      "\tc.JSON(http.StatusOK, to")

/-- The handler between the entities and the conversion. -/
def handlerLate : List Outline := [
  .value ["names", "response"],
  .text "(entity))\n\x7d\n\n// Delete DELETE ",
  .value ["names", "route_path"],
  .text "/:id\nfunc (h *",
  .value ["names", "handler"],
  .text ") Delete(c *gin.Context) \x7b\n\tid, ok := parse",
  .value ["names", "model"],
  .text ("ID(c)\n\tif !ok \x7b\n\t\treturn\n\t\x7d\n\n" ++
    "\tif err := h.service.Delete(c.Request.Context(), id); err != nil \x7b\n" ++
    "\t\tc.JSON(http.StatusInternalServerError, gin.H\x7b\"error\": err.Error()\x7d)\n\t\treturn\n\t\x7d\n" ++
    "\tc.Status(http.StatusNoContent)\n\x7d\n\nfunc to"),
  .value ["names", "response"],
  .text "(entity *models.",
  .value ["names", "model"],
  .text ") types.",
  .value ["names", "response"]]

/-- The conversion of an entity to a response. -/
def conversion : List Outline :=
  listing " \x7b\n\treturn types." "response" "\x7b\n\t\tID: entity.ID," (assignment ": entity.")
    "\n\t\x7d\n\x7d\n\nfunc parse"

/-- The handler behind the conversion. -/
def handlerTail : List Outline := [
  .value ["names", "model"],
  .text ("ID(c *gin.Context) (uint, bool) \x7b\n" ++
    "\tid, err := strconv.ParseUint(c.Param(\"id\"), 10, 64)\n\tif err != nil || id == 0 \x7b\n" ++
    "\t\tc.JSON(http.StatusBadRequest, gin.H\x7b\"error\": \"invalid id\"\x7d)\n\t\treturn 0, false\n\t\x7d\n" ++
    "\treturn uint(id), true\n\x7d\n")]

/-- The whole handler. -/
def handlerOutline : List Outline :=
  handlerHead ++ createdEntity ++ handlerMiddle ++ updatedEntity ++ handlerLate ++ conversion ++ handlerTail

set_option maxRecDepth 8000 in
theorem parse?_handler : parse? handler = some ⟨Outline.nodes handlerOutline⟩ := by
  apply parse?_of_spell
  simp only [handler, tokens?, toList_block, List.flatMap_cons, List.flatMap_nil, handlerOutline, handlerHead,
    createdEntity, handlerMiddle, updatedEntity, handlerLate, conversion, handlerTail, assignment, listing,
    List.cons_append, List.nil_append, Outline.spell, Outline.spellPart, String.toList_append, toList_literal]
  decide +kernel

end Bundled
end Template
end Scaffold
