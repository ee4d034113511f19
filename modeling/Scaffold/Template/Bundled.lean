import Scaffold.Text.Search

namespace Scaffold
namespace Template
namespace Bundled

/-!
# The bundled templates

The templates that come with the program, one for each file of a layer.
-/

/-- The template of a model: its struct and the name of its table. -/
def model : String := Text.block [
  "// Code generated by crudforge at \x7b\x7b generated_at \x7d\x7d.",
  "",
  "package \x7b\x7b package_name \x7d\x7d",
  "",
  "import (",
  "\x7b%- if has_time_field %\x7d",
  "\t\"time\"",
  "",
  "\x7b%- endif %\x7d",
  "\t\"\x7b\x7b module_name \x7d\x7d/internal/shared/types\"",
  ")",
  "",
  "// \x7b\x7b names.model \x7d\x7d \x7b\x7b names.display \x7d\x7d",
  "type \x7b\x7b names.model \x7d\x7d struct \x7b",
  "\ttypes.BaseModel",
  "\x7b%- for f in fields %\x7d",
  "\t\x7b\x7b f.name \x7d\x7d \x7b\x7b f.go_type \x7d\x7d \x60\x7b% if f.storage_tag " ++
    "%\x7dgorm:\"\x7b\x7b f.storage_tag \x7d\x7d\" \x7b% endif %\x7djson:\"\x7b\x7b f.json_key " ++
    "\x7d\x7d\"\x60\x7b% if f.comment %\x7d // \x7b\x7b f.comment \x7d\x7d\x7b% endif %\x7d",
  "\x7b%- endfor %\x7d",
  "\x7d",
  "",
  "// TableName maps \x7b\x7b names.model \x7d\x7d to its table",
  "func (\x7b\x7b names.model \x7d\x7d) TableName() string \x7b",
  "\treturn \"\x7b\x7b names.table \x7d\x7d\"",
  "\x7d"]

/-- The template of a repository: its interface and an implementation over a database. -/
def repository : String := Text.block [
  "// Code generated by crudforge at \x7b\x7b generated_at \x7d\x7d.",
  "",
  "package \x7b\x7b package_name \x7d\x7d",
  "",
  "import (",
  "\t\"context\"",
  "",
  "\t\"gorm.io/gorm\"",
  "",
  "\t\"\x7b\x7b module_name \x7d\x7d/internal/shared/models\"",
  ")",
  "",
  "// \x7b\x7b names.repository \x7d\x7d persists \x7b\x7b names.display \x7d\x7d records",
  "type \x7b\x7b names.repository \x7d\x7d interface \x7b",
  "\tCreate(ctx context.Context, entity *models.\x7b\x7b names.model \x7d\x7d) error",
  "\tGetByID(ctx context.Context, id uint) (*models.\x7b\x7b names.model \x7d\x7d, error)",
  "\tUpdate(ctx context.Context, entity *models.\x7b\x7b names.model \x7d\x7d) error",
  "\tDelete(ctx context.Context, id uint) error",
  "\tList(ctx context.Context, page, pageSize int) ([]*models.\x7b\x7b names.model \x7d\x7d, int64, error)",
  "\x7d",
  "",
  "type \x7b\x7b names.repository_impl \x7d\x7d struct \x7b",
  "\tdb *gorm.DB",
  "\x7d",
  "",
  "// New\x7b\x7b names.repository \x7d\x7d builds a gorm-backed \x7b\x7b names.repository \x7d\x7d",
  "func New\x7b\x7b names.repository \x7d\x7d(db *gorm.DB) \x7b\x7b names.repository \x7d\x7d \x7b",
  "\treturn &\x7b\x7b names.repository_impl \x7d\x7d\x7bdb: db\x7d",
  "\x7d",
  "",
  "func (r *\x7b\x7b names.repository_impl \x7d\x7d) Create(ctx context.Context, entity " ++
    "*models.\x7b\x7b names.model \x7d\x7d) error \x7b",
  "\treturn r.db.WithContext(ctx).Create(entity).Error",
  "\x7d",
  "",
  "func (r *\x7b\x7b names.repository_impl \x7d\x7d) GetByID(ctx context.Context, id uint) " ++
    "(*models.\x7b\x7b names.model \x7d\x7d, error) \x7b",
  "\tvar entity models.\x7b\x7b names.model \x7d\x7d",
  "\tif err := r.db.WithContext(ctx).First(&entity, id).Error; err != nil \x7b",
  "\t\treturn nil, err",
  "\t\x7d",
  "\treturn &entity, nil",
  "\x7d",
  "",
  "func (r *\x7b\x7b names.repository_impl \x7d\x7d) Update(ctx context.Context, entity " ++
    "*models.\x7b\x7b names.model \x7d\x7d) error \x7b",
  "\treturn r.db.WithContext(ctx).Save(entity).Error",
  "\x7d",
  "",
  "func (r *\x7b\x7b names.repository_impl \x7d\x7d) Delete(ctx context.Context, id uint) error \x7b",
  "\treturn r.db.WithContext(ctx).Delete(&models.\x7b\x7b names.model \x7d\x7d\x7b\x7d, id).Error",
  "\x7d",
  "",
  "func (r *\x7b\x7b names.repository_impl \x7d\x7d) List(ctx context.Context, page, pageSize int) " ++
    "([]*models.\x7b\x7b names.model \x7d\x7d, int64, error) \x7b",
  "\tvar (",
  "\t\titems []*models.\x7b\x7b names.model \x7d\x7d",
  "\t\ttotal int64",
  "\t)",
  "",
  "\tquery := r.db.WithContext(ctx).Model(&models.\x7b\x7b names.model \x7d\x7d\x7b\x7d)",
  "\tif err := query.Count(&total).Error; err != nil \x7b",
  "\t\treturn nil, 0, err",
  "\t\x7d",
  "\tif err := query.Order(\"id DESC\").Offset((page - 1) * " ++
    "pageSize).Limit(pageSize).Find(&items).Error; err != nil \x7b",
  "\t\treturn nil, 0, err",
  "\t\x7d",
  "\treturn items, total, nil",
  "\x7d"]

/-- The template of a service: its interface and an implementation over a repository. -/
def service : String := Text.block [
  "// Code generated by crudforge at \x7b\x7b generated_at \x7d\x7d.",
  "",
  "package \x7b\x7b package_name \x7d\x7d",
  "",
  "import (",
  "\t\"context\"",
  "",
  "\t\"\x7b\x7b module_name \x7d\x7d/\x7b\x7b names.namespace_dir \x7d\x7d/repository\"",
  "\t\"\x7b\x7b module_name \x7d\x7d/internal/shared/models\"",
  ")",
  "",
  "// \x7b\x7b names.service \x7d\x7d holds the \x7b\x7b names.display \x7d\x7d business rules",
  "type \x7b\x7b names.service \x7d\x7d interface \x7b",
  "\tCreate(ctx context.Context, entity *models.\x7b\x7b names.model \x7d\x7d) error",
  "\tGetByID(ctx context.Context, id uint) (*models.\x7b\x7b names.model \x7d\x7d, error)",
  "\tUpdate(ctx context.Context, entity *models.\x7b\x7b names.model \x7d\x7d) error",
  "\tDelete(ctx context.Context, id uint) error",
  "\tList(ctx context.Context, page, pageSize int) ([]*models.\x7b\x7b names.model \x7d\x7d, int64, error)",
  "\x7d",
  "",
  "type \x7b\x7b names.service_impl \x7d\x7d struct \x7b",
  "\trepo repository.\x7b\x7b names.repository \x7d\x7d",
  "\x7d",
  "",
  "// New\x7b\x7b names.service \x7d\x7d wires a \x7b\x7b names.service \x7d\x7d over its repository",
  "func New\x7b\x7b names.service \x7d\x7d(repo repository.\x7b\x7b names.repository \x7d\x7d) " ++
    "\x7b\x7b names.service \x7d\x7d \x7b",
  "\treturn &\x7b\x7b names.service_impl \x7d\x7d\x7brepo: repo\x7d",
  "\x7d",
  "",
  "func (s *\x7b\x7b names.service_impl \x7d\x7d) Create(ctx context.Context, entity " ++
    "*models.\x7b\x7b names.model \x7d\x7d) error \x7b",
  "\treturn s.repo.Create(ctx, entity)",
  "\x7d",
  "",
  "func (s *\x7b\x7b names.service_impl \x7d\x7d) GetByID(ctx context.Context, id uint) " ++
    "(*models.\x7b\x7b names.model \x7d\x7d, error) \x7b",
  "\treturn s.repo.GetByID(ctx, id)",
  "\x7d",
  "",
  "func (s *\x7b\x7b names.service_impl \x7d\x7d) Update(ctx context.Context, entity " ++
    "*models.\x7b\x7b names.model \x7d\x7d) error \x7b",
  "\tif _, err := s.repo.GetByID(ctx, entity.ID); err != nil \x7b",
  "\t\treturn err",
  "\t\x7d",
  "\treturn s.repo.Update(ctx, entity)",
  "\x7d",
  "",
  "func (s *\x7b\x7b names.service_impl \x7d\x7d) Delete(ctx context.Context, id uint) error \x7b",
  "\treturn s.repo.Delete(ctx, id)",
  "\x7d",
  "",
  "func (s *\x7b\x7b names.service_impl \x7d\x7d) List(ctx context.Context, page, pageSize int) " ++
    "([]*models.\x7b\x7b names.model \x7d\x7d, int64, error) \x7b",
  "\tif page < 1 \x7b",
  "\t\tpage = 1",
  "\t\x7d",
  "\tif pageSize < 1 || pageSize > 100 \x7b",
  "\t\tpageSize = 10",
  "\t\x7d",
  "\treturn s.repo.List(ctx, page, pageSize)",
  "\x7d"]

/-- The template of a handler: one method for each call, and the conversion of answers. -/
def handler : String := Text.block [
  "// Code generated by crudforge at \x7b\x7b generated_at \x7d\x7d.",
  "",
  "package \x7b\x7b package_name \x7d\x7d",
  "",
  "import (",
  "\t\"net/http\"",
  "\t\"strconv\"",
  "",
  "\t\"github.com/gin-gonic/gin\"",
  "",
  "\t\"\x7b\x7b module_name \x7d\x7d/\x7b\x7b names.namespace_dir \x7d\x7d/service\"",
  "\t\"\x7b\x7b module_name \x7d\x7d/\x7b\x7b names.namespace_dir \x7d\x7d/types\"",
  "\t\"\x7b\x7b module_name \x7d\x7d/internal/shared/models\"",
  ")",
  "",
  "// \x7b\x7b names.handler \x7d\x7d serves \x7b\x7b names.api_base \x7d\x7d",
  "type \x7b\x7b names.handler \x7d\x7d struct \x7b",
  "\tservice service.\x7b\x7b names.service \x7d\x7d",
  "\x7d",
  "",
  "func New\x7b\x7b names.handler \x7d\x7d(svc service.\x7b\x7b names.service \x7d\x7d) *\x7b\x7b " ++
    "names.handler \x7d\x7d \x7b",
  "\treturn &\x7b\x7b names.handler \x7d\x7d\x7bservice: svc\x7d",
  "\x7d",
  "",
  "// GetList GET \x7b\x7b names.route_path \x7d\x7d",
  "func (h *\x7b\x7b names.handler \x7d\x7d) GetList(c *gin.Context) \x7b",
  "\tvar req types.\x7b\x7b names.list_request \x7d\x7d",
  "\tif err := c.ShouldBindQuery(&req); err != nil \x7b",
  "\t\tc.JSON(http.StatusBadRequest, gin.H\x7b\"error\": err.Error()\x7d)",
  "\t\treturn",
  "\t\x7d",
  "",
  "\titems, total, err := h.service.List(c.Request.Context(), req.Page, req.PageSize)",
  "\tif err != nil \x7b",
  "\t\tc.JSON(http.StatusInternalServerError, gin.H\x7b\"error\": err.Error()\x7d)",
  "\t\treturn",
  "\t\x7d",
  "",
  "\tlist := make([]types.\x7b\x7b names.response \x7d\x7d, 0, len(items))",
  "\tfor _, item := range items \x7b",
  "\t\tlist = append(list, to\x7b\x7b names.response \x7d\x7d(item))",
  "\t\x7d",
  "\tc.JSON(http.StatusOK, gin.H\x7b\"list\": list, \"total\": total\x7d)",
  "\x7d",
  "",
  "// GetByID GET \x7b\x7b names.route_path \x7d\x7d/:id",
  "func (h *\x7b\x7b names.handler \x7d\x7d) GetByID(c *gin.Context) \x7b",
  "\tid, ok := parse\x7b\x7b names.model \x7d\x7dID(c)",
  "\tif !ok \x7b",
  "\t\treturn",
  "\t\x7d",
  "",
  "\tentity, err := h.service.GetByID(c.Request.Context(), id)",
  "\tif err != nil \x7b",
  "\t\tc.JSON(http.StatusNotFound, gin.H\x7b\"error\": err.Error()\x7d)",
  "\t\treturn",
  "\t\x7d",
  "\tc.JSON(http.StatusOK, to\x7b\x7b names.response \x7d\x7d(entity))",
  "\x7d",
  "",
  "// Create POST \x7b\x7b names.route_path \x7d\x7d",
  "func (h *\x7b\x7b names.handler \x7d\x7d) Create(c *gin.Context) \x7b",
  "\tvar req types.\x7b\x7b names.create_request \x7d\x7d",
  "\tif err := c.ShouldBindJSON(&req); err != nil \x7b",
  "\t\tc.JSON(http.StatusBadRequest, gin.H\x7b\"error\": err.Error()\x7d)",
  "\t\treturn",
  "\t\x7d",
  "",
  "\tentity := &models.\x7b\x7b names.model \x7d\x7d\x7b",
  "\x7b%- for f in fields %\x7d",
  "\t\t\x7b\x7b f.name \x7d\x7d: req.\x7b\x7b f.name \x7d\x7d,",
  "\x7b%- endfor %\x7d",
  "\t\x7d",
  "\tif err := h.service.Create(c.Request.Context(), entity); err != nil \x7b",
  "\t\tc.JSON(http.StatusInternalServerError, gin.H\x7b\"error\": err.Error()\x7d)",
  "\t\treturn",
  "\t\x7d",
  "\tc.JSON(http.StatusCreated, to\x7b\x7b names.response \x7d\x7d(entity))",
  "\x7d",
  "",
  "// Update PUT \x7b\x7b names.route_path \x7d\x7d/:id",
  "func (h *\x7b\x7b names.handler \x7d\x7d) Update(c *gin.Context) \x7b",
  "\tid, ok := parse\x7b\x7b names.model \x7d\x7dID(c)",
  "\tif !ok \x7b",
  "\t\treturn",
  "\t\x7d",
  "",
  "\tvar req types.\x7b\x7b names.update_request \x7d\x7d",
  "\tif err := c.ShouldBindJSON(&req); err != nil \x7b",
  "\t\tc.JSON(http.StatusBadRequest, gin.H\x7b\"error\": err.Error()\x7d)",
  "\t\treturn",
  "\t\x7d",
  "",
  "\tentity := &models.\x7b\x7b names.model \x7d\x7d\x7b",
  "\x7b%- for f in fields %\x7d",
  "\t\t\x7b\x7b f.name \x7d\x7d: req.\x7b\x7b f.name \x7d\x7d,",
  "\x7b%- endfor %\x7d",
  "\t\x7d",
  "\tentity.ID = id",
  "\tif err := h.service.Update(c.Request.Context(), entity); err != nil \x7b",
  "\t\tc.JSON(http.StatusInternalServerError, gin.H\x7b\"error\": err.Error()\x7d)",
  "\t\treturn",
  "\t\x7d",
  "\tc.JSON(http.StatusOK, to\x7b\x7b names.response \x7d\x7d(entity))",
  "\x7d",
  "",
  "// Delete DELETE \x7b\x7b names.route_path \x7d\x7d/:id",
  "func (h *\x7b\x7b names.handler \x7d\x7d) Delete(c *gin.Context) \x7b",
  "\tid, ok := parse\x7b\x7b names.model \x7d\x7dID(c)",
  "\tif !ok \x7b",
  "\t\treturn",
  "\t\x7d",
  "",
  "\tif err := h.service.Delete(c.Request.Context(), id); err != nil \x7b",
  "\t\tc.JSON(http.StatusInternalServerError, gin.H\x7b\"error\": err.Error()\x7d)",
  "\t\treturn",
  "\t\x7d",
  "\tc.Status(http.StatusNoContent)",
  "\x7d",
  "",
  "func to\x7b\x7b names.response \x7d\x7d(entity *models.\x7b\x7b names.model \x7d\x7d) " ++
    "types.\x7b\x7b names.response \x7d\x7d \x7b",
  "\treturn types.\x7b\x7b names.response \x7d\x7d\x7b",
  "\t\tID: entity.ID,",
  "\x7b%- for f in fields %\x7d",
  "\t\t\x7b\x7b f.name \x7d\x7d: entity.\x7b\x7b f.name \x7d\x7d,",
  "\x7b%- endfor %\x7d",
  "\t\x7d",
  "\x7d",
  "",
  "func parse\x7b\x7b names.model \x7d\x7dID(c *gin.Context) (uint, bool) \x7b",
  "\tid, err := strconv.ParseUint(c.Param(\"id\"), 10, 64)",
  "\tif err != nil || id == 0 \x7b",
  "\t\tc.JSON(http.StatusBadRequest, gin.H\x7b\"error\": \"invalid id\"\x7d)",
  "\t\treturn 0, false",
  "\t\x7d",
  "\treturn uint(id), true",
  "\x7d"]

/-- The template of the types that a handler exchanges. -/
def handlerTypes : String := Text.block [
  "// Code generated by crudforge at \x7b\x7b generated_at \x7d\x7d.",
  "",
  "package types",
  "\x7b% if has_time_field %\x7d",
  "import \"time\"",
  "\x7b% endif %\x7d",
  "// \x7b\x7b names.create_request \x7d\x7d is the body of a create call",
  "type \x7b\x7b names.create_request \x7d\x7d struct \x7b",
  "\x7b%- for f in fields %\x7d",
  "\t\x7b\x7b f.name \x7d\x7d \x7b\x7b f.go_type \x7d\x7d \x60json:\"\x7b\x7b f.json_key " ++
    "\x7d\x7d\"\x7b% if f.validation_rule %\x7d binding:\"\x7b\x7b f.validation_rule \x7d\x7d\"\x7b% " ++
    "endif %\x7d\x60\x7b% if f.clean_comment %\x7d // \x7b\x7b f.clean_comment \x7d\x7d\x7b% endif %\x7d",
  "\x7b%- endfor %\x7d",
  "\x7d",
  "",
  "// \x7b\x7b names.update_request \x7d\x7d is the body of an update call",
  "type \x7b\x7b names.update_request \x7d\x7d struct \x7b",
  "\x7b%- for f in fields %\x7d",
  "\t\x7b\x7b f.name \x7d\x7d \x7b\x7b f.go_type \x7d\x7d \x60json:\"\x7b\x7b f.json_key " ++
    "\x7d\x7d\"\x7b% if f.validation_rule %\x7d binding:\"\x7b\x7b f.validation_rule \x7d\x7d\"\x7b% " ++
    "endif %\x7d\x60",
  "\x7b%- endfor %\x7d",
  "\x7d",
  "",
  "// \x7b\x7b names.list_request \x7d\x7d carries paging for list calls",
  "type \x7b\x7b names.list_request \x7d\x7d struct \x7b",
  "\tPage     int \x60form:\"page\" binding:\"omitempty,min=1\"\x60",
  "\tPageSize int \x60form:\"page_size\" binding:\"omitempty,min=1,max=100\"\x60",
  "\x7d",
  "",
  "// \x7b\x7b names.response \x7d\x7d is what the API returns for one \x7b\x7b names.display \x7d\x7d",
  "type \x7b\x7b names.response \x7d\x7d struct \x7b",
  "\tID uint \x60json:\"id\"\x60",
  "\x7b%- for f in fields %\x7d",
  "\t\x7b\x7b f.name \x7d\x7d \x7b\x7b f.go_type \x7d\x7d \x60json:\"\x7b\x7b f.json_key \x7d\x7d\"\x60",
  "\x7b%- endfor %\x7d",
  "\x7d"]

/-- The bundled templates by the names of their files. -/
def files : List (String × String) := [
  ("model.go.tera", model), ("repository.go.tera", repository), ("service.go.tera", service),
  ("handler.go.tera", handler), ("handler_types.go.tera", handlerTypes)]

end Bundled
end Template
end Scaffold
