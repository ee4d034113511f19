import Scaffold.Proofs.Template.Members

namespace Scaffold
namespace Template
namespace Bundled

/-!
# What the generated files declare

The names that other files and snippets refer to are declared each on a line of its own: the struct
of the model, the constructor of each layer and the methods of the handler.  A line is known by what
it begins with, and so it is found between the two texts of an outline that stand around a name.
-/

/-! ## Outlines of the repository and the service -/

/-- The whole repository. -/
def repositoryOutline : List Outline := [
  .text "// Code generated by crudforge at ",
  .value ["generated_at"],
  .text ".\n\npackage ",
  .value ["package_name"],
  .text "\n\nimport (\n\t\"context\"\n\n\t\"gorm.io/gorm\"\n\n\t\"",
  .value ["module_name"],
  .text "/internal/shared/models\"\n)\n\n// ",
  .value ["names", "repository"],
  .text " persists ",
  .value ["names", "display"],
  .text " records\ntype ",
  .value ["names", "repository"],
  .text " interface \x7b\n\tCreate(ctx context.Context, entity *models.",
  .value ["names", "model"],
  .text ") error\n\tGetByID(ctx context.Context, id uint) (*models.",
  .value ["names", "model"],
  .text ", error)\n\tUpdate(ctx context.Context, entity *models.",
  .value ["names", "model"],
  .text (") error\n\tDelete(ctx context.Context, id uint) error\n" ++
    "\tList(ctx context.Context, page, pageSize int) ([]*models."),
  .value ["names", "model"],
  .text ", int64, error)\n\x7d\n\ntype ",
  .value ["names", "repository_impl"],
  .text " struct \x7b\n\tdb *gorm.DB\n\x7d\n\n// New",
  .value ["names", "repository"],
  .text " builds a gorm-backed ",
  .value ["names", "repository"],
  .text "\nfunc New",
  .value ["names", "repository"],
  .text "(db *gorm.DB) ",
  .value ["names", "repository"],
  .text " \x7b\n\treturn &",
  .value ["names", "repository_impl"],
  .text "\x7bdb: db\x7d\n\x7d\n\nfunc (r *",
  .value ["names", "repository_impl"],
  .text ") Create(ctx context.Context, entity *models.",
  .value ["names", "model"],
  .text ") error \x7b\n\treturn r.db.WithContext(ctx).Create(entity).Error\n\x7d\n\nfunc (r *",
  .value ["names", "repository_impl"],
  .text ") GetByID(ctx context.Context, id uint) (*models.",
  .value ["names", "model"],
  .text ", error) \x7b\n\tvar entity models.",
  .value ["names", "model"],
  .text ("\n\tif err := r.db.WithContext(ctx).First(&entity, id).Error; err != nil \x7b\n\t\treturn nil, err\n" ++
    "\t\x7d\n\treturn &entity, nil\n\x7d\n\nfunc (r *"),
  .value ["names", "repository_impl"],
  .text ") Update(ctx context.Context, entity *models.",
  .value ["names", "model"],
  .text ") error \x7b\n\treturn r.db.WithContext(ctx).Save(entity).Error\n\x7d\n\nfunc (r *",
  .value ["names", "repository_impl"],
  .text (") Delete(ctx context.Context, id uint) error \x7b\n\treturn r.db.WithContext(ctx).Delete(&models."),
  .value ["names", "model"],
  .text "\x7b\x7d, id).Error\n\x7d\n\nfunc (r *",
  .value ["names", "repository_impl"],
  .text ") List(ctx context.Context, page, pageSize int) ([]*models.",
  .value ["names", "model"],
  .text ", int64, error) \x7b\n\tvar (\n\t\titems []*models.",
  .value ["names", "model"],
  .text "\n\t\ttotal int64\n\t)\n\n\tquery := r.db.WithContext(ctx).Model(&models.",
  .value ["names", "model"],
  .text ("\x7b\x7d)\n\tif err := query.Count(&total).Error; err != nil \x7b\n\t\treturn nil, 0, err\n\t\x7d\n" ++
    "\tif err := query.Order(\"id DESC\").Offset((page - 1) * pageSize).Limit(pageSize)" ++
    ".Find(&items).Error; err != nil \x7b\n" ++
    "\t\treturn nil, 0, err\n\t\x7d\n\treturn items, total, nil\n\x7d\n")]

set_option maxRecDepth 4000 in
theorem parse?_repository : parse? repository = some ⟨Outline.nodes repositoryOutline⟩ := by
  apply parse?_of_spell
  simp only [repository, tokens?, toList_block, List.flatMap_cons, List.flatMap_nil,
    repositoryOutline, List.cons_append, List.nil_append, Outline.spell, Outline.spellPart,
    String.toList_append, toList_literal]
  decide +kernel

/-- The whole service. -/
def serviceOutline : List Outline := [
  .text "// Code generated by crudforge at ",
  .value ["generated_at"],
  .text ".\n\npackage ",
  .value ["package_name"],
  .text "\n\nimport (\n\t\"context\"\n\n\t\"",
  .value ["module_name"],
  .text "/",
  .value ["names", "namespace_dir"],
  .text "/repository\"\n\t\"",
  .value ["module_name"],
  .text "/internal/shared/models\"\n)\n\n// ",
  .value ["names", "service"],
  .text " holds the ",
  .value ["names", "display"],
  .text " business rules\ntype ",
  .value ["names", "service"],
  .text " interface \x7b\n\tCreate(ctx context.Context, entity *models.",
  .value ["names", "model"],
  .text ") error\n\tGetByID(ctx context.Context, id uint) (*models.",
  .value ["names", "model"],
  .text ", error)\n\tUpdate(ctx context.Context, entity *models.",
  .value ["names", "model"],
  .text (") error\n\tDelete(ctx context.Context, id uint) error\n" ++
    "\tList(ctx context.Context, page, pageSize int) ([]*models."),
  .value ["names", "model"],
  .text ", int64, error)\n\x7d\n\ntype ",
  .value ["names", "service_impl"],
  .text " struct \x7b\n\trepo repository.",
  .value ["names", "repository"],
  .text "\n\x7d\n\n// New",
  .value ["names", "service"],
  .text " wires a ",
  .value ["names", "service"],
  .text " over its repository\nfunc New",
  .value ["names", "service"],
  .text "(repo repository.",
  .value ["names", "repository"],
  .text ") ",
  .value ["names", "service"],
  .text " \x7b\n\treturn &",
  .value ["names", "service_impl"],
  .text "\x7brepo: repo\x7d\n\x7d\n\nfunc (s *",
  .value ["names", "service_impl"],
  .text ") Create(ctx context.Context, entity *models.",
  .value ["names", "model"],
  .text ") error \x7b\n\treturn s.repo.Create(ctx, entity)\n\x7d\n\nfunc (s *",
  .value ["names", "service_impl"],
  .text ") GetByID(ctx context.Context, id uint) (*models.",
  .value ["names", "model"],
  .text ", error) \x7b\n\treturn s.repo.GetByID(ctx, id)\n\x7d\n\nfunc (s *",
  .value ["names", "service_impl"],
  .text ") Update(ctx context.Context, entity *models.",
  .value ["names", "model"],
  .text (") error \x7b\n\tif _, err := s.repo.GetByID(ctx, entity.ID); err != nil \x7b\n\t\treturn err\n" ++
    "\t\x7d\n\treturn s.repo.Update(ctx, entity)\n\x7d\n\nfunc (s *"),
  .value ["names", "service_impl"],
  .text (") Delete(ctx context.Context, id uint) error \x7b\n\treturn s.repo.Delete(ctx, id)\n\x7d\n\n" ++
    "func (s *"),
  .value ["names", "service_impl"],
  .text ") List(ctx context.Context, page, pageSize int) ([]*models.",
  .value ["names", "model"],
  .text (", int64, error) \x7b\n\tif page < 1 \x7b\n\t\tpage = 1\n\t\x7d\n" ++
    "\tif pageSize < 1 || pageSize > 100 \x7b\n\t\tpageSize = 10\n\t\x7d\n" ++
    "\treturn s.repo.List(ctx, page, pageSize)\n\x7d\n")]

set_option maxRecDepth 4000 in
theorem parse?_service : parse? service = some ⟨Outline.nodes serviceOutline⟩ := by
  apply parse?_of_spell
  simp only [service, tokens?, toList_block, List.flatMap_cons, List.flatMap_nil, serviceOutline, List.cons_append,
    List.nil_append, Outline.spell, Outline.spellPart, String.toList_append, toList_literal]
  decide +kernel

/-! ## Lines that begin with a text -/

/-- Some line of the text begins with `start`. -/
def HasLine (start text : String) : Prop :=
  ∃ line ∈ linesOf text, start.toList <+: line.toList

theorem hasLine_of_infix {start text : String} (unbroken : '\n' ∉ start.toList)
    (found : '\n' :: start.toList <:+: text.toList) : HasLine start text := by
  rcases found with ⟨before, after, same⟩
  rcases List.exists_cons_of_ne_nil (Text.pieces_ne_nil (· == '\n') after) with ⟨piece, others, cut⟩
  have solid := Text.beq_eq_false_of_not_mem unbroken
  refine ⟨String.ofList (start.toList ++ piece), ?_, ?_⟩
  · rw [linesOf, ← same, List.append_assoc, List.cons_append, Text.pieces_append_break (by simp),
      Text.pieces_append_of_unbroken solid cut]
    simp
  · rw [String.toList_ofList]
    exact List.prefix_append _ _

variable {b : Blueprint}

theorem exists_of_render_append {first second : List Node} {text : List Char}
    (shown : renderNodes [] b.encode (first ++ second) = .ok text) : ∃ early late,
      renderNodes [] b.encode first = .ok early ∧ renderNodes [] b.encode second = .ok late ∧
        text = early ++ late := by
  induction first generalizing text with
  | nil => exact ⟨[], text, by rw [renderNodes], shown, rfl⟩
  | cons node rest ih =>
    rw [List.cons_append, renderNodes] at shown
    cases head : renderNode [] b.encode node with
    | error failure =>
      rw [head] at shown
      cases shown
    | ok start =>
      cases others : renderNodes [] b.encode (rest ++ second) with
      | error failure =>
        rw [head, others] at shown
        cases shown
      | ok tail =>
        rw [head, others] at shown
        obtain rfl : start ++ tail = text := Except.ok.inj shown
        obtain ⟨early, late, before, after, rfl⟩ := ih others
        refine ⟨start ++ early, late, ?_, after, (List.append_assoc _ _ _).symm⟩
        rw [renderNodes, head, before]
        rfl

/-- A name stands in the text between the texts that stand around it in the outline. -/
theorem infix_of_render {outline : List Outline} {before after value key : String} {text : List Char}
    (around : [.text before, .value ["names", key], .text after] <:+: outline)
    (found : descend b.encode ["names", key] = some (.string value))
    (shown : renderNodes [] b.encode (Outline.nodes outline) = .ok text) :
    before.toList ++ value.toList ++ after.toList <:+: text := by
  rcases around with ⟨early, late, rfl⟩
  rw [Outline.nodes_append, Outline.nodes_append] at shown
  obtain ⟨front, back, frontShown, -, rfl⟩ := exists_of_render_append shown
  obtain ⟨start, middle, -, middleShown, rfl⟩ := exists_of_render_append frontShown
  rw [Outline.render_text, Outline.render_value, lookup_nil, found] at middleShown
  simp only [Outline.render_text, Outline.render_nil, Outline.map_ok, valueText_string,
    Except.ok.injEq] at middleShown
  refine ⟨start, back, ?_⟩
  rw [← middleShown]
  simp

/-! ## Finding a name in an outline -/

/-- Whether the outline begins with a text that ends in a new line with `first`, the name, and a
text that begins with `last`. -/
def beginsAround (first key last : String) : List Outline → Bool
  | .text before :: .value path :: .text after :: _ =>
    path == ["names", key] && ('\n' :: first.toList).isSuffixOf before.toList && last.toList.isPrefixOf after.toList
  | _ => false

/-- Whether some line of the outline begins with `first`, the name and `last`. -/
def opensLine (first key last : String) : List Outline → Bool
  | [] => false
  | part :: rest => beginsAround first key last (part :: rest) || opensLine first key last rest

theorem exists_of_beginsAround {first key last : String} {outline : List Outline}
    (begins : beginsAround first key last outline = true) : ∃ before after,
      [.text before, .value ["names", key], .text after] <+: outline ∧
        '\n' :: first.toList <:+ before.toList ∧ last.toList <+: after.toList := by
  unfold beginsAround at begins
  split at begins
  · next before path after rest =>
    simp only [Bool.and_eq_true, beq_iff_eq, List.isSuffixOf_iff_suffix, List.isPrefixOf_iff_prefix] at begins
    obtain ⟨⟨rfl, leads⟩, ends⟩ := begins
    exact ⟨before, after, ⟨rest, rfl⟩, leads, ends⟩
  · exact absurd begins Bool.false_ne_true

theorem exists_of_opensLine {first key last : String} {outline : List Outline}
    (opens : opensLine first key last outline = true) : ∃ before after,
      [.text before, .value ["names", key], .text after] <:+: outline ∧
        '\n' :: first.toList <:+ before.toList ∧ last.toList <+: after.toList := by
  induction outline with
  | nil => exact absurd opens Bool.false_ne_true
  | cons part rest ih =>
    rw [opensLine, Bool.or_eq_true] at opens
    rcases opens with here | later
    · obtain ⟨before, after, around, leads, ends⟩ := exists_of_beginsAround here
      exact ⟨before, after, around.isInfix, leads, ends⟩
    · obtain ⟨before, after, around, leads, ends⟩ := ih later
      exact ⟨before, after, List.infix_cons around, leads, ends⟩

/-- A line that the outline opens with a name is a line of the text. -/
theorem hasLine_of_opensLine {outline : List Outline} {first key last value : String} {text : List Char}
    (opens : opensLine first key last outline = true)
    (found : descend b.encode ["names", key] = some (.string value))
    (shown : renderNodes [] b.encode (Outline.nodes outline) = .ok text)
    (unbroken : '\n' ∉ (first ++ value ++ last).toList) :
    HasLine (first ++ value ++ last) (String.ofList text) := by
  obtain ⟨before, after, around, ⟨early, leads⟩, ⟨late, ends⟩⟩ := exists_of_opensLine opens
  obtain ⟨front, back, same⟩ := infix_of_render around found shown
  refine hasLine_of_infix unbroken ⟨front ++ early, late ++ back, ?_⟩
  rw [String.toList_ofList, ← same, ← leads, ← ends]
  simp

/-! ## The declarations of the files -/

theorem exists_repository (b : Blueprint) : ∃ text,
    renderNodes [] b.encode (Outline.nodes repositoryOutline) = .ok text := by
  simp only [repositoryOutline, lookup_nil, Blueprint.encode, Names.encode, descend,
    List.lookup_cons, String.reduceBEq, Outline.render_text, Outline.render_value,
    Outline.render_nil, Outline.map_ok, Except.ok.injEq, exists_eq']

theorem exists_service (b : Blueprint) : ∃ text,
    renderNodes [] b.encode (Outline.nodes serviceOutline) = .ok text := by
  simp only [serviceOutline, lookup_nil, Blueprint.encode, Names.encode, descend, List.lookup_cons,
    String.reduceBEq, Outline.render_text, Outline.render_value, Outline.render_nil, Outline.map_ok,
    Except.ok.injEq, exists_eq']

/-- The model declares its struct. -/
theorem exists_model_declaring (named : '\n' ∉ b.names.model.toList) :
    ∃ text, rendered "model.go" model b = .ok text ∧
    HasLine ("type " ++ b.names.model ++ " struct \x7b") text := by
  obtain ⟨text, shown, -⟩ := displays_model b
  have opens : opensLine "type " "model" " struct \x7b" (modelHead ++ modelStruct ++ modelTail) = true := by decide
  exact ⟨_, rendered_eq_ok _ parse?_model shown, hasLine_of_opensLine opens rfl shown (by simp [named])⟩

/-- The repository declares its constructor. -/
theorem exists_repository_declaring (named : '\n' ∉ b.names.repository.toList) : ∃ text,
    rendered "repository.go" repository b = .ok text ∧ HasLine ("func New" ++ b.names.repository ++ "(") text := by
  obtain ⟨text, shown⟩ := exists_repository b
  have opens : opensLine "func New" "repository" "(" repositoryOutline = true := by decide
  exact ⟨_, rendered_eq_ok _ parse?_repository shown, hasLine_of_opensLine opens rfl shown (by simp [named])⟩

/-- The service declares its constructor. -/
theorem exists_service_declaring (named : '\n' ∉ b.names.service.toList) : ∃ text,
    rendered "service.go" service b = .ok text ∧ HasLine ("func New" ++ b.names.service ++ "(") text := by
  obtain ⟨text, shown⟩ := exists_service b
  have opens : opensLine "func New" "service" "(" serviceOutline = true := by decide
  exact ⟨_, rendered_eq_ok _ parse?_service shown, hasLine_of_opensLine opens rfl shown (by simp [named])⟩

/-- The methods by which a handler serves its routes. -/
def handlerMethods : List String :=
  ["GetList", "GetByID", "Create", "Update", "Delete"]

/-- The handler declares its constructor and its methods. -/
theorem exists_handler_declaring (named : '\n' ∉ b.names.handler.toList) : ∃ text,
    rendered "handler.go" handler b = .ok text ∧ HasLine ("func New" ++ b.names.handler ++ "(") text ∧
      ∀ method ∈ handlerMethods, HasLine ("func (h *" ++ b.names.handler ++ (") " ++ method ++ "(")) text := by
  obtain ⟨text, shown, -⟩ := displays_handler b
  have opens : opensLine "func New" "handler" "(" handlerOutline = true := by decide
  have methods : ∀ method ∈ handlerMethods,
      opensLine "func (h *" "handler" (") " ++ method ++ "(") handlerOutline = true ∧ '\n' ∉ method.toList := by
    decide
  refine ⟨_, rendered_eq_ok _ parse?_handler shown, hasLine_of_opensLine opens rfl shown (by simp [named]), ?_⟩
  intro method member
  have unbroken := (methods method member).2
  exact hasLine_of_opensLine (methods method member).1 rfl shown (by simp [named, unbroken])

end Bundled
end Template
end Scaffold
