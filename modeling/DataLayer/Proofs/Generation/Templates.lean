import DataLayer.Generation.Render
import DataLayer.Proofs.NamedMap
import DataLayer.Proofs.Template.Filling

/-!
# Loaded templates

The templates of a run can be loaded when each of them is there and the fields of the project fill
those that do not depend on a table.
-/

namespace DataLayer

namespace TemplateName

/-- The templates that are filled once, with the fields of the project. -/
def ofProject : List TemplateName :=
  [modelFrame, repositoryFrame, dataContext, repositoryBase]

/-- The templates that are filled for each table. -/
def ofTable : List TemplateName :=
  [modelEntity, tableRepository]

theorem mem_ofProject_or_mem_ofTable (name : TemplateName) : name ∈ ofProject ∨ name ∈ ofTable := by
  cases name <;> decide

end TemplateName

/-- The frame around the classes of a group. -/
def OutputGroup.frame : OutputGroup → TemplateName
  | models => .modelFrame
  | repositories => .repositoryFrame

namespace Config

variable {config : Config} {source : TemplateSource}

theorem configured_eq_ok_iff (name : TemplateName) (filled : String) :
    config.configured source name = .ok filled ↔
      ∃ text, source name = .ok text ∧ Template.fillFields config.fields text = .ok filled := by
  rw [configured, Traversal.bind_eq_ok_iff]

theorem loadTemplates_eq_ok_iff (templates : LoadedTemplates) :
    config.loadTemplates source = .ok templates ↔
      config.configured source .modelFrame = .ok templates.modelFrame ∧
        config.configured source .repositoryFrame = .ok templates.repositoryFrame ∧
        source .modelEntity = .ok templates.modelEntity ∧
        source .tableRepository = .ok templates.tableRepository ∧
        config.configured source .dataContext = .ok templates.dataContext ∧
        config.configured source .repositoryBase = .ok templates.repositoryBase := by
  simp only [loadTemplates, Traversal.bind_eq_ok_iff, Traversal.pure_eq_ok_iff]
  constructor
  · rintro ⟨_, modelFrame, _, repositoryFrame, _, modelEntity, _, tableRepository, _, dataContext,
      _, repositoryBase, rfl⟩
    exact ⟨modelFrame, repositoryFrame, modelEntity, tableRepository, dataContext, repositoryBase⟩
  · rintro ⟨modelFrame, repositoryFrame, modelEntity, tableRepository, dataContext, repositoryBase⟩
    exact ⟨_, modelFrame, _, repositoryFrame, _, modelEntity, _, tableRepository, _, dataContext, _,
      repositoryBase, rfl⟩

/-- Templates can be loaded when those of the project can be filled and the others are there. -/
theorem exists_loadTemplates_iff :
    (∃ templates, config.loadTemplates source = .ok templates) ↔
      (∀ name ∈ TemplateName.ofProject, ∃ filled, config.configured source name = .ok filled) ∧
        ∀ name ∈ TemplateName.ofTable, ∃ text, source name = .ok text := by
  constructor
  · rintro ⟨templates, loaded⟩
    obtain ⟨modelFrame, repositoryFrame, modelEntity, tableRepository, dataContext,
      repositoryBase⟩ := (loadTemplates_eq_ok_iff templates).mp loaded
    simp only [TemplateName.ofProject, TemplateName.ofTable, List.forall_mem_cons]
    exact ⟨⟨⟨_, modelFrame⟩, ⟨_, repositoryFrame⟩, ⟨_, dataContext⟩, ⟨_, repositoryBase⟩, by simp⟩,
      ⟨_, modelEntity⟩, ⟨_, tableRepository⟩, by simp⟩
  · rintro ⟨project, perTable⟩
    obtain ⟨modelFrame, modelFrame_eq⟩ := project .modelFrame (by decide)
    obtain ⟨repositoryFrame, repositoryFrame_eq⟩ := project .repositoryFrame (by decide)
    obtain ⟨modelEntity, modelEntity_eq⟩ := perTable .modelEntity (by decide)
    obtain ⟨tableRepository, tableRepository_eq⟩ := perTable .tableRepository (by decide)
    obtain ⟨dataContext, dataContext_eq⟩ := project .dataContext (by decide)
    obtain ⟨repositoryBase, repositoryBase_eq⟩ := project .repositoryBase (by decide)
    exact ⟨⟨modelFrame, repositoryFrame, modelEntity, tableRepository, dataContext, repositoryBase⟩,
      (loadTemplates_eq_ok_iff _).mpr ⟨modelFrame_eq, repositoryFrame_eq, modelEntity_eq,
        tableRepository_eq, dataContext_eq, repositoryBase_eq⟩⟩

theorem exists_source_of_loadTemplates {templates : LoadedTemplates}
    (loaded : config.loadTemplates source = .ok templates) (name : TemplateName) :
    ∃ text, source name = .ok text := by
  obtain ⟨project, perTable⟩ := exists_loadTemplates_iff.mp ⟨templates, loaded⟩
  rcases name.mem_ofProject_or_mem_ofTable with member | member
  · obtain ⟨filled, configured⟩ := project name member
    obtain ⟨text, text_eq, -⟩ := (configured_eq_ok_iff name filled).mp configured
    exact ⟨text, text_eq⟩
  · exact perTable name member

/-- The connection is the only field of a project that can be without a value. -/
theorem isUnset_fields_iff (name : List Char) :
    config.fields.IsUnset name ↔
      String.ofList name = "ContextConnection" ∧ config.context.connection = none := by
  rw [FieldMap.IsUnset, fields, NamedMap.get?_ofList]
  simp only [List.reverse_cons, List.reverse_nil, List.nil_append, List.cons_append,
    NamedMap.lookup_entry_cons, List.lookup_nil]
  split_ifs <;> simp_all

end Config
end DataLayer
