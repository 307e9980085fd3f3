import DataLayer.Proofs.Generation.Renderable
import DataLayer.Proofs.Generation.Run
import DataLayer.Proofs.Project.SampleCatalog
import DataLayer.Proofs.Render.Braces
import DataLayer.Proofs.Schema.Snapshot
import DataLayer.Proofs.Text.LineForms
import DataLayer.Template.Source

/-!
# Braces in generated files

The built-in templates are balanced, and none of the fields that they mention is a folder.  So where
the names in catalog and settings have no braces, all generated files are balanced.
-/

namespace DataLayer

open Text

/-- The names that a catalog answers with have no braces. -/
structure Catalog.IsBraceFree (catalog : Catalog) : Prop where
  /-- The names of the tables. -/
  tableName : ∀ names, catalog.tableNames = .ok names → ∀ name ∈ names, Text.IsBraceFree name
  /-- The names of the columns and of their storage types. -/
  column : ∀ table columns, catalog.columns table = .ok columns → ∀ info ∈ columns,
    Text.IsBraceFree info.name ∧ Text.IsBraceFree info.storageType

/-- The settings that go into generated code have no braces. -/
structure Config.IsBraceFree (config : Config) : Prop where
  /-- The root namespace. -/
  baseNamespace : Text.IsBraceFree config.baseNamespace
  /-- The namespace of the entity classes. -/
  modelNamespace : Text.IsBraceFree config.models.groupNamespace
  /-- The namespace of the repository classes. -/
  repositoryNamespace : Text.IsBraceFree config.repositories.groupNamespace
  /-- The name of the data context. -/
  contextName : Text.IsBraceFree config.context.name
  /-- The connection of the data context. -/
  connection : ∀ connection, config.context.connection = some connection →
    Text.IsBraceFree connection

theorem TypeMapper.isBraceFree_csharp {storageType : String} (free : IsBraceFree storageType)
    (nullable : Bool) : IsBraceFree (csharp.map storageType nullable) := by
  have family_free (family : StorageFamily) : IsBraceFree (csharp.familyType family) := by
    cases family <;> decide
  change IsBraceFree (csharp.mapByFamily storageType nullable)
  unfold mapByFamily
  split
  · exact free
  · split_ifs
    · exact (family_free _).append (by decide)
    · exact family_free _

theorem Catalog.IsBraceFree.table {catalog : Catalog} (free : catalog.IsBraceFree)
    {tables : List Table} (introspected : Schema.introspect .csharp catalog = .ok tables) :
    ∀ table ∈ tables, table.IsBraceFree := by
  obtain ⟨names, names_eq, each_read, -⟩ := (Schema.introspect_eq_ok_iff tables).mp introspected
  have names_free := free.tableName names names_eq
  clear introspected names_eq
  induction each_read with
  | nil => simp
  | @cons name table names tables read _ ih =>
      obtain ⟨name_free, rest_free⟩ := List.forall_mem_cons.mp names_free
      refine List.forall_mem_cons.mpr ⟨?_, ih rest_free⟩
      obtain ⟨keys, identity, columns, -, -, columns_eq, rfl⟩ :=
        (Schema.readTable_eq_ok_iff name table).mp read
      refine ⟨isBraceFree_upperFirst name_free, name_free, ?_⟩
      rw [Table.ofAnswers, List.forall_mem_map]
      intro info member
      obtain ⟨info_free, type_free⟩ := free.column name columns columns_eq info member
      exact ⟨info_free, type_free, TypeMapper.isBraceFree_csharp type_free info.nullable⟩

theorem Snapshot.isBraceFree_catalog {snapshot : Snapshot}
    (free : ∀ table ∈ snapshot.tables, Text.IsBraceFree table.name ∧ ∀ info ∈ table.columns,
      Text.IsBraceFree info.name ∧ Text.IsBraceFree info.storageType) :
    snapshot.catalog.IsBraceFree where
  tableName := by
    rintro _ names_eq name member
    obtain rfl := Except.ok.inj names_eq
    obtain ⟨table, table_mem, rfl⟩ := List.mem_map.mp member
    exact (free table table_mem).1
  column := by
    intro name columns columns_eq
    obtain ⟨table, found, rfl⟩ := (Traversal.map_eq_ok_iff _ _ _).mp columns_eq
    exact (free table (mem_of_findTable found)).2

/-- Fields of projects and tables that no built-in template mentions. -/
def unusedFields : List String :=
  ["ModelFolder", "RepositoryFolder", "StorageName", "PrimaryKeyName", "PrimaryKeyType",
    "ColumnNames"]

namespace TemplateName

theorem exists_spelledLines (name : TemplateName) :
    ∃ spelled, SpelledLines name.builtinLines spelled ∧
      depthBehind? 0 (spelled.flatMap (· ++ ['\n'])) = some 0 ∧
      ∀ field ∈ unusedFields, .marker field.toList ∉
        Piece.scan Template.fieldOpening (spelled.flatMap (· ++ ['\n'])) := by
  cases name
  all_goals
    -- The characters are left open until they are found from the lines.
    apply Exists.intro
    refine ⟨?spells, ?computed⟩
    case spells =>
      simp only [builtinLines, modelFrameLines, repositoryFrameLines, modelEntityLines,
        tableRepositoryLines, dataContextLines, repositoryBaseLines]
      repeat apply SpelledLines.cons
      exact .nil
    case computed => decide +kernel

theorem keepsDepth_builtin (name : TemplateName) : KeepsDepth name.builtin := by
  obtain ⟨spelled, spells, balanced, -⟩ := name.exists_spelledLines
  refine keepsDepth_of_outermost ?_
  rw [builtin, spells.toList_unlines]
  exact balanced

/-- A field that a marker of a built-in template names is none of those that are not used. -/
theorem notMem_unusedFields {name : TemplateName} {field : List Char}
    (member : .marker field ∈ Piece.scan Template.fieldOpening name.builtin.toList) :
    String.ofList field ∉ unusedFields := by
  obtain ⟨spelled, spells, -, unused⟩ := name.exists_spelledLines
  rw [builtin, spells.toList_unlines] at member
  intro listed
  have absent := unused (String.ofList field) listed
  rw [String.toList_ofList] at absent
  exact absent member

end TemplateName

theorem Config.IsBraceFree.fields {config : Config} (free : config.IsBraceFree)
    {field value : String} (used : field ∉ unusedFields)
    (found : config.fields.get? field = some (some value)) : Text.IsBraceFree value := by
  have member := NamedMap.mem_of_get?_ofList found
  simp only [List.mem_cons, Prod.mk.injEq, Option.some.injEq, List.not_mem_nil, or_false] at member
  rcases member with
    ⟨-, rfl⟩ | ⟨-, rfl⟩ | ⟨-, rfl⟩ | ⟨-, rfl⟩ | ⟨-, connected⟩ | ⟨rfl, -⟩ | ⟨rfl, -⟩
  · exact free.baseNamespace
  · exact free.modelNamespace
  · exact free.repositoryNamespace
  · exact free.contextName
  · exact free.connection value connected.symm
  · exact absurd (by decide) used
  · exact absurd (by decide) used

theorem Table.IsBraceFree.fields {table : Table} (free : table.IsBraceFree)
    {field value : String} (used : field ∉ unusedFields)
    (found : table.fields.get? field = some (some value)) : Text.IsBraceFree value := by
  have member := NamedMap.mem_of_get?_ofList found
  simp only [List.mem_cons, Prod.mk.injEq, Option.some.injEq, List.not_mem_nil, or_false] at member
  rcases member with ⟨-, rfl⟩ | ⟨rfl, -⟩ | ⟨-, rfl⟩ | ⟨rfl, -⟩ | ⟨rfl, -⟩ | ⟨rfl, -⟩
  · exact free.name
  · exact absurd (by decide) used
  · exact (by decide : Text.IsBraceFree Table.repositoryName)
  · exact absurd (by decide) used
  · exact absurd (by decide) used
  · exact absurd (by decide) used

/-- A built-in template keeps the depth when the fields of the project are filled in. -/
theorem Config.IsBraceFree.configured {config : Config} (free : config.IsBraceFree)
    {name : TemplateName} {filled : String}
    (done : config.configured .builtin name = .ok filled) : KeepsDepth filled := by
  obtain ⟨text, text_eq, filled_eq⟩ := (Config.configured_eq_ok_iff name filled).mp done
  obtain rfl : name.builtin = text := Except.ok.inj text_eq
  exact Template.keepsDepth_fillFields filled_eq (fun field value member found =>
    free.fields (TemplateName.notMem_unusedFields member) found) name.keepsDepth_builtin

theorem Config.IsBraceFree.fillForTable {config : Config} (free : config.IsBraceFree)
    {table : Table} (table_free : table.IsBraceFree) {name : TemplateName} {filled : String}
    (done : Template.fillForTable config.fields name.builtin table = .ok filled) :
    KeepsDepth filled := by
  refine Template.keepsDepth_fillFields done (fun field value member found => ?_)
    name.keepsDepth_builtin
  have used := TemplateName.notMem_unusedFields member
  rw [NamedMap.get?_merge, Option.or_eq_some_iff] at found
  rcases found with own | ⟨-, shared⟩
  · exact table_free.fields used own
  · exact free.fields used shared

namespace LoadedTemplates

/-- The templates of a run that are filled once keep the depth. -/
structure KeepDepth (templates : LoadedTemplates) : Prop where
  /-- File around the entity classes. -/
  modelFrame : KeepsDepth templates.modelFrame
  /-- File around the repository classes. -/
  repositoryFrame : KeepsDepth templates.repositoryFrame
  /-- The data context class. -/
  dataContext : KeepsDepth templates.dataContext
  /-- The generic repository. -/
  repositoryBase : KeepsDepth templates.repositoryBase

variable {templates : LoadedTemplates} (keep : templates.KeepDepth)
include keep

theorem KeepDepth.modelFile (name : String) {body : String} (body_keeps : KeepsDepth body) :
    KeepsDepth (templates.modelFile name body).content :=
  (Template.keepsDepth_fillPlaceholder keep.modelFrame body_keeps).ensureTrailingNewline

theorem KeepDepth.repositoryFile (name : String) {body : String} (body_keeps : KeepsDepth body) :
    KeepsDepth (templates.repositoryFile name body).content :=
  (Template.keepsDepth_fillPlaceholder keep.repositoryFrame body_keeps).ensureTrailingNewline

/-- All files keep the depth if the code of all tables does. -/
theorem KeepDepth.files (config : Config) {tables : List Table} {codes : List TableCode}
    (free : ∀ table ∈ tables, table.IsBraceFree)
    (codes_keep : ∀ code ∈ codes, KeepsDepth code.entity ∧ KeepsDepth code.addition ∧
      KeepsDepth code.repository) (multiFile : Bool) :
    ∀ file ∈ (if multiFile then templates.separateFiles config tables codes
      else templates.joinedFiles config tables codes), KeepsDepth file.content := by
  have context_keeps : KeepsDepth (templates.contextBody tables) :=
    .joinBlocks (by simpa using Template.keepsDepth_renderContext keep.dataContext free)
  have shared_keeps : KeepsDepth templates.sharedRepositoryBody :=
    .joinBlocks (by simpa using keep.repositoryBase)
  have model_keeps : ∀ code ∈ codes, KeepsDepth code.modelBody := fun code member =>
    .joinBlocks (by simpa using ⟨(codes_keep code member).1, (codes_keep code member).2.1⟩)
  have repository_keeps : ∀ code ∈ codes, KeepsDepth code.repositoryBody := fun code member =>
    .joinBlocks (by simpa using (codes_keep code member).2.2)
  split_ifs
  · rw [separateFiles, List.cons_append, List.forall_mem_cons, List.forall_mem_append,
      List.forall_mem_cons, List.forall_mem_map, List.forall_mem_map]
    exact ⟨keep.modelFile _ context_keeps,
      fun code member => keep.modelFile _ (model_keeps code member),
      keep.repositoryFile _ shared_keeps,
      fun code member => keep.repositoryFile _ (repository_keeps code member)⟩
  · rw [joinedFiles, List.forall_mem_cons, List.forall_mem_singleton]
    refine ⟨keep.modelFile _ (.joinBlocks ?_), keep.repositoryFile _ (.joinBlocks ?_)⟩
    · rw [List.forall_mem_cons, List.forall_mem_map]
      exact ⟨context_keeps, model_keeps⟩
    · rw [List.forall_mem_cons, List.forall_mem_map]
      exact ⟨shared_keeps, repository_keeps⟩

end LoadedTemplates

/-- Templates that are loaded from the built-in ones keep the depth. -/
theorem Config.IsBraceFree.loadTemplates {config : Config} (free : config.IsBraceFree)
    {templates : LoadedTemplates} (loaded : config.loadTemplates .builtin = .ok templates) :
    templates.KeepDepth := by
  obtain ⟨modelFrame, repositoryFrame, -, -, dataContext, repositoryBase⟩ :=
    (Config.loadTemplates_eq_ok_iff templates).mp loaded
  exact ⟨free.configured modelFrame, free.configured repositoryFrame, free.configured dataContext,
    free.configured repositoryBase⟩

/-- The code of tables keeps the depth, with the usual attributes and the built-in templates. -/
theorem Config.IsBraceFree.tableCodes {config : Config} (free : config.IsBraceFree)
    (usual : config.hooks = {}) {templates : LoadedTemplates}
    (loaded : config.loadTemplates .builtin = .ok templates) {tables : List Table}
    (tables_free : ∀ table ∈ tables, table.IsBraceFree) {codes : List TableCode}
    (codes_eq : tables.mapM (templates.tableCode config) = .ok codes) :
    ∀ code ∈ codes, KeepsDepth code.entity ∧ KeepsDepth code.addition ∧
      KeepsDepth code.repository := by
  obtain ⟨-, -, modelEntity, tableRepository, -, -⟩ :=
    (Config.loadTemplates_eq_ok_iff templates).mp loaded
  have each_code := (Traversal.mapM_eq_ok_iff _ tables codes).mp codes_eq
  clear codes_eq
  induction each_code with
  | nil => simp
  | @cons table code tables codes code_eq _ ih =>
      obtain ⟨table_free, rest_free⟩ := List.forall_mem_cons.mp tables_free
      obtain ⟨-, entity_eq, addition_eq, repository_eq⟩ :=
        (LoadedTemplates.tableCode_eq_ok_iff table code).mp code_eq
      rw [LoadedTemplates.entityAddition, ← Except.ok.inj modelEntity] at addition_eq
      rw [LoadedTemplates.tableClass, ← Except.ok.inj tableRepository] at repository_eq
      refine List.forall_mem_cons.mpr ⟨⟨?_, ?_, ?_⟩, ih rest_free⟩
      · rw [entity_eq, usual]
        exact table_free.renderEntity
      · exact free.fillForTable table_free addition_eq
      · exact free.fillForTable table_free repository_eq

namespace Generator

/-- With the built-in templates, the types of C# and the usual attributes, all generated files are
balanced, whatever tables the catalog has, unless there are braces in a name, a storage type, a
namespace or the connection. -/
theorem generated_files_balanced (config : Config) (usual : config.hooks = {})
    (settings : config.IsBraceFree) (catalog : Catalog) (described : catalog.IsBraceFree)
    (tables : List Table) (files : List OutputFile)
    (planned : Generator.plan ⟨config, .csharp⟩ catalog .builtin = .ok (tables, files)) :
    ∀ file ∈ files, Text.IsBalanced file.content := by
  obtain ⟨introspected, rendered⟩ := (plan_eq_ok_iff tables files).mp planned
  have tables_free := described.table introspected
  obtain ⟨templates, codes, loaded, codes_eq, rfl⟩ := (Config.render_eq_ok_iff
    (Schema.nodup_names_of_introspect introspected) config.multiFile files).mp rendered
  have codes_keep := settings.tableCodes usual loaded tables_free codes_eq
  have keep := (settings.loadTemplates loaded).files config tables_free codes_keep config.multiFile
  exact fun file member => (keepsDepth_iff_isBalanced file.content).mp (keep file member)

/-- One file for each of the two tables of the sample catalog, with a connection. -/
def sampleConfig : Config where
  baseNamespace := "Shop"
  context := { connection := some "\"Data Source=.\"" }
  multiFile := true

theorem generated_files_balanced_of_sample :
    ∃ tables files, Generator.plan ⟨sampleConfig, .csharp⟩ Scaffold.sample.catalog .builtin =
        .ok (tables, files) ∧
      files.length = 6 ∧ ∀ file ∈ files, Text.IsBalanced file.content := by
  have connected : sampleConfig.context.connection ≠ none := Option.some_ne_none _
  obtain ⟨tables, files, introspected, -, rendered, names_eq⟩ :=
    @Scaffold.exists_render_sample _ connected .builtin _ fun _ => rfl
  have planned : Generator.plan ⟨sampleConfig, .csharp⟩ Scaffold.sample.catalog .builtin =
      .ok (tables, files) := (plan_eq_ok_iff tables files).mpr ⟨introspected, rendered⟩
  have count : files.length = 6 := by
    rw [← List.length_map (fun file : OutputFile => (file.group, file.name)), names_eq]
    rfl
  have settings : sampleConfig.IsBraceFree :=
    ⟨by decide, by decide, by decide, by decide, fun _ connected => by
      obtain rfl := Option.some.inj connected
      decide⟩
  have described : Scaffold.sample.catalog.IsBraceFree :=
    Snapshot.isBraceFree_catalog (by decide)
  exact ⟨tables, files, planned, count, generated_files_balanced sampleConfig rfl settings _
    described tables files planned⟩

end Generator
end DataLayer
