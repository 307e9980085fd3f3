import DataLayer.Proofs.Generation.Contents
import DataLayer.Proofs.Schema.Introspection

/-!
# The two layouts

A run with one file for each table and a run with one file for each group can be rendered for the
same tables.  They hold the same code: the file of a group has the bodies of the files for its
tables, in the same order.
-/

namespace DataLayer

/-- The code of one table. -/
structure TableCode where
  /-- Type name of the table. -/
  name : String
  /-- The entity class. -/
  entity : String
  /-- The addition to the entity class. -/
  addition : String
  /-- The repository class. -/
  repository : String
  deriving Repr, DecidableEq

namespace TableCode

/-- Body of the table's file with the entity class. -/
def modelBody (code : TableCode) : String :=
  Text.joinBlocks [code.entity, code.addition]

/-- Body of the table's file with the repository class. -/
def repositoryBody (code : TableCode) : String :=
  Text.joinBlocks [code.repository]

end TableCode

namespace RenderHooks

/-- Under distinct type names each table finds its own class. -/
theorem get?_renderEntities (hooks : RenderHooks) {tables : List Table}
    (distinct : (tables.map (·.name)).Nodup) {table : Table} (member : table ∈ tables) :
    (hooks.renderEntities tables).get? table.name = some (hooks.renderEntity table) := by
  have entry_mem : (table.name, hooks.renderEntity table) ∈
      tables.map fun other => (other.name, hooks.renderEntity other) :=
    List.mem_map_of_mem member
  have names_distinct :
      ((tables.map fun other => (other.name, hooks.renderEntity other)).map Prod.fst).Nodup := by
    rw [List.map_map]
    exact distinct
  exact NamedMap.get?_ofList_of_mem names_distinct entry_mem

end RenderHooks

namespace LoadedTemplates

/-- The code of a table, with both templates filled for it. -/
def tableCode (templates : LoadedTemplates) (config : Config) (table : Table) :
    Except TemplateError TableCode := do
  let addition ← templates.entityAddition config.fields table
  let repository ← templates.tableClass config.fields table
  return { name := table.name, entity := config.hooks.renderEntity table, addition, repository }

/-- Body of the file with the data context. -/
def contextBody (templates : LoadedTemplates) (tables : List Table) : String :=
  Text.joinBlocks [Template.renderContext templates.dataContext tables]

/-- Body of the file with what all repositories share. -/
def sharedRepositoryBody (templates : LoadedTemplates) : String :=
  Text.joinBlocks [templates.repositoryBase]

/-- The files of a run with one file for each table. -/
def separateFiles (templates : LoadedTemplates) (config : Config) (tables : List Table)
    (codes : List TableCode) : List OutputFile :=
  templates.modelFile config.context.name (templates.contextBody tables) ::
      codes.map (fun code => templates.modelFile code.name code.modelBody) ++
    templates.repositoryFile sharedRepositoryName templates.sharedRepositoryBody ::
      codes.map (fun code => templates.repositoryFile code.name code.repositoryBody)

/-- The files of a run with one file for each group. -/
def joinedFiles (templates : LoadedTemplates) (config : Config) (tables : List Table)
    (codes : List TableCode) : List OutputFile :=
  [templates.modelFile config.context.name
      (Text.joinBlocks (templates.contextBody tables :: codes.map (·.modelBody))),
    templates.repositoryFile sharedRepositoryName
      (Text.joinBlocks (templates.sharedRepositoryBody :: codes.map (·.repositoryBody)))]

variable {templates : LoadedTemplates} {config : Config} {tables : List Table}

theorem tableCode_eq_ok_iff (table : Table) (code : TableCode) :
    templates.tableCode config table = .ok code ↔
      code.name = table.name ∧ code.entity = config.hooks.renderEntity table ∧
        templates.entityAddition config.fields table = .ok code.addition ∧
        templates.tableClass config.fields table = .ok code.repository := by
  simp only [tableCode, Traversal.bind_eq_ok_iff, Traversal.pure_eq_ok_iff]
  constructor
  · rintro ⟨_, addition, _, repository, rfl⟩
    exact ⟨rfl, rfl, addition, repository⟩
  · rintro ⟨name_eq, entity_eq, addition, repository⟩
    refine ⟨_, addition, _, repository, ?_⟩
    rw [← name_eq, ← entity_eq]

theorem map_name_of_tableCode {codes : List TableCode}
    (codes_eq : tables.mapM (templates.tableCode config) = .ok codes) :
    codes.map (·.name) = tables.map (·.name) := by
  have each_code := (Traversal.mapM_eq_ok_iff _ tables codes).mp codes_eq
  exact Traversal.map_eq_map_of_forall₂ each_code fun table code code_eq =>
    ((tableCode_eq_ok_iff table code).mp code_eq).1

/-- The two files of a table can be rendered together when its code can. -/
theorem tableFiles_eq_ok_iff (distinct : (tables.map (·.name)).Nodup) {table : Table}
    (member : table ∈ tables) (model repository : OutputFile) :
    ((do
        let addition ← templates.entityAddition config.fields table
        let entity := ((config.hooks.renderEntities tables).get? table.name).getD ""
        return templates.modelFile table.name (Text.joinBlocks [entity, addition])) =
          Except.ok model ∧
      (do
        let body ← templates.tableClass config.fields table
        return templates.repositoryFile table.name (Text.joinBlocks [body])) =
          Except.ok repository) ↔
      ∃ code, templates.tableCode config table = .ok code ∧
        templates.modelFile code.name code.modelBody = model ∧
        templates.repositoryFile code.name code.repositoryBody = repository := by
  rw [config.hooks.get?_renderEntities distinct member, tableCode]
  cases templates.entityAddition config.fields table with
  | error error => simp [bind, Except.bind]
  | ok addition =>
      cases templates.tableClass config.fields table with
      | error error => simp [bind, Except.bind]
      | ok body =>
          simp [bind, Except.bind, pure, Except.pure, TableCode.modelBody, TableCode.repositoryBody]

theorem filePerTable_eq_ok_iff (distinct : (tables.map (·.name)).Nodup) (files : List OutputFile) :
    templates.filePerTable config tables = .ok files ↔
      ∃ codes, tables.mapM (templates.tableCode config) = .ok codes ∧
        files = templates.separateFiles config tables codes := by
  have both_eq_ok_iff := Traversal.mapM_eq_ok_and_mapM_eq_ok_iff fun table member =>
    @tableFiles_eq_ok_iff templates config tables distinct table member
  simp only [filePerTable, Traversal.bind_eq_ok_iff, Traversal.pure_eq_ok_iff]
  constructor
  · rintro ⟨models, models_eq, repositories, repositories_eq, rfl⟩
    obtain ⟨codes, codes_eq, rfl, rfl⟩ :=
      (both_eq_ok_iff models repositories).mp ⟨models_eq, repositories_eq⟩
    exact ⟨codes, codes_eq, rfl⟩
  · rintro ⟨codes, codes_eq, rfl⟩
    obtain ⟨models_eq, repositories_eq⟩ := (both_eq_ok_iff _ _).mpr ⟨codes, codes_eq, rfl, rfl⟩
    exact ⟨_, models_eq, _, repositories_eq, rfl⟩

/-- The blocks of a table, as they go into the files of the groups. -/
theorem tableBlocks_eq (distinct : (tables.map (·.name)).Nodup) {table : Table}
    (member : table ∈ tables) :
    (do
      let addition ← templates.entityAddition config.fields table
      let repository ← templates.tableClass config.fields table
      return (((config.hooks.renderEntities tables).get? table.name).toList ++ [addition],
        repository)) =
      (templates.tableCode config table).map fun code =>
        ([code.entity, code.addition], code.repository) := by
  rw [config.hooks.get?_renderEntities distinct member, tableCode]
  cases templates.entityAddition config.fields table with
  | error error => rfl
  | ok addition => cases templates.tableClass config.fields table <;> rfl

theorem joinBlocks_modelBodies (codes : List TableCode) :
    Text.joinBlocks (templates.contextBody tables :: codes.map (·.modelBody)) =
      Text.joinBlocks (Template.renderContext templates.dataContext tables ::
        codes.flatMap fun code => [code.entity, code.addition]) :=
  Text.joinBlocks_cons_map_joinBlocks _ _ codes

theorem joinBlocks_repositoryBodies (codes : List TableCode) :
    Text.joinBlocks (templates.sharedRepositoryBody :: codes.map (·.repositoryBody)) =
      Text.joinBlocks (templates.repositoryBase :: codes.map (·.repository)) := by
  have blocks_eq : codes.map (·.repository) = codes.flatMap fun code => [code.repository] :=
    List.map_eq_flatMap
  rw [blocks_eq]
  exact Text.joinBlocks_cons_map_joinBlocks _ _ codes

theorem filePerGroup_eq (distinct : (tables.map (·.name)).Nodup) :
    templates.filePerGroup config tables =
      (tables.mapM (templates.tableCode config)).map (templates.joinedFiles config tables) := by
  rw [filePerGroup, Traversal.mapM_eq_map_mapM fun table member => tableBlocks_eq distinct member]
  cases tables.mapM (templates.tableCode config) with
  | error error => rfl
  | ok codes =>
      simp only [Except.map, bind, Except.bind, pure, Except.pure, List.flatMap_map, List.map_map,
        joinedFiles, joinBlocks_modelBodies, joinBlocks_repositoryBodies]
      rfl

end LoadedTemplates

namespace Config

variable {config : Config} {tables : List Table} {source : TemplateSource}

theorem render_eq_ok_iff (distinct : (tables.map (·.name)).Nodup) (multiFile : Bool)
    (files : List OutputFile) :
    { config with multiFile }.render tables source = .ok files ↔
      ∃ templates codes, config.loadTemplates source = .ok templates ∧
        tables.mapM (templates.tableCode config) = .ok codes ∧
        files = if multiFile then templates.separateFiles config tables codes
          else templates.joinedFiles config tables codes := by
  have loaded_eq :
      { config with multiFile }.loadTemplates source = config.loadTemplates source := rfl
  simp only [render, loaded_eq, Traversal.bind_eq_ok_iff, exists_and_left]
  refine exists_congr fun templates => and_congr_right fun _ => ?_
  cases multiFile with
  | true => exact LoadedTemplates.filePerTable_eq_ok_iff distinct files
  | false =>
      have rendered_eq : templates.filePerGroup { config with multiFile := false } tables =
          (tables.mapM (templates.tableCode config)).map (templates.joinedFiles config tables) :=
        LoadedTemplates.filePerGroup_eq distinct
      rw [if_neg Bool.false_ne_true, rendered_eq]
      cases tables.mapM (templates.tableCode config) <;> simp [Except.map, eq_comm]

theorem exists_render_eq_ok_iff (distinct : (tables.map (·.name)).Nodup) (multiFile : Bool) :
    (∃ files, { config with multiFile }.render tables source = .ok files) ↔
      ∃ templates codes, config.loadTemplates source = .ok templates ∧
        tables.mapM (templates.tableCode config) = .ok codes := by
  simp [render_eq_ok_iff distinct]

/-- Whether files can be rendered does not depend on the layout. -/
theorem exists_render_multiFile_iff (distinct : (tables.map (·.name)).Nodup) (multiFile : Bool) :
    (∃ files, { config with multiFile }.render tables source = .ok files) ↔
      ∃ files, config.render tables source = .ok files :=
  (exists_render_eq_ok_iff distinct multiFile).trans
    (exists_render_eq_ok_iff distinct config.multiFile).symm

theorem map_name_of_render {files : List OutputFile}
    (distinct : (tables.map (·.name)).Nodup)
    (rendered : config.render tables source = .ok files) :
    files.map (fun file => (file.group, file.name)) =
      if config.multiFile then
        (.models, config.context.name) :: tables.map (fun table => (.models, table.name)) ++
          (.repositories, sharedRepositoryName) ::
            tables.map (fun table => (.repositories, table.name))
      else [(.models, config.context.name), (.repositories, sharedRepositoryName)] := by
  obtain ⟨templates, codes, -, codes_eq, rfl⟩ :=
    (render_eq_ok_iff distinct config.multiFile files).mp rendered
  have with_group (group : OutputGroup) :
      codes.map (fun code => (group, code.name)) =
        tables.map (fun table => (group, table.name)) := by
    simpa [List.map_map, Function.comp_def] using
      congrArg (List.map (Prod.mk group)) (LoadedTemplates.map_name_of_tableCode codes_eq)
  cases config.multiFile with
  | true =>
      simp [LoadedTemplates.separateFiles, LoadedTemplates.modelFile,
        LoadedTemplates.repositoryFile, Function.comp_def, with_group]
  | false => rfl

/-! ## Bodies and frames -/

theorem isContextBody_contextBody {templates : LoadedTemplates}
    (loaded : config.loadTemplates source = .ok templates) (tables : List Table) :
    config.IsContextBody source tables (templates.contextBody tables) := by
  obtain ⟨-, -, -, -, dataContext, -⟩ := (loadTemplates_eq_ok_iff templates).mp loaded
  have accessors : Text.IsJoined (tables.map fun table => Text.unlines table.accessorLines)
      (Template.contextMembers tables) := by
    simp only [← Table.accessor_eq_unlines]
    exact Text.isJoined_joinBlocks _
  exact ⟨_, _, _, fillsTo_of_configured dataContext, accessors,
    (Template.fillPlaceholder_eq_iff _ _ _).mp rfl, Text.isJoined_joinBlocks _⟩

theorem isSharedBody_sharedRepositoryBody {templates : LoadedTemplates}
    (loaded : config.loadTemplates source = .ok templates) :
    config.IsSharedBody source templates.sharedRepositoryBody := by
  obtain ⟨-, -, -, -, -, repositoryBase⟩ := (loadTemplates_eq_ok_iff templates).mp loaded
  exact ⟨_, fillsTo_of_configured repositoryBase, Text.isJoined_joinBlocks _⟩

theorem areBodiesOf_of_tableCode {templates : LoadedTemplates}
    (loaded : config.loadTemplates source = .ok templates) {table : Table} {code : TableCode}
    (code_eq : templates.tableCode config table = .ok code) :
    config.AreBodiesOf source table ⟨code.name, code.modelBody, code.repositoryBody⟩ := by
  obtain ⟨-, -, modelEntity, tableRepository, -, -⟩ := (loadTemplates_eq_ok_iff templates).mp loaded
  obtain ⟨name_eq, entity_eq, addition, repository⟩ :=
    (LoadedTemplates.tableCode_eq_ok_iff table code).mp code_eq
  have model : Text.IsJoined [Text.unlines (config.hooks.entityLines table), code.addition]
      code.modelBody := by
    rw [← RenderHooks.renderEntity_eq_unlines, ← entity_eq]
    exact Text.isJoined_joinBlocks _
  have alone : Text.IsJoined [code.repository] code.repositoryBody := Text.isJoined_joinBlocks _
  refine ⟨name_eq, ⟨_, fillsTo_of_fillForTable modelEntity addition, ?_⟩,
    ⟨_, fillsTo_of_fillForTable tableRepository repository, ?_⟩⟩
  · simpa only using model
  · simpa only using alone

theorem isFramed_modelFile {templates : LoadedTemplates}
    (loaded : config.loadTemplates source = .ok templates) (name body : String) :
    config.IsFramed source ⟨.models, name, body⟩ (templates.modelFile name body) := by
  obtain ⟨modelFrame, -⟩ := (loadTemplates_eq_ok_iff templates).mp loaded
  have configured : config.configured source OutputGroup.models.frame =
      .ok templates.modelFrame := modelFrame
  exact isFramed_of_configured configured name body

theorem isFramed_repositoryFile {templates : LoadedTemplates}
    (loaded : config.loadTemplates source = .ok templates) (name body : String) :
    config.IsFramed source ⟨.repositories, name, body⟩ (templates.repositoryFile name body) := by
  obtain ⟨-, repositoryFrame, -⟩ := (loadTemplates_eq_ok_iff templates).mp loaded
  have configured : config.configured source OutputGroup.repositories.frame =
      .ok templates.repositoryFrame := repositoryFrame
  exact isFramed_of_configured configured name body

theorem isFramed_map {codes : List TableCode} {body file : TableCode → OutputFile}
    (framed : ∀ code, config.IsFramed source (body code) (file code)) :
    List.Forall₂ (config.IsFramed source) (codes.map body) (codes.map file) := by
  rw [List.forall₂_map_left_iff, List.forall₂_map_right_iff, List.forall₂_same]
  exact fun code _ => framed code

theorem framed_separateFiles {templates : LoadedTemplates}
    (loaded : config.loadTemplates source = .ok templates) (codes : List TableCode) :
    List.Forall₂ (config.IsFramed source)
      (⟨.models, config.context.name, templates.contextBody tables⟩ ::
          codes.map (fun code => ⟨.models, code.name, code.modelBody⟩) ++
        ⟨.repositories, "Repository", templates.sharedRepositoryBody⟩ ::
          codes.map (fun code => ⟨.repositories, code.name, code.repositoryBody⟩))
      (templates.separateFiles config tables codes) := by
  refine .cons (isFramed_modelFile loaded _ _) (List.rel_append ?_ (.cons ?_ ?_))
  · exact isFramed_map fun code => isFramed_modelFile loaded code.name code.modelBody
  · exact isFramed_repositoryFile loaded _ _
  · exact isFramed_map fun code => isFramed_repositoryFile loaded code.name code.repositoryBody

theorem framed_joinedFiles {templates : LoadedTemplates}
    (loaded : config.loadTemplates source = .ok templates) (codes : List TableCode) :
    List.Forall₂ (config.IsFramed source)
      [⟨.models, config.context.name,
          Text.joinBlocks (templates.contextBody tables :: codes.map (·.modelBody))⟩,
        ⟨.repositories, "Repository",
          Text.joinBlocks (templates.sharedRepositoryBody :: codes.map (·.repositoryBody))⟩]
      (templates.joinedFiles config tables codes) :=
  .cons (isFramed_modelFile loaded _ _) (.cons (isFramed_repositoryFile loaded _ _) .nil)

/-- The two layouts can be rendered for the same schemas.  With one file for each table, each file
holds its body in the frame of its group; with one file for each group, that file holds all bodies
of the group in the same order. -/
theorem layouts_agree {mapper : TypeMapper} {catalog : Catalog} {tables : List Table}
    (introspected : Schema.introspect mapper catalog = .ok tables) (config : Config)
    (source : TemplateSource) :
    ((∃ files, { config with multiFile := true }.render tables source = .ok files) ↔
      ∃ files, { config with multiFile := false }.render tables source = .ok files) ∧
    ∀ separate joined,
      { config with multiFile := true }.render tables source = .ok separate →
      { config with multiFile := false }.render tables source = .ok joined →
      ∃ (context shared models repositories : String) (bodies : List TableBodies),
        config.IsContextBody source tables context ∧
        config.IsSharedBody source shared ∧
        List.Forall₂ (config.AreBodiesOf source) tables bodies ∧
        List.Forall₂ (config.IsFramed source)
          (⟨.models, config.context.name, context⟩ ::
              bodies.map (fun table => ⟨.models, table.name, table.model⟩) ++
            ⟨.repositories, "Repository", shared⟩ ::
              bodies.map (fun table => ⟨.repositories, table.name, table.repository⟩))
          separate ∧
        Text.IsJoined (context :: bodies.map (·.model)) models ∧
        Text.IsJoined (shared :: bodies.map (·.repository)) repositories ∧
        List.Forall₂ (config.IsFramed source)
          [⟨.models, config.context.name, models⟩, ⟨.repositories, "Repository", repositories⟩]
          joined := by
  have distinct := Schema.nodup_names_of_introspect introspected
  constructor
  · exact (exists_render_multiFile_iff distinct true).trans
      (exists_render_multiFile_iff distinct false).symm
  · intro separate joined separate_eq joined_eq
    obtain ⟨templates, codes, loaded, codes_eq, rfl⟩ :=
      (render_eq_ok_iff distinct true separate).mp separate_eq
    obtain ⟨others, otherCodes, others_loaded, otherCodes_eq, rfl⟩ :=
      (render_eq_ok_iff distinct false joined).mp joined_eq
    obtain rfl : templates = others := Except.ok.inj (loaded.symm.trans others_loaded)
    obtain rfl : codes = otherCodes := Except.ok.inj (codes_eq.symm.trans otherCodes_eq)
    have each_code := (Traversal.mapM_eq_ok_iff _ tables codes).mp codes_eq
    have bodies : List.Forall₂ (config.AreBodiesOf source) tables
        (codes.map fun code => ⟨code.name, code.modelBody, code.repositoryBody⟩) :=
      List.forall₂_map_right_iff.mpr (each_code.imp fun _ _ => areBodiesOf_of_tableCode loaded)
    refine ⟨templates.contextBody tables, templates.sharedRepositoryBody, _, _, _,
      isContextBody_contextBody loaded tables, isSharedBody_sharedRepositoryBody loaded, bodies, ?_,
      Text.isJoined_joinBlocks _, Text.isJoined_joinBlocks _, ?_⟩
    · simp only [List.map_map, Function.comp_def]
      exact framed_separateFiles loaded codes
    · simp only [List.map_map, Function.comp_def]
      exact framed_joinedFiles loaded codes

/-- Short templates with fields of project and table. -/
def briefTemplates : TemplateSource := fun name => .ok <|
  match name with
  | .modelFrame => "namespace [ModelNamespace]\n//[Placeholder]\n\n"
  | .repositoryFrame => "namespace [RepositoryNamespace]\n//[Placeholder]"
  | .modelEntity => "// [TableName]\n"
  | .tableRepository => "class [TableName]Repository : [RepositoryName]"
  | .dataContext => "class [ContextName]\n//[Placeholder]"
  | .repositoryBase => "class GenericRepository\n\n"

/-- The short templates, with the fields of a project. -/
def briefLoaded : LoadedTemplates where
  modelFrame := "namespace Models\n//[Placeholder]\n\n"
  repositoryFrame := "namespace Repositories\n//[Placeholder]"
  modelEntity := "// [TableName]\n"
  tableRepository := "class [TableName]Repository : [RepositoryName]"
  dataContext := "class ModelContext\n//[Placeholder]"
  repositoryBase := "class GenericRepository\n\n"

/-- A project with the usual settings. -/
def briefConfig : Config where
  baseNamespace := "Shop"

/-- A table without columns. -/
def briefTable (storageName : String) : Table :=
  .ofAnswers .csharp storageName [] [] []

/-- The lines of the data context of two tables. -/
def briefContext : List String :=
  ["class ModelContext",
    "        public Table<User> User",
    "        \x7b",
    "            get \x7b return this.GetTable<User>(); \x7d",
    "        \x7d",
    "",
    "        public Table<Order> Order",
    "        \x7b",
    "            get \x7b return this.GetTable<Order>(); \x7d",
    "        \x7d"]

/-- The lines of the class of a table, and of the addition to it. -/
def briefModel (storageName name : String) : List String :=
  ["    [Table(Name = \"" ++ storageName ++ "\")]",
    "    public partial class " ++ name,
    "    \x7b",
    "    \x7d",
    "",
    "// " ++ name]

/-- The line of the repository of a table. -/
def briefRepository (name : String) : String :=
  "class " ++ name ++ "Repository : GenericRepository"

/-- The files of two tables, one for each table and one for what they share. -/
def briefSeparate : List OutputFile := [
  ⟨.models, "ModelContext", Text.unlines ("namespace Models" :: briefContext)⟩,
  ⟨.models, "User", Text.unlines ("namespace Models" :: briefModel "user" "User")⟩,
  ⟨.models, "Order", Text.unlines ("namespace Models" :: briefModel "order" "Order")⟩,
  ⟨.repositories, "Repository", Text.unlines ["namespace Repositories", "class GenericRepository"]⟩,
  ⟨.repositories, "User", Text.unlines ["namespace Repositories", briefRepository "User"]⟩,
  ⟨.repositories, "Order", Text.unlines ["namespace Repositories", briefRepository "Order"]⟩]

/-- The files of two tables, one for each group. -/
def briefJoined : List OutputFile := [
  ⟨.models, "ModelContext", Text.unlines ("namespace Models" :: briefContext ++
    "" :: briefModel "user" "User" ++ "" :: briefModel "order" "Order")⟩,
  ⟨.repositories, "Repository", Text.unlines ["namespace Repositories", "class GenericRepository",
    "", briefRepository "User", "", briefRepository "Order"]⟩]

/-- The code of two tables. -/
def briefCodes : List TableCode := [
  ⟨"User", RenderHooks.renderEntity {} (briefTable "user"), "// User\n", briefRepository "User"⟩,
  ⟨"Order", RenderHooks.renderEntity {} (briefTable "order"), "// Order\n",
    briefRepository "Order"⟩]

/-- Texts are compared as characters, so that none of them is read back from its bytes. -/
theorem briefFiles_eq :
    briefLoaded.separateFiles briefConfig [briefTable "user", briefTable "order"] briefCodes =
        briefSeparate ∧
      briefLoaded.joinedFiles briefConfig [briefTable "user", briefTable "order"] briefCodes =
        briefJoined := by
  simp only [LoadedTemplates.separateFiles, LoadedTemplates.joinedFiles, briefSeparate, briefJoined,
    briefCodes, List.map_cons, List.map_nil, List.cons_append, List.nil_append, List.cons.injEq,
    LoadedTemplates.modelFile, LoadedTemplates.repositoryFile, OutputFile.mk.injEq,
    LoadedTemplates.contextBody, LoadedTemplates.sharedRepositoryBody, TableCode.modelBody,
    TableCode.repositoryBody, Template.renderContext, Template.contextMembers,
    Table.accessor_eq_unlines, RenderHooks.renderEntity_eq_unlines, ← String.toList_inj,
    Text.toList_ensureTrailingNewline, Template.toList_fillPlaceholder, Text.toList_joinBlocks,
    Text.toList_unlines]
  decide +kernel

theorem loadTemplates_briefTemplates :
    briefConfig.loadTemplates briefTemplates = .ok briefLoaded := by
  rfl

theorem introspect_briefTables :
    Schema.introspect .csharp (Snapshot.catalog ⟨[{ name := "user" }, { name := "order" }]⟩) =
      .ok [briefTable "user", briefTable "order"] := rfl

theorem render_briefTables (multiFile : Bool) :
    { briefConfig with multiFile }.render [briefTable "user", briefTable "order"] briefTemplates =
      .ok (if multiFile then briefSeparate else briefJoined) := by
  have distinct := Schema.nodup_names_of_introspect introspect_briefTables
  have codes_eq : [briefTable "user", briefTable "order"].mapM
      (briefLoaded.tableCode briefConfig) = .ok briefCodes := by
    rfl
  refine (render_eq_ok_iff distinct multiFile _).mpr
    ⟨_, _, loadTemplates_briefTemplates, codes_eq, ?_⟩
  rw [briefFiles_eq.1, briefFiles_eq.2]

theorem layouts_agree_two_tables :
    ∃ bodies,
      Schema.introspect .csharp (Snapshot.catalog ⟨[{ name := "user" }, { name := "order" }]⟩) =
        .ok [briefTable "user", briefTable "order"] ∧
      { briefConfig with multiFile := true }.render
        [briefTable "user", briefTable "order"] briefTemplates = .ok briefSeparate ∧
      { briefConfig with multiFile := false }.render
        [briefTable "user", briefTable "order"] briefTemplates = .ok briefJoined ∧
      List.Forall₂ (briefConfig.AreBodiesOf briefTemplates)
        [briefTable "user", briefTable "order"] bodies := by
  have separate_eq := render_briefTables true
  have joined_eq := render_briefTables false
  obtain ⟨-, -, -, -, bodies, -, -, tables_bodies, -⟩ :=
    (layouts_agree introspect_briefTables briefConfig briefTemplates).2 _ _ separate_eq joined_eq
  exact ⟨bodies, introspect_briefTables, separate_eq, joined_eq, tables_bodies⟩

end Config
end DataLayer
