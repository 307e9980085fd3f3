import DataLayer.Proofs.Generation.Layouts
import DataLayer.Proofs.Generation.Run
import DataLayer.Proofs.Schema.Snapshot

/-!
# The files of one table

Where each table has files of its own, they depend on the entry of that table in the snapshot and on
nothing else in it.  So a snapshot with the same entries in another order gives the same files in
another order, but for the accessors in the file of the data context.
-/

namespace DataLayer

/-- The table of the schema that an entry of a catalog describes. -/
def TableEntry.table (mapper : TypeMapper) (entry : TableEntry) : Table :=
  .ofAnswers mapper entry.name entry.primaryKey entry.identity entry.columns

/-- An introspection makes a table of each entry for itself. -/
theorem Snapshot.introspect_eq_ok_iff_map {mapper : TypeMapper} {snapshot : Snapshot}
    (tables : List Table) :
    Schema.introspect mapper snapshot.catalog = .ok tables ↔
      snapshot.typeNames.Nodup ∧ snapshot.tables.map (·.table mapper) = tables := by
  have isReadFrom_eq : (fun entry table => Table.IsReadFrom mapper entry table) =
      fun (entry : TableEntry) table => entry.table mapper = table :=
    funext₂ fun entry table => propext (Table.isReadFrom_iff mapper entry table)
  rw [introspect_eq_ok_iff, isReadFrom_eq, ← List.forall₂_eq_eq_eq, List.forall₂_map_left_iff]

namespace LoadedTemplates

/-- The code of a table, with nothing in place of a template that cannot be filled for it. -/
def codeOf (templates : LoadedTemplates) (config : Config) (table : Table) : TableCode :=
  match templates.tableCode config table with
  | .ok code => code
  | .error _ => ⟨table.name, "", "", ""⟩

variable {templates : LoadedTemplates} {config : Config}

theorem name_codeOf (table : Table) : (templates.codeOf config table).name = table.name := by
  unfold codeOf
  cases code_eq : templates.tableCode config table with
  | ok code => exact ((tableCode_eq_ok_iff table code).mp code_eq).1
  | error _ => rfl

theorem tableCode_eq_codeOf_iff (table : Table) (code : TableCode) :
    templates.tableCode config table = .ok code ↔
      (∃ code, templates.tableCode config table = .ok code) ∧
        templates.codeOf config table = code := by
  unfold codeOf
  cases templates.tableCode config table <;> simp

theorem mapM_tableCode_eq_ok_iff (tables : List Table) (codes : List TableCode) :
    tables.mapM (templates.tableCode config) = .ok codes ↔
      (∀ table ∈ tables, ∃ code, templates.tableCode config table = .ok code) ∧
        tables.map (templates.codeOf config) = codes := by
  have code_iff : (fun table code => templates.tableCode config table = .ok code) =
      fun table code => (∃ code, templates.tableCode config table = .ok code) ∧
        templates.codeOf config table = code :=
    funext₂ fun table code => propext (tableCode_eq_codeOf_iff table code)
  rw [Traversal.mapM_eq_ok_iff, code_iff, List.forall₂_and_left, ← List.forall₂_eq_eq_eq,
    List.forall₂_map_left_iff]

/-- The file of the data context with the given accessors. -/
def contextFile (templates : LoadedTemplates) (config : Config) (accessors : List String) :
    OutputFile :=
  templates.modelFile config.context.name
    (Text.joinBlocks [Template.fillPlaceholder templates.dataContext (Text.joinBlocks accessors)])

/-- The file with the entity class of a table. -/
def ownModelFile (templates : LoadedTemplates) (config : Config) (table : Table) : OutputFile :=
  templates.modelFile table.name (templates.codeOf config table).modelBody

/-- The file with the repository class of a table. -/
def ownRepositoryFile (templates : LoadedTemplates) (config : Config) (table : Table) :
    OutputFile :=
  templates.repositoryFile table.name (templates.codeOf config table).repositoryBody

/-- The files for tables that each have files of their own. -/
def filesOf (templates : LoadedTemplates) (config : Config) (tables : List Table) :
    List OutputFile :=
  templates.contextFile config (tables.map (·.accessor)) ::
      tables.map (templates.ownModelFile config) ++
    templates.repositoryFile sharedRepositoryName templates.sharedRepositoryBody ::
      tables.map (templates.ownRepositoryFile config)

theorem separateFiles_eq_filesOf (tables : List Table) :
    templates.separateFiles config tables (tables.map (templates.codeOf config)) =
      templates.filesOf config tables := by
  simp only [separateFiles, filesOf, List.map_map, Function.comp_def, name_codeOf]
  rfl

theorem getElem?_filesOf_model (config : Config) {tables : List Table} {i : Nat} {table : Table}
    (table_at : tables[i]? = some table) :
    (templates.filesOf config tables)[i + 1]? = some (templates.ownModelFile config table) := by
  have in_bounds : i < (tables.map (templates.ownModelFile config)).length := by
    rw [List.length_map]
    exact (List.getElem?_eq_some_iff.mp table_at).1
  rw [filesOf, List.cons_append, List.getElem?_cons_succ, List.getElem?_append_left in_bounds,
    List.getElem?_map, table_at]
  rfl

/-- The repository files stand behind the model files and the shared one. -/
theorem getElem?_filesOf_repository (config : Config) {tables : List Table} {i : Nat}
    {table : Table} (table_at : tables[i]? = some table) :
    (templates.filesOf config tables)[tables.length + i + 2]? =
      some (templates.ownRepositoryFile config table) := by
  have behind_models : (tables.map (templates.ownModelFile config)).length ≤
      tables.length + (i + 1) := by
    rw [List.length_map]
    omega
  have place_eq : tables.length + i + 2 = tables.length + (i + 1) + 1 := by omega
  rw [filesOf, List.cons_append, place_eq, List.getElem?_cons_succ,
    List.getElem?_append_right behind_models, List.length_map, Nat.add_sub_cancel_left,
    List.getElem?_cons_succ, List.getElem?_map, table_at]
  rfl

end LoadedTemplates

namespace Generator

variable {config : Config} {mapper : TypeMapper} {source : TemplateSource}

/-- What a run with files for each table comes to, entry by entry. -/
theorem plan_snapshot_eq_ok_iff (snapshot : Snapshot) (tables : List Table)
    (files : List OutputFile) :
    Generator.plan ⟨{ config with multiFile := true }, mapper⟩ snapshot.catalog source =
        .ok (tables, files) ↔
      snapshot.typeNames.Nodup ∧ snapshot.tables.map (·.table mapper) = tables ∧
        ∃ templates, config.loadTemplates source = .ok templates ∧
          (∀ table ∈ tables, ∃ code, templates.tableCode config table = .ok code) ∧
          files = templates.filesOf config tables := by
  rw [plan_eq_ok_iff, Snapshot.introspect_eq_ok_iff_map, and_assoc]
  refine and_congr_right fun distinct => and_congr_right fun tables_eq => ?_
  have introspected : Schema.introspect mapper snapshot.catalog = .ok tables :=
    (Snapshot.introspect_eq_ok_iff_map tables).mpr ⟨distinct, tables_eq⟩
  rw [Config.render_eq_ok_iff (Schema.nodup_names_of_introspect introspected)]
  simp only [LoadedTemplates.mapM_tableCode_eq_ok_iff, if_true]
  constructor
  · rintro ⟨templates, _, loaded, ⟨each_coded, rfl⟩, rfl⟩
    exact ⟨templates, loaded, each_coded, LoadedTemplates.separateFiles_eq_filesOf tables⟩
  · rintro ⟨templates, loaded, each_coded, rfl⟩
    exact ⟨templates, _, loaded, ⟨each_coded, rfl⟩,
      (LoadedTemplates.separateFiles_eq_filesOf tables).symm⟩

/-- Where each table has files of its own, an entry has the same two files in any two snapshots.
The same entries in another order give the same files in that order, and the accessors in that order
in the file of the data context. -/
theorem own_files_depend_on_entry (config : Config) (mapper : TypeMapper)
    (source : TemplateSource) :
    (∀ (first second : Snapshot) (tables others : List Table) (files otherFiles : List OutputFile),
      Generator.plan ⟨{ config with multiFile := true }, mapper⟩ first.catalog source =
          .ok (tables, files) →
        Generator.plan ⟨{ config with multiFile := true }, mapper⟩ second.catalog source =
          .ok (others, otherFiles) →
        ∀ (entry : TableEntry) (i j : Nat), first.tables[i]? = some entry →
          second.tables[j]? = some entry →
          ∃ model repository : OutputFile,
            files[i + 1]? = some model ∧ otherFiles[j + 1]? = some model ∧
              model.group = .models ∧ model.name = Text.upperFirst entry.name ∧
              files[first.tables.length + i + 2]? = some repository ∧
              otherFiles[second.tables.length + j + 2]? = some repository ∧
              repository.group = .repositories ∧ repository.name = Text.upperFirst entry.name) ∧
    ∀ (first second : Snapshot) (tables : List Table) (files : List OutputFile),
      second.tables.Perm first.tables →
      Generator.plan ⟨{ config with multiFile := true }, mapper⟩ first.catalog source =
          .ok (tables, files) →
        ∃ (others : List Table) (otherFiles : List OutputFile),
          Generator.plan ⟨{ config with multiFile := true }, mapper⟩ second.catalog source =
              .ok (others, otherFiles) ∧
            ∃ (templates : LoadedTemplates) (model repository : TableEntry → OutputFile),
              config.loadTemplates source = .ok templates ∧
                files =
                  templates.contextFile config
                      (first.tables.map fun entry => (entry.table mapper).accessor) ::
                    first.tables.map model ++
                  templates.repositoryFile sharedRepositoryName templates.sharedRepositoryBody ::
                    first.tables.map repository ∧
                otherFiles =
                  templates.contextFile config
                      (second.tables.map fun entry => (entry.table mapper).accessor) ::
                    second.tables.map model ++
                  templates.repositoryFile sharedRepositoryName templates.sharedRepositoryBody ::
                    second.tables.map repository := by
  constructor
  · intro first second tables others files otherFiles planned otherPlanned entry i j entry_at
      other_at
    obtain ⟨-, rfl, templates, loaded, -, rfl⟩ :=
      (plan_snapshot_eq_ok_iff first tables files).mp planned
    obtain ⟨-, rfl, otherTemplates, otherLoaded, -, rfl⟩ :=
      (plan_snapshot_eq_ok_iff second others otherFiles).mp otherPlanned
    obtain rfl : templates = otherTemplates := Except.ok.inj (loaded.symm.trans otherLoaded)
    have table_at : (first.tables.map (·.table mapper))[i]? = some (entry.table mapper) := by
      rw [List.getElem?_map, entry_at]
      rfl
    have other_table_at : (second.tables.map (·.table mapper))[j]? = some (entry.table mapper) := by
      rw [List.getElem?_map, other_at]
      rfl
    have repository_at := templates.getElem?_filesOf_repository config table_at
    have other_repository_at := templates.getElem?_filesOf_repository config other_table_at
    rw [List.length_map] at repository_at other_repository_at
    exact ⟨_, _, templates.getElem?_filesOf_model config table_at,
      templates.getElem?_filesOf_model config other_table_at, rfl, rfl, repository_at,
      other_repository_at, rfl, rfl⟩
  · intro first second tables files permuted planned
    obtain ⟨distinct, rfl, templates, loaded, each_coded, rfl⟩ :=
      (plan_snapshot_eq_ok_iff first tables files).mp planned
    have permuted_tables :
        (second.tables.map (·.table mapper)).Perm (first.tables.map (·.table mapper)) :=
      permuted.map _
    have other_distinct : second.typeNames.Nodup := (permuted.map _).nodup_iff.mpr distinct
    have other_coded (table : Table) (member : table ∈ second.tables.map (·.table mapper)) :
        ∃ code, templates.tableCode config table = .ok code :=
      each_coded table (permuted_tables.mem_iff.mp member)
    refine ⟨_, _, (plan_snapshot_eq_ok_iff second _ _).mpr
      ⟨other_distinct, rfl, templates, loaded, other_coded, rfl⟩, templates,
      fun entry => templates.ownModelFile config (entry.table mapper),
      fun entry => templates.ownRepositoryFile config (entry.table mapper), loaded, ?_, ?_⟩
    · simp only [LoadedTemplates.filesOf, List.map_map, Function.comp_def]
    · simp only [LoadedTemplates.filesOf, List.map_map, Function.comp_def]

/-- The files of a table are the same beside another table, behind one or in front of one. -/
theorem own_files_of_order :
    ∃ (others : List Table) (beside : List OutputFile) (swapped : List Table)
      (turned : List OutputFile),
      Generator.plan ⟨{ Config.briefConfig with multiFile := true }, .csharp⟩
        (Snapshot.catalog ⟨[{ name := "order" }, { name := "stock" }]⟩) Config.briefTemplates =
          .ok (others, beside) ∧
      beside[1]? = some ⟨.models, "Order",
        Text.unlines ("namespace Models" :: Config.briefModel "order" "Order")⟩ ∧
      beside[4]? = some ⟨.repositories, "Order",
        Text.unlines ["namespace Repositories", Config.briefRepository "Order"]⟩ ∧
      Generator.plan ⟨{ Config.briefConfig with multiFile := true }, .csharp⟩
        (Snapshot.catalog ⟨[{ name := "order" }, { name := "user" }]⟩) Config.briefTemplates =
          .ok (swapped, turned) := by
  have planned : Generator.plan ⟨{ Config.briefConfig with multiFile := true }, .csharp⟩
      (Snapshot.catalog ⟨[{ name := "user" }, { name := "order" }]⟩) Config.briefTemplates =
        .ok ([Config.briefTable "user", Config.briefTable "order"], Config.briefSeparate) :=
    (plan_eq_ok_iff _ _).mpr ⟨Config.introspect_briefTables, Config.render_briefTables true⟩
  have coded (table : Table)
      (member : table ∈ [Config.briefTable "order", Config.briefTable "stock"]) :
      ∃ code, Config.briefLoaded.tableCode Config.briefConfig table = .ok code := by
    rcases List.mem_pair.mp member with rfl | rfl
    · exact ⟨_, rfl⟩
    · exact ⟨_, rfl⟩
  have beside_planned :=
    (plan_snapshot_eq_ok_iff ⟨[{ name := "order" }, { name := "stock" }]⟩ _ _).mpr
      ⟨by decide +kernel, rfl, Config.briefLoaded, Config.loadTemplates_briefTemplates, coded, rfl⟩
  obtain ⟨same, permuted⟩ :=
    own_files_depend_on_entry Config.briefConfig .csharp Config.briefTemplates
  obtain ⟨model, repository, model_at, model_beside, -, -, repository_at, repository_beside, -⟩ :=
    same _ _ _ _ _ _ planned beside_planned { name := "order" } 1 0 rfl rfl
  obtain ⟨swapped, turned, turned_planned, -⟩ :=
    permuted _ ⟨[{ name := "order" }, { name := "user" }]⟩ _ _ (.swap _ _ _) planned
  obtain rfl := Option.some.inj model_at
  obtain rfl := Option.some.inj repository_at
  exact ⟨_, _, swapped, turned, beside_planned, model_beside, repository_beside, turned_planned⟩

end Generator
end DataLayer
