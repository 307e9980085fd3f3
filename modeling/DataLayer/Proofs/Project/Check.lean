import DataLayer.Project.Check
import DataLayer.Project.Generate
import DataLayer.Proofs.Generation.Layouts
import DataLayer.Proofs.Generation.Run
import DataLayer.Proofs.Generation.Templates
import DataLayer.Proofs.Project.Loading
import DataLayer.Proofs.Project.SampleCatalog

/-!
# Checks and dry runs

A check finds nothing wrong exactly when a dry run succeeds, in either layout, and it counts the
tables and files of the dry run.
-/

namespace DataLayer
namespace Project

/-- What a dry run comes to, given what the catalog and the templates hold. -/
def dryRunLoaded (config : Config) (loaded : Except CatalogError Snapshot)
    (source : TemplateSource) : Except ProjectError GenerationReport :=
  match loaded with
  | .error error => .error (.catalogUnavailable config.catalogPath error)
  | .ok snapshot =>
    match Generator.preview { config } snapshot.catalog source with
    | .error error => .error (.generation (.plan error))
    | .ok files => .ok {
        rootNamespace := config.baseNamespace
        contextName := config.context.name
        multiFile := config.multiFile
        result := .preview files }

theorem run_check (tree : FileTree) (config : Config) (configPath : String) :
    (check config configPath : StateM FileTree _).run tree =
      (checkLoaded config configPath (tree.snapshotAt config.catalogPath) (tree.templatesOf config),
        tree) := by
  simp only [check, StateT.run_bind, FileTree.run_load, FileTree.run_templates]
  rfl

theorem outcome_generateLoaded_dryRun (config : Config) (snapshot : Snapshot)
    (source : TemplateSource) (tree : FileTree) :
    Stateful.outcome (generateLoaded config true snapshot source) tree =
      ((Generator.preview { config } snapshot.catalog source).map .preview |>.mapError .plan,
        tree) := by
  rw [generateLoaded]
  cases Generator.preview { config } snapshot.catalog source <;> rfl

theorem outcome_generate_dryRun (config : Config) (tree : FileTree) :
    Stateful.outcome (generate config true) tree =
      (dryRunLoaded config (tree.snapshotAt config.catalogPath) (tree.templatesOf config),
        tree) := by
  rw [generate, Stateful.outcome_bind, FileTree.outcome_loadCatalog]
  unfold dryRunLoaded
  cases tree.snapshotAt config.catalogPath with
  | error error => rfl
  | ok snapshot =>
      simp only [Except.mapError, Stateful.outcome_bind, Stateful.outcome_liftM,
        FileTree.run_templates, Stateful.outcome_adapt, outcome_generateLoaded_dryRun]
      cases Generator.preview { config } snapshot.catalog (tree.templatesOf config) <;> rfl

variable {config : Config} {source : TemplateSource} {tables : List Table}

theorem templateErrors_eq_nil_iff :
    templateErrors source = [] ↔ ∀ name, ∃ text, source name = .ok text := by
  rw [templateErrors, List.filterMap_eq_nil_iff]
  constructor
  · intro faultless name
    have name_faultless := faultless name name.mem_all
    cases text_eq : source name with
    | ok text => exact ⟨text, rfl⟩
    | error error => simp [text_eq] at name_faultless
  · intro readable name _
    obtain ⟨text, text_eq⟩ := readable name
    rw [text_eq]

theorem templateErrors_eq_nil_of_render {files : List OutputFile}
    (rendered : config.render tables source = .ok files) : templateErrors source = [] := by
  rw [Config.render, Traversal.bind_eq_ok_iff] at rendered
  obtain ⟨templates, loaded, -⟩ := rendered
  rw [templateErrors_eq_nil_iff]
  exact Config.exists_source_of_loadTemplates loaded

/-- Where all files can be rendered, a check counts the tables and files and finds nothing wrong. -/
theorem checkLoaded_of_render (configPath : String) {snapshot : Snapshot} {files : List OutputFile}
    (introspected : Schema.introspect .csharp snapshot.catalog = .ok tables)
    (rendered : config.render tables source = .ok files) :
    checkLoaded config configPath (.ok snapshot) source = {
      configPath
      catalogPath := config.catalogPath
      templates := config.templateOrigin
      tables := some tables.length
      files := some files.length
      warnings := tables.flatMap Table.warnings } := by
  have faultless := templateErrors_eq_nil_of_render rendered
  simp [checkLoaded, checkTables, introspected, rendered, faultless]

/-- A check finds nothing wrong exactly when the schema can be read and all files can be
rendered. -/
theorem isValid_checkLoaded_iff (config : Config) (configPath : String)
    (loaded : Except CatalogError Snapshot) (source : TemplateSource) :
    (checkLoaded config configPath loaded source).isValid = true ↔
      ∃ snapshot tables files, loaded = .ok snapshot ∧
        Schema.introspect .csharp snapshot.catalog = .ok tables ∧
        config.render tables source = .ok files := by
  constructor
  · intro valid
    cases loaded with
    | error error => simp [checkLoaded, CheckReport.isValid] at valid
    | ok snapshot =>
        cases introspected : Schema.introspect .csharp snapshot.catalog with
        | error error => simp [checkLoaded, introspected, CheckReport.isValid] at valid
        | ok tables =>
            cases rendered : config.render tables source with
            | ok files => exact ⟨snapshot, tables, files, rfl, introspected, rendered⟩
            | error error =>
                by_cases faultless : templateErrors source = [] <;>
                  simp [checkLoaded, introspected, checkTables, rendered, faultless,
                    CheckReport.isValid] at valid
  · rintro ⟨snapshot, tables, files, rfl, introspected, rendered⟩
    rw [checkLoaded_of_render configPath introspected rendered]
    rfl

theorem dryRunLoaded_eq_ok_iff (config : Config) (loaded : Except CatalogError Snapshot)
    (source : TemplateSource) (report : GenerationReport) :
    dryRunLoaded config loaded source = .ok report ↔
      ∃ snapshot shown, loaded = .ok snapshot ∧
        Generator.preview { config } snapshot.catalog source = .ok shown ∧
        report = {
          rootNamespace := config.baseNamespace
          contextName := config.context.name
          multiFile := config.multiFile
          result := .preview shown } := by
  unfold dryRunLoaded
  cases loaded with
  | error error => simp
  | ok snapshot =>
      cases shown_eq : Generator.preview { config } snapshot.catalog source with
      | error error => simp [shown_eq]
      | ok shown => simp [shown_eq, eq_comm]

/-- A dry run succeeds, in whatever layout, exactly when the schema can be read and all files can be
rendered. -/
theorem exists_dryRunLoaded_eq_ok_iff (config : Config) (multiFile : Bool)
    (loaded : Except CatalogError Snapshot) (source : TemplateSource) :
    (∃ report, dryRunLoaded { config with multiFile } loaded source = .ok report) ↔
      ∃ snapshot tables files, loaded = .ok snapshot ∧
        Schema.introspect .csharp snapshot.catalog = .ok tables ∧
        config.render tables source = .ok files := by
  constructor
  · rintro ⟨report, report_eq⟩
    obtain ⟨snapshot, shown, loaded_eq, shown_eq, -⟩ :=
      (dryRunLoaded_eq_ok_iff _ loaded source report).mp report_eq
    obtain ⟨tables, files, introspected, rendered, -⟩ :=
      (Generator.preview_eq_ok_iff shown).mp shown_eq
    have distinct := Schema.nodup_names_of_introspect introspected
    obtain ⟨ownFiles, own_rendered⟩ :=
      (Config.exists_render_multiFile_iff distinct multiFile).mp ⟨files, rendered⟩
    exact ⟨snapshot, tables, ownFiles, loaded_eq, introspected, own_rendered⟩
  · rintro ⟨snapshot, tables, ownFiles, loaded_eq, introspected, own_rendered⟩
    have distinct := Schema.nodup_names_of_introspect introspected
    obtain ⟨files, rendered⟩ :=
      (Config.exists_render_multiFile_iff distinct multiFile).mpr ⟨ownFiles, own_rendered⟩
    let generator : Generator := { config := { config with multiFile } }
    have shown_eq :
        generator.preview snapshot.catalog source =
          .ok (files.map fun file => (generator.config.layout.relativePath file, file.content)) :=
      (Generator.preview_eq_ok_iff _).mpr ⟨tables, files, introspected, rendered, rfl⟩
    exact ⟨_, (dryRunLoaded_eq_ok_iff generator.config loaded source _).mpr
      ⟨snapshot, _, loaded_eq, shown_eq, rfl⟩⟩

/-- A check finds nothing wrong exactly when a dry run on the same files succeeds, in whatever
layout.  In the layout of the project it counts the tables of the schema and the files of the dry
run. -/
theorem check_agrees_with_dryRun (config : Config) (configPath : String) (tree : FileTree) :
    (∀ multiFile,
      ((check config configPath : StateM FileTree _).run tree).1.isValid = true ↔
        ∃ report,
          (Stateful.outcome (generate { config with multiFile } true) tree).1 = .ok report) ∧
    ∀ report, (Stateful.outcome (generate config true) tree).1 = .ok report →
      ∃ snapshot tables shown,
        ((Snapshot.load config.catalogPath : StateM FileTree _).run tree).1 = .ok snapshot ∧
        Schema.introspect .csharp snapshot.catalog = .ok tables ∧
        report.result = .preview shown ∧
        ((check config configPath : StateM FileTree _).run tree).1.tables = some tables.length ∧
        ((check config configPath : StateM FileTree _).run tree).1.files = some shown.length := by
  simp only [run_check, outcome_generate_dryRun, FileTree.run_load]
  constructor
  · intro multiFile
    rw [isValid_checkLoaded_iff]
    exact (exists_dryRunLoaded_eq_ok_iff config multiFile _ _).symm
  · intro report report_eq
    obtain ⟨snapshot, shown, snapshot_eq, shown_eq, rfl⟩ :=
      (dryRunLoaded_eq_ok_iff config _ _ report).mp report_eq
    obtain ⟨tables, files, introspected, rendered, rfl⟩ :=
      (Generator.preview_eq_ok_iff shown).mp shown_eq
    refine ⟨snapshot, tables, _, snapshot_eq, introspected, rfl, ?_⟩
    rw [snapshot_eq, checkLoaded_of_render configPath introspected rendered]
    simp

/-- A project with a connection, the sample catalog and the built-in templates. -/
def sampleConfig (multiFile : Bool) : Config where
  baseNamespace := "Shop"
  catalogPath := "schema.toml"
  context := ⟨"ShopContext", some "\"shop\""⟩
  multiFile := multiFile

/-- The files of that project. -/
def sampleTree : FileTree :=
  .ofCatalog (Text.unlines sampleCatalogLines)

theorem snapshotAt_sampleTree (multiFile : Bool) :
    sampleTree.snapshotAt (sampleConfig multiFile).catalogPath = .ok Scaffold.sample :=
  FileTree.snapshotAt_ofCatalog (Scaffold.parse_sample _)

theorem templatesOf_sampleTree (multiFile : Bool) :
    sampleTree.templatesOf (sampleConfig multiFile) = .builtin := rfl

theorem exists_dryRun_sample (multiFile : Bool) :
    ∃ report shown,
      (Stateful.outcome (generate (sampleConfig multiFile) true) sampleTree).1 = .ok report ∧
      report.result = .preview shown ∧ shown.length = if multiFile then 6 else 2 := by
  have connected : (sampleConfig multiFile).context.connection ≠ none := Option.some_ne_none _
  have there (name : TemplateName) : TemplateSource.builtin name = .ok name.builtin := rfl
  obtain ⟨tables, files, introspected, -, rendered, names_eq⟩ :=
    Scaffold.exists_render_sample connected there
  have shown_eq : Generator.preview { config := sampleConfig multiFile } Scaffold.sample.catalog
      .builtin = .ok (files.map fun file =>
        ((sampleConfig multiFile).layout.relativePath file, file.content)) :=
    (Generator.preview_eq_ok_iff _).mpr ⟨tables, files, introspected, rendered, rfl⟩
  have report_eq := (dryRunLoaded_eq_ok_iff (sampleConfig multiFile) _ .builtin _).mpr
    ⟨_, _, snapshotAt_sampleTree multiFile, shown_eq, rfl⟩
  rw [outcome_generate_dryRun, templatesOf_sampleTree]
  refine ⟨_, _, report_eq, rfl, ?_⟩
  have count := congrArg List.length names_eq
  rw [List.length_map] at count ⊢
  rw [count]
  cases multiFile <;> rfl

/-- In either layout a check finds nothing wrong, counts both tables, and as many files as there are
in that layout. -/
theorem check_agrees_with_dryRun_sample :
    ∃ separate joined,
      (Stateful.outcome (generate (sampleConfig true) true) sampleTree).1 = .ok separate ∧
      (Stateful.outcome (generate (sampleConfig false) true) sampleTree).1 = .ok joined ∧
      ∀ multiFile,
        ((check (sampleConfig multiFile) "dalgen.toml" : StateM FileTree _).run
          sampleTree).1.isValid = true ∧
        ((check (sampleConfig multiFile) "dalgen.toml" : StateM FileTree _).run
          sampleTree).1.tables = some 2 ∧
        ((check (sampleConfig multiFile) "dalgen.toml" : StateM FileTree _).run
          sampleTree).1.files = some (if multiFile then 6 else 2) := by
  obtain ⟨separate, -, separate_eq, -⟩ := exists_dryRun_sample true
  obtain ⟨joined, -, joined_eq, -⟩ := exists_dryRun_sample false
  refine ⟨separate, joined, separate_eq, joined_eq, fun multiFile => ?_⟩
  obtain ⟨valid_iff, counts⟩ :=
    check_agrees_with_dryRun (sampleConfig multiFile) "dalgen.toml" sampleTree
  obtain ⟨report, shown, report_eq, result_eq, count⟩ := exists_dryRun_sample multiFile
  obtain ⟨snapshot, tables, others, loaded, introspected, others_eq, tables_eq, files_eq⟩ :=
    counts report report_eq
  obtain rfl : shown = others := by
    rw [result_eq] at others_eq
    exact GenerationResult.preview.inj others_eq
  obtain rfl : Scaffold.sample = snapshot := by
    rw [FileTree.run_load, snapshotAt_sampleTree] at loaded
    exact Except.ok.inj loaded
  obtain ⟨others, other_introspected, names_eq, -⟩ := Scaffold.introspect_sample
  obtain rfl : tables = others := Except.ok.inj (introspected.symm.trans other_introspected)
  have tables_count := congrArg List.length names_eq
  rw [List.length_map] at tables_count
  refine ⟨(valid_iff true).mpr ⟨separate, separate_eq⟩, ?_, ?_⟩
  · rw [tables_eq, tables_count]
    rfl
  · rw [files_eq, count]

end Project
end DataLayer
