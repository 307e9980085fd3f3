import DataLayer.Proofs.Generation.Directory
import DataLayer.Proofs.Project.Check

/-!
# Generating the code of a project

What a dry run shows is what a generation writes.  A generation that leaves the catalog and the
templates alone can be repeated, and then it changes nothing.
-/

namespace DataLayer

/-- The files that a generation reads: the catalog and the templates of the project's own. -/
def Config.inputPaths (config : Config) : List String :=
  config.catalogPath ::
    match config.templateDir with
    | none => []
    | some folder => TemplateName.all.map (TemplateSource.pathIn folder)

namespace FileTree

variable {tree after : FileTree}

theorem snapshotAt_again {path : String} {snapshot : Snapshot}
    (again : ∀ text, tree.readText path = .ok text → after.readText path = .ok text)
    (loaded : tree.snapshotAt path = .ok snapshot) : after.snapshotAt path = .ok snapshot := by
  rw [snapshotAt] at loaded ⊢
  cases format_eq : DocumentFormat.ofPath? path with
  | none => simp [format_eq] at loaded
  | some format =>
      cases read : tree.readText path with
      | error cause => simp [format_eq, read] at loaded
      | ok text =>
          simp only [format_eq, read] at loaded
          simp only [again text read, loaded]

theorem templatesOf_again {config : Config}
    (again : ∀ path ∈ config.inputPaths,
      ∀ text, tree.readText path = .ok text → after.readText path = .ok text)
    (there : ∀ name, ∃ text, tree.templatesOf config name = .ok text) :
    after.templatesOf config = tree.templatesOf config := by
  rw [templatesOf, templatesOf] at *
  cases folder_eq : config.templateDir with
  | none => rfl
  | some folder =>
      funext name
      obtain ⟨text, text_eq⟩ := there name
      have among : TemplateSource.pathIn folder name ∈ config.inputPaths := by
        rw [Config.inputPaths, folder_eq]
        exact List.mem_cons_of_mem _ (List.mem_map_of_mem name.mem_all)
      simp only [folder_eq, templateIn] at text_eq ⊢
      cases read : tree.readText (TemplateSource.pathIn folder name) with
      | error cause => simp [read] at text_eq
      | ok other => rw [again _ among other read]

end FileTree

namespace Project

variable {config : Config} {snapshot : Snapshot} {source : TemplateSource} {tables : List Table}
  {tree after : FileTree} {answered : List (OutputFile × WriteResult)} {report : GenerationReport}

/-- The report of a generation whose files are all written. -/
def writtenReport (config : Config) (tables : Nat) (files : List String) : GenerationReport where
  rootNamespace := config.baseNamespace
  contextName := config.context.name
  multiFile := config.multiFile
  result := .written config.outputDir tables files

theorem outcome_generateLoaded_run (config : Config) (snapshot : Snapshot)
    (source : TemplateSource) (tree : FileTree) :
    Stateful.outcome (generateLoaded config false snapshot source) tree =
      match Stateful.outcome (Generator.run { config } snapshot.catalog source
        (directorySink config.outputDir config.layout)) tree with
      | (.ok report, after) =>
        (.ok (.written config.outputDir report.tables report.written), after)
      | (.error error, after) => (.error error, after) := by
  change Stateful.outcome (Generator.run _ _ _ _ >>= fun report =>
    pure (GenerationResult.written config.outputDir report.tables report.written)) tree = _
  rw [Stateful.outcome_bind]
  generalize Stateful.outcome (Generator.run _ _ _ _) tree = ran
  obtain ⟨result, reached⟩ := ran
  cases result <;> rfl

theorem outcome_generate_of_run (loaded : tree.snapshotAt config.catalogPath = .ok snapshot) :
    Stateful.outcome (generate config false) tree =
      match Stateful.outcome (Generator.run { config } snapshot.catalog (tree.templatesOf config)
        (directorySink config.outputDir config.layout)) tree with
      | (.ok report, after) => (.ok (writtenReport config report.tables report.written), after)
      | (.error error, after) => (.error (.generation error), after) := by
  rw [generate, Stateful.outcome_bind, FileTree.outcome_loadCatalog, loaded]
  simp only [Except.mapError, Stateful.outcome_bind, Stateful.outcome_liftM,
    FileTree.run_templates, Stateful.outcome_adapt, outcome_generateLoaded_run]
  generalize Stateful.outcome (Generator.run _ _ _ _) tree = ran
  obtain ⟨result, reached⟩ := ran
  cases result <;> rfl

theorem map_fst_written (files : List OutputFile) :
    (files.map (·, WriteResult.written)).map Prod.fst = files := by
  simp [Function.comp_def]

theorem outcome_generate_eq_ok_iff (config : Config) (tree after : FileTree)
    (report : GenerationReport) :
    Stateful.outcome (generate config false) tree = (.ok report, after) ↔
      ∃ snapshot tables files, tree.snapshotAt config.catalogPath = .ok snapshot ∧
        Generator.plan { config } snapshot.catalog (tree.templatesOf config) =
          .ok (tables, files) ∧
        (directorySink config.outputDir config.layout).Accepts tree (files.map (·, .written))
          after ∧
        report = writtenReport config tables.length (files.map config.layout.relativePath) := by
  constructor
  · intro generated
    cases loaded : tree.snapshotAt config.catalogPath with
    | error error =>
        rw [generate, Stateful.outcome_bind, FileTree.outcome_loadCatalog, loaded] at generated
        simp [Except.mapError] at generated
    | ok snapshot =>
        rw [outcome_generate_of_run loaded] at generated
        cases ran_eq : Stateful.outcome (Generator.run { config } snapshot.catalog
          (tree.templatesOf config) (directorySink config.outputDir config.layout)) tree with
        | mk result reached =>
            rw [ran_eq] at generated
            cases result with
            | error error => simp at generated
            | ok ran =>
                obtain ⟨report_eq, rfl⟩ := Prod.mk.inj generated
                obtain ⟨tables, answered, planned, accepts, rfl⟩ :=
                  (Generator.outcome_run_eq_ok_iff _ _ _ _ _ _ _).mp ran_eq
                obtain ⟨files, rfl⟩ := FileTree.exists_files_of_accepts accepts
                rw [map_fst_written] at planned
                rw [RunReport.written_ofAnswers] at report_eq
                exact ⟨snapshot, tables, files, rfl, planned, accepts,
                  (Except.ok.inj report_eq).symm⟩
  · rintro ⟨snapshot, tables, files, loaded, planned, accepts, rfl⟩
    rw [← map_fst_written files] at planned
    rw [outcome_generate_of_run loaded, Generator.outcome_run_of_accepts planned accepts]
    simp only [RunReport.written_ofAnswers]
    rfl

section Again

variable {files : List OutputFile} (loaded : tree.snapshotAt config.catalogPath = .ok snapshot)
  (planned : Generator.plan { config } snapshot.catalog (tree.templatesOf config) =
    .ok (tables, files))
  (accepts : (directorySink config.outputDir config.layout).Accepts tree (files.map (·, .written))
    after)

include accepts

theorem places_of_accepts :
    after.get? = (files.map (·.below config.outputDir config.layout)).foldl tree.putText
      tree.get? := by
  have places := (FileTree.written_of_accepts accepts).2.1
  simpa [Function.comp_def] using places

theorem setAll_of_accepts :
    after.setAll (after.textsAt (files.map (·.below config.outputDir config.layout))) = after ∧
      ∀ file ∈ files, after.HoldsText (file.below config.outputDir config.layout).1 := by
  obtain ⟨keeps, -, written⟩ := FileTree.written_of_accepts accepts
  have holds : ∀ file ∈ files,
      after.HoldsText (file.below config.outputDir config.layout).1 := by
    intro file member
    exact (written (file, .written) (List.mem_map_of_mem member)).2
  refine ⟨FileTree.setAll_textsAt_eq_self keeps (places_of_accepts accepts) ?_, holds⟩
  simpa using holds

include loaded planned

/-- A generation that does not write where it reads can be repeated and then changes nothing. -/
theorem outcome_generate_again
    (apart : ∀ file ∈ files, ∀ input ∈ config.inputPaths,
      tree.placeOf (file.below config.outputDir config.layout).1 ≠ tree.placeOf input) :
    Stateful.outcome (generate config false) after =
      (.ok (writtenReport config tables.length (files.map config.layout.relativePath)), after) := by
  obtain ⟨keeps, -⟩ := FileTree.written_of_accepts accepts
  have again (path : String) (member : path ∈ config.inputPaths) (text : String)
      (read : tree.readText path = .ok text) : after.readText path = .ok text := by
    obtain ⟨place, located, there⟩ := (FileTree.readText_eq_ok_iff tree path text).mp read
    have place_eq := FileTree.placeOf_of_locate located
    refine keeps.readText read ?_
    rw [places_of_accepts accepts, place_eq, there]
    refine FileTree.foldl_putText_of_notMem ?_ there
    simpa [← place_eq] using fun file file_mem => apart file file_mem path member
  have there : ∀ name, ∃ text, tree.templatesOf config name = .ok text := by
    have rendered := ((Generator.plan_eq_ok_iff tables files).mp planned).2
    exact templateErrors_eq_nil_iff.mp (templateErrors_eq_nil_of_render rendered)
  have loaded_again :=
    FileTree.snapshotAt_again (again config.catalogPath List.mem_cons_self) loaded
  rw [← FileTree.templatesOf_again again there] at planned
  obtain ⟨unchanged, holds⟩ := setAll_of_accepts accepts
  have accepts_again := FileTree.accepts_of_holdsText holds
  rw [unchanged] at accepts_again
  exact (outcome_generate_eq_ok_iff _ _ _ _).mpr
    ⟨snapshot, tables, files, loaded_again, planned, accepts_again, rfl⟩

end Again

/-- A dry run shows what a generation writes.  When a generation succeeds, a dry run does so on the
same files, and what was shown is then at its places below the output folder, each file as it was
shown last, in folders that were made where nothing was.  All else is as it was.  If none of these
places is that of the catalog or of a template, a second generation comes to the same and changes
nothing at all. -/
theorem generate_writes_dryRun (config : Config) (tree after : FileTree) (report : GenerationReport)
    (generated : Stateful.outcome (generate config false) tree = (.ok report, after)) :
    ∃ tables shown,
      report.result = .written config.outputDir tables (shown.map Prod.fst) ∧
      Stateful.outcome (generate config true) tree =
        (.ok { report with result := .preview shown }, tree) ∧
      after.home = tree.home ∧
      after.get? = (shown.map fun file => (Path.join config.outputDir file.1, file.2)).foldl
        tree.putText tree.get? ∧
      ((∀ file ∈ shown, ∀ input ∈ config.inputPaths,
          tree.placeOf (Path.join config.outputDir file.1) ≠ tree.placeOf input) →
        Stateful.outcome (generate config false) after = (.ok report, after)) := by
  obtain ⟨snapshot, tables, files, loaded, planned, accepts, rfl⟩ :=
    (outcome_generate_eq_ok_iff _ _ _ _).mp generated
  let generator : Generator := { config }
  have shown_eq := Generator.preview_of_plan planned
  have dryRun_eq := (dryRunLoaded_eq_ok_iff config _ _ _).mpr ⟨snapshot, _, loaded, shown_eq, rfl⟩
  refine ⟨tables.length, files.map generator.shownAs, ?_, ?_,
    (FileTree.written_of_accepts accepts).1.home, ?_, ?_⟩
  · rw [List.map_map]
    rfl
  · rw [outcome_generate_dryRun, dryRun_eq]
    rfl
  · rw [List.map_map]
    exact places_of_accepts accepts
  · intro apart
    exact outcome_generate_again loaded planned accepts fun file member input input_mem =>
      apart _ (List.mem_map_of_mem member) input input_mem

/-- A generation goes over an old file and makes the folder of another one, and can be repeated. -/
theorem generate_writes_dryRun_over_old_file :
    ∃ (config : Config) (tree after : FileTree) (report : GenerationReport),
      Stateful.outcome (generate config false) tree = (.ok report, after) ∧
        tree.get? ["out", "Models", "Shop.cs"] = some (.text "old") ∧
        after.get? ["out", "Models", "Shop.cs"] = some (.text "class Shop;\n") ∧
        tree.get? ["out", "Repositories"] = none ∧
        after.get? ["out", "Repositories"] = some .folder ∧
        Stateful.outcome (generate config false) after = (.ok report, after) := by
  let config : Config := {
    baseNamespace := "Shop"
    templateDir := some "t"
    outputDir := "out"
    context := ⟨"Shop", none⟩ }
  let templates : List (Location × FileEntry) := [
    (["t"], .folder), (["t", "ModelFrame.txt"], .text "class Shop;"),
    (["t", "RepositoryFrame.txt"], .text ""), (["t", "ModelEntity.txt"], .text ""),
    (["t", "TableRepository.txt"], .text ""), (["t", "DataContext.txt"], .text ""),
    (["t", "RepositoryBase.txt"], .text ""), (["schema.toml"], .text "")]
  let tree : FileTree := {
    entries := templates ++ [(["out"], .folder), (["out", "Models"], .folder),
      (["out", "Models", "Shop.cs"], .text "old")]
    home := [] }
  let after : FileTree := {
    entries := templates ++ [(["out"], .folder), (["out", "Models"], .folder),
      (["out", "Models", "Shop.cs"], .text "class Shop;\n"), (["out", "Repositories"], .folder),
      (["out", "Repositories", "Repository.cs"], .text "\n")]
    home := [] }
  let files : List String := ["Models/Shop.cs", "Repositories/Repository.cs"]
  have generated : Stateful.outcome (generate config false) tree =
      (.ok (writtenReport config 0 files), after) := by decide +kernel
  have apart : ∀ file ∈ files, ∀ input ∈ config.inputPaths,
      tree.placeOf (Path.join "out" file) ≠ tree.placeOf input := by decide +kernel
  obtain ⟨tables, shown, result_eq, -, -, -, again⟩ :=
    generate_writes_dryRun config tree after _ generated
  obtain ⟨-, -, shown_eq⟩ := GenerationResult.written.inj result_eq
  refine ⟨config, tree, after, _, generated, rfl, rfl, rfl, rfl, again fun file member => ?_⟩
  apply apart file.1
  rw [shown_eq]
  exact List.mem_map_of_mem member

end Project
end DataLayer
