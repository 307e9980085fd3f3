import DataLayer.Proofs.Files.Making
import DataLayer.Proofs.Generation.Renderable
import DataLayer.Proofs.Project.Generation
import DataLayer.Proofs.Project.SampleCatalog
import DataLayer.Proofs.Project.Scaffolding

/-!
# A project as it is started

A project that is started in an empty folder can be opened, checked and generated at once, as long
as its paths are not too long for a file system.
-/

namespace DataLayer

open FileTree

namespace FileTree

variable {tree after : FileTree} {place more : Location}

/-- Nothing stands where the folder around is missing. -/
theorem IsSound.get?_append_of_none (sound : tree.IsSound) (missing : tree.get? place = none)
    (more : Location) : tree.get? (place ++ more) = none := by
  induction more using List.reverseRecOn with
  | nil => rwa [List.append_nil]
  | append_singleton before name ih =>
      by_contra there
      rw [← List.append_assoc] at there
      rw [sound.around _ name there] at ih
      contradiction

/-- Nothing is in the folder. -/
def IsEmptyFolder (tree : FileTree) (dir : String) : Prop :=
  tree.isFolder dir = true ∧ ∀ name, tree.get? (tree.placeOf dir ++ [name]) = none

theorem IsSound.get?_of_isEmptyFolder {dir : String} (sound : tree.IsSound)
    (empty : tree.IsEmptyFolder dir) {below : Location} (nonempty : below ≠ []) :
    tree.get? (tree.placeOf dir ++ below) = none := by
  obtain ⟨name, rest, rfl⟩ := List.exists_cons_of_ne_nil nonempty
  rw [List.append_cons]
  exact sound.get?_append_of_none (empty.2 name) rest

/-- A file system that holds nothing at all. -/
def blank : FileTree :=
  ⟨[], []⟩

theorem isSound_blank : blank.IsSound :=
  .of_entries rfl (by simp [blank])

theorem isEmptyFolder_blank : blank.IsEmptyFolder "." := by
  have place_eq : blank.placeOf "." = [] := by decide +kernel
  refine ⟨by decide +kernel, fun name => ?_⟩
  rw [place_eq]
  rfl

/-- There is room for all files in an empty folder. -/
theorem IsSound.vacant {dir : String} {paths : List String} (sound : tree.IsSound)
    (empty : tree.IsEmptyFolder dir) (fits : ∀ path ∈ paths, Path.Fits dir path) :
    Vacant dir paths tree where
  there := empty.1
  fits := fits
  clear path _ front name _ := by
    by_cases top : front = []
    · rw [top, List.append_nil]
      exact .inl (get?_placeOf_of_isFolder empty.1)
    · exact .inr (sound.get?_of_isEmptyFolder empty top)
  absent path _ := sound.get?_of_isEmptyFolder empty (Path.segments_ne_nil path)

end FileTree

namespace Project

open Scaffold

variable {dir : String} {paths : List String} {files : List PlannedFile} {tree after : FileTree}

/-- All files were written below the folder, and nothing else. -/
structure Fills (dir : String) (paths : List String) (files : List PlannedFile)
    (tree after : FileTree) : Prop where
  sound : after.IsSound
  preserves : Preserves tree after
  texts : List.Forall₂ (fun path (file : PlannedFile) =>
    after.get? (tree.placeOf dir ++ Path.segments path) = some (.text file.content)) paths files
  untouched : ∀ place, (∀ path ∈ paths, ¬ place <+: tree.placeOf dir ++ Path.segments path) →
    after.get? place = tree.get? place

theorem exists_outcome_writeScaffold (below : List.Forall₂ (IsBelow dir) paths files)
    (apart : paths.Pairwise Path.Apart) (sound : tree.IsSound) (vacant : Vacant dir paths tree) :
    ∃ after, Fills dir paths files tree after ∧
      Stateful.outcome (writeScaffold dir files) tree =
        (.ok (paths.map fun path => ⟨path, .written⟩), after) := by
  induction below generalizing tree with
  | nil => exact ⟨tree, ⟨sound, .refl tree, .nil, fun _ _ => rfl⟩, rfl⟩
  | @cons path file paths files first below ih =>
      rw [List.pairwise_cons] at apart
      have absent := vacant.absent path List.mem_cons_self
      rw [← placeOf_join first.plain, ← first.path_eq] at absent
      have missing : ¬ tree.isPresent file.path = true := by
        rw [first.isPresent_iff_reaches]
        exact fun found => found.2 absent
      obtain ⟨middle, forced⟩ := vacant.exists_outcome_force first.path_eq
      have written : Stateful.outcome file.write tree = (.ok .written, middle) := by
        rw [PlannedFile.outcome_write_ifMissing file first.ifMissing, if_neg missing, forced]
        rfl
      have puts := putsText_of_force forced
      have preserves := puts.preserves absent
      have returns := first.returns_file (returns_of_isFolder vacant.there)
      have middle_vacant := vacant.of_puts apart.1 (first.path_eq ▸ puts)
      obtain ⟨after, fills, rest_eq⟩ := ih apart.2 (puts.isSound sound) middle_vacant
      have first_text := fills.preserves.kept _ _ puts.get?_placeOf
      have untouched (place : Location) (apart : ¬ place <+: tree.placeOf file.path) :=
        puts.get?_of_not_prefix returns apart
      rw [first.path_eq, placeOf_join first.plain] at first_text untouched
      have texts := fills.texts
      have rest_untouched := fills.untouched
      rw [preserves.keeps.placeOf] at texts rest_untouched
      refine ⟨after, ⟨fills.sound, preserves.trans fills.preserves, .cons first_text texts,
        fun place away => ?_⟩, ?_⟩
      · rw [List.forall_mem_cons] at away
        rw [rest_untouched place away.2, untouched place away.1]
      · rw [outcome_writeScaffold_cons, written]
        dsimp only
        rw [rest_eq, first.path_eq, first.plain.relativeTo_join]
        rfl

end Project

/-- Below the folder are a sample catalog and the built-in templates, and nothing was generated
yet. -/
structure IsFresh (base : String) (tree : FileTree) : Prop where
  sound : tree.IsSound
  there : tree.isFolder base = true
  catalog : tree.get? (tree.placeOf base ++ ["schema.toml"]) =
    some (.text (Text.unlines sampleCatalogLines))
  templates : ∀ name : TemplateName, tree.get? (tree.placeOf base ++ ["templates", name.fileName]) =
    some (.text name.builtin)
  ungenerated : ∀ below, tree.get? (tree.placeOf base ++ "generated" :: below) = none

/-- With 37 bytes there is room for a slash and the longest path in a new project, which is that of
the shared repository class once it is generated. -/
theorem Scaffold.fits_of_mem_paths {dir path : String} (room : dir.utf8ByteSize + 37 ≤ 4095)
    (member : path ∈ Scaffold.paths) : Path.Fits dir path := by
  have modest : ∀ path ∈ Scaffold.paths, Path.IsPlain path ∧ '\x00' ∉ path.toList ∧
      (∀ name ∈ Path.segments path, name.utf8ByteSize ≤ 255) ∧ path.utf8ByteSize ≤ 36 := by
    decide +kernel
  obtain ⟨plain, noNull, names, short⟩ := modest path member
  exact .of_size plain noNull names (by omega)

namespace Project

/-- Started in an empty folder, a project is fresh. -/
theorem exists_outcome_init {dir rootNamespace : String} {tree : FileTree}
    (names : IsNamespace rootNamespace) (sound : tree.IsSound) (empty : tree.IsEmptyFolder dir)
    (room : dir.utf8ByteSize + 37 ≤ 4095) :
    ∃ after, Stateful.outcome (init dir rootNamespace) tree =
        (.ok ⟨dir, rootNamespace, Scaffold.paths.map fun path => ⟨path, .written⟩⟩, after) ∧
      Preserves tree after ∧ IsFresh dir after ∧
      after.get? (tree.placeOf dir ++ ["dalgen.toml"]) =
        some (.text (NewManifest.ofNamespace rootNamespace).text) := by
  have vacant := sound.vacant empty fun path => Scaffold.fits_of_mem_paths room
  obtain ⟨after, fills, written⟩ := exists_outcome_writeScaffold
    (Scaffold.files_isBelow dir (.ofNamespace rootNamespace)) Scaffold.paths_apart sound vacant
  have started := outcome_init_eq_ok_iff.mpr
    ⟨_, _, NewManifest.parse_text names Scaffold.manifestName, written, rfl⟩
  have keeps := fills.preserves.keeps
  have ungenerated (below : Location) :
      after.get? (tree.placeOf dir ++ "generated" :: below) = none := by
    rw [fills.untouched, sound.get?_of_isEmptyFolder empty (List.cons_ne_nil _ _)]
    intro path member
    rw [List.prefix_append_right_inj]
    have heads : ∀ path ∈ Scaffold.paths, (Path.segments path).head? ≠ some "generated" := by
      decide +kernel
    rintro ⟨more, segments_eq⟩
    exact heads path member (by rw [← segments_eq]; rfl)
  obtain ⟨manifest_text, catalog_text, modelFrame, repositoryFrame, modelEntity, tableRepository,
      dataContext, repositoryBase, -⟩ := by
    simpa only [Scaffold.paths, Scaffold.files, Scaffold.templateFiles, TemplateName.all,
      List.map_cons, List.map_nil, List.forall₂_cons] using fills.texts
  refine ⟨after, started, fills.preserves, ⟨fills.sound, keeps.isFolder empty.1, ?_, ?_, ?_⟩,
    manifest_text⟩
  · rw [keeps.placeOf]
    exact catalog_text
  · intro name
    rw [keeps.placeOf]
    cases name with
    | modelFrame => exact modelFrame
    | repositoryFrame => exact repositoryFrame
    | modelEntity => exact modelEntity
    | tableRepository => exact tableRepository
    | dataContext => exact dataContext
    | repositoryBase => exact repositoryBase
  · intro below
    rw [keeps.placeOf]
    exact ungenerated below

end Project

/-- It only matters which folder it is. -/
theorem IsFresh.of_placeOf {dir base : String} {tree : FileTree} (fresh : IsFresh dir tree)
    (there : tree.isFolder base = true) (same : tree.placeOf base = tree.placeOf dir) :
    IsFresh base tree := by
  obtain ⟨sound, -, catalog, templates, ungenerated⟩ := fresh
  rw [← same] at catalog
  simp only [← same] at templates ungenerated
  exact ⟨sound, there, catalog, templates, ungenerated⟩

/-! ## Opening the project -/

theorem OpenedManifest.run_read_of_text {path content : String} {manifest : Manifest}
    {tree : FileTree} (text : tree.readText path = .ok content)
    (accepted : Manifest.parse content path = .ok manifest) :
    (read path : StateM FileTree _).run tree = (.ok ⟨path, content, manifest⟩, tree) := by
  rw [read, StateT.run_bind, run_readText, text]
  change (Except.map _ (Manifest.parse content path), tree) = _
  rw [accepted]
  rfl

/-- Paths of a manifest in a folder are followed from that folder. -/
theorem OpenedManifest.baseDir_of_join {opened : OpenedManifest} {dir name : String}
    {tree : FileTree} (path_eq : opened.path = Path.join dir name) (named : Path.IsName name)
    (sound : tree.IsSound) (there : tree.isFolder dir = true) (fits : Path.Fits dir name) :
    tree.isFolder opened.baseDir = true ∧ tree.placeOf opened.baseDir = tree.placeOf dir ∧
      opened.baseDir.utf8ByteSize ≤ dir.utf8ByteSize := by
  have nonempty := ne_empty_of_isFolder there
  have descends := descends_join there fits
  rw [Path.segments_of_noSlash named.noSlash, ← List.nil_append [name]] at descends
  obtain ⟨parent, parent_eq, ⟨rfl, -, place_eq⟩ | around⟩ := descends.around
  · have baseDir_eq : opened.baseDir = "." := by
      rw [baseDir, path_eq, parent_eq]
      rfl
    have relative : (Path.join dir name).startsWith "/" = false := by
      rw [← Path.startsWith_slash_parent? parent_eq]
      exact Path.startsWith_slash_of_notMem (by decide)
    have located := sound.locate_dot
    rw [baseDir_eq, placeOf_of_locate located, place_eq, start, if_neg (by simp [relative])]
    exact ⟨(isFolder_iff tree ".").mpr ⟨_, located, sound.home⟩, rfl,
      Path.utf8ByteSize_pos nonempty⟩
  · have baseDir_eq : opened.baseDir = parent := by
      rw [baseDir, path_eq, parent_eq]
      exact if_neg around.ne_empty
    have located := around.locate (walk_nil tree _)
    rw [List.append_nil] at located
    rw [baseDir_eq]
    exact ⟨around.isFolder, placeOf_of_locate located,
      Path.utf8ByteSize_le_of_parent?_join nonempty named parent_eq⟩

/-- A project that was started in an empty folder can be opened, and is fresh. -/
theorem Project.exists_opened {dir rootNamespace : String} {tree : FileTree}
    (names : IsNamespace rootNamespace) (sound : tree.IsSound) (empty : tree.IsEmptyFolder dir)
    (room : dir.utf8ByteSize + 37 ≤ 4095) :
    ∃ after opened, Stateful.outcome (init dir rootNamespace) tree =
        (.ok ⟨dir, rootNamespace, Scaffold.paths.map fun path => ⟨path, .written⟩⟩, after) ∧
      (OpenedManifest.read (Path.join dir "dalgen.toml") : StateM FileTree _).run after =
        (.ok opened, after) ∧
      opened.manifest = (NewManifest.ofNamespace rootNamespace).settings ∧
      opened.baseDir.utf8ByteSize ≤ dir.utf8ByteSize ∧
      after.placeOf opened.baseDir = after.placeOf dir ∧ IsFresh opened.baseDir after := by
  obtain ⟨after, started, preserves, fresh, text⟩ := exists_outcome_init names sound empty room
  have fits := Scaffold.fits_of_mem_paths room (by decide : "dalgen.toml" ∈ Scaffold.paths)
  rw [← preserves.keeps.placeOf] at text
  have read := OpenedManifest.run_read_of_text (readText_join fresh.there fits fresh.sound text)
    (NewManifest.parse_text names _)
  let opened : OpenedManifest := ⟨Path.join dir "dalgen.toml",
    (NewManifest.ofNamespace rootNamespace).text, (NewManifest.ofNamespace rootNamespace).settings⟩
  have path_eq : opened.path = Path.join dir "dalgen.toml" := rfl
  obtain ⟨there, same, short⟩ :=
    OpenedManifest.baseDir_of_join path_eq (by decide) fresh.sound fresh.there fits
  exact ⟨after, opened, started, read, rfl, short, same, fresh.of_placeOf there same⟩

theorem DocumentFormat.ofPath?_join_toml (base : String) :
    DocumentFormat.ofPath? (Path.join base "schema.toml") = some .toml := by
  have named : Path.IsName "schema.toml" := by decide
  obtain ⟨front, segments_eq, -⟩ :=
    Path.segments_join base (Path.startsWith_slash_of_notMem named.noSlash)
  rw [Path.segments_of_noSlash named.noSlash] at segments_eq
  have name_eq : Path.fileName? (Path.join base "schema.toml") = some "schema.toml" := by
    rw [Path.fileName?, Path.backwards_of_segments segments_eq named]
    exact if_neg (by decide)
  rw [ofPath?, Path.extension?, name_eq]
  decide

/-- The settings of a run for a new project in a folder, in a given layout. -/
def NewManifest.config (new : NewManifest) (base : String) (multiFile : Bool) : Config :=
  { Config.ofManifest new.settings base with multiFile }

theorem OpenedManifest.config_of_settings {opened : OpenedManifest} {new : NewManifest}
    (manifest_eq : opened.manifest = new.settings) :
    opened.config = new.config opened.baseDir false ∧
      ∀ multiFile, { opened.config with multiFile } = new.config opened.baseDir multiFile := by
  rw [OpenedManifest.config, manifest_eq]
  exact ⟨rfl, fun _ => rfl⟩

theorem NewManifest.ofNamespace_of_parts {rootNamespace first : String} {others : List String}
    (parts : Text.splitAtChar '.' rootNamespace = first :: others) :
    ofNamespace rootNamespace = ⟨rootNamespace, first ++ "Context", first⟩ := by
  rw [ofNamespace, parts]
  rfl

theorem NewManifest.catalogPath_config (new : NewManifest) (base : String) (multiFile : Bool) :
    (new.config base multiFile).catalogPath = Path.join base "schema.toml" := rfl

theorem NewManifest.outputDir_config (new : NewManifest) (base : String) (multiFile : Bool) :
    (new.config base multiFile).outputDir = Path.join base "generated" := rfl

namespace IsFresh

variable {base : String} {tree : FileTree} (fresh : IsFresh base tree)
  (room : base.utf8ByteSize + 37 ≤ 4095)

include fresh room

theorem snapshotAt_catalog :
    tree.snapshotAt (Path.join base "schema.toml") = .ok Scaffold.sample := by
  have fits := Scaffold.fits_of_mem_paths room (by decide : "schema.toml" ∈ Scaffold.paths)
  rw [snapshotAt, DocumentFormat.ofPath?_join_toml,
    readText_join fresh.there fits fresh.sound fresh.catalog]
  exact Scaffold.parse_sample _

theorem templateIn_templates (name : TemplateName) :
    tree.templateIn (Path.join base "templates") name = .ok name.builtin := by
  have below := Scaffold.templateFile_isBelow base name
  have member : "templates" ++ "/" ++ name.fileName ∈ Scaffold.paths := by
    cases name <;> decide
  have text : tree.get? (tree.placeOf base ++ Path.segments ("templates" ++ "/" ++ name.fileName)) =
      some (.text name.builtin) := by
    have segments_eq : Path.segments ("templates" ++ "/" ++ name.fileName) =
        ["templates", name.fileName] := by
      cases name <;> decide +kernel
    rw [segments_eq]
    exact fresh.templates name
  have read := readText_join fresh.there (Scaffold.fits_of_mem_paths room member) fresh.sound text
  have path_eq : TemplateSource.pathIn (Path.join base "templates") name =
      Path.join base ("templates" ++ "/" ++ name.fileName) := below.path_eq
  rw [templateIn, path_eq, read]

theorem exists_render (new : NewManifest) (multiFile : Bool) :
    ∃ tables files, Schema.introspect .csharp Scaffold.sample.catalog = .ok tables ∧
      tables.length = 2 ∧
      (new.config base multiFile).render tables (tree.templatesOf (new.config base multiFile)) =
        .ok files ∧
      files.map (fun file => (file.group, file.name)) =
        Scaffold.sampleFiles new.contextName multiFile := by
  have connected : (new.config base multiFile).context.connection ≠ none := Option.some_ne_none _
  exact Scaffold.exists_render_sample connected (fresh.templateIn_templates room)

theorem exists_check (new : NewManifest) (multiFile : Bool) (configPath : String) :
    ∃ found, (Project.check (new.config base multiFile) configPath : StateM FileTree _).run tree =
        (found, tree) ∧ found.errors = [] := by
  obtain ⟨tables, files, introspected, -, rendered, -⟩ := fresh.exists_render room new multiFile
  have checked := Project.run_check tree (new.config base multiFile) configPath
  rw [new.catalogPath_config, fresh.snapshotAt_catalog room,
    Project.checkLoaded_of_render configPath introspected rendered] at checked
  exact ⟨_, checked, rfl⟩

end IsFresh

end DataLayer
