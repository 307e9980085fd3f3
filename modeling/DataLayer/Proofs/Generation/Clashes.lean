import DataLayer.Proofs.Files.Segments
import DataLayer.Proofs.Generation.Placement

/-!
# Files with one path

Two generated files have the same path when they have the same name, and either belong to one group
or have a name that starts with a slash.  Type names differ, so the file of a table can only take
the path of a shared file of its group, or that of the other file of its own table.
-/

namespace DataLayer

namespace OutputLayout

theorem relativePath_of_absolute (layout : OutputLayout) {file : OutputFile}
    (absolute : file.name.startsWith "/" = true) :
    layout.relativePath file = file.name ++ "." ++ layout.extension := by
  obtain ⟨rest, name_eq⟩ := (Path.startsWith_slash_iff file.name).mp absolute
  have path_absolute : (file.name ++ "." ++ layout.extension).startsWith "/" = true := by
    rw [Path.startsWith_slash_iff]
    exact ⟨rest ++ '.' :: layout.extension.toList, by simp [name_eq]⟩
  rw [relativePath, Path.join, if_pos path_absolute]

variable {layout : OutputLayout}

theorem IsValid.relativePath_of_relative (valid : layout.IsValid) {file : OutputFile}
    (relative : file.name.startsWith "/" = false) :
    layout.relativePath file =
      layout.folder file.group ++ "/" ++ (file.name ++ "." ++ layout.extension) := by
  apply (valid.folder file.group).toIsName.join_eq
  by_cases nameless : file.name = ""
  · rw [nameless, String.empty_append, Path.startsWith_slash_append (by decide)]
    decide +kernel
  · rwa [String.append_assoc, Path.startsWith_slash_append nameless]

theorem IsValid.startsWith_relativePath (valid : layout.IsValid) (file : OutputFile) :
    (layout.relativePath file).startsWith "/" = file.name.startsWith "/" := by
  have folder := (valid.folder file.group).toIsName
  cases absolute : file.name.startsWith "/" with
  | false =>
      rw [valid.relativePath_of_relative absolute, String.append_assoc,
        Path.startsWith_slash_append folder.nonempty]
      exact Path.startsWith_slash_of_notMem folder.noSlash
  | true =>
      have nonempty : file.name ≠ "" := by
        rintro nameless
        simp [nameless] at absolute
      rw [layout.relativePath_of_absolute absolute, String.append_assoc,
        Path.startsWith_slash_append nonempty, absolute]

theorem folder_inj (foldersDiffer : layout.modelsFolder ≠ layout.repositoriesFolder)
    (first second : OutputGroup) :
    layout.folder first = layout.folder second ↔ first = second := by
  cases first <;> cases second <;> simp [folder, foldersDiffer, foldersDiffer.symm]

/-- Files have one path when they have one name, and one group unless the name starts with a
slash. -/
theorem IsValid.relativePath_eq_iff (valid : layout.IsValid)
    (foldersDiffer : layout.modelsFolder ≠ layout.repositoriesFolder) (first second : OutputFile) :
    layout.relativePath first = layout.relativePath second ↔
      first.name = second.name ∧
        (first.group = second.group ∨ first.name.startsWith "/" = true) := by
  by_cases same_start : first.name.startsWith "/" = second.name.startsWith "/"
  · cases absolute : first.name.startsWith "/" with
    | false =>
        rw [valid.relativePath_of_relative absolute,
          valid.relativePath_of_relative (same_start.symm.trans absolute),
          Path.append_slash_inj (valid.folder _).noSlash (valid.folder _).noSlash,
          folder_inj foldersDiffer]
        simp [and_comm]
    | true =>
        rw [layout.relativePath_of_absolute absolute,
          layout.relativePath_of_absolute (same_start.symm.trans absolute)]
        simp
  · apply iff_of_false
    · intro same_path
      apply same_start
      rw [← valid.startsWith_relativePath first, ← valid.startsWith_relativePath second, same_path]
    · rintro ⟨same_name, -⟩
      exact same_start (by rw [same_name])

end OutputLayout

namespace Generator

/-- The groups and names of the files that are generated for a context and for tables with files of
their own. -/
def fileNames (contextName : String) (tableNames : List String) : List (OutputGroup × String) :=
  (.models, contextName) :: tableNames.map (Prod.mk .models) ++
    (.repositories, sharedRepositoryName) :: tableNames.map (Prod.mk .repositories)

theorem mem_fileNames_iff {contextName : String} {tableNames : List String} (group : OutputGroup)
    (name : String) :
    (group, name) ∈ fileNames contextName tableNames ↔
      name ∈ tableNames ∨ (group, name) = (.models, contextName) ∨
        (group, name) = (.repositories, sharedRepositoryName) := by
  cases group <;> simp [fileNames, or_comm]

/-- Under distinct table names a name comes twice in a group only where a table has the name of a
shared file. -/
theorem pairwise_fileNames (contextName : String) {tableNames : List String}
    (distinct : tableNames.Nodup) :
    (fileNames contextName tableNames).Pairwise fun first second =>
      first = second → first.2 ∈ tableNames ∧
        (first = (.models, contextName) ∨ first = (.repositories, sharedRepositoryName)) := by
  have apart (group : OutputGroup) : (tableNames.map (Prod.mk group)).Pairwise fun first second =>
      first = second → first.2 ∈ tableNames ∧
        (first = (.models, contextName) ∨ first = (.repositories, sharedRepositoryName)) := by
    rw [List.pairwise_map]
    exact distinct.imp fun differ same => absurd (Prod.mk.inj same).2 differ
  rw [fileNames, List.cons_append, List.pairwise_cons, List.pairwise_append, List.pairwise_cons]
  refine ⟨?_, apart .models, ⟨?_, apart .repositories⟩, ?_⟩
  · intro other member same
    subst same
    exact ⟨by simpa using member, .inl rfl⟩
  · intro other member same
    subst same
    exact ⟨by simpa using member, .inr rfl⟩
  · intro first first_mem second second_mem same
    subst same
    obtain ⟨name, -, rfl⟩ := List.mem_map.mp first_mem
    simp at second_mem

section Names

variable {layout : OutputLayout} {contextName : String} {tableNames : List String}
  {files : List OutputFile}

/-- Two files with one path are files of a table, of which one may be a shared file. -/
theorem pairwise_clashes (valid : layout.IsValid)
    (foldersDiffer : layout.modelsFolder ≠ layout.repositoriesFolder)
    (context_noSlash : '/' ∉ contextName.toList) (distinct : tableNames.Nodup)
    (named : files.map (fun file => (file.group, file.name)) = fileNames contextName tableNames) :
    files.Pairwise fun first second =>
      layout.relativePath first = layout.relativePath second →
        first.name = second.name ∧ first.name ∈ tableNames ∧
          (first.name.startsWith "/" = true ∨ first.group = second.group ∧
            ((first.group, first.name) = (.models, contextName) ∨
              (first.group, first.name) = (.repositories, sharedRepositoryName))) := by
  have repeated := pairwise_fileNames contextName distinct
  rw [← named, List.pairwise_map] at repeated
  apply repeated.imp_of_mem
  intro first second first_mem _ apart same_path
  obtain ⟨same_name, same_group | absolute⟩ :=
    (valid.relativePath_eq_iff foldersDiffer first second).mp same_path
  · obtain ⟨name_mem, shared⟩ := apart (Prod.ext same_group same_name)
    exact ⟨same_name, name_mem, .inr ⟨same_group, shared⟩⟩
  · have member : (first.group, first.name) ∈ fileNames contextName tableNames := by
      rw [← named]
      exact List.mem_map_of_mem first_mem
    have not_shared (name : String) (noSlash : '/' ∉ name.toList) : first.name ≠ name := by
      rintro rfl
      rw [Path.startsWith_slash_of_notMem noSlash] at absolute
      exact Bool.false_ne_true absolute
    have name_mem : first.name ∈ tableNames := by
      rcases (mem_fileNames_iff _ _).mp member with name_mem | context | shared
      · exact name_mem
      · exact absurd (Prod.mk.inj context).2 (not_shared _ context_noSlash)
      · exact absurd (Prod.mk.inj shared).2 (not_shared _ (by decide))
    exact ⟨same_name, name_mem, .inl absolute⟩

/-- All paths differ exactly when no table has the name of a shared file or a name that starts with
a slash. -/
theorem nodup_relativePath_iff (valid : layout.IsValid)
    (foldersDiffer : layout.modelsFolder ≠ layout.repositoriesFolder)
    (context_noSlash : '/' ∉ contextName.toList) (distinct : tableNames.Nodup)
    (named : files.map (fun file => (file.group, file.name)) = fileNames contextName tableNames) :
    (files.map layout.relativePath).Nodup ↔
      ∀ name ∈ tableNames, name ≠ contextName ∧ name ≠ sharedRepositoryName ∧
        name.startsWith "/" = false := by
  rw [List.Nodup, List.pairwise_map]
  constructor
  · intro differ name name_mem
    have names_differ : (fileNames contextName tableNames).Pairwise fun first second =>
        ¬ (first.2 = second.2 ∧ (first.1 = second.1 ∨ first.2.startsWith "/" = true)) := by
      rw [← named, List.pairwise_map]
      exact differ.imp fun {first second} path_ne same =>
        path_ne ((valid.relativePath_eq_iff foldersDiffer first second).mpr same)
    rw [fileNames, List.cons_append, List.pairwise_cons, List.pairwise_append,
      List.pairwise_cons] at names_differ
    obtain ⟨context_differs, -, ⟨shared_differs, -⟩, groups_differ⟩ := names_differ
    have in_group (group : OutputGroup) : (group, name) ∈ tableNames.map (Prod.mk group) :=
      List.mem_map_of_mem name_mem
    refine ⟨?_, ?_, ?_⟩
    · intro same
      exact context_differs _ (List.mem_append_left _ (in_group .models)) ⟨same.symm, .inl rfl⟩
    · intro same
      exact shared_differs _ (in_group .repositories) ⟨same.symm, .inl rfl⟩
    · by_contra absolute
      rw [Bool.not_eq_false] at absolute
      exact groups_differ _ (in_group .models) _
        (List.mem_cons_of_mem _ (in_group .repositories)) ⟨rfl, .inr absolute⟩
  · intro apart
    apply (pairwise_clashes valid foldersDiffer context_noSlash distinct named).imp
    intro first second clash same_path
    obtain ⟨-, name_mem, clash⟩ := clash same_path
    obtain ⟨not_context, not_shared, relative⟩ := apart first.name name_mem
    rcases clash with absolute | ⟨-, context | shared⟩
    · exact Bool.false_ne_true (relative.symm.trans absolute)
    · exact not_context (Prod.mk.inj context).2
    · exact not_shared (Prod.mk.inj shared).2

end Names

variable {config : Config} {mapper : TypeMapper} {catalog : Catalog} {source : TemplateSource}
  {tables : List Table} {files : List OutputFile}

/-- The tables that have files of their own, by their type names. -/
def namesOfOwnFiles (config : Config) (tables : List Table) : List String :=
  if config.multiFile then tables.map (·.name) else []

theorem nodup_namesOfOwnFiles (config : Config) (distinct : (tables.map (·.name)).Nodup) :
    (namesOfOwnFiles config tables).Nodup := by
  unfold namesOfOwnFiles
  split
  · exact distinct
  · exact List.nodup_nil

theorem map_fileNames_of_render (distinct : (tables.map (·.name)).Nodup)
    (rendered : config.render tables source = .ok files) :
    files.map (fun file => (file.group, file.name)) =
      fileNames config.context.name (namesOfOwnFiles config tables) := by
  rw [Config.map_name_of_render distinct rendered, fileNames, namesOfOwnFiles]
  split <;> simp [Function.comp_def]

/-- Under an accepted manifest all generated files have different paths, unless each table has files
of its own and the type name of one is that of a shared file or starts with a slash.  There are no
other clashes than these. -/
theorem paths_distinct_iff_names {text fileName : String} {manifest : Manifest}
    (accepted : Manifest.parse text fileName = .ok manifest) {baseDir : String} {multiFile : Bool}
    {config : Config} (configured : config = { Config.ofManifest manifest baseDir with multiFile })
    (planned : Generator.plan ⟨config, mapper⟩ catalog source = .ok (tables, files)) :
    ((files.map config.layout.relativePath).Nodup ↔
      multiFile = false ∨ ∀ table ∈ tables, table.name ≠ config.context.name ∧
        table.name ≠ "Repository" ∧ table.name.startsWith "/" = false) ∧
    files.Pairwise fun first second =>
      config.layout.relativePath first = config.layout.relativePath second →
        ∃ table ∈ tables, first.name = table.name ∧ second.name = table.name ∧
          (table.name.startsWith "/" = true ∨ first.group = second.group ∧
            ((first.group, table.name) = (.models, config.context.name) ∨
              (first.group, table.name) = (.repositories, "Repository"))) := by
  have acceptable := ((Manifest.parse_eq_ok_iff text fileName manifest).mp accepted).2
  have valid : config.layout.IsValid := by
    subst configured
    exact acceptable.layout_isValid baseDir (Path.join baseDir manifest.output.dir) multiFile
  have foldersDiffer : config.layout.modelsFolder ≠ config.layout.repositoriesFolder := by
    subst configured
    exact acceptable.foldersDiffer
  have context_noSlash : '/' ∉ config.context.name.toList := by
    subst configured
    intro member
    exact absurd (acceptable.contextName.identifier.isIdentifierChar member) (by decide)
  have multiFile_eq : config.multiFile = multiFile := by rw [configured]
  obtain ⟨introspected, rendered⟩ := (plan_eq_ok_iff tables files).mp planned
  have typeNames_distinct := Schema.nodup_names_of_introspect introspected
  have named := map_fileNames_of_render typeNames_distinct rendered
  have distinct := nodup_namesOfOwnFiles config typeNames_distinct
  constructor
  · rw [nodup_relativePath_iff valid foldersDiffer context_noSlash distinct named,
      namesOfOwnFiles, multiFile_eq]
    cases multiFile <;> simp [sharedRepositoryName]
  · apply (pairwise_clashes valid foldersDiffer context_noSlash distinct named).imp
    intro first second clash same_path
    obtain ⟨same_name, name_mem, shared⟩ := clash same_path
    obtain ⟨table, table_mem, name_eq⟩ : ∃ table ∈ tables, table.name = first.name := by
      unfold namesOfOwnFiles at name_mem
      split at name_mem
      · exact List.mem_map.mp name_mem
      · exact absurd name_mem List.not_mem_nil
    rw [← name_eq] at same_name shared
    exact ⟨table, table_mem, name_eq.symm, same_name.symm, shared⟩

/-- A name that leads out of its folder is no clash, but the type name of the shared repository file
is one. -/
theorem paths_distinct_up_to_repository :
    ∃ manifest config,
      Manifest.parse "[project]\nnamespace = \"Shop\"\n[catalog]\npath = \"schema.toml\"\n"
        "dalgen.toml" = .ok manifest ∧
      config = { Config.ofManifest manifest "/work" with multiFile := true } ∧
      (∃ tables files,
        Generator.plan ⟨config, .csharp⟩
          (Snapshot.catalog ⟨[{ name := "user" }, { name := "../User" }]⟩) (fun _ => .ok "") =
            .ok (tables, files) ∧
        (files.map config.layout.relativePath).Nodup) ∧
      ∃ tables files,
        Generator.plan ⟨config, .csharp⟩
          (Snapshot.catalog ⟨[{ name := "user" }, { name := "repository" }]⟩) (fun _ => .ok "") =
            .ok (tables, files) ∧
        ¬ (files.map config.layout.relativePath).Nodup := by
  refine ⟨_, _, parse_least_manifest, rfl, ?_, ?_⟩
  · have planned := @paths_distinct_iff_names .csharp
      (Snapshot.catalog ⟨[{ name := "user" }, { name := "../User" }]⟩) (fun _ => .ok "")
      [.ofAnswers .csharp "user" [] [] [], .ofAnswers .csharp "../User" [] [] []] _ _ _ _
      parse_least_manifest "/work" true _ rfl rfl
    exact ⟨_, _, rfl, planned.1.mpr (.inr (by decide +kernel))⟩
  · have planned := @paths_distinct_iff_names .csharp
      (Snapshot.catalog ⟨[{ name := "user" }, { name := "repository" }]⟩) (fun _ => .ok "")
      [.ofAnswers .csharp "user" [] [] [], .ofAnswers .csharp "repository" [] [] []] _ _ _ _
      parse_least_manifest "/work" true _ rfl rfl
    exact ⟨_, _, rfl, fun distinct => absurd (planned.1.mp distinct) (by decide +kernel)⟩

end Generator
end DataLayer
