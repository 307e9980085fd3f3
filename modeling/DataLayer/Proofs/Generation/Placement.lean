import DataLayer.Proofs.Files.Path
import DataLayer.Proofs.Generation.Layouts
import DataLayer.Proofs.Generation.Run
import DataLayer.Proofs.Manifest.Acceptance
import DataLayer.Proofs.Schema.Outcome
import DataLayer.Proofs.Text.Uppercase

/-!
# Where generated files go

Under an accepted manifest a generated file goes straight into the folder of its group exactly when
its name has no slash.  The only names that can have one are those of tables.
-/

namespace DataLayer

namespace OutputLayout

/-- The folders and the extension can be used as such. -/
structure IsValid (layout : OutputLayout) : Prop where
  folder (group : OutputGroup) : IsFolderName (layout.folder group)
  extension : IsExtension layout.extension

/-- Below an output folder the file goes straight into the folder of its group. -/
def PlacesDirectly (layout : OutputLayout) (root : String) (file : OutputFile) : Prop :=
  ∃ name, Path.IsName name ∧ layout.relativePath file = layout.folder file.group ++ "/" ++ name ∧
    Path.join root (layout.relativePath file) =
      Path.join root (layout.folder file.group) ++ "/" ++ name

theorem IsValid.placesDirectly_iff {layout : OutputLayout} (valid : layout.IsValid) (root : String)
    (file : OutputFile) : layout.PlacesDirectly root file ↔ '/' ∉ file.name.toList := by
  have folder := (valid.folder file.group).toIsName
  constructor
  · rintro ⟨name, isName, relative_eq, -⟩
    have noSlash := (folder.join_directly_iff _).mp ⟨name, isName.noSlash, relative_eq⟩
    simp only [String.toList_append, List.mem_append, not_or] at noSlash
    exact noSlash.1.1
  · intro noSlash
    have isName := valid.extension.isName noSlash
    have relative_eq := folder.join_eq (Path.startsWith_slash_of_notMem isName.noSlash)
    refine ⟨_, isName, relative_eq, ?_⟩
    rw [relativePath, relative_eq, String.append_assoc, Path.join_append root folder.nonempty,
      ← String.append_assoc]

end OutputLayout

theorem Manifest.IsAcceptable.layout_isValid {manifest : Manifest}
    (acceptable : manifest.IsAcceptable) (baseDir outputDir : String) (multiFile : Bool) :
    { Config.ofManifest manifest baseDir with outputDir, multiFile }.layout.IsValid where
  folder
    | .models => acceptable.modelsFolder
    | .repositories => acceptable.repositoriesFolder
  extension := acceptable.extension

/-- The type name of a table has the same ASCII characters that are no letters as its name in the
catalog. -/
theorem Schema.mem_name_iff_of_introspect {mapper : TypeMapper} {catalog : Catalog}
    {tables : List Table} (introspected : introspect mapper catalog = .ok tables) {table : Table}
    (member : table ∈ tables) {c : Char} (caseless : Text.IsCaselessCode c.toNat) :
    c ∈ table.name.toList ↔ c ∈ table.storageName.toList := by
  obtain ⟨entry, read⟩ := exists_entry_of_introspect introspected member
  rw [read.name_eq, read.storageName_eq, Text.mem_upperFirst_iff caseless]

namespace Generator

variable {mapper : TypeMapper} {catalog : Catalog} {source : TemplateSource} {tables : List Table}
  {files : List OutputFile}

/-- Under an accepted manifest, files go straight into the folders of their groups unless each table
has a file of its own and the name of one has a slash. -/
theorem placesDirectly_iff_names {text fileName : String} {manifest : Manifest}
    (accepted : Manifest.parse text fileName = .ok manifest) {baseDir outputDir : String}
    {multiFile : Bool} {config : Config}
    (configured : config = { Config.ofManifest manifest baseDir with outputDir, multiFile })
    (planned : Generator.plan ⟨config, mapper⟩ catalog source = .ok (tables, files)) :
    (∀ file ∈ files, config.layout.PlacesDirectly outputDir file) ↔
      multiFile = false ∨ ∀ table ∈ tables, '/' ∉ table.storageName.toList := by
  subst configured
  have acceptable := ((Manifest.parse_eq_ok_iff text fileName manifest).mp accepted).2
  have valid := acceptable.layout_isValid baseDir outputDir multiFile
  obtain ⟨introspected, rendered⟩ := (plan_eq_ok_iff tables files).mp planned
  have names_eq :=
    Config.map_name_of_render (Schema.nodup_names_of_introspect introspected) rendered
  have context_noSlash : '/' ∉ manifest.context.name.toList := fun member =>
    absurd (acceptable.contextName.identifier.isIdentifierChar member) (by decide)
  have shared_noSlash : '/' ∉ sharedRepositoryName.toList := by decide
  have tables_iff : (∀ table ∈ tables, '/' ∉ table.name.toList) ↔
      ∀ table ∈ tables, '/' ∉ table.storageName.toList :=
    forall₂_congr fun table member =>
      not_congr (Schema.mem_name_iff_of_introspect introspected member (by decide))
  have of_names : (∀ file ∈ files, '/' ∉ file.name.toList) ↔
      ∀ named ∈ files.map fun file => (file.group, file.name), '/' ∉ named.2.toList := by
    simp
  -- What is left is a question about names, and those of the manifest have no slash.
  simp only [valid.placesDirectly_iff]
  rw [of_names, names_eq]
  cases multiFile with
  | false => simp [context_noSlash, shared_noSlash, Config.ofManifest]
  | true =>
      simp only [if_true, List.cons_append, List.forall_mem_cons, List.forall_mem_append,
        List.forall_mem_map, tables_iff, Config.ofManifest, Bool.true_eq_false, false_or]
      exact ⟨fun each => each.2.1, fun each => ⟨context_noSlash, each, shared_noSlash, each⟩⟩

/-- A manifest with nothing in it but what has no default. -/
theorem parse_least_manifest :
    Manifest.parse "[project]\nnamespace = \"Shop\"\n[catalog]\npath = \"schema.toml\"\n"
      "dalgen.toml" = .ok { project := ⟨"Shop", false, "cs"⟩, catalog := ⟨"schema.toml"⟩ } := by
  have document_eq :
      Toml.document? "[project]\nnamespace = \"Shop\"\n[catalog]\npath = \"schema.toml\"\n" =
        some (.record [("project", .record [("namespace", .text "Shop")] true),
          ("catalog", .record [("path", .text "schema.toml")] true)] true) := by
    decide +kernel
  rw [Manifest.parse_of_document document_eq (Manifest.ofValue_brief _ _ none none)]
  decide +kernel

theorem placesDirectly_plain_tables :
    ∃ manifest config tables files,
      Manifest.parse "[project]\nnamespace = \"Shop\"\n[catalog]\npath = \"schema.toml\"\n"
        "dalgen.toml" = .ok manifest ∧
      config = { Config.ofManifest manifest "/work" with outputDir := "out", multiFile := true } ∧
      Generator.plan ⟨config, .csharp⟩ (Snapshot.catalog ⟨[{ name := "user" }, { name := ".." }]⟩)
        (fun _ => .ok "") = .ok (tables, files) ∧
      ∀ file ∈ files, config.layout.PlacesDirectly "out" file := by
  refine ⟨_, _, [.ofAnswers .csharp "user" [] [] [], .ofAnswers .csharp ".." [] [] []],
    [⟨.models, "ModelContext", "\n"⟩, ⟨.models, "User", "\n"⟩, ⟨.models, "..", "\n"⟩,
      ⟨.repositories, "Repository", "\n"⟩, ⟨.repositories, "User", "\n"⟩,
      ⟨.repositories, "..", "\n"⟩], parse_least_manifest, rfl, rfl, ?_⟩
  refine (@placesDirectly_iff_names .csharp
    (Snapshot.catalog ⟨[{ name := "user" }, { name := ".." }]⟩) (fun _ => .ok "")
    [.ofAnswers .csharp "user" [] [] [], .ofAnswers .csharp ".." [] [] []] _ _ _ _
    parse_least_manifest _ _ _ _ rfl rfl).mpr ?_
  exact .inr (by decide +kernel)

/-- The file of a table whose name starts with a slash goes outside the output folder. -/
theorem absolute_table_name_escapes :
    ∃ manifest config tables files file,
      Manifest.parse "[project]\nnamespace = \"Shop\"\n[catalog]\npath = \"schema.toml\"\n"
        "dalgen.toml" = .ok manifest ∧
      config = { Config.ofManifest manifest "/work" with outputDir := "out", multiFile := true } ∧
      Generator.plan ⟨config, .csharp⟩ (Snapshot.catalog ⟨[{ name := "/x" }]⟩)
        (fun _ => .ok "") = .ok (tables, files) ∧
      file ∈ files ∧ config.layout.relativePath file = "/x.cs" ∧
      Path.join "out" (config.layout.relativePath file) = "/x.cs" ∧
      ¬ config.layout.PlacesDirectly "out" file := by
  have relative : OutputLayout.relativePath ⟨"Models", "Repositories", "cs"⟩
      ⟨.models, "/x", "\n"⟩ = "/x.cs" := by
    decide +kernel
  refine ⟨_, _, [.ofAnswers .csharp "/x" [] [] []], [⟨.models, "ModelContext", "\n"⟩,
    ⟨.models, "/x", "\n"⟩, ⟨.repositories, "Repository", "\n"⟩, ⟨.repositories, "/x", "\n"⟩],
    ⟨.models, "/x", "\n"⟩, parse_least_manifest, rfl, rfl, by decide, relative,
    by decide +kernel, ?_⟩
  rintro ⟨name, -, relative_eq, -⟩
  have path_eq : "/x.cs" = "Models" ++ "/" ++ name := relative.symm.trans relative_eq
  simpa using congrArg (fun path => path.toList.head?) path_eq

end Generator
end DataLayer
