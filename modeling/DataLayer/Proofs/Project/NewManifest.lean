import DataLayer.Manifest.Parse
import DataLayer.Project.Scaffold
import DataLayer.Proofs.Document.Lines
import DataLayer.Proofs.Document.Record
import DataLayer.Proofs.Document.Sections
import DataLayer.Proofs.Manifest.Grammar
import Mathlib.Data.Bool.AllAny

/-!
# The manifest of a new project

The manifest of a new project is written as text.  Read line by line it says what it spells out: the
namespace, a context and a database named after the first word of the namespace, and the settings
that are the same for every project.
-/

namespace DataLayer

theorem isForbidden_of_isIdentifierChar {c : Char} (inside : isIdentifierChar c = true) :
    Toml.isForbidden c = false := by
  have bounds : '0' ≤ c ∧ c ≤ 'z' := by
    rcases (isIdentifierChar_iff c).mp inside with (⟨low, high⟩ | ⟨low, high⟩) | ⟨low, high⟩ | rfl
    · exact ⟨Char.le_trans (by decide) low, Char.le_trans high (by decide)⟩
    · exact ⟨Char.le_trans (by decide) low, Char.le_trans high (by decide)⟩
    · exact ⟨low, Char.le_trans high (by decide)⟩
    · decide
  have low_nat : 48 ≤ c.toNat := bounds.1
  have high_nat : c.toNat ≤ 122 := bounds.2
  simp only [Toml.isForbidden, Bool.or_eq_false_iff, Bool.and_eq_false_iff,
    decide_eq_false_iff_not, beq_eq_false_iff_ne]
  omega

namespace NewManifest

open Toml

/-- The expression that connects to a database. -/
def connection (database : String) : String :=
  "\"Data Source=.;Initial Catalog=" ++ database ++ ";Integrated Security=True\""

/-- The settings that the text of the manifest spells out. -/
def settings (new : NewManifest) : Manifest where
  project := ⟨new.rootNamespace, false, "cs"⟩
  catalog := ⟨"schema.toml"⟩
  templates := ⟨some "templates"⟩
  output := ⟨"generated"⟩
  context := ⟨new.contextName, some (connection new.database)⟩
  models := ⟨"Models", "Models"⟩
  repositories := ⟨"Repositories", "Repositories"⟩

/-- The lines of the manifest with what each says, where the quoted namespace reads as a given
one. -/
def sayings (new : NewManifest) (read : String) : List (String × Option Statement) := [
  ("[project]", some (.header [] "project")),
  (textLine "namespace" new.rootNamespace, some (.assignment [] "namespace" (.text read))),
  ("# Write one file per table instead of one file per group", none),
  ("multi_file = false", some (.assignment [] "multi_file" (.boolean false))),
  ("", none),
  ("[catalog]", some (.header [] "catalog")),
  ("# Catalog snapshot (.toml or .json) describing tables, keys and columns", none),
  ("path = \"schema.toml\"", some (.assignment [] "path" (.text "schema.toml"))),
  ("", none),
  ("[templates]", some (.header [] "templates")),
  ("# Remove to use the built-in templates", none),
  ("dir = \"templates\"", some (.assignment [] "dir" (.text "templates"))),
  ("", none),
  ("[output]", some (.header [] "output")),
  ("dir = \"generated\"", some (.assignment [] "dir" (.text "generated"))),
  ("", none),
  ("[context]", some (.header [] "context")),
  (textLine "name" new.contextName, some (.assignment [] "name" (.text new.contextName))),
  ("# C# expression passed to the data context's base constructor", none),
  (literalLine "connection" (connection new.database),
    some (.assignment [] "connection" (.text (connection new.database)))),
  ("", none),
  ("[models]", some (.header [] "models")),
  ("folder = \"Models\"", some (.assignment [] "folder" (.text "Models"))),
  ("namespace = \"Models\"", some (.assignment [] "namespace" (.text "Models"))),
  ("", none),
  ("[repositories]", some (.header [] "repositories")),
  ("folder = \"Repositories\"", some (.assignment [] "folder" (.text "Repositories"))),
  ("namespace = \"Repositories\"",
    some (.assignment [] "namespace" (.text "Repositories")))]

theorem connectionLine_eq (database : String) :
    literalLine "connection" (connection database) =
      "connection = '\"Data Source=.;Initial Catalog=" ++ database ++
        ";Integrated Security=True\"'" := by
  have regroup (a b c d : String) :
      a ++ (b ++ database ++ c) ++ d = a ++ b ++ database ++ (c ++ d) := by
    simp only [String.append_assoc]
  exact regroup "connection = '" "\"Data Source=.;Initial Catalog=" ";Integrated Security=True\""
    "'"

theorem map_fst_sayings (new : NewManifest) (read : String) :
    (new.sayings read).map Prod.fst = new.lines := by
  simp only [sayings, List.map_cons, List.map_nil, connectionLine_eq]
  rfl

theorem forall_mem_connection {p : Char → Prop} {database : String}
    (front : ∀ c ∈ "\"Data Source=.;Initial Catalog=".toList, p c)
    (middle : ∀ c ∈ database.toList, p c)
    (back : ∀ c ∈ ";Integrated Security=True\"".toList, p c) :
    ∀ c ∈ (connection database).toList, p c := by
  have regroup (a b : String) (ha : ∀ c ∈ a.toList, p c) (hb : ∀ c ∈ b.toList, p c) :
      ∀ c ∈ (a ++ database ++ b).toList, p c := by
    simp only [String.toList_append, List.forall_mem_append]
    exact ⟨⟨ha, middle⟩, hb⟩
  exact regroup _ _ front back

theorem says_connectionLine {database : String}
    (word : ∀ c ∈ database.toList, isIdentifierChar c = true) :
    Says (literalLine "connection" (connection database)).toList
      (some (.assignment [] "connection" (.text (connection database)))) := by
  have allowed : ∀ c ∈ (connection database).toList, c ≠ '\'' ∧ isForbidden c = false := by
    refine forall_mem_connection (List.all_iff_forall_prop.mp (by decide))
      (fun c member => ⟨?_, ?_⟩) (List.all_iff_forall_prop.mp (by decide))
    · rintro rfl
      exact absurd (word _ member) (by decide)
    · exact isForbidden_of_isIdentifierChar (word c member)
  exact says_literalLine (by decide) (fun member => (allowed _ member).1 rfl)
    fun c member => (allowed c member).2

theorem says_textLine_of_word {key text : String} (bare : IsBareKey key.toList)
    (word : ∀ c ∈ text.toList, c = '.' ∨ isIdentifierChar c = true) :
    Says (textLine key text).toList (some (.assignment [] key (.text text))) := by
  refine says_textLine bare ⟨fun member => ?_, fun member => ?_⟩ fun c member => ?_
  · exact absurd (word _ member) (by decide)
  · exact absurd (word _ member) (by decide)
  · rcases word c member with rfl | inside
    · rfl
    · exact isForbidden_of_isIdentifierChar inside

theorem says_textLine_of_all {key text : String} (bare : IsBareKey key.toList)
    (word : (text.toList.all fun c => c == '.' || isIdentifierChar c) = true) :
    Says (textLine key text).toList (some (.assignment [] key (.text text))) :=
  says_textLine_of_word bare (by simpa using word)

theorem says_commentLine_of_all {comment : String}
    (allowed : (comment.toList.all fun c => !isForbidden c) = true) :
    Says (commentLine comment).toList none :=
  says_commentLine (by simpa using allowed)

/-- Each line says what it is listed with, as long as the names in it are made of the characters of
words. -/
theorem says_sayings {new : NewManifest} {read : String}
    (namespace_line : Says (textLine "namespace" new.rootNamespace).toList
      (some (.assignment [] "namespace" (.text read))))
    (contextName_word : ∀ c ∈ new.contextName.toList, isIdentifierChar c = true)
    (database_word : ∀ c ∈ new.database.toList, isIdentifierChar c = true) :
    ∀ entry ∈ new.sayings read, Says entry.1.toList entry.2 := by
  have name_line := says_textLine_of_word (by decide : IsBareKey "name".toList)
    fun c member => .inr (contextName_word c member)
  have connection_line := says_connectionLine database_word
  simp only [sayings, List.forall_mem_cons, List.not_mem_nil, false_implies, implies_true, and_true]
  refine ⟨@says_headerLine "project" (by decide), namespace_line,
    @says_commentLine_of_all " Write one file per table instead of one file per group" (by decide),
    @says_falseLine "multi_file" (by decide), says_nothing_of_empty, ?catalog⟩
  refine ⟨@says_headerLine "catalog" (by decide),
    @says_commentLine_of_all
      " Catalog snapshot (.toml or .json) describing tables, keys and columns" (by decide),
    @says_textLine_of_all "path" "schema.toml" (by decide) (by decide),
    says_nothing_of_empty, ?templates⟩
  refine ⟨@says_headerLine "templates" (by decide),
    @says_commentLine_of_all " Remove to use the built-in templates" (by decide),
    @says_textLine_of_all "dir" "templates" (by decide) (by decide),
    says_nothing_of_empty, ?output⟩
  refine ⟨@says_headerLine "output" (by decide),
    @says_textLine_of_all "dir" "generated" (by decide) (by decide),
    says_nothing_of_empty, ?context⟩
  refine ⟨@says_headerLine "context" (by decide), name_line,
    @says_commentLine_of_all " C# expression passed to the data context's base constructor"
      (by decide),
    connection_line, says_nothing_of_empty, ?models⟩
  refine ⟨@says_headerLine "models" (by decide),
    @says_textLine_of_all "folder" "Models" (by decide) (by decide),
    @says_textLine_of_all "namespace" "Models" (by decide) (by decide),
    says_nothing_of_empty, ?repositories⟩
  exact ⟨@says_headerLine "repositories" (by decide),
    @says_textLine_of_all "folder" "Repositories" (by decide) (by decide),
    @says_textLine_of_all "namespace" "Repositories" (by decide) (by decide)⟩

/-! ## The whole text -/

/-- The sections of the manifest, as they are read. -/
def sections (new : NewManifest) : List (String × List (String × Value)) := [
  ("project", [("namespace", .text new.rootNamespace), ("multi_file", .boolean false)]),
  ("catalog", [("path", .text "schema.toml")]),
  ("templates", [("dir", .text "templates")]),
  ("output", [("dir", .text "generated")]),
  ("context", [("name", .text new.contextName), ("connection", .text (connection new.database))]),
  ("models", [("folder", .text "Models"), ("namespace", .text "Models")]),
  ("repositories", [("folder", .text "Repositories"), ("namespace", .text "Repositories")])]

/-- The text reads as its sections, where the quoted namespace reads as a given one. -/
theorem document?_text {new : NewManifest} {read : String}
    (namespace_line : Says (textLine "namespace" new.rootNamespace).toList
      (some (.assignment [] "namespace" (.text read))))
    (contextName_word : ∀ c ∈ new.contextName.toList, isIdentifierChar c = true)
    (database_word : ∀ c ∈ new.database.toList, isIdentifierChar c = true) :
    document? new.text =
      some (.record (({ new with rootNamespace := read } : NewManifest).sections.map
        fun block => (block.1, .record block.2 true)) true) := by
  have noMark : (Text.unlines ((new.sayings read).map Prod.fst)).toList.head? ≠ some '\uFEFF' := by
    rw [sayings, List.map_cons, Text.toList_unlines_cons]
    exact (by decide : some '[' ≠ some '\uFEFF')
  rw [text, ← map_fst_sayings new read,
    document?_unlines _ (says_sayings namespace_line contextName_word database_word) noMark]
  exact valueOfStatements?_sections ({ new with rootNamespace := read } : NewManifest).sections
    (by simp [sections]) (by simp [sections])

theorem readProject_section (rootNamespace : String) :
    readProject .toml (.record [("namespace", .text rootNamespace),
      ("multi_file", .boolean false)] true) = .ok ⟨rootNamespace, false, "cs"⟩ := by
  have sorted :
      sortByName [("namespace", Value.text rootNamespace), ("multi_file", .boolean false)] =
      [("multi_file", .boolean false), ("namespace", .text rootNamespace)] := by
    simp [sortByName, List.mergeSort]
  refine (RecordShape.read_toml_eq_ok_iff _ _ _ _).mpr
    ⟨[.multiFile false, .rootNamespace rootNamespace], ?_, rfl⟩
  rw [sorted, RecordShape.readNamed_eq_ok_iff]
  exact ⟨by simp, by simp, .cons ⟨_, rfl, rfl⟩ (.cons ⟨_, rfl, rfl⟩ .nil)⟩

theorem readContext_section (name connection : String) :
    readContext .toml (.record [("name", .text name), ("connection", .text connection)] true) =
      .ok ⟨name, some connection⟩ := by
  have sorted : sortByName [("name", Value.text name), ("connection", .text connection)] =
      [("connection", .text connection), ("name", .text name)] := by
    simp [sortByName, List.mergeSort]
  refine (RecordShape.read_toml_eq_ok_iff _ _ _ _).mpr
    ⟨[.connection (some connection), .name name], ?_, rfl⟩
  rw [sorted, RecordShape.readNamed_eq_ok_iff]
  exact ⟨by simp, by simp, .cons ⟨_, rfl, rfl⟩ (.cons ⟨_, rfl, rfl⟩ .nil)⟩

theorem readGroup_section (label folder groupNamespace : String) (usual : GroupSection) :
    readGroup label usual .toml
      (.record [("folder", .text folder), ("namespace", .text groupNamespace)] true) =
      .ok ⟨folder, groupNamespace⟩ := by
  have sorted : sortByName [("folder", Value.text folder), ("namespace", .text groupNamespace)] =
      [("folder", .text folder), ("namespace", .text groupNamespace)] := by
    simp [sortByName, List.mergeSort]
  refine (RecordShape.read_toml_eq_ok_iff _ _ _ _).mpr
    ⟨[.folder folder, .groupNamespace groupNamespace], ?_, rfl⟩
  rw [sorted, RecordShape.readNamed_eq_ok_iff]
  exact ⟨by simp, by simp, .cons ⟨_, rfl, rfl⟩ (.cons ⟨_, rfl, rfl⟩ .nil)⟩

theorem ofValue_sections (new : NewManifest) :
    Manifest.ofValue .toml (.record (new.sections.map
      fun block => (block.1, .record block.2 true)) true) = .ok new.settings := by
  have sorted : sortByName (new.sections.map fun block => (block.1, Value.record block.2 true)) = [
      ("catalog", .record [("path", .text "schema.toml")] true),
      ("context", .record
        [("name", .text new.contextName), ("connection", .text (connection new.database))] true),
      ("models", .record [("folder", .text "Models"), ("namespace", .text "Models")] true),
      ("output", .record [("dir", .text "generated")] true),
      ("project", .record
        [("namespace", .text new.rootNamespace), ("multi_file", .boolean false)] true),
      ("repositories", .record
        [("folder", .text "Repositories"), ("namespace", .text "Repositories")] true),
      ("templates", .record [("dir", .text "templates")] true)] := by
    simp [sections, sortByName, List.mergeSort]
  refine (RecordShape.read_toml_eq_ok_iff _ _ _ _).mpr
    ⟨[.catalog new.settings.catalog, .context new.settings.context, .models new.settings.models,
      .output new.settings.output, .project new.settings.project,
      .repositories new.settings.repositories, .templates new.settings.templates], ?_, rfl⟩
  rw [sorted, RecordShape.readNamed_eq_ok_iff]
  have project_read := congrArg (·.map ManifestEntry.project)
    (readProject_section new.rootNamespace)
  have context_read := congrArg (·.map ManifestEntry.context)
    (readContext_section new.contextName (connection new.database))
  have models_read := congrArg (·.map ManifestEntry.models)
    (readGroup_section "ModelsConfig" "Models" "Models" .models)
  have repositories_read := congrArg (·.map ManifestEntry.repositories)
    (readGroup_section "RepositoriesConfig" "Repositories" "Repositories" .repositories)
  have catalog_read : (readCatalogSection .toml (.record [("path", .text "schema.toml")] true)).map
      ManifestEntry.catalog = .ok (.catalog ⟨"schema.toml"⟩) :=
    congrArg _ (RecordShape.read_toml_of_ordered _ _ (List.pairwise_singleton _ _) true)
  have output_read : (readOutput .toml (.record [("dir", .text "generated")] true)).map
      ManifestEntry.output = .ok (.output ⟨"generated"⟩) :=
    congrArg _ (RecordShape.read_toml_of_ordered _ _ (List.pairwise_singleton _ _) true)
  have templates_read : (readTemplates .toml (.record [("dir", .text "templates")] true)).map
      ManifestEntry.templates = .ok (.templates ⟨some "templates"⟩) :=
    congrArg _ (RecordShape.read_toml_of_ordered _ _ (List.pairwise_singleton _ _) true)
  exact ⟨by simp, by simp, .cons ⟨_, rfl, catalog_read⟩ (.cons ⟨_, rfl, context_read⟩
    (.cons ⟨_, rfl, models_read⟩ (.cons ⟨_, rfl, output_read⟩ (.cons ⟨_, rfl, project_read⟩
    (.cons ⟨_, rfl, repositories_read⟩ (.cons ⟨_, rfl, templates_read⟩ .nil))))))⟩

/-- The text of a new manifest reads as the settings that it spells out, where the quoted namespace
reads as a given one. -/
theorem read_text (new : NewManifest) {read : String}
    (namespace_line : Says (textLine "namespace" new.rootNamespace).toList
      (some (.assignment [] "namespace" (.text read))))
    (contextName_word : ∀ c ∈ new.contextName.toList, isIdentifierChar c = true)
    (database_word : ∀ c ∈ new.database.toList, isIdentifierChar c = true) :
    DocumentFormat.toml.read Manifest.ofValue new.text =
      .ok ({ new with rootNamespace := read } : NewManifest).settings := by
  simp only [DocumentFormat.read,
    document?_text namespace_line contextName_word database_word, ofValue_sections]

variable {rootNamespace : String}

theorem database_mem_splitAtChar (rootNamespace : String) :
    (ofNamespace rootNamespace).database ∈ Text.splitAtChar '.' rootNamespace := by
  obtain ⟨first, others, parts_eq⟩ :=
    List.exists_cons_of_ne_nil (Text.splitAtChar_ne_nil '.' rootNamespace)
  simp [ofNamespace, parts_eq]

/-- No reserved word holds a capital letter, so none ends as the name of a context does. -/
theorem append_context_notMem_keywords (name : String) : name ++ "Context" ∉ csharpKeywords := by
  have keywords_lower : ∀ keyword ∈ csharpKeywords, 'C' ∉ keyword.toList := by decide +kernel
  have capital : 'C' ∈ "Context".toList := by decide
  intro member
  refine keywords_lower _ member ?_
  rw [String.toList_append, List.mem_append]
  exact .inr capital

theorem isTypeName_append_context {name : String} (identifier : IsIdentifier name) :
    IsTypeName (name ++ "Context") := by
  obtain ⟨first, others, name_eq, starts, rest⟩ := identifier
  refine ⟨⟨first, others ++ "Context".toList, ?_, starts, ?_⟩, append_context_notMem_keywords name⟩
  · rw [String.toList_append, name_eq, List.cons_append]
  · simp only [List.forall_mem_append]
    exact ⟨rest, List.all_eq_true.mp (by decide)⟩

theorem isAcceptable_settings (names : IsNamespace rootNamespace) :
    (ofNamespace rootNamespace).settings.IsAcceptable where
  rootNamespace := names
  extension := (extensionFault?_eq_none_iff "cs").mp (by decide)
  contextName :=
    isTypeName_append_context (names _ (database_mem_splitAtChar rootNamespace)).identifier
  modelsFolder := (folderFault?_eq_none_iff "Models").mp (by decide)
  modelsNamespace :=
    (ManifestPlace.checkNamespace_eq_ok_iff (.root "" "") "Models" "").mp (by decide)
  repositoriesFolder := (folderFault?_eq_none_iff "Repositories").mp (by decide)
  repositoriesNamespace :=
    (ManifestPlace.checkNamespace_eq_ok_iff (.root "" "") "Repositories" "").mp (by decide)
  foldersDiffer := by
    exact (by decide : "Models" ≠ "Repositories")

theorem isIdentifierChar_of_mem_database (names : IsNamespace rootNamespace) :
    ∀ c ∈ (ofNamespace rootNamespace).database.toList, isIdentifierChar c = true :=
  fun _ => (names _ (database_mem_splitAtChar rootNamespace)).identifier.isIdentifierChar

theorem isIdentifierChar_of_mem_contextName (names : IsNamespace rootNamespace) :
    ∀ c ∈ (ofNamespace rootNamespace).contextName.toList, isIdentifierChar c = true :=
  fun _ => (isAcceptable_settings names).contextName.identifier.isIdentifierChar

/-- The manifest for a namespace is accepted and holds the settings that it spells out. -/
theorem parse_text (names : IsNamespace rootNamespace) (file : String) :
    Manifest.parse (ofNamespace rootNamespace).text file =
      .ok (ofNamespace rootNamespace).settings := by
  have bare : IsBareKey "namespace".toList := by decide
  have namespace_line : Says (textLine "namespace" rootNamespace).toList
      (some (.assignment [] "namespace" (.text rootNamespace))) :=
    says_textLine_of_word bare fun _ => names.eq_dot_or_isIdentifierChar
  exact (Manifest.parse_eq_ok_iff _ _ _).mpr
    ⟨read_text (ofNamespace rootNamespace) namespace_line
      (isIdentifierChar_of_mem_contextName names) (isIdentifierChar_of_mem_database names),
      isAcceptable_settings names⟩

end NewManifest
end DataLayer
