import DataLayer.Document.Record
import DataLayer.Manifest.Basic

/-!
# Manifests as documents

A manifest is a record of sections, and each section is a record of settings.  Settings and sections
with a default may be left out; a section that is left out is an empty one.
-/

namespace DataLayer

/-- A setting of the project section. -/
inductive ProjectEntry where
  /-- The root namespace. -/
  | rootNamespace (value : String)
  /-- One file per table. -/
  | multiFile (value : Bool)
  /-- The extension of generated files. -/
  | extension (value : String)

/-- The project section. -/
def projectShape : RecordShape ProjectEntry where
  label := "ProjectConfig"
  fields := [
    ⟨"namespace", fun value => value.asText.map .rootNamespace⟩,
    ⟨"multi_file", fun value => value.asBoolean.map .multiFile⟩,
    ⟨"extension", fun value => value.asText.map .extension⟩]

/-- Read the project section. -/
def readProject (format : DocumentFormat) : Value → Except DocumentProblem ProjectSection :=
  projectShape.read format fun style entries => do
    let rootNamespace ← projectShape.required style "namespace"
      (entries.findSome? fun | .rootNamespace value => some value | _ => none)
    let multiFile := entries.findSome? fun | .multiFile value => some value | _ => none
    let extension := entries.findSome? fun | .extension value => some value | _ => none
    return {
      rootNamespace
      multiFile := multiFile.getD false
      extension := extension.getD "cs" }

/-- The catalog section, which has a path alone. -/
def catalogShape : RecordShape String where
  label := "CatalogConfig"
  fields := [⟨"path", Value.asPath⟩]

/-- Read the catalog section. -/
def readCatalogSection (format : DocumentFormat) :
    Value → Except DocumentProblem CatalogSection :=
  catalogShape.read format fun style entries => do
    let path ← catalogShape.required style "path" entries.head?
    return ⟨path⟩

/-- The templates section, which has a folder alone. -/
def templatesShape : RecordShape (Option String) where
  label := "TemplatesConfig"
  fields := [⟨"dir", Value.asOptional Value.asPath⟩]

/-- Read the templates section. -/
def readTemplates (format : DocumentFormat) : Value → Except DocumentProblem TemplatesSection :=
  templatesShape.read format fun style entries => do
    let dir ← templatesShape.optional style "dir" entries.head?
    return ⟨dir.join⟩

/-- The output section, which has a folder alone. -/
def outputShape : RecordShape String where
  label := "OutputConfig"
  fields := [⟨"dir", Value.asPath⟩]

/-- Read the output section. -/
def readOutput (format : DocumentFormat) : Value → Except DocumentProblem OutputSection :=
  outputShape.read format fun _ entries => .ok ⟨entries.head?.getD "generated"⟩

/-- A setting of the context section. -/
inductive ContextEntry where
  /-- The name of the data context. -/
  | name (value : String)
  /-- The expression that is passed to the base constructor. -/
  | connection (value : Option String)

/-- The context section. -/
def contextShape : RecordShape ContextEntry where
  label := "ContextConfig"
  fields := [
    ⟨"name", fun value => value.asText.map .name⟩,
    ⟨"connection", fun value => (value.asOptional Value.asText).map .connection⟩]

/-- Read the context section. -/
def readContext (format : DocumentFormat) : Value → Except DocumentProblem ContextSection :=
  contextShape.read format fun style entries => do
    let name := entries.findSome? fun | .name value => some value | _ => none
    let connection ← contextShape.optional style "connection"
      (entries.findSome? fun | .connection value => some value | _ => none)
    return { name := name.getD "ModelContext", connection := connection.join }

/-- A setting of a group section. -/
inductive GroupEntry where
  /-- The folder of the group. -/
  | folder (value : String)
  /-- The namespace of the group. -/
  | groupNamespace (value : String)

/-- A group section with its name in messages. -/
def groupShape (label : String) : RecordShape GroupEntry where
  label := label
  fields := [
    ⟨"folder", fun value => value.asText.map .folder⟩,
    ⟨"namespace", fun value => value.asText.map .groupNamespace⟩]

/-- Read a group section; the settings it leaves out are the usual ones. -/
def readGroup (label : String) (usual : GroupSection) (format : DocumentFormat) :
    Value → Except DocumentProblem GroupSection :=
  (groupShape label).read format fun _ entries =>
    let folder := entries.findSome? fun | .folder value => some value | _ => none
    let groupNamespace := entries.findSome? fun | .groupNamespace value => some value | _ => none
    .ok ⟨folder.getD usual.folder, groupNamespace.getD usual.groupNamespace⟩

/-- A section of a manifest. -/
inductive ManifestEntry where
  /-- Settings of the project as a whole. -/
  | project (value : ProjectSection)
  /-- Where the catalog is. -/
  | catalog (value : CatalogSection)
  /-- Where the templates are. -/
  | templates (value : TemplatesSection)
  /-- Where the generated files go. -/
  | output (value : OutputSection)
  /-- The data context. -/
  | context (value : ContextSection)
  /-- The entity classes. -/
  | models (value : GroupSection)
  /-- The repository classes. -/
  | repositories (value : GroupSection)

/-- A manifest. -/
def manifestShape (format : DocumentFormat) : RecordShape ManifestEntry where
  label := "Manifest"
  fields := [
    ⟨"project", fun value => (readProject format value).map .project⟩,
    ⟨"catalog", fun value => (readCatalogSection format value).map .catalog⟩,
    ⟨"templates", fun value => (readTemplates format value).map .templates⟩,
    ⟨"output", fun value => (readOutput format value).map .output⟩,
    ⟨"context", fun value => (readContext format value).map .context⟩,
    ⟨"models", fun value =>
      (readGroup "ModelsConfig" .models format value).map .models⟩,
    ⟨"repositories", fun value =>
      (readGroup "RepositoriesConfig" .repositories format value).map .repositories⟩]

namespace Manifest

/-- Put the sections of a manifest together. -/
def ofEntries (format : DocumentFormat) (style : RecordStyle) (entries : List ManifestEntry) :
    Except DocumentProblem Manifest := do
  let project ← (manifestShape format).required style "project"
    (entries.findSome? fun | .project value => some value | _ => none)
  let catalog ← (manifestShape format).required style "catalog"
    (entries.findSome? fun | .catalog value => some value | _ => none)
  let templates := entries.findSome? fun | .templates value => some value | _ => none
  let output := entries.findSome? fun | .output value => some value | _ => none
  let context := entries.findSome? fun | .context value => some value | _ => none
  let models := entries.findSome? fun | .models value => some value | _ => none
  let repositories := entries.findSome? fun | .repositories value => some value | _ => none
  return {
    project
    catalog
    templates := templates.getD {}
    output := output.getD {}
    context := context.getD {}
    models := models.getD .models
    repositories := repositories.getD .repositories }

/-- Read a manifest from the value of a document. -/
def ofValue (format : DocumentFormat) (value : Value) : Except DocumentProblem Manifest :=
  (manifestShape format).read format (ofEntries format) value

end Manifest
end DataLayer
