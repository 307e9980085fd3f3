import DataLayer.Files.Path
import DataLayer.Manifest.Basic
import DataLayer.Render.Entity

/-!
# Settings of a generation run

The settings come from a manifest, whose paths are taken to be relative to the manifest's folder.
What a template can say about the project is listed here.
-/

namespace DataLayer

/-- Settings of a generation run. -/
structure Config where
  /-- Root namespace of the generated code. -/
  baseNamespace : String
  /-- Folder of the templates; the built-in ones are used if there is none. -/
  templateDir : Option String := none
  /-- Folder of the generated files. -/
  outputDir : String := "generated"
  /-- Path of the catalog file. -/
  catalogPath : String := "schema.toml"
  /-- Name and connection of the data context. -/
  context : ContextSection := {}
  /-- Folder and namespace of the entity classes. -/
  models : GroupSection := .models
  /-- Folder and namespace of the repository classes. -/
  repositories : GroupSection := .repositories
  /-- Write one file per table instead of one file per group. -/
  multiFile : Bool := false
  /-- Extension of generated files, without the dot. -/
  extension : String := "cs"
  /-- What is written around classes and fields. -/
  hooks : RenderHooks := {}

namespace Config

/-- The settings of a manifest that stands in a folder. -/
def ofManifest (manifest : Manifest) (baseDir : String) : Config where
  baseNamespace := manifest.project.rootNamespace
  templateDir := manifest.templates.dir.map (Path.join baseDir)
  outputDir := Path.join baseDir manifest.output.dir
  catalogPath := Path.join baseDir manifest.catalog.path
  context := manifest.context
  models := manifest.models
  repositories := manifest.repositories
  multiFile := manifest.project.multiFile
  extension := manifest.project.extension

/-- What templates can say about the project. -/
def fields (config : Config) : FieldMap :=
  NamedMap.ofList [
    ("BaseNamespace", some config.baseNamespace),
    ("ModelNamespace", some config.models.groupNamespace),
    ("RepositoryNamespace", some config.repositories.groupNamespace),
    ("ContextName", some config.context.name),
    ("ContextConnection", config.context.connection),
    ("ModelFolder", some config.models.folder),
    ("RepositoryFolder", some config.repositories.folder)]

end Config
end DataLayer
