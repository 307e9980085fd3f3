import DataLayer.Catalog.Decode
import DataLayer.Generation.Run
import DataLayer.Manifest.Parse
import DataLayer.Project.Report
import DataLayer.Template.Source

/-!
# Projects

A project is a manifest with what it names: a catalog and perhaps a folder of templates.  Commands
on a project fail for one of the reasons listed here.
-/

namespace DataLayer

/-- Why a command on a project failed. -/
inductive ProjectError where
  /-- The manifest could not be had. -/
  | manifest (error : ManifestError)
  /-- The namespace of a new project is unusable. -/
  | namespaceRefused (rootNamespace : String) (error : ManifestError)
  /-- A file of a new project could not be written. -/
  | scaffold (error : WriteError)
  /-- The catalog could not be loaded. -/
  | catalogUnavailable (path : String) (error : CatalogError)
  /-- The schema could not be read from the catalog. -/
  | introspection (error : CatalogError)
  /-- The code could not be generated. -/
  | generation (error : RunError WriteError)
  /-- A folder has no name that could become a namespace. -/
  | namelessFolder (path : String)
  deriving Repr, DecidableEq

namespace ProjectError

/-- The error in words, followed by what caused it. -/
def chain : ProjectError → List String
  | manifest error => [error.message]
  | namespaceRefused rootNamespace error =>
    ["'" ++ rootNamespace ++ "' cannot be used as a namespace: " ++ error.message]
  | scaffold error => error.chain
  | catalogUnavailable path error => ("Failed to load catalog '" ++ path ++ "'") :: error.chain
  | introspection error => "Failed to read the catalog" :: error.chain
  | generation error => "Failed to generate code" :: error.chain WriteError.chain
  | namelessFolder path => ["'" ++ path ++ "' has no usable directory name"]

end ProjectError

/-- A manifest that was read from a file. -/
structure OpenedManifest where
  /-- Path of the file. -/
  path : String
  /-- Text of the file. -/
  content : String
  /-- The manifest. -/
  manifest : Manifest
  deriving Repr, DecidableEq

namespace OpenedManifest

/-- The folder that paths of the manifest are relative to. -/
def baseDir (opened : OpenedManifest) : String :=
  match Path.parent? opened.path with
  | none => "."
  | some parent => if parent = "" then "." else parent

/-- The settings of a generation run for the project. -/
def config (opened : OpenedManifest) : Config :=
  .ofManifest opened.manifest opened.baseDir

variable {m : Type → Type} [Monad m] [FileStore m]

/-- Open a manifest file. -/
def read (path : String) : m (Except ManifestError OpenedManifest) := do
  match ← FileStore.readText path with
  | .error cause => return .error (.unreadable path cause.message)
  | .ok content =>
    return (Manifest.parse content path).map fun manifest => ⟨path, content, manifest⟩

end OpenedManifest

namespace Config

variable {m : Type → Type} [Monad m] [FileStore m]

/-- The templates of a project: its own, or the built-in ones. -/
def templates (config : Config) : m TemplateSource :=
  match config.templateDir with
  | some folder => TemplateSource.readFolder folder
  | none => return .builtin

/-- Where the templates of a project come from, in words. -/
def templateOrigin (config : Config) : String :=
  config.templateDir.getD "built-in"

/-- Load the catalog of a project. -/
def loadCatalog (config : Config) : ExceptT ProjectError m Snapshot := do
  match ← Snapshot.load (m := m) config.catalogPath with
  | .ok snapshot => return snapshot
  | .error error => throw (.catalogUnavailable config.catalogPath error)

end Config
end DataLayer
