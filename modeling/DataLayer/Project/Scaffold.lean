import DataLayer.Files.Write
import DataLayer.Template.Source
import DataLayer.Text.Lines

/-!
# Files of a new project

A new project starts with a manifest, a sample catalog and a copy of each built-in template.  All of
them are meant to be edited, so none replaces a file that is there.
-/

namespace DataLayer

/-- The manifest of a new project. -/
structure NewManifest where
  /-- Root namespace of the generated code. -/
  rootNamespace : String
  /-- Name of the data context. -/
  contextName : String
  /-- Name of the database in the connection. -/
  database : String
  deriving Repr, DecidableEq

namespace NewManifest

/-- The manifest for a namespace.  The first part of the namespace names database and context. -/
def ofNamespace (rootNamespace : String) : NewManifest :=
  let database := (Text.splitAtChar '.' rootNamespace).head?.getD rootNamespace
  ⟨rootNamespace, database ++ "Context", database⟩

/-- The lines of the manifest. -/
def lines (manifest : NewManifest) : List String := [
  "[project]",
  "namespace = \"" ++ manifest.rootNamespace ++ "\"",
  "# Write one file per table instead of one file per group",
  "multi_file = false",
  "",
  "[catalog]",
  "# Catalog snapshot (.toml or .json) describing tables, keys and columns",
  "path = \"schema.toml\"",
  "",
  "[templates]",
  "# Remove to use the built-in templates",
  "dir = \"templates\"",
  "",
  "[output]",
  "dir = \"generated\"",
  "",
  "[context]",
  "name = \"" ++ manifest.contextName ++ "\"",
  "# C# expression passed to the data context's base constructor",
  "connection = '\"Data Source=.;Initial Catalog=" ++ manifest.database ++
    ";Integrated Security=True\"'",
  "",
  "[models]",
  "folder = \"Models\"",
  "namespace = \"Models\"",
  "",
  "[repositories]",
  "folder = \"Repositories\"",
  "namespace = \"Repositories\""]

/-- The text of the manifest. -/
def text (manifest : NewManifest) : String :=
  Text.unlines manifest.lines

end NewManifest

/-- The lines of the sample catalog. -/
def sampleCatalogLines : List String := [
  "# Catalog snapshot read by `dalgen generate`.",
  "#",
  "# Each table lists its primary key and identity columns by name. Column",
  "# lengths apply to character types; -1 marks an unbounded (max) column.",
  "",
  "[[tables]]",
  "name = \"customers\"",
  "primary_key = [\"id\"]",
  "identity = [\"id\"]",
  "",
  "[[tables.columns]]",
  "name = \"id\"",
  "type = \"int\"",
  "",
  "[[tables.columns]]",
  "name = \"name\"",
  "type = \"nvarchar\"",
  "length = 100",
  "",
  "[[tables.columns]]",
  "name = \"email\"",
  "type = \"varchar\"",
  "nullable = true",
  "length = 255",
  "",
  "[[tables]]",
  "name = \"orders\"",
  "primary_key = [\"id\"]",
  "identity = [\"id\"]",
  "",
  "[[tables.columns]]",
  "name = \"id\"",
  "type = \"int\"",
  "",
  "[[tables.columns]]",
  "name = \"customer_id\"",
  "type = \"int\"",
  "",
  "[[tables.columns]]",
  "name = \"placed\"",
  "type = \"datetime\"",
  "",
  "[[tables.columns]]",
  "name = \"total\"",
  "type = \"money\"",
  "nullable = true",
  "",
  "[[tables.columns]]",
  "name = \"note\"",
  "type = \"varchar\"",
  "nullable = true",
  "length = -1"]

namespace Scaffold

/-- The name of a manifest file. -/
def manifestName : String := "dalgen.toml"

/-- The name of the sample catalog file. -/
def catalogName : String := "schema.toml"

/-- The name of the folder for templates. -/
def templatesName : String := "templates"

/-- The manifest file of a new project in a folder. -/
def manifestFile (base : String) (manifest : NewManifest) (overwrite : Overwrite) :
    PlannedFile where
  path := Path.join base manifestName
  content := manifest.text
  overwrite := overwrite

/-- The sample catalog of a new project in a folder. -/
def catalogFile (base : String) : PlannedFile where
  path := Path.join base catalogName
  content := Text.unlines sampleCatalogLines
  overwrite := .ifMissing

/-- The copy of a built-in template in a folder of a new project. -/
def templateFile (base dir : String) (name : TemplateName) : PlannedFile where
  path := Path.join (Path.join base dir) name.fileName
  content := name.builtin
  overwrite := .ifMissing

/-- The copies of all built-in templates. -/
def templateFiles (base dir : String) : List PlannedFile :=
  TemplateName.all.map (templateFile base dir)

/-- All files of a new project in a folder, in the order in which they are written. -/
def files (base : String) (manifest : NewManifest) : List PlannedFile :=
  manifestFile base manifest .ifMissing :: catalogFile base :: templateFiles base templatesName

end Scaffold
end DataLayer
