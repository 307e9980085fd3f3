import DataLayer.Project.Basic

/-!
# Checking a project

A check looks at everything a generation run needs and collects every problem, instead of stopping
at the first.  It writes nothing.  Columns of unrecognised types are worth a warning.
-/

namespace DataLayer

/-- What a check found. -/
structure CheckReport where
  /-- Path of the manifest. -/
  configPath : String
  /-- Path of the catalog. -/
  catalogPath : String
  /-- Where the templates come from. -/
  templates : String
  /-- Number of tables, once the schema could be read. -/
  tables : Option Nat := none
  /-- Number of files of a run, once they could be rendered. -/
  files : Option Nat := none
  /-- What is wrong. -/
  errors : List String := []
  /-- What is worth a look. -/
  warnings : List String := []
  deriving Repr, DecidableEq

namespace CheckReport

/-- Nothing is wrong. -/
def isValid (check : CheckReport) : Bool :=
  check.errors.isEmpty

/-- The report as lines. -/
def report (check : CheckReport) : Report :=
  check.errors.map .error ++ check.warnings.map .warning ++
    (if check.errors.isEmpty && check.warnings.isEmpty then [] else [.newline]) ++
    if check.isValid then
      [.preformatted ("✓ " ++ check.configPath ++ " is valid"), .newline,
        .keyValue "Catalog" check.catalogPath, .keyValue "Templates" check.templates] ++
        (check.tables.map fun count => ReportLine.keyValue "Tables" (toString count)).toList ++
        (check.files.map fun count => ReportLine.keyValue "Files" (toString count)).toList
    else []

end CheckReport

/-- A chain of causes in one line. -/
def chainText (chain : List String) : String :=
  ": ".intercalate chain

/-- The warning about a column whose storage type is passed through. -/
def Column.passThroughWarning (table : Table) (column : Column) : String :=
  table.storageName ++ "." ++ column.name ++ ": storage type '" ++ column.storageType ++
    "' is passed through unmapped"

/-- The warnings about the columns of a table. -/
def Table.warnings (table : Table) : List String :=
  (table.columns.filter (·.family?.isNone)).map (Column.passThroughWarning table)

namespace Project

/-- The templates that cannot be had, each with the reason. -/
def templateErrors (source : TemplateSource) : List TemplateError :=
  TemplateName.all.filterMap fun name =>
    match source name with
    | .ok _ => none
    | .error error => some error

/-- What is found in the tables of a schema, given what is wrong already. -/
def checkTables (config : Config) (source : TemplateSource) (found : CheckReport)
    (tables : List Table) : CheckReport :=
  let found := { found with
    tables := some tables.length
    warnings := tables.flatMap Table.warnings }
  if (templateErrors source).isEmpty then
    match config.render tables source with
    | .ok files => { found with files := some files.length }
    | .error error => { found with errors := found.errors ++ [chainText error.chain] }
  else found

/-- What a check finds, given what the catalog and the templates hold. -/
def checkLoaded (config : Config) (configPath : String) (loaded : Except CatalogError Snapshot)
    (source : TemplateSource) : CheckReport :=
  let found : CheckReport := {
    configPath
    catalogPath := config.catalogPath
    templates := config.templateOrigin }
  let faults := (templateErrors source).map fun error => chainText error.chain
  match loaded with
  | .error error => { found with errors := chainText error.chain :: faults }
  | .ok snapshot =>
    let found := { found with errors := faults }
    match Schema.introspect .csharp snapshot.catalog with
    | .error error => { found with errors := found.errors ++ [chainText error.chain] }
    | .ok tables => checkTables config source found tables

variable {m : Type → Type} [Monad m] [FileStore m]

/-- Check a project. -/
def check (config : Config) (configPath : String) : m CheckReport := do
  let loaded ← Snapshot.load config.catalogPath
  let source ← config.templates
  return checkLoaded config configPath loaded source

end Project
end DataLayer
