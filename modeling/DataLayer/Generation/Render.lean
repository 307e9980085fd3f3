import DataLayer.Generation.Output
import DataLayer.Render.Context
import DataLayer.Render.Entity

/-!
# Rendering generated files

The templates and the tables of a schema become files, in one of two layouts: one file for each
group, or one file for each table and one for what the tables share.  Both layouts hold the same
blocks in the same order.
-/

namespace DataLayer

/-- The name of the file with what all repositories share. -/
def sharedRepositoryName : String := "Repository"

/-- The templates of a run.  Those that do not depend on a table have the project's fields filled
in; the two others are filled for each table, with the fields of project and table together. -/
structure LoadedTemplates where
  /-- File around the entity classes, filled. -/
  modelFrame : String
  /-- File around the repository classes, filled. -/
  repositoryFrame : String
  /-- Addition to an entity class. -/
  modelEntity : String
  /-- Repository class of a table. -/
  tableRepository : String
  /-- The data context class, filled. -/
  dataContext : String
  /-- The generic repository, filled. -/
  repositoryBase : String

namespace Config

/-- A template with the fields of the project filled in. -/
def configured (config : Config) (source : TemplateSource) (name : TemplateName) :
    Except TemplateError String := do
  let text ← source name
  Template.fillFields config.fields text

/-- Load the templates of a run. -/
def loadTemplates (config : Config) (source : TemplateSource) :
    Except TemplateError LoadedTemplates := do
  let modelFrame ← config.configured source .modelFrame
  let repositoryFrame ← config.configured source .repositoryFrame
  let modelEntity ← source .modelEntity
  let tableRepository ← source .tableRepository
  let dataContext ← config.configured source .dataContext
  let repositoryBase ← config.configured source .repositoryBase
  return { modelFrame, repositoryFrame, modelEntity, tableRepository, dataContext, repositoryBase }

end Config

namespace LoadedTemplates

/-- A file of the entity group with a body in its frame. -/
def modelFile (templates : LoadedTemplates) (name body : String) : OutputFile where
  group := .models
  name := name
  content := Text.ensureTrailingNewline (Template.fillPlaceholder templates.modelFrame body)

/-- A file of the repository group with a body in its frame. -/
def repositoryFile (templates : LoadedTemplates) (name body : String) : OutputFile where
  group := .repositories
  name := name
  content := Text.ensureTrailingNewline (Template.fillPlaceholder templates.repositoryFrame body)

/-- The addition to the entity class of a table. -/
def entityAddition (templates : LoadedTemplates) (fields : FieldMap) (table : Table) :
    Except TemplateError String :=
  Template.fillForTable fields templates.modelEntity table

/-- The repository class of a table. -/
def tableClass (templates : LoadedTemplates) (fields : FieldMap) (table : Table) :
    Except TemplateError String :=
  Template.fillForTable fields templates.tableRepository table

/-- One file for each table, and one of each group for what the tables share. -/
def filePerTable (templates : LoadedTemplates) (config : Config) (tables : List Table) :
    Except TemplateError (List OutputFile) := do
  let entities := config.hooks.renderEntities tables
  let context := Template.renderContext templates.dataContext tables
  let models ← tables.mapM fun table => do
    let addition ← templates.entityAddition config.fields table
    let entity := (entities.get? table.name).getD ""
    return templates.modelFile table.name (Text.joinBlocks [entity, addition])
  let repositories ← tables.mapM fun table => do
    let body ← templates.tableClass config.fields table
    return templates.repositoryFile table.name (Text.joinBlocks [body])
  return templates.modelFile config.context.name (Text.joinBlocks [context]) :: models ++
    templates.repositoryFile sharedRepositoryName (Text.joinBlocks [templates.repositoryBase]) ::
      repositories

/-- One file for each group. -/
def filePerGroup (templates : LoadedTemplates) (config : Config) (tables : List Table) :
    Except TemplateError (List OutputFile) := do
  let entities := config.hooks.renderEntities tables
  let context := Template.renderContext templates.dataContext tables
  let blocks ← tables.mapM fun table => do
    let addition ← templates.entityAddition config.fields table
    let repository ← templates.tableClass config.fields table
    return ((entities.get? table.name).toList ++ [addition], repository)
  return [
    templates.modelFile config.context.name (Text.joinBlocks (context :: blocks.flatMap (·.1))),
    templates.repositoryFile sharedRepositoryName
      (Text.joinBlocks (templates.repositoryBase :: blocks.map (·.2)))]

end LoadedTemplates

/-- Render the files for the tables of a schema, in the order in which they are written. -/
def Config.render (config : Config) (tables : List Table) (source : TemplateSource) :
    Except TemplateError (List OutputFile) := do
  let templates ← config.loadTemplates source
  if config.multiFile then templates.filePerTable config tables
  else templates.filePerGroup config tables

end DataLayer
