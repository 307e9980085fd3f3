import DataLayer.NamedMap

/-!
# Templates

A generation run fills six templates.  A template refers to named fields; a field may exist without
a value, and then using it is an error.
-/

namespace DataLayer

/-- The templates of a generation run. -/
inductive TemplateName where
  /-- File around the entity classes and the data context. -/
  | modelFrame
  /-- File around the repository classes. -/
  | repositoryFrame
  /-- Addition to the entity class of one table. -/
  | modelEntity
  /-- Repository class of one table. -/
  | tableRepository
  /-- The data context class. -/
  | dataContext
  /-- The generic repository that the table repositories extend. -/
  | repositoryBase
  deriving Repr, DecidableEq

namespace TemplateName

/-- All templates, in the order in which they are listed and written out. -/
def all : List TemplateName :=
  [modelFrame, repositoryFrame, modelEntity, tableRepository, dataContext, repositoryBase]

theorem mem_all (name : TemplateName) : name ∈ all := by
  cases name <;> decide

/-- The name by which users know the template. -/
def text : TemplateName → String
  | modelFrame => "ModelFrame"
  | repositoryFrame => "RepositoryFrame"
  | modelEntity => "ModelEntity"
  | tableRepository => "TableRepository"
  | dataContext => "DataContext"
  | repositoryBase => "RepositoryBase"

/-- The name of the template's file in a template folder. -/
def fileName (name : TemplateName) : String :=
  name.text ++ ".txt"

end TemplateName

/-- Fields that a template can use.  A field without a value is known but unset. -/
abbrev FieldMap := NamedMap (Option String)

namespace FieldMap

/-- The map without fields. -/
def empty : FieldMap :=
  NamedMap.empty

/-- Give a field a value. -/
def set (fields : FieldMap) (name value : String) : FieldMap :=
  NamedMap.insert fields name (some value)

/-- Give a field a value, or make it known but unset. -/
def setOptional (fields : FieldMap) (name : String) (value : Option String) : FieldMap :=
  NamedMap.insert fields name value

end FieldMap

/-- Why a template could not be used. -/
inductive TemplateError where
  /-- The template uses a field that has no value. -/
  | missingFieldValue (field : String)
  /-- The text of the template could not be had from where it was expected. -/
  | unreadable (name : TemplateName) (path cause : String)
  deriving Repr, DecidableEq

namespace TemplateError

/-- The error in words. -/
def message : TemplateError → String
  | missingFieldValue field => "template field '" ++ field ++ "' has no value"
  | unreadable name path _ =>
    "failed to read template '" ++ name.text ++ "' from '" ++ path ++ "'"

/-- The error in words, followed by what caused it. -/
def chain : TemplateError → List String
  | missingFieldValue field => [message (missingFieldValue field)]
  | unreadable name path cause => [message (unreadable name path cause), cause]

end TemplateError

/-- Where the text of each template comes from, or why it cannot be had. -/
abbrev TemplateSource :=
  TemplateName → Except TemplateError String

end DataLayer
