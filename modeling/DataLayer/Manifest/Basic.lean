/-!
# Manifests

A manifest describes a project: the namespace of the generated code, where the catalog is, and where
the generated files go.  Only the namespace and the catalog have no default.
-/

namespace DataLayer

/-- Settings of the project as a whole. -/
structure ProjectSection where
  /-- Root namespace of the generated code. -/
  rootNamespace : String
  /-- Write one file per table instead of one file per group. -/
  multiFile : Bool := false
  /-- Extension of generated files, without the dot. -/
  extension : String := "cs"
  deriving Repr, DecidableEq

/-- Where the catalog is. -/
structure CatalogSection where
  /-- Path of the catalog file. -/
  path : String
  deriving Repr, DecidableEq

/-- Where the templates are. -/
structure TemplatesSection where
  /-- Folder of the templates; the built-in ones are used if there is none. -/
  dir : Option String := none
  deriving Repr, DecidableEq

/-- Where the generated files go. -/
structure OutputSection where
  /-- Folder of the generated files. -/
  dir : String := "generated"
  deriving Repr, DecidableEq

/-- The data context. -/
structure ContextSection where
  /-- Type name of the data context. -/
  name : String := "ModelContext"
  /-- Expression that is passed to the base constructor. -/
  connection : Option String := none
  deriving Repr, DecidableEq

/-- Folder and namespace of a group of generated files. -/
structure GroupSection where
  /-- Folder of the group. -/
  folder : String
  /-- Namespace of the group, below the root namespace. -/
  groupNamespace : String
  deriving Repr, DecidableEq

namespace GroupSection

/-- The usual settings of the entity classes. -/
def models : GroupSection :=
  ⟨"Models", "Models"⟩

/-- The usual settings of the repository classes. -/
def repositories : GroupSection :=
  ⟨"Repositories", "Repositories"⟩

end GroupSection

/-- A manifest. -/
structure Manifest where
  /-- Settings of the project as a whole. -/
  project : ProjectSection
  /-- Where the catalog is. -/
  catalog : CatalogSection
  /-- Where the templates are. -/
  templates : TemplatesSection := {}
  /-- Where the generated files go. -/
  output : OutputSection := {}
  /-- The data context. -/
  context : ContextSection := {}
  /-- The entity classes. -/
  models : GroupSection := .models
  /-- The repository classes. -/
  repositories : GroupSection := .repositories
  deriving Repr, DecidableEq

end DataLayer
