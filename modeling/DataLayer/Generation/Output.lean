import DataLayer.Files.Write
import DataLayer.Generation.Config

/-!
# Generated files

A generated file belongs to a group and has a name.  The layout turns both into a path below the
output folder.
-/

namespace DataLayer

/-- The groups of generated files. -/
inductive OutputGroup where
  /-- Entity classes and the data context. -/
  | models
  /-- Repository classes. -/
  | repositories
  deriving Repr, DecidableEq

/-- A generated file. -/
structure OutputFile where
  /-- The group that it belongs to. -/
  group : OutputGroup
  /-- Its name without folder and extension. -/
  name : String
  /-- Its text. -/
  content : String
  deriving Repr, DecidableEq

/-- Where generated files go below the output folder. -/
structure OutputLayout where
  /-- Folder of the entity classes. -/
  modelsFolder : String
  /-- Folder of the repository classes. -/
  repositoriesFolder : String
  /-- Extension of all files, without the dot. -/
  extension : String
  deriving Repr, DecidableEq

/-- Where a configured run puts its files. -/
def Config.layout (config : Config) : OutputLayout where
  modelsFolder := config.models.folder
  repositoriesFolder := config.repositories.folder
  extension := config.extension

namespace OutputLayout

/-- The folder of a group. -/
def folder (layout : OutputLayout) : OutputGroup → String
  | .models => layout.modelsFolder
  | .repositories => layout.repositoriesFolder

/-- The path of a file below the output folder. -/
def relativePath (layout : OutputLayout) (file : OutputFile) : String :=
  Path.join (layout.folder file.group) (file.name ++ "." ++ layout.extension)

end OutputLayout

/-- A receiver of generated files, which answers each with what became of it. -/
abbrev OutputSink (ε : Type) (m : Type → Type) :=
  OutputFile → ExceptT ε m WriteResult

/-- The receiver that writes files below an output folder, in place of what is there. -/
def directorySink {m : Type → Type} [Monad m] [FileStore m] (root : String)
    (layout : OutputLayout) : OutputSink WriteError m := fun file =>
  PlannedFile.write ⟨Path.join root (layout.relativePath file), file.content, .always⟩

end DataLayer
