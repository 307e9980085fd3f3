import DataLayer.Project.Basic
import DataLayer.Project.Scaffold

/-!
# Starting a project

A new project is written into a folder.  The namespace is tried out first: unless the manifest that
would be written is acceptable, nothing is written at all.  Files that are there stay as they are.
-/

namespace DataLayer

/-- A file of a new project, and what became of it. -/
structure ScaffoldedFile where
  /-- Path below the project's folder. -/
  path : String
  /-- What became of it. -/
  result : WriteResult
  deriving Repr, DecidableEq

/-- What became of a new project. -/
structure InitReport where
  /-- The folder of the project. -/
  dir : String
  /-- The root namespace in the manifest. -/
  rootNamespace : String
  /-- The files of the project. -/
  files : List ScaffoldedFile
  deriving Repr, DecidableEq

namespace InitReport

/-- The line about a file. -/
def fileLine (file : ScaffoldedFile) : ReportLine :=
  match file.result with
  | .written => .addedItem file.path
  | .skipped => .keptItem (file.path ++ " (exists)")

/-- The report as lines. -/
def report (init : InitReport) : Report :=
  [.keyValue "Project" init.dir, .keyValue "Namespace" init.rootNamespace, .newline] ++
    init.files.map fileLine ++
    [.newline,
      .preformatted
        "Edit schema.toml to describe your database, then run 'dalgen generate'."]

end InitReport

namespace Project

variable {m : Type → Type} [Monad m] [FileStore m]

/-- Write files of a new project one by one, until one fails. -/
def writeScaffold (dir : String) : List PlannedFile → ExceptT WriteError m (List ScaffoldedFile)
  | [] => return []
  | file :: rest => do
    let result ← file.write
    let others ← writeScaffold dir rest
    return ⟨Path.relativeTo dir file.path, result⟩ :: others

/-- Start a project with the given root namespace in a folder. -/
def init (dir rootNamespace : String) : ExceptT ProjectError m InitReport := do
  let manifest := NewManifest.ofNamespace rootNamespace
  match Manifest.parse manifest.text Scaffold.manifestName with
  | .error error => throw (.namespaceRefused rootNamespace error)
  | .ok _ =>
    let files ← (writeScaffold dir (Scaffold.files dir manifest)).adapt .scaffold
    return { dir, rootNamespace, files }

end Project
end DataLayer
