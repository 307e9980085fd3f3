import DataLayer.Files.Tree
import DataLayer.Project.Basic
import DataLayer.Proofs.Stateful

/-!
# Loading a project

Loading the catalog and the templates of a project looks at a file system and leaves it as it is.
-/

namespace DataLayer
namespace FileTree

/-- The snapshot that a catalog file holds. -/
def snapshotAt (tree : FileTree) (path : String) : Except CatalogError Snapshot :=
  match DocumentFormat.ofPath? path with
  | none => .error (.unsupportedFormat path)
  | some format =>
    match tree.readText path with
    | .error cause => .error (.unreadable path cause.message)
    | .ok text => Snapshot.parse format path text

/-- The template that a folder holds. -/
def templateIn (tree : FileTree) (folder : String) : TemplateSource := fun name =>
  match tree.readText (TemplateSource.pathIn folder name) with
  | .ok text => .ok text
  | .error cause => .error (.unreadable name (TemplateSource.pathIn folder name) cause.message)

/-- The templates of a project. -/
def templatesOf (tree : FileTree) (config : Config) : TemplateSource :=
  match config.templateDir with
  | some folder => tree.templateIn folder
  | none => .builtin

@[simp]
theorem run_readText (tree : FileTree) (path : String) :
    (FileStore.readText path : StateM FileTree _).run tree = (tree.readText path, tree) := rfl

theorem run_load (tree : FileTree) (path : String) :
    (Snapshot.load path : StateM FileTree _).run tree = (tree.snapshotAt path, tree) := by
  rw [Snapshot.load, snapshotAt]
  cases DocumentFormat.ofPath? path with
  | none => rfl
  | some format =>
      simp only [StateT.run_bind, run_readText]
      cases tree.readText path <;> rfl

theorem run_readOne (tree : FileTree) (folder : String) (name : TemplateName) :
    (TemplateSource.readOne folder name : StateM FileTree _).run tree =
      (tree.templateIn folder name, tree) := by
  rw [TemplateSource.readOne, templateIn, StateT.run_bind, run_readText]
  cases tree.readText (TemplateSource.pathIn folder name) <;> rfl

theorem run_readFolder (tree : FileTree) (folder : String) :
    (TemplateSource.readFolder folder : StateM FileTree _).run tree =
      (tree.templateIn folder, tree) := by
  simp only [TemplateSource.readFolder, StateT.run_bind, run_readOne]
  refine Prod.ext ?_ rfl
  funext name
  cases name <;> rfl

theorem run_templates (tree : FileTree) (config : Config) :
    (config.templates : StateM FileTree _).run tree = (tree.templatesOf config, tree) := by
  rw [Config.templates, templatesOf]
  cases config.templateDir with
  | none => rfl
  | some folder => exact tree.run_readFolder folder

theorem outcome_loadCatalog (tree : FileTree) (config : Config) :
    Stateful.outcome config.loadCatalog tree =
      ((tree.snapshotAt config.catalogPath).mapError (.catalogUnavailable config.catalogPath),
        tree) := by
  rw [Config.loadCatalog, Stateful.outcome_bind, Stateful.outcome_liftM, run_load]
  cases tree.snapshotAt config.catalogPath <;> rfl

/-- A file system that holds a catalog and nothing else. -/
def ofCatalog (text : String) : FileTree where
  entries := [(["schema.toml"], .text text)]
  home := []

theorem start_ofCatalog (text path : String) : (ofCatalog text).start path = [] := by
  unfold start
  split <;> rfl

theorem snapshotAt_ofCatalog {text : String} {snapshot : Snapshot}
    (parsed : Snapshot.parse .toml "schema.toml" text = .ok snapshot) :
    (ofCatalog text).snapshotAt "schema.toml" = .ok snapshot := by
  have format_eq : DocumentFormat.ofPath? "schema.toml" = some .toml := rfl
  have read : (ofCatalog text).readText "schema.toml" = .ok text := by
    rw [readText, follow, locate, start_ofCatalog]
    rfl
  simp only [snapshotAt, format_eq, read, parsed]

end FileTree
end DataLayer
