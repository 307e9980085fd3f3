import DataLayer.Generation.Render
import DataLayer.Schema.Introspect

/-!
# Generation runs

A run reads the schema, renders all files and hands them to a receiver one by one.  Nothing is
handed over unless everything could be rendered.  A preview shows the same files without handing
them over.
-/

namespace DataLayer

/-- Why no files could be generated. -/
inductive PlanError where
  /-- The schema could not be read. -/
  | catalog (error : CatalogError)
  /-- A template could not be used. -/
  | template (error : TemplateError)
  deriving Repr, DecidableEq

/-- The error in words, followed by what caused it. -/
def PlanError.chain : PlanError → List String
  | catalog error => error.chain
  | template error => error.chain

/-- Why a run did not come to its end. -/
inductive RunError (ε : Type) where
  /-- No files could be generated. -/
  | plan (error : PlanError)
  /-- The receiver refused a file. -/
  | refused (error : ε)
  deriving Repr, DecidableEq

/-- The error in words, followed by what caused it. -/
def RunError.chain {ε : Type} (describe : ε → List String) : RunError ε → List String
  | plan error => error.chain
  | refused error => describe error

/-- What became of the files of a run, by their paths below the output folder. -/
structure RunReport where
  /-- Number of tables of the schema. -/
  tables : Nat
  /-- Files that were written. -/
  written : List String
  /-- Files that the receiver left alone. -/
  skipped : List String
  deriving Repr, DecidableEq

namespace RunReport

/-- Put a file in front of those reported. -/
def record (report : RunReport) (path : String) : WriteResult → RunReport
  | .written => { report with written := path :: report.written }
  | .skipped => { report with skipped := path :: report.skipped }

end RunReport

/-- Settings and types that files are generated with. -/
structure Generator where
  /-- Settings of the run. -/
  config : Config
  /-- Types of the target language. -/
  mapper : TypeMapper := .csharp

namespace Generator

/-- Read the tables of a catalog and render their files. -/
def plan (generator : Generator) (catalog : Catalog) (source : TemplateSource) :
    Except PlanError (List Table × List OutputFile) :=
  match Schema.introspect generator.mapper catalog with
  | .error error => .error (.catalog error)
  | .ok tables =>
    match generator.config.render tables source with
    | .error error => .error (.template error)
    | .ok files => .ok (tables, files)

/-- The paths and texts of the files that a run would hand over, in order. -/
def preview (generator : Generator) (catalog : Catalog) (source : TemplateSource) :
    Except PlanError (List (String × String)) :=
  (generator.plan catalog source).map fun planned =>
    planned.2.map fun file => (generator.config.layout.relativePath file, file.content)

variable {ε : Type} {m : Type → Type} [Monad m]

/-- Hand files over until one is refused. -/
def handOver (layout : OutputLayout) (sink : OutputSink ε m) (tables : Nat) :
    List OutputFile → ExceptT ε m RunReport
  | [] => return ⟨tables, [], []⟩
  | file :: rest => do
    let result ← sink file
    let report ← handOver layout sink tables rest
    return report.record (layout.relativePath file) result

/-- Generate all files and hand them over. -/
def run (generator : Generator) (catalog : Catalog) (source : TemplateSource)
    (sink : OutputSink ε m) : ExceptT (RunError ε) m RunReport :=
  match generator.plan catalog source with
  | .error error => throw (.plan error)
  | .ok (tables, files) =>
    (handOver generator.config.layout sink tables.length files).adapt .refused

end Generator
end DataLayer
