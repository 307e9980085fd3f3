import DataLayer.Project.Basic

/-!
# Generating the code of a project

A run writes all generated files below the output folder.  A dry run shows them instead.
-/

namespace DataLayer

/-- What came out of a generation. -/
inductive GenerationResult where
  /-- Files were written, by their paths below the output folder. -/
  | written (outputDir : String) (tables : Nat) (files : List String)
  /-- Files would be written, by path and text. -/
  | preview (files : List (String × String))
  deriving Repr, DecidableEq

/-- What became of a generation. -/
structure GenerationReport where
  /-- Root namespace of the generated code. -/
  rootNamespace : String
  /-- Name of the data context. -/
  contextName : String
  /-- One file per table was asked for. -/
  multiFile : Bool
  /-- What came out. -/
  result : GenerationResult
  deriving Repr, DecidableEq

namespace GenerationReport

/-- The lines about files that were written. -/
def writtenLines (generation : GenerationReport) (outputDir : String) (tables : Nat)
    (files : List String) : Report :=
  [.keyValue "Namespace" generation.rootNamespace,
    .keyValue "Context" generation.contextName,
    .keyValue "Layout"
      (if generation.multiFile then "one file per table" else "one file per group"),
    .newline,
    .section ("Generated from " ++ toString tables ++ " table" ++
      (if tables = 1 then "" else "s"))] ++
    files.map fun file => .addedItem (Path.join outputDir file)

/-- The lines about files that would be written. -/
def previewLines (files : List (String × String)) : Report :=
  (files.flatMap fun file => [.divider file.1, .preformatted file.2]) ++
    [.divider "Summary", .preformatted (toString files.length ++ " files would be generated")]

/-- The report as lines. -/
def report (generation : GenerationReport) : Report :=
  match generation.result with
  | .written outputDir tables files => generation.writtenLines outputDir tables files
  | .preview files => previewLines files

end GenerationReport

namespace Project

variable {m : Type → Type} [Monad m] [FileStore m]

/-- Generate the code of a project from a catalog and templates that are loaded. -/
def generateLoaded (config : Config) (dryRun : Bool) (snapshot : Snapshot)
    (source : TemplateSource) : ExceptT (RunError WriteError) m GenerationResult := do
  let generator : Generator := { config }
  if dryRun then
    match generator.preview snapshot.catalog source with
    | .error error => throw (.plan error)
    | .ok files => return .preview files
  else
    let report ←
      generator.run snapshot.catalog source (directorySink config.outputDir config.layout)
    return .written config.outputDir report.tables report.written

/-- Generate the code of a project. -/
def generate (config : Config) (dryRun : Bool) : ExceptT ProjectError m GenerationReport := do
  let snapshot ← config.loadCatalog
  let source ← config.templates (m := m)
  let result ← (generateLoaded config dryRun snapshot source).adapt .generation
  return {
    rootNamespace := config.baseNamespace
    contextName := config.context.name
    multiFile := config.multiFile
    result }

end Project
end DataLayer
