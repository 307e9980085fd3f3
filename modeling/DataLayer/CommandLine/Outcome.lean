import DataLayer.CommandLine.Arguments
import DataLayer.Project.Check
import DataLayer.Project.Generate
import DataLayer.Project.Init
import DataLayer.Project.Tables

/-!
# Carrying out a command line

A command line comes to an outcome: what is written to the two output streams and the exit code.
The code is 0 on success, 1 if the command failed or found a problem, and 2 if the command line
itself is wrong.
-/

namespace DataLayer

/-- What a command line comes to. -/
structure Outcome where
  /-- The exit code. -/
  exitCode : Nat
  /-- What is written to the standard output. -/
  output : String
  /-- What is written to the error stream. -/
  errors : String
  deriving Repr, DecidableEq

namespace Outcome

/-- The outcome of a command that reports something. -/
def ofReport (exitCode : Nat) (report : Report) : Outcome :=
  ⟨exitCode, report.standardOutput, report.errorOutput⟩

/-- Each line of a text behind some blanks. -/
def indented (text : String) : String :=
  Text.unlines ((Text.splitAtChar '\n' text).map ("   " ++ ·))

/-- Advice that goes with a failure. -/
def advice : ProjectError → List String
  | .manifest error => (error.help?.map ("help: " ++ ·)).toList
  | _ => []

/-- The outcome of a command that failed. -/
def ofFailure (error : ProjectError) : Outcome :=
  ⟨1, "", "Error:\n" ++ String.join ((error.chain ++ advice error).map indented)⟩

/-- What the program is called, with its version. -/
def versionText : String := "dalgen 0.3.0\n"

/-- What the program does and how it is called. -/
def helpText : String :=
  Text.unlines (["Generate a C# data access layer from a schema catalog", "",
    "Usage: dalgen [OPTIONS] <COMMAND>", "", "Commands:"] ++
    CommandName.all.map fun command => "  " ++ command.text ++ ": " ++ command.summary)

/-- The outcome of a command line that names no command to carry out. -/
def ofDetour : CommandDetour → Outcome
  | .usage error =>
    ⟨2, "", "error: " ++ error.message ++ "\n\nFor more information, try '--help'.\n"⟩
  | .help => ⟨0, helpText, ""⟩
  | .version => ⟨0, versionText, ""⟩

end Outcome

namespace Command

variable {m : Type → Type} [Monad m] [FileStore m]

/-- The namespace of a new project in a folder, made from the folder's name. -/
def defaultNamespace (workingDir dir : String) : Except ProjectError String :=
  let named := if Path.isCurrent dir then workingDir else dir
  match Path.fileName? named with
  | some name => .ok (Text.pascalCase name)
  | none => .error (.namelessFolder named)

/-- Open the manifest of a project. -/
def openManifest (path : String) : ExceptT ProjectError m OpenedManifest := do
  match ← OpenedManifest.read (m := m) path with
  | .ok opened => return opened
  | .error error => throw (.manifest error)

/-- The settings of a project with those of the command line put over them. -/
def overridden (config : Config) (outputDir : Option String) (multiFile : Bool) : Config :=
  { config with
    outputDir := outputDir.getD config.outputDir
    multiFile := config.multiFile || multiFile }

/-- Carry out a command in a working folder. -/
def perform (workingDir : String) : Command → ExceptT ProjectError m Outcome
  | .init dir rootNamespace => do
    let chosen ←
      match rootNamespace with
      | some given => pure given
      | none => ExceptT.mk (pure (defaultNamespace workingDir dir))
    let init ← Project.init dir chosen
    return .ofReport 0 init.report
  | .generate manifest outputDir multiFile dryRun => do
    let opened ← openManifest manifest
    let generation ← Project.generate (overridden opened.config outputDir multiFile) dryRun
    return .ofReport 0 generation.report
  | .check manifest => do
    let opened ← openManifest manifest
    let check ← Project.check (m := m) opened.config manifest
    return .ofReport (if check.isValid then 0 else 1) check.report
  | .tables manifest => do
    let opened ← openManifest manifest
    let tables ← Project.tables opened.config
    return .ofReport 0 (TableSummary.report tables)

/-- Carry out a command line in a working folder. -/
def run (workingDir : String) (arguments : List String) : m Outcome :=
  match ofArguments arguments with
  | .error detour => return .ofDetour detour
  | .ok command => do
    match ← (command.perform workingDir).run with
    | .ok outcome => return outcome
    | .error error => return .ofFailure error

end Command
end DataLayer
