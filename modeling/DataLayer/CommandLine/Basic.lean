/-!
# Commands

The program has a few commands, each with settings of its own.  A setting is written as a word
behind two hyphens, and some also as a letter behind one.
-/

namespace DataLayer

/-- A command with everything it needs. -/
inductive Command where
  /-- Start a project in a folder. -/
  | init (dir : String) (rootNamespace : Option String)
  /-- Generate the code of a project. -/
  | generate (manifest : String) (outputDir : Option String) (multiFile dryRun : Bool)
  /-- Check a project. -/
  | check (manifest : String)
  /-- List the tables of a project. -/
  | tables (manifest : String)
  deriving Repr, DecidableEq

/-- The names of the commands. -/
inductive CommandName where
  /-- Start a project. -/
  | init
  /-- Generate code. -/
  | generate
  /-- Check a project. -/
  | check
  /-- List the tables. -/
  | tables
  /-- Explain a command. -/
  | help
  deriving Repr, DecidableEq

namespace CommandName

/-- All commands. -/
def all : List CommandName :=
  [init, generate, check, tables, help]

/-- The command as it is written. -/
def text : CommandName → String
  | init => "init"
  | generate => "generate"
  | check => "check"
  | tables => "tables"
  | help => "help"

/-- What the command does. -/
def summary : CommandName → String
  | init => "Create dalgen.toml, a sample catalog and editable templates"
  | generate => "Generate entities, data context and repositories"
  | check => "Validate dalgen.toml, the catalog and the templates"
  | tables => "List catalog tables with their mapped columns"
  | help => "Explain the commands"

/-- The command that is written in this way. -/
def ofText? (text : String) : Option CommandName :=
  all.find? (·.text == text)

/-- The arguments besides settings that a command takes at most. -/
def operandLimit : CommandName → Nat
  | init | help => 1
  | generate | check | tables => 0

end CommandName

/-- What stands behind a setting. -/
inductive SettingKind where
  /-- Nothing: the setting is given or not. -/
  | mark
  /-- Any text. -/
  | text
  /-- A path, which is not empty. -/
  | path
  deriving Repr, DecidableEq

/-- The settings of all commands. -/
inductive Setting where
  /-- Explain the command. -/
  | help
  /-- Tell the version. -/
  | version
  /-- Log more; twice for even more. -/
  | verbose
  /-- The root namespace of a new project. -/
  | rootNamespace
  /-- The manifest of the project. -/
  | manifest
  /-- The folder of the generated files. -/
  | outputDir
  /-- Write one file per table. -/
  | multiFile
  /-- Show the files instead of writing them. -/
  | dryRun
  deriving Repr, DecidableEq

namespace Setting

/-- The word of a setting. -/
def word : Setting → String
  | help => "help"
  | version => "version"
  | verbose => "verbose"
  | rootNamespace => "namespace"
  | manifest => "config"
  | outputDir => "output"
  | multiFile => "multi-file"
  | dryRun => "dry-run"

/-- The letter of a setting. -/
def letter? : Setting → Option Char
  | help => some 'h'
  | version => some 'V'
  | verbose => some 'v'
  | rootNamespace => some 'n'
  | manifest => some 'c'
  | outputDir => some 'o'
  | multiFile | dryRun => none

/-- What stands behind a setting. -/
def kind : Setting → SettingKind
  | help | version | verbose | multiFile | dryRun => .mark
  | rootNamespace => .text
  | manifest | outputDir => .path

/-- The settings that can be given after a command, or before any. -/
def allowed : Option CommandName → List Setting
  | none => [verbose, help, version]
  | some .init => [rootNamespace, verbose, help]
  | some .generate => [manifest, outputDir, multiFile, dryRun, verbose, help]
  | some .check | some .tables => [manifest, verbose, help]
  | some .help => []

end Setting

/-- What is wrong with a command line. -/
inductive UsageError where
  /-- No command is given. -/
  | missingCommand
  /-- There is no such command. -/
  | unknownCommand (text : String)
  /-- There is no such setting here. -/
  | unknownSetting (text : String)
  /-- An argument is left over. -/
  | unexpectedArgument (text : String)
  /-- A setting lacks its value. -/
  | missingValue (setting : String)
  /-- A setting has a value but takes none. -/
  | unneededValue (setting : String)
  /-- A setting is given twice. -/
  | repeated (setting : String)
  deriving Repr, DecidableEq

namespace UsageError

/-- The error in words. -/
def message : UsageError → String
  | missingCommand => "a command is required"
  | unknownCommand text => "unrecognized command '" ++ text ++ "'"
  | unknownSetting text => "unexpected setting '" ++ text ++ "'"
  | unexpectedArgument text => "unexpected argument '" ++ text ++ "'"
  | missingValue setting => "a value is required for '" ++ setting ++ "'"
  | unneededValue setting => "no value is allowed for '" ++ setting ++ "'"
  | repeated setting => "'" ++ setting ++ "' cannot be used multiple times"

end UsageError
end DataLayer
