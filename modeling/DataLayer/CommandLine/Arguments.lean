import DataLayer.CommandLine.Basic

/-!
# Reading a command line

The arguments are read one after another.  The first that is wrong, or that asks for help or for the
version, ends the reading.  A value can stand behind its setting or in the next argument; in the
next argument it cannot look like a setting.  After two hyphens alone nothing is a setting.
-/

namespace DataLayer

/-- Why a command line names no command to carry out. -/
inductive CommandDetour where
  /-- The command line is wrong. -/
  | usage (error : UsageError)
  /-- Help is asked for. -/
  | help
  /-- The version is asked for. -/
  | version
  deriving Repr, DecidableEq

/-- What the arguments so far have said. -/
structure ArgumentReader where
  /-- The command. -/
  command : Option CommandName := none
  /-- The settings with their values, the last one first. -/
  given : List (Setting × String) := []
  /-- The arguments that are no settings. -/
  operands : List String := []
  /-- The setting whose value comes next. -/
  pending : Option Setting := none
  /-- Nothing that follows is a setting. -/
  operandsOnly : Bool := false
  deriving Repr, DecidableEq

namespace ArgumentReader

/-- Stop at a wrong argument. -/
def refuse {α : Type} (error : UsageError) : Except CommandDetour α :=
  .error (.usage error)

/-- Note a setting with its value.  Only the wish to log more can be repeated. -/
def note (reader : ArgumentReader) (setting : Setting) (value : String) :
    Except CommandDetour ArgumentReader :=
  if setting ≠ .verbose ∧ (reader.given.lookup setting).isSome then refuse (.repeated setting.word)
  else .ok { reader with given := (setting, value) :: reader.given, pending := none }

/-- Take the value of a setting. -/
def take (reader : ArgumentReader) (setting : Setting) (value : String) :
    Except CommandDetour ArgumentReader :=
  if setting.kind = .path ∧ value = "" then refuse (.missingValue setting.word)
  else reader.note setting value

/-- Take a setting that has no value. -/
def mark (reader : ArgumentReader) (setting : Setting) : Except CommandDetour ArgumentReader :=
  match setting with
  | .help => .error .help
  | .version => .error .version
  | other => reader.note other ""

/-- Read a setting that is written as a word, with its value if it has one. -/
def readWord (reader : ArgumentReader) (argument : String) (word value : List Char) :
    Except CommandDetour ArgumentReader :=
  match (Setting.allowed reader.command).find? (·.word.toList == word) with
  | none => refuse (.unknownSetting argument)
  | some setting =>
    match setting.kind, value with
    | .mark, [] => reader.mark setting
    | .mark, _ :: _ => refuse (.unneededValue setting.word)
    | _, [] => .ok { reader with pending := some setting }
    | _, _ :: value => reader.take setting (String.ofList value)

/-- Read settings that are written as letters.  One that has a value takes what follows it. -/
def readLetters (argument : String) : List Char → ArgumentReader →
    Except CommandDetour ArgumentReader
  | [], reader => .ok reader
  | letter :: rest, reader =>
    match (Setting.allowed reader.command).find? (·.letter? == some letter) with
    | none => refuse (.unknownSetting argument)
    | some setting =>
      match setting.kind, rest with
      | .mark, _ => (reader.mark setting).bind (readLetters argument rest)
      | _, [] => .ok { reader with pending := some setting }
      | _, '=' :: value => reader.take setting (String.ofList value)
      | _, value => reader.take setting (String.ofList value)

/-- Read an argument that is no setting. -/
def readOperand (reader : ArgumentReader) (argument : String) :
    Except CommandDetour ArgumentReader :=
  match reader.command with
  | none =>
    match CommandName.ofText? argument, reader.operandsOnly with
    | some command, false => .ok { reader with command := some command }
    | _, _ => refuse (.unknownCommand argument)
  | some command =>
    if command.operandLimit ≤ reader.operands.length then refuse (.unexpectedArgument argument)
    else if command = .help ∧ CommandName.ofText? argument = none then
      refuse (.unknownCommand argument)
    else if argument = "" then refuse (.missingValue "[DIR]")
    else .ok { reader with operands := reader.operands ++ [argument] }

/-- Read an argument while no setting waits for a value. -/
def readFree (reader : ArgumentReader) (argument : String) : Except CommandDetour ArgumentReader :=
  if reader.operandsOnly ∨ reader.command = some .help then reader.readOperand argument
  else
    match argument.toList with
    | ['-', '-'] => .ok { reader with operandsOnly := true }
    | '-' :: '-' :: text =>
      reader.readWord argument (text.takeWhile (· ≠ '=')) (text.dropWhile (· ≠ '='))
    | '-' :: letter :: rest => readLetters argument (letter :: rest) reader
    | _ => reader.readOperand argument

/-- The argument looks like a setting. -/
def looksLikeSetting (argument : String) : Bool :=
  argument.startsWith "-" && argument ≠ "-"

/-- Read an argument. -/
def read (reader : ArgumentReader) (argument : String) : Except CommandDetour ArgumentReader :=
  match reader.pending with
  | none => reader.readFree argument
  | some setting =>
    if looksLikeSetting argument then refuse (.missingValue setting.word)
    else reader.take setting argument

/-- The setting is given. -/
def has (reader : ArgumentReader) (setting : Setting) : Bool :=
  (reader.given.lookup setting).isSome

/-- The manifest that is named, or else the usual one. -/
def manifest (reader : ArgumentReader) : String :=
  (reader.given.lookup .manifest).getD "dalgen.toml"

/-- The command that the arguments name. -/
def finish (reader : ArgumentReader) : Except CommandDetour Command :=
  match reader.pending, reader.command with
  | some setting, _ => refuse (.missingValue setting.word)
  | none, none => refuse .missingCommand
  | none, some .help => .error .help
  | none, some .init =>
    .ok (.init (reader.operands.head?.getD ".") (reader.given.lookup .rootNamespace))
  | none, some .generate =>
    .ok (.generate reader.manifest (reader.given.lookup .outputDir) (reader.has .multiFile)
      (reader.has .dryRun))
  | none, some .check => .ok (.check reader.manifest)
  | none, some .tables => .ok (.tables reader.manifest)

end ArgumentReader

/-- Read a command line. -/
def Command.ofArguments (arguments : List String) : Except CommandDetour Command :=
  (arguments.foldlM ArgumentReader.read {}).bind ArgumentReader.finish

end DataLayer
