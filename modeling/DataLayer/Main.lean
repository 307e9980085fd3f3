import DataLayer.CommandLine.Outcome

/-!
# The program

The program carries out its command line on the files of the machine it runs on.
-/

namespace DataLayer

/-- The reason why an operation of the machine failed. -/
def FileError.ofMachine (error : IO.Error) : FileError :=
  match error with
  | .noFileOrDirectory .. => .notFound
  | .alreadyExists .. => .alreadyExists
  | .inappropriateType _ 20 _ => .notAFolder
  | .inappropriateType _ 21 _ => .isAFolder
  | .invalidArgument _ 36 _ => .nameTooLong
  | unlisted => .other (toString unlisted)

/-- Carry out an operation of the machine. -/
def attempt {α : Type} (operation : IO α) : IO (Except FileError α) := do
  match ← operation.toBaseIO with
  | .ok value => return .ok value
  | .error error => return .error (.ofMachine error)

/-- Something can be opened at the path. -/
def canOpen (path : String) : IO Bool := do
  match ← (IO.FS.Handle.mk path .read).toBaseIO with
  | .ok _ => return true
  | .error _ => return false

instance : FileStore IO where
  readText path := do
    match ← attempt (IO.FS.readBinFile path) with
    | .error cause => return .error cause
    | .ok bytes =>
      match String.fromUTF8? bytes with
      | some text => return .ok text
      | none => return .error .notText
  writeText path content := attempt (IO.FS.writeFile path content)
  makeFolder path := attempt (IO.FS.createDir path)
  isPresent path := canOpen path
  isFolder path := canOpen (path ++ "/.")

end DataLayer

/-- Carry out the command line. -/
def main (arguments : List String) : IO UInt32 := do
  let workingDir ← IO.currentDir
  let outcome : DataLayer.Outcome ← DataLayer.Command.run workingDir.toString arguments
  IO.print outcome.output
  IO.eprint outcome.errors
  return outcome.exitCode.toUInt32
