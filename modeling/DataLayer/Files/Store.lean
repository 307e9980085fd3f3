import DataLayer.Files.Path

/-!
# Access to files

Everything the library does with files goes through a few basic operations: reading and writing a
text, making a folder, and asking what is there.  They can be carried out on a file system of any
kind, such as the pure one of `FileTree`.
-/

namespace DataLayer

/-- Why an operation on files failed. -/
inductive FileError where
  /-- Nothing is at the path. -/
  | notFound
  /-- Something is at the path already. -/
  | alreadyExists
  /-- Something on the way is not a folder. -/
  | notAFolder
  /-- A folder is at the path. -/
  | isAFolder
  /-- A segment of the path or the path as a whole is too long. -/
  | nameTooLong
  /-- The path contains a null character. -/
  | nullInName
  /-- The file does not hold a text. -/
  | notText
  /-- Another reason, in words. -/
  | other (message : String)
  deriving Repr, DecidableEq

namespace FileError

/-- The reason in words. -/
def message : FileError → String
  | notFound => "No such file or directory (os error 2)"
  | alreadyExists => "File exists (os error 17)"
  | notAFolder => "Not a directory (os error 20)"
  | isAFolder => "Is a directory (os error 21)"
  | nameTooLong => "File name too long (os error 36)"
  | nullInName => "file name contained an unexpected NUL byte"
  | notText => "stream did not contain valid UTF-8"
  | other message => message

end FileError

/-- The basic operations on files, in a monad. -/
class FileStore (m : Type → Type) where
  /-- Read the text of a file. -/
  readText : String → m (Except FileError String)
  /-- Write the text of a file, in place of what it held. -/
  writeText : String → String → m (Except FileError Unit)
  /-- Make a folder in a folder that is there. -/
  makeFolder : String → m (Except FileError Unit)
  /-- Is anything at the path? -/
  isPresent : String → m Bool
  /-- Is a folder at the path? -/
  isFolder : String → m Bool

namespace FileStore

variable {m : Type → Type} [Monad m] [FileStore m]

/-- Make a folder; one that is there already will do. -/
def makeOrKeep (path : String) : m (Except FileError Unit) := do
  match ← makeFolder path with
  | .ok () => return .ok ()
  | .error cause => return if ← isFolder path then .ok () else .error cause

/-- Make a folder and the folders it stands in.  The first argument bounds their number. -/
def makeFoldersUpTo : Nat → String → m (Except FileError Unit)
  | 0, path => makeOrKeep path
  | depth + 1, path => do
    if path = "" then return .ok ()
    match ← makeFolder path with
    | .ok () => return .ok ()
    | .error .notFound =>
      match Path.parent? path with
      | none => return .error (.other "failed to create whole tree")
      | some parent =>
        match ← makeFoldersUpTo depth parent with
        | .error cause => return .error cause
        | .ok () => makeOrKeep path
    | .error cause => return if ← isFolder path then .ok () else .error cause

/-- Make a folder and the folders it stands in, as far as they are missing. -/
def makeFolders (path : String) : m (Except FileError Unit) :=
  makeFoldersUpTo (path.length + 1) path

end FileStore
end DataLayer
