import DataLayer.Files.Store

/-!
# Writing files by rules

Generated files replace what is there.  Files that are meant to be edited are only written where
nothing is, so that no edit is lost.
-/

namespace DataLayer

/-- What to do with a file that is there already. -/
inductive Overwrite where
  /-- Replace it. -/
  | always
  /-- Leave it alone. -/
  | ifMissing
  deriving Repr, DecidableEq

/-- What became of a file that was to be written. -/
inductive WriteResult where
  /-- It was written. -/
  | written
  /-- It was left alone. -/
  | skipped
  deriving Repr, DecidableEq

/-- Why a file was not written. -/
inductive WriteError where
  /-- The folder of the file could not be made. -/
  | folderFailed (path : String) (cause : FileError)
  /-- The file itself could not be written. -/
  | fileFailed (path : String) (cause : FileError)
  deriving Repr, DecidableEq

namespace WriteError

/-- The error in words, followed by what caused it. -/
def chain : WriteError → List String
  | folderFailed path cause => ["failed to create '" ++ path ++ "'", cause.message]
  | fileFailed path cause => ["failed to write '" ++ path ++ "'", cause.message]

end WriteError

/-- A file that is to be written. -/
structure PlannedFile where
  /-- Where the file goes. -/
  path : String
  /-- The text of the file. -/
  content : String
  /-- What to do if it is there already. -/
  overwrite : Overwrite := .always
  deriving Repr, DecidableEq

namespace PlannedFile

variable {m : Type → Type} [Monad m] [FileStore m]

/-- Write the file and the folders it stands in, whatever is there. -/
def force (file : PlannedFile) : ExceptT WriteError m Unit := do
  match Path.parent? file.path with
  | none => pure ()
  | some parent =>
    match ← FileStore.makeFolders (m := m) parent with
    | .error cause => throw (.folderFailed parent cause)
    | .ok () => pure ()
  match ← FileStore.writeText (m := m) file.path file.content with
  | .error cause => throw (.fileFailed file.path cause)
  | .ok () => pure ()

/-- Write the file by its rules. -/
def write (file : PlannedFile) : ExceptT WriteError m WriteResult := do
  match file.overwrite with
  | .always =>
    file.force
    return .written
  | .ifMissing =>
    if ← FileStore.isPresent (m := m) file.path then return .skipped
    else
      file.force
      return .written

end PlannedFile
end DataLayer
