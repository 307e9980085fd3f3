import DataLayer.Document.Reading
import DataLayer.Manifest.Decode
import DataLayer.Manifest.Error
import DataLayer.Text.Lines

/-!
# Checking and reading a manifest

The text of a manifest is a TOML document.  Its settings are checked one after another, each at its
place: the manifest's text, the file's name and the section in which the setting stands.  The first
that is not acceptable is reported, with its section and the first quoted occurrence of its value.
-/

namespace DataLayer

/-- A place in a manifest. -/
structure ManifestPlace where
  /-- The text of the manifest. -/
  source : String
  /-- The name of the file. -/
  file : String
  /-- The names of the sections down to the place. -/
  path : List String
  deriving Repr, DecidableEq

namespace ManifestPlace

/-- The place of a whole manifest. -/
def root (source file : String) : ManifestPlace :=
  ⟨source, file, []⟩

/-- The place of a section. -/
def push (place : ManifestPlace) (name : String) : ManifestPlace :=
  { place with path := place.path ++ [name] }

/-- The names of the sections with dots between them. -/
def pathText (place : ManifestPlace) : String :=
  ".".intercalate place.path

/-- A kind of setting together with its section, if it stands in one. -/
def contextOf (place : ManifestPlace) (kind : String) : String :=
  if place.path.isEmpty then kind else kind ++ " in '" ++ place.pathText ++ "'"

/-- The place of a value in the text. -/
def spanOf (place : ManifestPlace) (value : String) : Option Text.Span :=
  Text.valueSpan? place.source value

/-- Check a part of a name that must be an identifier and not a reserved word.  A reserved word is
blamed itself; otherwise the whole name is.  The error points at the whole name. -/
def checkPart (place : ManifestPlace) (whole kind part : String) : Except ManifestError Unit :=
  if isKeyword part then
    .error (.reservedKeyword place.file (place.spanOf whole) part (place.contextOf kind))
  else
    match identifierFault? part with
    | some fault =>
      .error (.invalidIdentifier place.file (place.spanOf whole) whole (place.contextOf kind) fault)
    | none => .ok ()

/-- Check a name: an identifier that is not a reserved word. -/
def checkName (place : ManifestPlace) (name kind : String) : Except ManifestError Unit :=
  place.checkPart name kind name

/-- Check a namespace: identifiers with dots between them, none of them a reserved word. -/
def checkNamespace (place : ManifestPlace) (name kind : String) : Except ManifestError Unit :=
  (Text.splitAtChar '.' name).forM (place.checkPart name kind)

/-- Check a folder name. -/
def checkFolder (place : ManifestPlace) (folder : String) : Except ManifestError Unit :=
  match folderFault? folder with
  | some fault =>
    .error (.invalidSetting place.file (place.spanOf folder)
      (.folder fault (place.contextOf "folder")))
  | none => .ok ()

/-- Check a file extension. -/
def checkExtension (place : ManifestPlace) (extension : String) : Except ManifestError Unit :=
  match extensionFault? extension with
  | some fault =>
    .error (.invalidSetting place.file (place.spanOf extension) (.extension fault))
  | none => .ok ()

end ManifestPlace

namespace Manifest

/-- Check the settings of a manifest that was read from a place. -/
def check (manifest : Manifest) (place : ManifestPlace) : Except ManifestError Unit := do
  let project := place.push "project"
  project.checkNamespace manifest.project.rootNamespace "namespace"
  project.checkExtension manifest.project.extension
  (place.push "context").checkName manifest.context.name "context name"
  let models := place.push "models"
  models.checkFolder manifest.models.folder
  models.checkNamespace manifest.models.groupNamespace "namespace"
  let repositories := place.push "repositories"
  repositories.checkFolder manifest.repositories.folder
  repositories.checkNamespace manifest.repositories.groupNamespace "namespace"
  if manifest.models.folder = manifest.repositories.folder then
    .error (.invalidSetting place.file (place.spanOf manifest.repositories.folder) .sharedFolder)

/-- Read a manifest, under the name of its file. -/
def parse (source file : String) : Except ManifestError Manifest := do
  match DocumentFormat.toml.read ofValue source with
  | .error problem => .error (.unparsable file problem)
  | .ok manifest =>
    manifest.check (.root source file)
    return manifest

end Manifest
end DataLayer
