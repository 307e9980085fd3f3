import DataLayer.Document.Value
import DataLayer.Manifest.Name
import DataLayer.Text.Span

/-!
# Errors of a manifest

An error tells its cause, and where the text shows it, the place.  The wording, the code and the
advice that go with each cause are kept together here.
-/

namespace DataLayer

/-- A setting that is well formed but not acceptable. -/
inductive SettingFault where
  /-- The extension of generated files is unusable. -/
  | extension (fault : ExtensionFault)
  /-- A folder name is unusable; the context tells whose. -/
  | folder (fault : FolderFault) (context : String)
  /-- Both groups of files would go into one folder. -/
  | sharedFolder
  deriving Repr, DecidableEq

namespace SettingFault

/-- The fault in words. -/
def message : SettingFault → String
  | extension fault => fault.text
  | folder fault context => fault.text ++ " (" ++ context ++ ")"
  | sharedFolder => "models and repositories must be written to different folders"

end SettingFault

/-- Why a manifest could not be had. -/
inductive ManifestError where
  /-- The file could not be read. -/
  | unreadable (path cause : String)
  /-- The text is not a manifest. -/
  | unparsable (file : String) (problem : DocumentProblem)
  /-- A setting is not acceptable. -/
  | invalidSetting (file : String) (span : Option Text.Span) (fault : SettingFault)
  /-- A name is a reserved word. -/
  | reservedKeyword (file : String) (span : Option Text.Span) (name context : String)
  /-- A name is not an identifier. -/
  | invalidIdentifier (file : String) (span : Option Text.Span) (name context : String)
    (fault : IdentifierFault)
  deriving Repr, DecidableEq

namespace ManifestError

/-- The error in words. -/
def message : ManifestError → String
  | unreadable path _ => "failed to read '" ++ path ++ "'"
  | unparsable _ _ => "failed to parse dalgen.toml"
  | invalidSetting _ _ fault => fault.message
  | reservedKeyword _ _ name _ => "'" ++ name ++ "' is a C# reserved keyword"
  | invalidIdentifier _ _ name context _ => "invalid " ++ context ++ " '" ++ name ++ "'"

/-- The code under which the error is documented. -/
def code? : ManifestError → Option String
  | unreadable _ _ => none
  | unparsable _ _ => some "dalgen::parse_error"
  | invalidSetting _ _ _ => some "dalgen::validation_error"
  | reservedKeyword _ _ _ _ => some "dalgen::reserved_keyword"
  | invalidIdentifier _ _ _ _ _ => some "dalgen::invalid_identifier"

/-- Advice that goes with the error. -/
def help? : ManifestError → Option String
  | unreadable _ _ => some "run 'dalgen init' to create a new project"
  | unparsable _ _ => none
  | invalidSetting _ _ _ => none
  | reservedKeyword _ _ name context =>
    some ("rename the " ++ context ++ " '" ++ name ++ "', e.g. '" ++ name ++ "s' or '@" ++ name ++
      "' in handwritten code")
  | invalidIdentifier _ _ _ _ fault =>
    some (fault.text ++
      ". Use only letters, numbers, and underscores, starting with a letter or underscore.")

/-- The place that the error points at. -/
def span? : ManifestError → Option Text.Span
  | unreadable _ _ => none
  | unparsable _ _ => none
  | invalidSetting _ span _ => span
  | reservedKeyword _ span _ _ => span
  | invalidIdentifier _ span _ _ _ => span

/-- What is written at the place of an error of this kind. -/
def placeText : ManifestError → String
  | unreadable _ _ => ""
  | unparsable _ _ => "parse error here"
  | invalidSetting _ _ fault => fault.message
  | reservedKeyword _ _ _ _ => "reserved keyword used here"
  | invalidIdentifier _ _ _ _ _ => "invalid identifier"

/-- What is written at the place that the error points at. -/
def label? (error : ManifestError) : Option String :=
  error.span?.map fun _ => error.placeText

/-- The name of the file with the error, unless it could not be read at all. -/
def file? : ManifestError → Option String
  | unreadable _ _ => none
  | unparsable file _ => some file
  | invalidSetting file _ _ => some file
  | reservedKeyword file _ _ _ => some file
  | invalidIdentifier file _ _ _ _ => some file

end ManifestError
end DataLayer
