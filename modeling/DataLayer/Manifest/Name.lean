import DataLayer.Text.Lines

/-!
# Names in a manifest

The manifest names namespaces, types, folders and a file extension.  Each kind of name has its own
rules, and a name that breaks several of them is blamed for the first.
-/

namespace DataLayer

/-- The reserved words of C#, which cannot be used as names as they stand. -/
def csharpKeywords : List String :=
  ["abstract", "as", "base", "bool", "break", "byte", "case", "catch", "char", "checked",
    "class", "const", "continue", "decimal", "default", "delegate", "do", "double", "else",
    "enum", "event", "explicit", "extern", "false", "finally", "fixed", "float", "for",
    "foreach", "goto", "if", "implicit", "in", "int", "interface", "internal", "is", "lock",
    "long", "namespace", "new", "null", "object", "operator", "out", "override", "params",
    "private", "protected", "public", "readonly", "ref", "return", "sbyte", "sealed", "short",
    "sizeof", "stackalloc", "static", "string", "struct", "switch", "this", "throw", "true",
    "try", "typeof", "uint", "ulong", "unchecked", "unsafe", "ushort", "using", "virtual",
    "void", "volatile", "while"]

/-- The name is a reserved word of C#. -/
def isKeyword (name : String) : Bool :=
  csharpKeywords.contains name

/-- Why a name is not an identifier. -/
inductive IdentifierFault where
  /-- The name has no characters. -/
  | empty
  /-- The first character is neither a letter nor an underscore. -/
  | badStart
  /-- A later character is not a letter, a digit or an underscore. -/
  | badCharacter
  deriving Repr, DecidableEq

namespace IdentifierFault

/-- The fault in words. -/
def text : IdentifierFault → String
  | empty => "name cannot be empty"
  | badStart => "name must start with a letter or underscore"
  | badCharacter => "name must contain only letters, numbers, and underscores"

end IdentifierFault

/-- The character can start an identifier: an ASCII letter or an underscore. -/
def isIdentifierStart (c : Char) : Bool :=
  c.isAlpha || c == '_'

/-- The character can stand in an identifier. -/
def isIdentifierChar (c : Char) : Bool :=
  c.isAlphanum || c == '_'

/-- Why a name is not an identifier, if it is none. -/
def identifierFault? (name : String) : Option IdentifierFault :=
  match name.toList with
  | [] => some .empty
  | first :: others =>
    if !isIdentifierStart first then some .badStart
    else if others.all isIdentifierChar then none
    else some .badCharacter

/-- Why a name is not a folder name. -/
inductive FolderFault where
  /-- The name is blank. -/
  | blank
  /-- The name has several path segments. -/
  | severalSegments
  /-- The name means the folder itself or the one around it. -/
  | relativeMarker
  deriving Repr, DecidableEq

namespace FolderFault

/-- The fault in words. -/
def text : FolderFault → String
  | blank => "folder name cannot be empty"
  | severalSegments => "folder name must be a single path segment"
  | relativeMarker => "folder name must not be a relative directory marker"

end FolderFault

/-- Why a name is not a folder name, if it is none. -/
def folderFault? (name : String) : Option FolderFault :=
  if Text.isBlank name then some .blank
  else if name.toList.any fun c => c == '/' || c == '\\' then some .severalSegments
  else if name = "." ∨ name = ".." then some .relativeMarker
  else none

/-- Why a text is not a file extension. -/
inductive ExtensionFault where
  /-- The extension has no characters. -/
  | empty
  /-- The extension comes with its dot. -/
  | leadingDot
  /-- A character is neither an ASCII letter nor a digit. -/
  | badCharacter
  deriving Repr, DecidableEq

namespace ExtensionFault

/-- The fault in words. -/
def text : ExtensionFault → String
  | empty => "extension cannot be empty"
  | leadingDot => "extension must not start with a dot"
  | badCharacter => "extension must contain only letters and numbers"

end ExtensionFault

/-- Why a text is not a file extension, if it is none. -/
def extensionFault? (extension : String) : Option ExtensionFault :=
  match extension.toList with
  | [] => some .empty
  | '.' :: _ => some .leadingDot
  | chars => if chars.all Char.isAlphanum then none else some .badCharacter

end DataLayer
