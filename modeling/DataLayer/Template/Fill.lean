import DataLayer.Template.Basic

/-!
# Filling templates

A marker is an opening, a name of ASCII letters, digits and underscores, and a closing bracket:
`[Name]` for a field, `//[Name]` for a block.  A template is read once, from left to right, as a
sequence of markers and single characters, and it is filled piece by piece.  Filling therefore never
looks at inserted text.

A field marker is replaced by the value of the field it names, a block marker by the text of the
block it names.  Markers that name nothing are text.  Repeated markers all receive the same text.
-/

namespace DataLayer

/-- The character can stand in the name of a marker. -/
def isMarkerNameChar (c : Char) : Bool :=
  c.isAlphanum || c == '_'

/-- The name of the marker whose opening has been read, if the text goes on with one. -/
def markerName? (text : List Char) : Option (List Char) :=
  let name := text.takeWhile isMarkerNameChar
  if !name.isEmpty && (text.dropWhile isMarkerNameChar).head? == some ']' then some name else none

/-- The name of the marker that a text starts with. -/
def leadingMarker? (opening text : List Char) : Option (List Char) :=
  if opening.isPrefixOf text then markerName? (text.drop opening.length) else none

/-- A piece of a template. -/
inductive Piece where
  /-- A character that is text. -/
  | literal (c : Char)
  /-- A marker with its name. -/
  | marker (name : List Char)
  deriving Repr, DecidableEq

namespace Piece

/-- Characters of the template that the piece was read from. -/
def written (opening : List Char) : Piece → List Char
  | literal c => [c]
  | marker name => opening ++ name ++ [']']

/-- The pieces of a template after its first `skip` characters, which a marker has taken. -/
def scanFrom (opening : List Char) : Nat → List Char → List Piece
  | _, [] => []
  | skip + 1, _ :: rest => scanFrom opening skip rest
  | 0, c :: rest =>
    match leadingMarker? opening (c :: rest) with
    | some name => marker name :: scanFrom opening (opening.length + name.length) rest
    | none => literal c :: scanFrom opening 0 rest

/-- The pieces of a template, for markers with the given opening. -/
def scan (opening template : List Char) : List Piece :=
  scanFrom opening 0 template

end Piece

namespace Template

/-- Opening of a field marker. -/
def fieldOpening : List Char := ['[']

/-- Opening of a block marker. -/
def blockOpening : List Char := ['/', '/', '[']

/-- What a piece of a template becomes under given fields.  A field without a value fails where its
marker occurs. -/
def fillFieldPiece (fields : FieldMap) : Piece → Except TemplateError (List Char)
  | .literal c => .ok [c]
  | .marker name =>
    match fields.get? (String.ofList name) with
    | none => .ok ((Piece.marker name).written fieldOpening)
    | some none => .error (.missingFieldValue (String.ofList name))
    | some (some value) => .ok value.toList

/-- Replace every field marker that names one of the fields, or name the leftmost one whose field
has no value. -/
def fillFields (fields : FieldMap) (template : String) : Except TemplateError String :=
  ((Piece.scan fieldOpening template.toList).mapM (fillFieldPiece fields)).map fun filled =>
    String.ofList filled.flatten

/-- What a piece of a template becomes under given blocks. -/
def fillBlockPiece (blocks : NamedMap String) : Piece → List Char
  | .literal c => [c]
  | .marker name =>
    match blocks.get? (String.ofList name) with
    | none => (Piece.marker name).written blockOpening
    | some text => text.toList

/-- Replace every block marker that names one of the blocks. -/
def fillBlocks (blocks : NamedMap String) (template : String) : String :=
  String.ofList ((Piece.scan blockOpening template.toList).flatMap (fillBlockPiece blocks))

/-- The block of a frame that receives the generated body. -/
def placeholder : String := "Placeholder"

/-- The marker of a block. -/
def blockMarker (name : String) : String :=
  "//[" ++ name ++ "]"

/-- Put a body into the placeholder of a frame. -/
def fillPlaceholder (frame body : String) : String :=
  fillBlocks (NamedMap.ofList [(placeholder, body)]) frame

end Template
end DataLayer
