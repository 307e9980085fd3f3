import DataLayer.Document.Json
import DataLayer.Document.Record
import DataLayer.Document.Toml.Statement

/-!
# Reading documents

The text of a TOML document becomes statements, and the statements become a tree of tables.  The
notations part ways here: a TOML document is either wrong as a whole or a complete tree, while a
JSON document counts as far as its text makes sense.
-/

namespace DataLayer
namespace Toml

/-- The tables under construction, and the header under which values are put. -/
structure Outline where
  /-- Content of the document so far. -/
  entries : Entries
  /-- Path of the current table. -/
  current : List String

/-- Take in a statement. -/
def Outline.add (outline : Outline) : Statement → Option Outline
  | .header path key =>
    (defineTable path key outline.entries).map fun entries => ⟨entries, path ++ [key]⟩
  | .element path key =>
    (appendTable path key outline.entries).map fun entries => ⟨entries, path ++ [key]⟩
  | .assignment path key value =>
    (descend false (fun _ inner => assign path key value inner) outline.current .header
      outline.entries).map fun entries => { outline with entries }

/-- The value of a document with the given statements. -/
def valueOfStatements? (statements : List Statement) : Option Value :=
  (statements.foldlM Outline.add ⟨[], []⟩).map fun outline =>
    .record (finishEntries outline.entries) true

/-- A byte order mark in front of a text does not count. -/
def dropByteOrderMark : List Char → List Char
  | '\uFEFF' :: rest => rest
  | text => text

/-- Read a document. -/
def document? (text : String) : Option Value :=
  let chars := dropByteOrderMark text.toList
  (statements? (chars.length + 1) chars).bind valueOfStatements?

end Toml

namespace DocumentFormat

/-- Read a document and what its value stands for. -/
def read {α : Type} (format : DocumentFormat)
    (decode : DocumentFormat → Value → Except DocumentProblem α) (text : String) :
    Except DocumentProblem α :=
  match format with
  | .toml =>
    match Toml.document? text with
    | some value => decode .toml value
    | none => .error .malformed
  | .json => do
    let document := Json.document text
    let result ← decode .json document.1
    if document.2 then return result else .error .malformed

end DocumentFormat
end DataLayer
