import DataLayer.Catalog.Basic
import DataLayer.Document.Reading
import DataLayer.Files.Store

/-!
# Snapshots as documents

A snapshot is written down as a record of tables, in TOML or in JSON; the extension of its file
tells the notation.  What a table or a column does not say has a default.
-/

namespace DataLayer

/-- A field of a column. -/
inductive ColumnEntry where
  /-- Name of the column. -/
  | name (value : String)
  /-- Name of its storage type. -/
  | storageType (value : String)
  /-- The column can be null. -/
  | nullable (value : Bool)
  /-- Declared length. -/
  | length (value : Option Int)

/-- A column. -/
def columnShape : RecordShape ColumnEntry where
  label := "ColumnInfo"
  fields := [
    ⟨"name", fun value => value.asText.map .name⟩,
    ⟨"type", fun value => value.asText.map .storageType⟩,
    ⟨"nullable", fun value => value.asBoolean.map .nullable⟩,
    ⟨"length", fun value => (value.asOptional Value.asInt32).map .length⟩]

/-- Read a column. -/
def readColumn (format : DocumentFormat) : Value → Except DocumentProblem ColumnInfo :=
  columnShape.read format fun style entries => do
    let name ← columnShape.required style "name"
      (entries.findSome? fun | .name value => some value | _ => none)
    let storageType ← columnShape.required style "type"
      (entries.findSome? fun | .storageType value => some value | _ => none)
    let nullable := entries.findSome? fun | .nullable value => some value | _ => none
    let length := entries.findSome? fun | .length value => some value | _ => none
    return { name, storageType, nullable := nullable.getD false, length := length.join }

/-- A field of a table. -/
inductive TableField where
  /-- Name of the table. -/
  | name (value : String)
  /-- Columns of the primary key. -/
  | primaryKey (value : List String)
  /-- Columns whose values the database makes. -/
  | identity (value : List String)
  /-- All columns. -/
  | columns (value : List ColumnInfo)

/-- A table. -/
def tableShape (format : DocumentFormat) : RecordShape TableField where
  label := "TableSnapshot"
  fields := [
    ⟨"name", fun value => value.asText.map .name⟩,
    ⟨"primary_key", fun value => (value.asSequence Value.asText).map .primaryKey⟩,
    ⟨"identity", fun value => (value.asSequence Value.asText).map .identity⟩,
    ⟨"columns", fun value => (value.asSequence (readColumn format)).map .columns⟩]

/-- Read a table. -/
def readTable (format : DocumentFormat) : Value → Except DocumentProblem TableEntry :=
  (tableShape format).read format fun style entries => do
    let name ← (tableShape format).required style "name"
      (entries.findSome? fun | .name value => some value | _ => none)
    let primaryKey := entries.findSome? fun | .primaryKey value => some value | _ => none
    let identity := entries.findSome? fun | .identity value => some value | _ => none
    let columns := entries.findSome? fun | .columns value => some value | _ => none
    return {
      name
      primaryKey := primaryKey.getD []
      identity := identity.getD []
      columns := columns.getD [] }

/-- A snapshot, which has tables alone. -/
def snapshotShape (format : DocumentFormat) : RecordShape (List TableEntry) where
  label := "CatalogSnapshot"
  fields := [⟨"tables", Value.asSequence (readTable format)⟩]

/-- The notation of a file, by its extension in whatever case. -/
def DocumentFormat.ofPath? (path : String) : Option DocumentFormat :=
  (Path.extension? path).bind fun extension =>
    if Text.foldCase extension = "toml" then some .toml
    else if Text.foldCase extension = "json" then some .json
    else none

namespace Snapshot

/-- Read a snapshot from the value of a document. -/
def ofValue (format : DocumentFormat) : Value → Except DocumentProblem Snapshot :=
  (snapshotShape format).read format fun _ entries => .ok ⟨entries.head?.getD []⟩

/-- Read a snapshot from a text of the given origin. -/
def parse (format : DocumentFormat) (origin text : String) : Except CatalogError Snapshot :=
  match format.read ofValue text with
  | .ok snapshot => .ok snapshot
  | .error problem => .error (.malformed format origin problem)

variable {m : Type → Type} [Monad m] [FileStore m]

/-- Load a snapshot from a file. -/
def load (path : String) : m (Except CatalogError Snapshot) := do
  match DocumentFormat.ofPath? path with
  | none => return .error (.unsupportedFormat path)
  | some format =>
    match ← FileStore.readText path with
    | .error cause => return .error (.unreadable path cause.message)
    | .ok text => return parse format path text

end Snapshot
end DataLayer
