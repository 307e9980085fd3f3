import DataLayer.Document.Value
import DataLayer.Text.Uppercase

/-!
# Catalogs

A catalog answers four questions about a database: which tables exist, which columns form the key of
a table, which columns the database numbers itself, and what all columns look like.  A snapshot is a
catalog that was written down; it finds a table by its exact name first, and else by its name in
whatever case.
-/

namespace DataLayer

/-- A column as the catalog describes it. -/
structure ColumnInfo where
  /-- Name of the column. -/
  name : String
  /-- Name of its storage type. -/
  storageType : String
  /-- The column can be null. -/
  nullable : Bool := false
  /-- Declared length; -1 marks a column of any length. -/
  length : Option Int := none
  deriving Repr, DecidableEq

/-- A table as the catalog describes it. -/
structure TableEntry where
  /-- Name of the table. -/
  name : String
  /-- Columns of the primary key. -/
  primaryKey : List String := []
  /-- Columns whose values the database makes. -/
  identity : List String := []
  /-- All columns. -/
  columns : List ColumnInfo := []
  deriving Repr, DecidableEq

/-- A catalog that was written down. -/
structure Snapshot where
  /-- The tables, in catalog order. -/
  tables : List TableEntry := []
  deriving Repr, DecidableEq

/-- Why a catalog could not be used. -/
inductive CatalogError where
  /-- The file could not be read. -/
  | unreadable (path cause : String)
  /-- The text is not a catalog; the origin names where the text came from. -/
  | malformed (format : DocumentFormat) (origin : String) (problem : DocumentProblem)
  /-- The file name does not tell the notation. -/
  | unsupportedFormat (path : String)
  /-- There is no such table. -/
  | unknownTable (table : String)
  /-- Two tables have the same type name. -/
  | duplicateTable (name first second : String)
  /-- A question could not be answered. -/
  | queryFailed (detail : String)
  deriving Repr, DecidableEq

namespace CatalogError

/-- The error in words. -/
def message : CatalogError → String
  | unreadable path _ => "failed to read catalog '" ++ path ++ "'"
  | malformed _ origin _ => "malformed catalog '" ++ origin ++ "'"
  | unsupportedFormat path =>
    "unsupported catalog format '" ++ path ++ "' (expected a .toml or .json file)"
  | unknownTable table => "table '" ++ table ++ "' is not in the catalog"
  | duplicateTable name first second =>
    "tables '" ++ first ++ "' and '" ++ second ++ "' both map to the type name '" ++ name ++ "'"
  | queryFailed detail => "catalog query failed: " ++ detail

/-- The error in words, followed by what caused it. -/
def chain (error : CatalogError) : List String :=
  match error with
  | unreadable _ cause => [error.message, cause]
  | _ => [error.message]

end CatalogError

/-- The answers of a catalog.  Each question may fail. -/
structure Catalog where
  /-- The names of all tables. -/
  tableNames : Except CatalogError (List String)
  /-- The columns of a table's primary key. -/
  primaryKeyNames : String → Except CatalogError (List String)
  /-- The columns of a table whose values the database makes. -/
  identityColumnNames : String → Except CatalogError (List String)
  /-- The columns of a table. -/
  columns : String → Except CatalogError (List ColumnInfo)

namespace Snapshot

/-- The table of a name: the first one with that very name, or else the first one with the name in
whatever case. -/
def table? (snapshot : Snapshot) (name : String) : Option TableEntry :=
  (snapshot.tables.find? (·.name == name)).or
    (snapshot.tables.find? fun table => Text.sameLetters table.name name)

/-- The table of a name, or the error that there is none. -/
def findTable (snapshot : Snapshot) (name : String) : Except CatalogError TableEntry :=
  match snapshot.table? name with
  | some table => .ok table
  | none => .error (.unknownTable name)

/-- The snapshot as a catalog. -/
def catalog (snapshot : Snapshot) : Catalog where
  tableNames := .ok (snapshot.tables.map (·.name))
  primaryKeyNames name := (snapshot.findTable name).map (·.primaryKey)
  identityColumnNames name := (snapshot.findTable name).map (·.identity)
  columns name := (snapshot.findTable name).map (·.columns)

end Snapshot
end DataLayer
