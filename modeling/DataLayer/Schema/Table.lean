import DataLayer.Catalog.Basic
import DataLayer.Schema.StorageFamily
import DataLayer.Template.Basic
import DataLayer.Text.Uppercase

/-!
# Tables of the schema

A table of the schema is what a catalog says about a table, made ready for generated code: its name
is capitalised, and each column knows its type in the target language and whether it is a key or
numbered by the database.
-/

namespace DataLayer

/-- The length that marks a column of any length. -/
def unboundedLength : Int := -1

/-- A column of the schema. -/
structure Column where
  /-- Name of the column. -/
  name : String
  /-- Name of its storage type. -/
  storageType : String
  /-- Its type in the target language. -/
  mappedType : String
  /-- The column can be null. -/
  nullable : Bool
  /-- The column belongs to the primary key. -/
  primaryKey : Bool
  /-- The database makes the values of the column. -/
  generated : Bool
  /-- Declared length. -/
  length : Option Int
  deriving Repr, DecidableEq

namespace Column

/-- The column of a table with given keys and numbered columns. -/
def ofInfo (mapper : TypeMapper) (keys identity : List String) (info : ColumnInfo) : Column where
  name := info.name
  storageType := info.storageType
  mappedType := mapper.map info.storageType info.nullable
  nullable := info.nullable
  primaryKey := keys.contains info.name
  generated := identity.contains info.name
  length := info.length

/-- The family of the column's storage type. -/
def family? (column : Column) : Option StorageFamily :=
  StorageFamily.classify? column.storageType

/-- The column is declared to be of any length. -/
def isUnbounded (column : Column) : Bool :=
  column.length == some unboundedLength

end Column

/-- The texts without repetitions, in the order of first occurrence. -/
def distinct : List String → List String
  | [] => []
  | first :: rest => first :: (distinct rest).filter (· != first)

/-- A table of the schema. -/
structure Table where
  /-- Type name in generated code. -/
  name : String
  /-- Name in the catalog. -/
  storageName : String
  /-- The columns, in catalog order. -/
  columns : List Column
  /-- Columns of the primary key, each once. -/
  primaryKeyNames : List String
  /-- Columns whose values the database makes, each once. -/
  identityColumnNames : List String
  deriving Repr, DecidableEq

namespace Table

/-- The table that a catalog describes. -/
def ofAnswers (mapper : TypeMapper) (storageName : String) (keys identity : List String)
    (columns : List ColumnInfo) : Table where
  name := Text.upperFirst storageName
  storageName := storageName
  columns := columns.map (Column.ofInfo mapper (distinct keys) (distinct identity))
  primaryKeyNames := distinct keys
  identityColumnNames := distinct identity

/-- The first column of a name. -/
def column? (table : Table) (name : String) : Option Column :=
  table.columns.find? (·.name == name)

/-- The first column of the primary key. -/
def primaryKey? (table : Table) : Option Column :=
  table.columns.find? (·.primaryKey)

/-- The class that table repositories extend. -/
def repositoryName : String := "GenericRepository"

/-- What templates can say about the table. -/
def fields (table : Table) : FieldMap :=
  NamedMap.ofList [
    ("TableName", some table.name),
    ("StorageName", some table.storageName),
    ("RepositoryName", some repositoryName),
    ("PrimaryKeyName", table.primaryKey?.map (·.name)),
    ("PrimaryKeyType", table.primaryKey?.map (·.mappedType)),
    ("ColumnNames", some (", ".intercalate (table.columns.map (·.name))))]

end Table
end DataLayer
