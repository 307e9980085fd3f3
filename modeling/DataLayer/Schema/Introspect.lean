import DataLayer.Schema.Table

/-!
# Reading the schema from a catalog

The tables of a catalog are read one after another, in catalog order.  The first question that fails
ends the reading, and so does a table whose type name was there before.
-/

namespace DataLayer
namespace Schema

/-- Read one table from a catalog. -/
def readTable (mapper : TypeMapper) (catalog : Catalog) (storageName : String) :
    Except CatalogError Table := do
  let keys ← catalog.primaryKeyNames storageName
  let identity ← catalog.identityColumnNames storageName
  let columns ← catalog.columns storageName
  return .ofAnswers mapper storageName keys identity columns

/-- Read tables in order.  The first argument holds the type names so far, each with the storage
name that has it. -/
def readTables (mapper : TypeMapper) (catalog : Catalog) :
    List (String × String) → List String → Except CatalogError (List Table)
  | _, [] => .ok []
  | seen, storageName :: rest => do
    let name := Text.upperFirst storageName
    match seen.lookup name with
    | some first => .error (.duplicateTable name first storageName)
    | none =>
      let table ← readTable mapper catalog storageName
      let tables ← readTables mapper catalog ((name, storageName) :: seen) rest
      return table :: tables

/-- Read all tables of a catalog. -/
def introspect (mapper : TypeMapper) (catalog : Catalog) : Except CatalogError (List Table) := do
  let names ← catalog.tableNames
  readTables mapper catalog [] names

end Schema
end DataLayer
