import DataLayer.Project.Basic

/-!
# Listing the tables of a project

The schema is shown as the generated code will see it: each table with its columns, their storage
types and the types they are mapped to.
-/

namespace DataLayer

/-- A column in the list of tables. -/
structure ColumnSummary where
  /-- Name of the column. -/
  name : String
  /-- Storage type with its length, if it has one. -/
  storageType : String
  /-- Its type in the target language. -/
  mappedType : String
  /-- What else there is to say. -/
  flags : List String
  deriving Repr, DecidableEq

/-- A table in the list of tables. -/
structure TableSummary where
  /-- Type name in generated code. -/
  name : String
  /-- Name in the catalog. -/
  storageName : String
  /-- The columns. -/
  columns : List ColumnSummary
  deriving Repr, DecidableEq

/-- The storage type of a column with its length. -/
def Column.sizedType (column : Column) : String :=
  match column.length with
  | none => column.storageType
  | some length =>
    if length = unboundedLength then column.storageType ++ "(max)"
    else if 0 < length then column.storageType ++ "(" ++ toString length ++ ")"
    else column.storageType

/-- What there is to say about a column besides its types. -/
def Column.flags (column : Column) : List String :=
  (if column.primaryKey then ["primary key"] else []) ++
    (if column.generated then ["generated"] else []) ++
    (if column.family?.isNone then ["unmapped"] else [])

/-- A column in the list of tables. -/
def Column.summary (column : Column) : ColumnSummary :=
  ⟨column.name, column.sizedType, column.mappedType, column.flags⟩

/-- A table in the list of tables. -/
def Table.summary (table : Table) : TableSummary :=
  ⟨table.name, table.storageName, table.columns.map (·.summary)⟩

namespace TableSummary

/-- The line about a column. -/
def columnLine (column : ColumnSummary) : ReportLine :=
  .listItem (column.name ++ ": " ++ column.storageType ++ " -> " ++ column.mappedType ++
    (if column.flags.isEmpty then "" else " [" ++ ", ".intercalate column.flags ++ "]"))

/-- The lines about a table. -/
def lines (table : TableSummary) : Report :=
  .section (if table.name = table.storageName then table.name
    else table.name ++ " (" ++ table.storageName ++ ")") ::
    table.columns.map columnLine

/-- The lines about several tables, with a blank line between two. -/
def report : List TableSummary → Report
  | [] => [.preformatted "No tables in the catalog"]
  | first :: others => first.lines ++ others.flatMap fun table => .newline :: table.lines

end TableSummary

namespace Project

variable {m : Type → Type} [Monad m] [FileStore m]

/-- List the tables of a project. -/
def tables (config : Config) : ExceptT ProjectError m (List TableSummary) := do
  let snapshot ← config.loadCatalog
  match Schema.introspect .csharp snapshot.catalog with
  | .error error => throw (.introspection error)
  | .ok tables => return tables.map (·.summary)

end Project
end DataLayer
