import DataLayer.Code.Layout
import DataLayer.Schema.Table
import DataLayer.Text.Lines

/-!
# Entity classes

Each table becomes a class with a property for each column.  Classes are indented by one level,
since they stand inside a namespace.  What is written around the classes and fields can be replaced:
by default a column carries the attribute that maps it for LINQ to SQL, and a class carries nothing.
-/

namespace DataLayer

/-- A column's value is left out when updates look for conflicts: large text is never compared. -/
def Column.skipsUpdateCheck (column : Column) : Bool :=
  match column.family? with
  | some family => family.isLongText || (family.isVariableCharacter && column.isUnbounded)
  | none => false

/-- The storage type as it is declared, with the length where one counts. -/
def Column.declaredType (column : Column) : String :=
  let base := Text.upperFirst column.storageType
  let sized := column.family?.any (·.isVariableCharacter)
  match column.length with
  | some length => if sized && 0 < length then base ++ "(" ++ toString length ++ ")" else base
  | none => base

/-- The attribute that maps a column. -/
def Column.attribute (column : Column) : String :=
  "[Column(Name = \"" ++ column.name ++ "\"" ++
    (if column.primaryKey then ", IsPrimaryKey = true" else "") ++
    (if column.generated then ", IsDbGenerated = true" else "") ++
    (if column.nullable then "" else ", CanBeNull = false") ++
    (if column.skipsUpdateCheck then ", UpdateCheck = UpdateCheck.Never" else "") ++
    ", DbType = \"" ++ column.declaredType ++ "\")]"

/-- What is written around classes and fields. -/
structure RenderHooks where
  /-- Type of a column's field. -/
  fieldType : Column → String := Column.mappedType
  /-- Lines above a class. -/
  classDecoration : Table → String := fun _ => ""
  /-- Lines above a field. -/
  columnDecoration : Column → String := Column.attribute

namespace RenderHooks

/-- The steps that write a column. -/
def columnSteps (hooks : RenderHooks) (column : Column) : List CodeStep :=
  [.each (Text.lines (hooks.columnDecoration column)),
    .line ("public " ++ hooks.fieldType column ++ " " ++ column.name ++ " \x7b get; set; \x7d")]

/-- The steps that write the class of a table. -/
def entitySteps (hooks : RenderHooks) (table : Table) : List CodeStep :=
  [.indent,
    .each (Text.lines (hooks.classDecoration table)),
    .line ("[Table(Name = \"" ++ table.storageName ++ "\")]"),
    .braced ("public partial class " ++ table.name) (table.columns.flatMap hooks.columnSteps)]

/-- The class of a table. -/
def renderEntity (hooks : RenderHooks) (table : Table) : String :=
  CodeStep.code (hooks.entitySteps table)

/-- The classes of several tables under their names. -/
def renderEntities (hooks : RenderHooks) (tables : List Table) : NamedMap String :=
  .ofList (tables.map fun table => (table.name, hooks.renderEntity table))

end RenderHooks
end DataLayer
