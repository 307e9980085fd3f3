import DataLayer.Code.Layout
import DataLayer.Schema.Table
import DataLayer.Template.Fill
import DataLayer.Text.Lines

/-!
# The data context and repositories

The data context gives access to every table.  The accessors stand in the placeholder of a template
whose other fields are filled before.  Each table has a repository, filled from a template with the
fields of the table and fields that all tables share.  A field of the table wins over a shared field
of the same name.
-/

namespace DataLayer

/-- The accessor of a table, indented to stand inside the context class. -/
def Table.accessor (table : Table) : String :=
  CodeStep.code [
    .indent,
    .indent,
    .braced ("public Table<" ++ table.name ++ "> " ++ table.name)
      [.line ("get \x7b return this.GetTable<" ++ table.name ++ ">(); \x7d")]]

namespace Template

/-- The accessors of tables, in order. -/
def contextMembers (tables : List Table) : String :=
  Text.joinBlocks (tables.map (·.accessor))

/-- Put the accessors of tables into the template of the data context. -/
def renderContext (template : String) (tables : List Table) : String :=
  fillPlaceholder template (contextMembers tables)

/-- Fill a template for a table, in one pass. -/
def fillForTable (shared : FieldMap) (template : String) (table : Table) :
    Except TemplateError String :=
  fillFields (shared.merge table.fields) template

/-- The repository of a table inside a frame. -/
def renderRepository (shared : FieldMap) (template frame : String) (table : Table) :
    Except TemplateError String :=
  (fillForTable shared template table).map fun body =>
    fillPlaceholder frame (Text.joinBlocks [body])

end Template
end DataLayer
