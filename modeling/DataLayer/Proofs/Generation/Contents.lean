import DataLayer.Proofs.Render.EntityLines
import DataLayer.Proofs.Template.Blocks
import DataLayer.Proofs.Text.LineEnds

/-!
# What generated files hold

The files of a schema are described by what is replaced in which template and by the lines that are
written between, without the steps that get there.
-/

namespace DataLayer

open CodeLayout

/-- The text is a template of the source with the markers of all fields replaced at once. -/
def TemplateSource.FillsTo (source : TemplateSource) (name : TemplateName) (fields : FieldMap)
    (filled : String) : Prop :=
  ∃ template, source name = .ok template ∧ Template.AllSet fields template ∧
    ReplacesAll (Template.fieldRule fields) template.toList filled.toList

/-- The text is a frame with a body in place of every marker of the placeholder. -/
def Template.Encloses (frame body filled : String) : Prop :=
  ReplacesAll (placeholderRule body.toList) frame.toList filled.toList

/-- The lines of the accessor of a table, inside the context class. -/
def Table.accessorLines (table : Table) : List String :=
  [indentedLine 2 ("public Table<" ++ table.name ++ "> " ++ table.name),
    indentedLine 2 "\x7b",
    indentedLine 3 ("get \x7b return this.GetTable<" ++ table.name ++ ">(); \x7d"),
    indentedLine 2 "\x7d"]

theorem Table.accessor_eq_unlines (table : Table) :
    table.accessor = Text.unlines table.accessorLines := by
  simp [accessor, CodeStep.code, CodeStep.runAll, CodeStep.run, indent, dedent, line, lineText_eq,
    accessorLines, Text.unlines, String.append_assoc]

/-- The bodies of the files of a table, where it has files of its own. -/
structure TableBodies where
  /-- Type name of the table. -/
  name : String
  /-- The entity class and the addition to it. -/
  model : String
  /-- The repository class. -/
  repository : String

namespace Config

variable (config : Config) (source : TemplateSource)

/-- The body of the file with the data context: its template with the fields of the project and an
accessor for each table. -/
def IsContextBody (tables : List Table) (body : String) : Prop :=
  ∃ template accessors context, source.FillsTo .dataContext config.fields template ∧
    Text.IsJoined (tables.map fun table => Text.unlines table.accessorLines) accessors ∧
    Template.Encloses template accessors context ∧ Text.IsJoined [context] body

/-- The body of the file that all repositories share: its template with the fields of the
project. -/
def IsSharedBody (body : String) : Prop :=
  ∃ base, source.FillsTo .repositoryBase config.fields base ∧ Text.IsJoined [base] body

/-- The bodies of the files of a table: its class with the addition to it, and its repository, both
from templates with the fields of project and table. -/
structure AreBodiesOf (table : Table) (bodies : TableBodies) : Prop where
  /-- They go under the name of the table. -/
  name : bodies.name = table.name
  /-- The class with the addition behind it. -/
  model : ∃ addition,
    source.FillsTo .modelEntity (config.fields.merge table.fields) addition ∧
      Text.IsJoined [Text.unlines (config.hooks.entityLines table), addition] bodies.model
  /-- The repository alone. -/
  repository : ∃ repository,
    source.FillsTo .tableRepository (config.fields.merge table.fields) repository ∧
      Text.IsJoined [repository] bodies.repository

/-- A file holds its body in the frame of its group, and one line feed behind the last line. -/
structure IsFramed (body file : OutputFile) : Prop where
  /-- The group stays. -/
  group : file.group = body.group
  /-- The name stays. -/
  name : file.name = body.name
  /-- The body is put into the frame, which has the fields of the project. -/
  content : ∃ frame filled stripped, source.FillsTo body.group.frame config.fields frame ∧
    Template.Encloses frame body.content filled ∧ Text.StripsTo filled stripped ∧
      file.content = stripped ++ "\n"

variable {config source}

theorem fillsTo_of_configured {name : TemplateName} {filled : String}
    (configured : config.configured source name = .ok filled) :
    source.FillsTo name config.fields filled := by
  obtain ⟨template, there, done⟩ := (configured_eq_ok_iff name filled).mp configured
  exact ⟨template, there, (Template.fillFields_eq_ok_iff _ _ _).mp done⟩

theorem fillsTo_of_fillForTable {name : TemplateName} {template filled : String} {table : Table}
    (there : source name = .ok template)
    (done : Template.fillForTable config.fields template table = .ok filled) :
    source.FillsTo name (config.fields.merge table.fields) filled :=
  ⟨template, there, (Template.fillFields_eq_ok_iff _ _ _).mp done⟩

/-- A body in the filled frame of its group is framed. -/
theorem isFramed_of_configured {group : OutputGroup} {frame : String}
    (configured : config.configured source group.frame = .ok frame) (name body : String) :
    config.IsFramed source ⟨group, name, body⟩
      ⟨group, name, Text.ensureTrailingNewline (Template.fillPlaceholder frame body)⟩ where
  group := rfl
  name := rfl
  content := ⟨frame, _, _, fillsTo_of_configured configured,
    (Template.fillPlaceholder_eq_iff _ _ _).mp rfl, (Text.stripLineEnds_eq_iff _ _).mp rfl, rfl⟩

end Config
end DataLayer
