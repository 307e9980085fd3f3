import DataLayer.Proofs.Code.Indentation
import DataLayer.Proofs.Render.Entity
import DataLayer.Proofs.Text.LineForms
import DataLayer.Schema.Introspect

/-!
# An entity class, line by line

The text of an entity class consists of its lines with a line feed behind each, and if no name or
type breaks a line, these are also the lines that are read back.  How the decorations end their
lines does not matter.
-/

namespace DataLayer

open CodeLayout

theorem CodeLayout.linesText_eq (level : Nat) (texts : List String) :
    linesText level texts = Text.unlines (texts.map (indentedLine level)) := by
  rw [linesText, Text.unlines, List.map_map]
  exact congrArg String.join (List.map_congr_left fun text _ => lineText_eq level text)

namespace RenderHooks

variable (hooks : RenderHooks)

/-- The lines of the class of a table as they are written. -/
def entityLines (table : Table) : List String :=
  (hooks.headLines table).map (indentedLine 1) ++
    table.columns.flatMap (fun column => (hooks.columnLines column).map (indentedLine 2)) ++
    [indentedLine 1 "\x7d"]

theorem renderEntity_eq_unlines (table : Table) :
    hooks.renderEntity table = Text.unlines (hooks.entityLines table) := by
  rw [renderEntity_eq, linesText_eq, linesText_eq, linesText_eq, List.map_flatMap, entityLines,
    Text.unlines_append, Text.unlines_append, List.map_singleton]

/-- No name or type that a class mentions breaks a line. -/
structure KeepsLines (table : Table) : Prop where
  /-- The type name. -/
  name : '\n' ∉ table.name.toList
  /-- The name in the catalog. -/
  storageName : '\n' ∉ table.storageName.toList
  /-- The names of the columns. -/
  columnName : ∀ column ∈ table.columns, '\n' ∉ column.name.toList
  /-- The types of the fields. -/
  fieldType : ∀ column ∈ table.columns, '\n' ∉ (hooks.fieldType column).toList

/-- Other hooks give the fields of a table the same types, and the same decorations up to the ends
of their lines. -/
structure Reends (other : RenderHooks) (table : Table) : Prop where
  /-- The types of the fields stay. -/
  fieldType : ∀ column ∈ table.columns, other.fieldType column = hooks.fieldType column
  /-- The lines above the class end in another way. -/
  classDecoration : Text.IsReended (hooks.classDecoration table) (other.classDecoration table)
  /-- The lines above the fields end in another way. -/
  columnDecoration : ∀ column ∈ table.columns,
    Text.IsReended (hooks.columnDecoration column) (other.columnDecoration column)

variable {hooks}

theorem KeepsLines.newline_notMem {table : Table} (keeps : hooks.KeepsLines table) {line : String}
    (member : line ∈ hooks.entityLines table) : '\n' ∉ line.toList := by
  have head_within : ∀ text ∈ hooks.headLines table, '\n' ∉ text.toList := by
    intro text text_mem
    rcases List.mem_append.mp text_mem with decoration | fixed
    · exact Text.newline_notMem_of_mem_lines decoration
    · simp only [List.mem_cons, List.not_mem_nil, or_false] at fixed
      rcases fixed with rfl | rfl | rfl
      · simp [keeps.storageName]
      · simp [keeps.name]
      · simp
  have column_within : ∀ column ∈ table.columns, ∀ text ∈ hooks.columnLines column,
      '\n' ∉ text.toList := by
    intro column column_mem text text_mem
    rcases List.mem_append.mp text_mem with decoration | property
    · exact Text.newline_notMem_of_mem_lines decoration
    · rw [List.mem_singleton.mp property]
      simp [keeps.columnName column column_mem, keeps.fieldType column column_mem]
  simp only [entityLines, List.mem_append, List.mem_map, List.mem_flatMap,
    List.mem_singleton] at member
  rcases member with (⟨text, text_mem, rfl⟩ | ⟨column, column_mem, text, text_mem, rfl⟩) | rfl
  · exact newline_notMem_indentedLine (head_within text text_mem)
  · exact newline_notMem_indentedLine (column_within column column_mem text text_mem)
  · exact newline_notMem_indentedLine (by simp)

theorem Reends.entityLines_eq {other : RenderHooks} {table : Table}
    (reends : hooks.Reends other table) : other.entityLines table = hooks.entityLines table := by
  have head_eq : other.headLines table = hooks.headLines table := by
    rw [headLines, headLines, reends.classDecoration.lines_eq]
  have columns_eq (column : Column) (member : column ∈ table.columns) :
      other.columnLines column = hooks.columnLines column := by
    rw [columnLines, columnLines, (reends.columnDecoration column member).lines_eq,
      reends.fieldType column member]
  rw [entityLines, entityLines, head_eq, List.flatMap_congr fun column member => by
    rw [columns_eq column member]]

/-- The class of a table is written as its lines, each ended by one line feed, and read as the same
lines.  It stays the same if the decorations end their lines with a carriage return and a line feed,
or if they end their last line at all. -/
theorem renderEntity_lines (hooks : RenderHooks) (table : Table)
    (keeps : hooks.KeepsLines table) :
    hooks.renderEntity table = Text.unlines (hooks.entityLines table) ∧
    Text.splitAtChar '\n' (hooks.renderEntity table) = hooks.entityLines table ++ [""] ∧
    ∀ other : RenderHooks, hooks.Reends other table →
      other.renderEntity table = hooks.renderEntity table := by
  have unlines_eq := hooks.renderEntity_eq_unlines table
  refine ⟨unlines_eq, ?_, fun other reends => ?_⟩
  · rw [unlines_eq]
    exact Text.splitAtChar_unlines fun line => keeps.newline_notMem
  · rw [unlines_eq, other.renderEntity_eq_unlines, reends.entityLines_eq]

/-- Hooks that write the same lines above every class and every field. -/
def decorated (classText columnText : String) : RenderHooks where
  classDecoration := fun _ => classText
  columnDecoration := fun _ => columnText

/-- A table with one column. -/
def stampTable : Table :=
  .ofAnswers .csharp "stamp" [] [] [{ name := "at", storageType := "date" }]

/-- Above the class the lines end with carriage returns, above the field the last line ends. -/
theorem renderEntity_lines_of_stamp :
    (decorated "a\n\nb" "c").KeepsLines stampTable ∧
      (decorated "a\n\nb" "c").Reends (decorated "a\r\n\r\nb" "c\n") stampTable ∧
      (decorated "a\r\n\r\nb" "c\n").renderEntity stampTable =
        (decorated "a\n\nb" "c").renderEntity stampTable := by
  have keeps : (decorated "a\n\nb" "c").KeepsLines stampTable := by
    constructor <;> decide +kernel
  have no_return : '\r' ∉ "a\n\nb".toList := by decide
  have closed : Text.IsReended "c" ("c" ++ "\n") := .closed (by decide) (by simp [Text.EndsOpen])
  have reends : (decorated "a\n\nb" "c").Reends (decorated "a\r\n\r\nb" "c\n") stampTable :=
    { fieldType := fun _ _ => rfl
      classDecoration := .returns no_return
      columnDecoration := fun _ _ => closed }
  exact ⟨keeps, reends, (renderEntity_lines _ _ keeps).2.2 _ reends⟩

/-- A carriage return at the very end of a decoration belongs to its last line.  A line feed behind
it makes it a part of the line end, so that it is no longer written. -/
theorem renderEntity_closing_return :
    let table : Table := .ofAnswers .csharp "t" [] [] []
    Schema.introspect .csharp (Snapshot.catalog ⟨[{ name := "t" }]⟩) = .ok [table] ∧
      (decorated "a\r" "").KeepsLines table ∧ "a\r" ≠ "" ∧ "a\r".toList.getLast? ≠ some '\n' ∧
      (decorated "a\r" "").renderEntity table =
        "    a\r\n    [Table(Name = \"t\")]\n    public partial class T\n    \x7b\n    \x7d\n" ∧
      (decorated ("a\r" ++ "\n") "").renderEntity table =
        "    a\n    [Table(Name = \"t\")]\n    public partial class T\n    \x7b\n    \x7d\n" ∧
      (decorated ("a\r" ++ "\n") "").renderEntity table ≠
        (decorated "a\r" "").renderEntity table := by
  have keeps : (decorated "a\r" "").KeepsLines (.ofAnswers .csharp "t" [] [] []) := by
    constructor <;> decide +kernel
  refine ⟨?_, keeps, ?_⟩
  · decide +kernel
  · decide +kernel

end RenderHooks
end DataLayer
