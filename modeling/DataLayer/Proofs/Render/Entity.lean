import DataLayer.Proofs.Code.Layout
import DataLayer.Proofs.Schema.Respelled
import DataLayer.Proofs.Text.Likeness
import DataLayer.Render.Entity

/-!
# The lines of an entity class

An entity class is written line by line: its head and its last line at one level, the lines of all
columns between them one level deeper.  So two classes are like each other if they are so line by
line.
-/

namespace DataLayer

open CodeLayout

namespace RenderHooks

variable (hooks : RenderHooks)

/-- The lines of a column: those of its decoration and the property. -/
def columnLines (column : Column) : List String :=
  Text.lines (hooks.columnDecoration column) ++
    ["public " ++ hooks.fieldType column ++ " " ++ column.name ++ " \x7b get; set; \x7d"]

/-- The lines of a class in front of its columns. -/
def headLines (table : Table) : List String :=
  Text.lines (hooks.classDecoration table) ++
    ["[Table(Name = \"" ++ table.storageName ++ "\")]", "public partial class " ++ table.name,
      "\x7b"]

theorem runAll_columnSteps (column : Column) (layout : CodeLayout) :
    CodeStep.runAll (hooks.columnSteps column) layout =
      { layout with text := layout.text ++ linesText layout.level (hooks.columnLines column) } := by
  simp only [columnSteps, CodeStep.runAll, CodeStep.run, foldl_line, line_eq, columnLines,
    linesText_append, String.append_assoc]

theorem runAll_flatMap_columnSteps (columns : List Column) (layout : CodeLayout) :
    CodeStep.runAll (columns.flatMap hooks.columnSteps) layout =
      { layout with
        text := layout.text ++ linesText layout.level (columns.flatMap hooks.columnLines) } := by
  induction columns generalizing layout with
  | nil => simp [CodeStep.runAll, linesText]
  | cons column rest ih =>
      rw [List.flatMap_cons, CodeStep.runAll_append, runAll_columnSteps, ih, List.flatMap_cons,
        linesText_append, ← String.append_assoc]

/-- A class consists of its head, the lines of its columns one level deeper, and a closing brace. -/
theorem renderEntity_eq (table : Table) :
    hooks.renderEntity table =
      linesText 1 (hooks.headLines table) ++
        linesText 2 (table.columns.flatMap hooks.columnLines) ++
        linesText 1 ["\x7d"] := by
  simp only [renderEntity, CodeStep.code, entitySteps, CodeStep.runAll, CodeStep.run, indent,
    foldl_line, line_eq, runAll_flatMap_columnSteps, dedent, headLines, linesText_append,
    linesText_cons, linesText_nil, String.append_assoc, String.empty_append, Nat.zero_add,
    Nat.reduceAdd, Nat.reduceSub]

end RenderHooks

namespace Text.IsLikeness

variable {related : String → String → Prop} (likeness : IsLikeness related)
include likeness

theorem linesText (level : Nat) {texts others : List String}
    (pairs : List.Forall₂ related texts others) :
    related (linesText level texts) (linesText level others) := by
  refine likeness.join ?_
  rw [List.forall₂_map_left_iff, List.forall₂_map_right_iff]
  refine pairs.imp fun text other pair => ?_
  have empty_iff := likeness.empty_iff pair
  by_cases empty : text = ""
  · rw [lineText, lineText, if_pos empty, if_pos (empty_iff.mp empty)]
    exact likeness.refl _
  · rw [lineText, lineText, if_neg empty, if_neg (mt empty_iff.mpr empty)]
    exact likeness.append (likeness.append (likeness.refl _) pair) (likeness.refl _)

end Text.IsLikeness

/-- Respelling the storage type of a column changes neither its field nor what is above its class,
and it changes what is above the field at most within a likeness. -/
structure RenderHooks.Keeps (hooks : RenderHooks) (related : String → String → Prop) : Prop where
  /-- The type of a field stays. -/
  fieldType : ∀ first second : Column, first.IsRespelled second →
    hooks.fieldType second = hooks.fieldType first
  /-- The lines above a class stay. -/
  classDecoration : ∀ first second : Table, first.IsRespelled second →
    hooks.classDecoration second = hooks.classDecoration first
  /-- The lines above a field stay like they were. -/
  columnDecoration : ∀ first second : Column, first.IsRespelled second →
    related (hooks.columnDecoration first) (hooks.columnDecoration second)

namespace RenderHooks.Keeps

variable {hooks : RenderHooks} {related : String → String → Prop}

theorem columnLines (likeness : Text.IsLikeness related) (keeps : hooks.Keeps related)
    {first second : Column} (respelled : first.IsRespelled second) :
    List.Forall₂ related (hooks.columnLines first) (hooks.columnLines second) := by
  have decorated := likeness.lines (keeps.columnDecoration first second respelled)
  have type_eq := keeps.fieldType first second respelled
  obtain ⟨spelling, -, rfl⟩ := respelled
  rw [RenderHooks.columnLines, RenderHooks.columnLines, type_eq]
  exact List.rel_append decorated (likeness.refl_list _)

theorem flatMap_columnLines (likeness : Text.IsLikeness related) (keeps : hooks.Keeps related)
    {columns others : List Column} (pairs : List.Forall₂ Column.IsRespelled columns others) :
    List.Forall₂ related (columns.flatMap hooks.columnLines)
      (others.flatMap hooks.columnLines) := by
  induction pairs with
  | nil => exact .nil
  | cons pair _ ih =>
      rw [List.flatMap_cons, List.flatMap_cons]
      exact List.rel_append (keeps.columnLines likeness pair) ih

theorem renderEntity (likeness : Text.IsLikeness related) (keeps : hooks.Keeps related)
    {first second : Table} (respelled : first.IsRespelled second) :
    related (hooks.renderEntity first) (hooks.renderEntity second) := by
  have decoration_eq := keeps.classDecoration first second respelled
  obtain ⟨columns, pairs, rfl⟩ := respelled
  have head_eq : hooks.headLines { first with columns } = hooks.headLines first := by
    rw [headLines, headLines, decoration_eq]
  rw [renderEntity_eq, renderEntity_eq, head_eq]
  refine likeness.append (likeness.append (likeness.refl _) ?_) (likeness.refl _)
  exact likeness.linesText 2 (keeps.flatMap_columnLines likeness pairs)

end RenderHooks.Keeps
end DataLayer
