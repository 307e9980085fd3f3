import DataLayer.Proofs.Render.DbTypes
import DataLayer.Proofs.Template.Frame
import DataLayer.Proofs.Text.Braces
import DataLayer.Proofs.Text.Uppercase
import DataLayer.Render.Context
import DataLayer.Render.Entity

/-!
# Braces in generated code

Braces come into generated code in two ways: a block of a program puts a pair around its body, and
templates have braces of their own.  Filling a template puts texts that keep the depth in place of
markers, which have no braces.
-/

namespace DataLayer

open Text

namespace CodeLayout

/-- A line opens and closes what its text opens and closes. -/
theorem depthBehind?_line (depth : Nat) (layout : CodeLayout) (text : String) :
    depthBehind? depth (layout.line text).text.toList =
      (depthBehind? depth layout.text.toList).bind (depthBehind? · text.toList) := by
  have lineFeed : IsBraceFree "\n" := by decide
  have blanks : IsBraceFree (indentation layout.level) := by
    intro c member
    rw [indentation, String.toList_ofList] at member
    rw [List.eq_of_mem_replicate member]
    decide
  have lineText_depth (depth : Nat) :
      depthBehind? depth (lineText layout.level text).toList = depthBehind? depth text.toList := by
    unfold lineText
    split_ifs with empty
    · rw [empty]
      exact lineFeed.keepsDepth depth
    · rw [String.toList_append, String.toList_append, depthBehind?_append, depthBehind?_append,
        blanks.keepsDepth depth, Option.bind_some]
      simp only [lineFeed.keepsDepth _, Option.bind_fun_some]
  rw [line, String.toList_append, depthBehind?_append]
  simp only [lineText_depth]

end CodeLayout

namespace CodeStep

mutual

/-- The lines of a step keep the depth, besides the braces of its blocks. -/
def KeepsDepth : CodeStep → Prop
  | .line text => Text.KeepsDepth text
  | .indent => True
  | .dedent => True
  | .braced header body => Text.KeepsDepth header ∧ AllKeepDepth body
  | .each texts => ∀ text ∈ texts, Text.KeepsDepth text

/-- The lines of a program keep the depth, besides the braces of its blocks. -/
def AllKeepDepth : List CodeStep → Prop
  | [] => True
  | step :: rest => step.KeepsDepth ∧ AllKeepDepth rest

end

theorem depthBehind?_line_of_keepsDepth {text : String} (keeps : Text.KeepsDepth text)
    (depth : Nat) (layout : CodeLayout) :
    depthBehind? depth (layout.line text).text.toList = depthBehind? depth layout.text.toList := by
  rw [CodeLayout.depthBehind?_line]
  simp only [keeps _, Option.bind_fun_some]

theorem depthBehind?_foldl_line {texts : List String} (keep : ∀ text ∈ texts, Text.KeepsDepth text)
    (depth : Nat) (layout : CodeLayout) :
    depthBehind? depth (texts.foldl CodeLayout.line layout).text.toList =
      depthBehind? depth layout.text.toList := by
  induction texts generalizing layout with
  | nil => rfl
  | cons text rest ih =>
      obtain ⟨text_keeps, rest_keep⟩ := List.forall_mem_cons.mp keep
      rw [List.foldl_cons, ih rest_keep, depthBehind?_line_of_keepsDepth text_keeps]

mutual

theorem depthBehind?_run (depth : Nat) : ∀ (step : CodeStep) (layout : CodeLayout),
    step.KeepsDepth →
      depthBehind? depth (step.run layout).text.toList = depthBehind? depth layout.text.toList
  | .line _, layout, keeps => depthBehind?_line_of_keepsDepth keeps depth layout
  | .indent, _, _ => rfl
  | .dedent, _, _ => rfl
  | .each _, layout, keeps => depthBehind?_foldl_line keeps depth layout
  | .braced header body, layout, keeps => by
      have header_depth := depthBehind?_line_of_keepsDepth keeps.1 depth layout
      have body_depth := depthBehind?_runAll depth body
        ((layout.line header).line "\x7b").indent keeps.2
      -- What the opening brace adds, the closing one takes away.
      have pair (before : Nat) : (depthBehind? before "\x7b".toList).bind
          (depthBehind? · "\x7d".toList) = some before := rfl
      rw [run, CodeLayout.depthBehind?_line, CodeLayout.dedent, body_depth, CodeLayout.indent,
        CodeLayout.depthBehind?_line, header_depth, Option.bind_assoc]
      simp only [pair, Option.bind_fun_some]

/-- A program leaves the depth where it was, whatever it nests. -/
theorem depthBehind?_runAll (depth : Nat) : ∀ (program : List CodeStep) (layout : CodeLayout),
    AllKeepDepth program →
      depthBehind? depth (runAll program layout).text.toList = depthBehind? depth layout.text.toList
  | [], _, _ => rfl
  | step :: rest, layout, keeps => by
      rw [runAll, depthBehind?_runAll depth rest _ keeps.2, depthBehind?_run depth step _ keeps.1]

end

theorem allKeepDepth_append {front back : List CodeStep} (front_keeps : AllKeepDepth front)
    (back_keeps : AllKeepDepth back) : AllKeepDepth (front ++ back) := by
  induction front with
  | nil => exact back_keeps
  | cons step rest ih => exact ⟨front_keeps.1, ih front_keeps.2⟩

theorem keepsDepth_code {program : List CodeStep} (keeps : AllKeepDepth program) :
    Text.KeepsDepth (code program) := fun depth =>
  (depthBehind?_runAll depth program {} keeps).trans rfl

end CodeStep

theorem isBraceFree_upperFirst {text : String} (free : IsBraceFree text) :
    IsBraceFree (upperFirst text) := by
  intro c member
  refine ⟨?_, ?_⟩
  · rintro rfl
    exact (free _ ((mem_upperFirst_iff (by decide) text).mp member)).1 rfl
  · rintro rfl
    exact (free _ ((mem_upperFirst_iff (by decide) text).mp member)).2 rfl

theorem isBraceFree_repr (number : Nat) : IsBraceFree number.repr := by
  intro c member
  rw [Nat.toList_repr] at member
  exact ne_brace_of (Nat.isDigit_of_mem_toDigits (by decide) (by decide) member) rfl rfl

theorem isBraceFree_toString (number : Int) : IsBraceFree (toString number) := by
  rw [Int.toString_eq_repr, Int.repr_eq_if]
  split_ifs
  · exact isBraceFree_repr _
  · exact IsBraceFree.append (by decide) (isBraceFree_repr _)

/-- The texts of a column that generated code mentions have no braces. -/
structure Column.IsBraceFree (column : Column) : Prop where
  /-- The name of the column. -/
  name : Text.IsBraceFree column.name
  /-- The name of its storage type. -/
  storageType : Text.IsBraceFree column.storageType
  /-- Its type in the target language. -/
  mappedType : Text.IsBraceFree column.mappedType

/-- The texts of a table that generated code mentions have no braces. -/
structure Table.IsBraceFree (table : Table) : Prop where
  /-- The type name. -/
  name : Text.IsBraceFree table.name
  /-- The name in the catalog. -/
  storageName : Text.IsBraceFree table.storageName
  /-- The columns. -/
  columns : ∀ column ∈ table.columns, column.IsBraceFree

theorem Column.IsBraceFree.attribute {column : Column} (free : column.IsBraceFree) :
    Text.IsBraceFree column.attribute := by
  have length_free : Text.IsBraceFree column.lengthText := by
    unfold lengthText
    split
    · split_ifs
      · exact ((by decide : Text.IsBraceFree "(").append (isBraceFree_toString _)).append
          (by decide)
      · decide
    · decide
  have mark_free (condition : Bool) {yes no : String} (yes_free : Text.IsBraceFree yes)
      (no_free : Text.IsBraceFree no) : Text.IsBraceFree (if condition then yes else no) := by
    split_ifs
    · exact yes_free
    · exact no_free
  have start_free : Text.IsBraceFree column.attributeStart := by
    refine .append (.append (.append (.append (.append (.append (.append ?_ free.name) ?_)
      (mark_free _ ?_ ?_)) (mark_free _ ?_ ?_)) (mark_free _ ?_ ?_)) (mark_free _ ?_ ?_)) ?_
    all_goals decide
  rw [attribute_eq]
  refine start_free.append (.append (.append ?_ (isBraceFree_upperFirst free.storageType))
    (length_free.append ?_))
  all_goals decide

theorem Column.IsBraceFree.property {column : Column} (free : column.IsBraceFree) :
    Text.KeepsDepth ("public " ++ column.mappedType ++ " " ++ column.name ++
      " \x7b get; set; \x7d") := by
  have front_free : Text.IsBraceFree ("public " ++ column.mappedType ++ " " ++ column.name) :=
    .append (.append (.append (by decide) free.mappedType) (by decide)) free.name
  exact front_free.keepsDepth.append (keepsDepth_of_outermost rfl)

theorem Table.IsBraceFree.renderEntity {table : Table} (free : table.IsBraceFree) :
    Text.KeepsDepth (RenderHooks.renderEntity {} table) := by
  have columns_keep :
      CodeStep.AllKeepDepth (table.columns.flatMap (RenderHooks.columnSteps {})) := by
    have columns_free := free.columns
    generalize table.columns = columns at columns_free
    induction columns with
    | nil => trivial
    | cons column rest ih =>
        obtain ⟨column_free, rest_free⟩ := List.forall_mem_cons.mp columns_free
        have decoration_keeps : ∀ line ∈ lines column.attribute, Text.KeepsDepth line :=
          fun line member => (column_free.attribute.of_mem_lines member).keepsDepth
        rw [List.flatMap_cons]
        exact CodeStep.allKeepDepth_append ⟨decoration_keeps, column_free.property, trivial⟩
          (ih rest_free)
  have annotation_free : Text.IsBraceFree ("[Table(Name = \"" ++ table.storageName ++ "\")]") :=
    .append (.append (by decide) free.storageName) (by decide)
  have header_free : Text.IsBraceFree ("public partial class " ++ table.name) :=
    .append (by decide) free.name
  refine CodeStep.keepsDepth_code ⟨trivial, ?_, annotation_free.keepsDepth,
    ⟨header_free.keepsDepth, columns_keep⟩, trivial⟩
  exact fun line member => absurd member List.not_mem_nil

theorem Table.IsBraceFree.accessor {table : Table} (free : table.IsBraceFree) :
    Text.KeepsDepth table.accessor := by
  have header_free : Text.IsBraceFree ("public Table<" ++ table.name ++ "> " ++ table.name) :=
    .append (.append (.append (by decide) free.name) (by decide)) free.name
  have getter_eq : "get \x7b return this.GetTable<" ++ table.name ++ ">(); \x7d" =
      "get " ++ ("\x7b" ++ (" return this.GetTable<" ++ table.name ++ ">(); ") ++ "\x7d") := by
    apply String.toList_injective
    simp
  have body_free : Text.IsBraceFree (" return this.GetTable<" ++ table.name ++ ">(); ") :=
    .append (.append (by decide) free.name) (by decide)
  have getter_keeps : Text.KeepsDepth ("get \x7b return this.GetTable<" ++ table.name ++
      ">(); \x7d") := by
    rw [getter_eq]
    exact (keepsDepth_of_outermost rfl).append body_free.keepsDepth.braced
  exact CodeStep.keepsDepth_code
    ⟨trivial, trivial, ⟨header_free.keepsDepth, getter_keeps, trivial⟩, trivial⟩

/-- If each replaced word opens and closes what takes its place, then so do the whole texts. -/
theorem ReplacesAll.depthBehind?_eq {rule : ReplacementRule} {source target : List Char}
    (replaced : ReplacesAll rule source target)
    (same : ∀ word text, rule word text → word <:+: source →
      ∀ depth, depthBehind? depth text = depthBehind? depth word) (depth : Nat) :
    depthBehind? depth target = depthBehind? depth source := by
  obtain ⟨segments, cut, rfl⟩ := replaced
  have each_same : ∀ segment ∈ segments, ∀ depth,
      depthBehind? depth segment.target = depthBehind? depth segment.source := by
    intro segment member depth
    cases segment with
    | kept c => rfl
    | replaced word text =>
        have word_infix : word <:+: source := by
          rw [← cut.covers, List.flatMap_def]
          exact List.infix_of_mem_flatten (List.mem_map_of_mem member)
        exact same word text (cut.lawful word text member) word_infix depth
  rw [← cut.covers]
  clear cut
  induction segments generalizing depth with
  | nil => rfl
  | cons segment rest ih =>
      obtain ⟨segment_same, rest_same⟩ := List.forall_mem_cons.mp each_same
      simp only [List.flatMap_cons, depthBehind?_append, segment_same,
        fun depth => ih depth rest_same]

namespace Template

/-- Filling a template keeps its depth if the values of the fields that its markers name have no
braces. -/
theorem keepsDepth_fillFields {fields : FieldMap} {template filled : String}
    (done : fillFields fields template = .ok filled)
    (free : ∀ name value, .marker name ∈ Piece.scan fieldOpening template.toList →
      fields.get? (String.ofList name) = some (some value) → IsBraceFree value)
    (keeps : KeepsDepth template) : KeepsDepth filled := by
  intro depth
  refine ((replacesAll_of_fillFields done).depthBehind?_eq ?_ depth).trans (keeps depth)
  rintro word text ⟨name, valid, rfl, value_eq⟩ ⟨before, after, same⟩ depth
  obtain ⟨value, found, rfl⟩ := Option.map_eq_some_iff.mp value_eq
  obtain ⟨left, right, scan_eq, -⟩ := Piece.exists_piece_of_hasMarker isOpening_fieldOpening
    (⟨valid, after, same⟩ : HasMarker fieldOpening template.toList before name)
  have value_free := free name value (by simp [scan_eq]) (Option.join_eq_some_iff.mp found)
  have marker_free : ∀ c ∈ (Piece.marker name).written fieldOpening, c ≠ '\x7b' ∧ c ≠ '\x7d' := by
    intro c member
    simp only [Piece.written, fieldOpening, List.mem_append, List.mem_singleton] at member
    rcases member with (rfl | inName) | rfl
    · decide
    · exact ne_brace_of (valid.2 c inName) rfl rfl
    · decide
  rw [depthBehind?_of_braceFree marker_free]
  exact value_free.keepsDepth depth

/-- A frame with a body in its placeholder keeps the depth if both do. -/
theorem keepsDepth_fillPlaceholder {frame body : String} (frame_keeps : KeepsDepth frame)
    (body_keeps : KeepsDepth body) : KeepsDepth (fillPlaceholder frame body) := by
  have marker_free : IsBraceFree (blockMarker placeholder) := by decide
  intro depth
  refine ((replacesAll_fillPlaceholder frame body).depthBehind?_eq ?_ depth).trans
    (frame_keeps depth)
  rintro _ _ ⟨rfl, rfl⟩ - depth
  exact (body_keeps depth).trans (marker_free.keepsDepth depth).symm

theorem keepsDepth_renderContext {template : String} {tables : List Table}
    (template_keeps : KeepsDepth template) (free : ∀ table ∈ tables, table.IsBraceFree) :
    KeepsDepth (renderContext template tables) := by
  refine keepsDepth_fillPlaceholder template_keeps (KeepsDepth.joinBlocks ?_)
  rw [List.forall_mem_map]
  exact fun table member => (free table member).accessor

end Template
end DataLayer
