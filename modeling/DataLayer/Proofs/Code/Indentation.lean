import DataLayer.Proofs.Code.Layout
import DataLayer.Proofs.Text.Split

/-!
# Indentation

Whatever is nested in a program of steps, it comes down to lines and changes of the level one after
another.  What they write goes behind the text so far.  Steps that never go back from the outermost
level write the same lines wherever they start, only as many levels deeper as they start deeper.
-/

namespace DataLayer

namespace CodeLayout

/-- A line with the blanks of a level in front; an empty line carries none. -/
def indentedLine (level : Nat) (line : String) : String :=
  if line = "" then "" else indentation level ++ line

/-- A text with the blanks of a level in front of each line that is not empty. -/
def indented (level : Nat) (text : String) : String :=
  "\n".intercalate ((Text.splitAtChar '\n' text).map (indentedLine level))

theorem lineText_eq (level : Nat) (text : String) :
    lineText level text = indentedLine level text ++ "\n" := by
  unfold lineText indentedLine
  split_ifs
  · rfl
  · rfl

theorem indentation_append (level deeper : Nat) :
    indentation deeper ++ indentation level = indentation (level + deeper) := by
  apply String.toList_injective
  simp [indentation, Nat.mul_add, Nat.add_comm]

theorem newline_notMem_indentedLine {level : Nat} {text : String} (within : '\n' ∉ text.toList) :
    '\n' ∉ (indentedLine level text).toList := by
  unfold indentedLine
  split_ifs
  · exact List.not_mem_nil
  · simp [indentation, within]

theorem indentedLine_indentedLine (level deeper : Nat) (text : String) :
    indentedLine deeper (indentedLine level text) = indentedLine (level + deeper) text := by
  by_cases empty : text = ""
  · simp [indentedLine, empty]
  · have indented_ne : indentation level ++ text ≠ "" := by simp [empty]
    rw [indentedLine, indentedLine, indentedLine, if_neg empty, if_neg empty, if_neg indented_ne,
      ← String.append_assoc, indentation_append]

@[simp]
theorem indented_empty (level : Nat) : indented level "" = "" := by
  have split : Text.splitAtChar '\n' "" = [""] := Text.splitAtChar_of_notMem List.not_mem_nil
  simp [indented, split, indentedLine]

/-- A line in front of a text is indented like the lines of the text. -/
theorem indented_lineText_append (level deeper : Nat) {text : String} (within : '\n' ∉ text.toList)
    (rest : String) :
    indented deeper (lineText level text ++ rest) =
      lineText (level + deeper) text ++ indented deeper rest := by
  have split : Text.splitAtChar '\n' (lineText level text ++ rest) =
      indentedLine level text :: Text.splitAtChar '\n' rest := by
    rw [lineText_eq]
    refine (Text.splitAtChar_append '\n' _ rest).trans ?_
    rw [Text.splitAtChar_of_notMem (newline_notMem_indentedLine within), List.singleton_append]
  have others : (Text.splitAtChar '\n' rest).map (indentedLine deeper) ≠ [] := by
    simp [Text.splitAtChar_ne_nil]
  rw [indented, split, List.map_cons, String.intercalate_cons_of_ne_nil others,
    indentedLine_indentedLine, lineText_eq, indented]

/-- The text is empty or ends in a line feed. -/
def EndsLine (text : String) : Prop :=
  text = "" ∨ ∃ front, text = front ++ "\n"

end CodeLayout

/-- A step of writing code that holds no other steps. -/
inductive PlainStep where
  /-- Write one line. -/
  | line (text : String)
  /-- Go one level deeper. -/
  | indent
  /-- Go one level back, if there is one. -/
  | dedent

namespace PlainStep

open CodeLayout

/-- Carry out one step. -/
def run : PlainStep → CodeLayout → CodeLayout
  | line text, layout => layout.line text
  | indent, layout => layout.indent
  | dedent, layout => layout.dedent

/-- Carry out steps one after another. -/
def runAll (steps : List PlainStep) (layout : CodeLayout) : CodeLayout :=
  steps.foldl (fun layout step => step.run layout) layout

/-- Steps that start at a level never go back while the level is the outermost one. -/
def StaysInside : List PlainStep → Nat → Prop
  | [], _ => True
  | line _ :: rest, level => StaysInside rest level
  | indent :: rest, level => StaysInside rest (level + 1)
  | dedent :: rest, level => 0 < level ∧ StaysInside rest (level - 1)

theorem runAll_cons (step : PlainStep) (rest : List PlainStep) (layout : CodeLayout) :
    runAll (step :: rest) layout = runAll rest (step.run layout) := rfl

theorem runAll_append (front back : List PlainStep) (layout : CodeLayout) :
    runAll (front ++ back) layout = runAll back (runAll front layout) :=
  List.foldl_append

theorem runAll_map_line (texts : List String) (layout : CodeLayout) :
    runAll (texts.map line) layout = texts.foldl CodeLayout.line layout :=
  List.foldl_map

/-- What steps write goes behind the text so far, and that text does not matter to them. -/
theorem runAll_eq (steps : List PlainStep) (text : String) (level : Nat) :
    runAll steps ⟨text, level⟩ =
      ⟨text ++ (runAll steps ⟨"", level⟩).text, (runAll steps ⟨"", level⟩).level⟩ := by
  induction steps generalizing text level with
  | nil => simp [runAll]
  | cons step rest ih =>
      cases step with
      | line written =>
          simp only [runAll_cons, run, CodeLayout.line]
          rw [ih, ih ("" ++ lineText level written), String.empty_append, String.append_assoc]
      | indent => exact ih text (level + 1)
      | dedent => exact ih text (level - 1)

/-- Steps leave a text at the end of a line if they find it there. -/
theorem endsLine_runAll (steps : List PlainStep) {layout : CodeLayout}
    (endsLine : EndsLine layout.text) : EndsLine (runAll steps layout).text := by
  induction steps generalizing layout with
  | nil => exact endsLine
  | cons step rest ih =>
      rw [runAll_cons]
      refine ih ?_
      cases step with
      | line written =>
          refine .inr ⟨layout.text ++ indentedLine layout.level written, ?_⟩
          rw [run, CodeLayout.line, lineText_eq, String.append_assoc]
      | indent => exact endsLine
      | dedent => exact endsLine

/-- Steps that stay inside do the same at a deeper level, and there write their lines deeper. -/
theorem runAll_deeper {steps : List PlainStep} {level : Nat} (inside : StaysInside steps level)
    (within : ∀ text, .line text ∈ steps → '\n' ∉ text.toList) (deeper : Nat) (text : String) :
    runAll steps ⟨text, level + deeper⟩ =
      ⟨text ++ indented deeper (runAll steps ⟨"", level⟩).text,
        (runAll steps ⟨"", level⟩).level + deeper⟩ := by
  induction steps generalizing level text with
  | nil => simp [runAll]
  | cons step rest ih =>
      have rest_within (other : String) (member : .line other ∈ rest) : '\n' ∉ other.toList :=
        within other (List.mem_cons_of_mem step member)
      cases step with
      | line written =>
          have written_within := within written List.mem_cons_self
          simp only [runAll_cons, run, CodeLayout.line]
          rw [ih inside rest_within, runAll_eq rest ("" ++ lineText level written),
            String.empty_append, indented_lineText_append level deeper written_within,
            String.append_assoc]
      | indent =>
          have level_eq : level + deeper + 1 = level + 1 + deeper :=
            Nat.add_right_comm level deeper 1
          simp only [runAll_cons, run, CodeLayout.indent]
          rw [level_eq]
          exact ih inside rest_within text
      | dedent =>
          obtain ⟨positive, inside⟩ := inside
          have level_eq : level + deeper - 1 = level - 1 + deeper := by omega
          simp only [runAll_cons, run, CodeLayout.dedent]
          rw [level_eq]
          exact ih inside rest_within text

end PlainStep

/-! ## Programs -/

namespace CodeStep

mutual

/-- The plain steps that a step comes down to. -/
def plain : CodeStep → List PlainStep
  | .line text => [.line text]
  | .indent => [.indent]
  | .dedent => [.dedent]
  | .braced header body =>
    .line header :: .line "\x7b" :: .indent :: (plainAll body ++ [.dedent, .line "\x7d"])
  | .each texts => texts.map .line

/-- The plain steps that a program comes down to. -/
def plainAll : List CodeStep → List PlainStep
  | [] => []
  | step :: rest => step.plain ++ plainAll rest

end

mutual

theorem run_eq_runAll_plain : ∀ (step : CodeStep) (layout : CodeLayout),
    step.run layout = PlainStep.runAll step.plain layout
  | .line _, _ => rfl
  | .indent, _ => rfl
  | .dedent, _ => rfl
  | .braced header body, layout => by
      rw [run, runAll_eq_runAll_plainAll body, plain, PlainStep.runAll_cons, PlainStep.runAll_cons,
        PlainStep.runAll_cons, PlainStep.runAll_append]
      rfl
  | .each texts, layout => by rw [run, plain, PlainStep.runAll_map_line]

/-- A program does what its plain steps do. -/
theorem runAll_eq_runAll_plainAll : ∀ (program : List CodeStep) (layout : CodeLayout),
    runAll program layout = PlainStep.runAll (plainAll program) layout
  | [], _ => rfl
  | step :: rest, layout => by
      rw [runAll, run_eq_runAll_plain step, runAll_eq_runAll_plainAll rest, plainAll,
        PlainStep.runAll_append]

end

/-- Going through items with a program for each is carrying out one program. -/
theorem foldl_runAll {α : Type} (items : List α) (steps : α → List CodeStep) (layout : CodeLayout) :
    items.foldl (fun layout item => runAll (steps item) layout) layout =
      runAll (items.flatMap steps) layout := by
  induction items generalizing layout with
  | nil => rfl
  | cons item rest ih => rw [List.foldl_cons, ih, List.flatMap_cons, runAll_append]

open CodeLayout

/-- A program that goes back within braces, and forth again. -/
def backAndForth : List CodeStep :=
  [.each ["a", ""], .indent, .braced "b" [.line "c", .dedent, .line "", .indent], .dedent]

/-- Empty lines get no blanks, and the block closes at the level where it was opened. -/
example : code backAndForth = "a\n\n    b\n    \x7b\n        c\n\n    \x7d\n" ∧
    runAll backAndForth ⟨"x\n", 1⟩ =
      ⟨"x\n    a\n\n        b\n        \x7b\n            c\n\n        \x7d\n", 1⟩ := by
  decide +kernel

end CodeStep
end DataLayer
