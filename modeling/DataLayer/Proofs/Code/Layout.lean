import DataLayer.Code.Layout

/-!
# Written lines

Code grows at its end: a line is put behind what is there, and steps are carried out one after
another.
-/

namespace DataLayer

namespace CodeLayout

/-- Lines as they are written at a level. -/
def linesText (level : Nat) (texts : List String) : String :=
  String.join (texts.map (lineText level))

theorem linesText_nil (level : Nat) : linesText level [] = "" := rfl

theorem linesText_append (level : Nat) (front back : List String) :
    linesText level (front ++ back) = linesText level front ++ linesText level back := by
  rw [linesText, List.map_append, String.join_append, linesText, linesText]

theorem linesText_cons (level : Nat) (text : String) (rest : List String) :
    linesText level (text :: rest) = lineText level text ++ linesText level rest := by
  rw [linesText, List.map_cons, String.join_cons, linesText]

theorem line_eq (layout : CodeLayout) (text : String) :
    layout.line text = { layout with text := layout.text ++ linesText layout.level [text] } := by
  simp [line, linesText]

theorem foldl_line (texts : List String) (layout : CodeLayout) :
    texts.foldl line layout =
      { layout with text := layout.text ++ linesText layout.level texts } := by
  induction texts generalizing layout with
  | nil => simp [linesText]
  | cons text rest ih =>
      rw [List.foldl_cons, ih, linesText_cons, ← String.append_assoc]
      rfl

end CodeLayout

theorem CodeStep.runAll_append (front back : List CodeStep) (layout : CodeLayout) :
    runAll (front ++ back) layout = runAll back (runAll front layout) := by
  induction front generalizing layout with
  | nil => rfl
  | cons step front ih => simp only [List.cons_append, runAll, ih]

end DataLayer
