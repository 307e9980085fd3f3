/-!
# Laying out code

Code is written by a program of steps: lines, changes of the indentation and blocks in braces.  The
text grows line by line; a line that is not empty is indented by four spaces for each level.
-/

namespace DataLayer

/-- A step of writing code. -/
inductive CodeStep where
  /-- Write one line. -/
  | line (text : String)
  /-- Go one level deeper. -/
  | indent
  /-- Go one level back, if there is one. -/
  | dedent
  /-- Write a header and a block in braces below it, its body one level deeper. -/
  | braced (header : String) (body : List CodeStep)
  /-- Write several lines. -/
  | each (texts : List String)

/-- Code as far as it is written. -/
structure CodeLayout where
  /-- The lines so far. -/
  text : String := ""
  /-- Indentation of the next line. -/
  level : Nat := 0
  deriving Repr, DecidableEq

namespace CodeLayout

/-- The blanks of an indentation. -/
def indentation (level : Nat) : String :=
  String.ofList (List.replicate (4 * level) ' ')

/-- A line as it is written at a level; an empty line carries no blanks. -/
def lineText (level : Nat) (text : String) : String :=
  if text = "" then "\n" else indentation level ++ text ++ "\n"

/-- Write one line. -/
def line (layout : CodeLayout) (text : String) : CodeLayout :=
  { layout with text := layout.text ++ lineText layout.level text }

/-- Go one level deeper. -/
def indent (layout : CodeLayout) : CodeLayout :=
  { layout with level := layout.level + 1 }

/-- Go one level back; the outermost level stays. -/
def dedent (layout : CodeLayout) : CodeLayout :=
  { layout with level := layout.level - 1 }

end CodeLayout

mutual

/-- Carry out one step. -/
def CodeStep.run : CodeStep → CodeLayout → CodeLayout
  | .line text, layout => layout.line text
  | .indent, layout => layout.indent
  | .dedent, layout => layout.dedent
  | .braced header body, layout =>
    ((CodeStep.runAll body ((layout.line header).line "\x7b").indent).dedent).line "\x7d"
  | .each texts, layout => texts.foldl CodeLayout.line layout

/-- Carry out steps one after another. -/
def CodeStep.runAll : List CodeStep → CodeLayout → CodeLayout
  | [], layout => layout
  | step :: rest, layout => CodeStep.runAll rest (step.run layout)

end

/-- The code that a program of steps writes, starting at the outermost level. -/
def CodeStep.code (program : List CodeStep) : String :=
  (CodeStep.runAll program {}).text

end DataLayer
