/-!
# Reports

What a command has to say is a list of lines of a few kinds.  How each kind looks on a terminal is
decided here; warnings and errors go to the error stream.
-/

namespace DataLayer

/-- A line of a report. -/
inductive ReportLine where
  /-- The heading of a section. -/
  | section (name : String)
  /-- A value under a key. -/
  | keyValue (key value : String)
  /-- An item of a list. -/
  | listItem (text : String)
  /-- Something that was added. -/
  | addedItem (text : String)
  /-- Something that was left as it was. -/
  | keptItem (text : String)
  /-- A warning. -/
  | warning (text : String)
  /-- An error. -/
  | error (text : String)
  /-- A divider with a label. -/
  | divider (label : String)
  /-- Text that is shown as it is. -/
  | preformatted (text : String)
  /-- A blank line. -/
  | newline
  deriving Repr, DecidableEq

/-- What a command has to say. -/
abbrev Report := List ReportLine

namespace ReportLine

/-- The line goes to the error stream. -/
def isProblem : ReportLine → Bool
  | warning _ | error _ => true
  | _ => false

/-- The line on a terminal. -/
def terminalText : ReportLine → String
  | .section name => name ++ ":\n"
  | keyValue key value => key ++ ": " ++ value ++ "\n"
  | listItem text => "  - " ++ text ++ "\n"
  | addedItem text => "  + " ++ text ++ "\n"
  | keptItem text => "  = " ++ text ++ "\n"
  | warning text => "warning: " ++ text ++ "\n"
  | error text => "error: " ++ text ++ "\n"
  | divider label => "── " ++ label ++ " ──\n"
  | preformatted text => text ++ "\n"
  | newline => "\n"

end ReportLine

namespace Report

/-- What a report writes to the standard output of a terminal. -/
def standardOutput (report : Report) : String :=
  String.join ((report.filter fun line => !line.isProblem).map ReportLine.terminalText)

/-- What a report writes to the error stream of a terminal. -/
def errorOutput (report : Report) : String :=
  String.join ((report.filter ReportLine.isProblem).map ReportLine.terminalText)

end Report
end DataLayer
