import DataLayer.Document.Value

/-!
# Tables of a TOML document

A TOML document names its tables in headers and by dotted keys, in any order.  The tree is built
statement by statement, and remembers how each table came to be: a table must not be defined twice,
and a dotted key must not reach into a table that has a header of its own.
-/

namespace DataLayer
namespace Toml

/-- How a table came to be. -/
inductive TableOrigin where
  /-- By its own header, or as the document itself. -/
  | header
  /-- By the header of a table inside it. -/
  | implied
  /-- By a dotted key. -/
  | dotted
  deriving Repr, DecidableEq

/-- A value of the tree under construction. -/
inductive Node where
  /-- A value that is complete. -/
  | value (value : Value)
  /-- A table. -/
  | table (origin : TableOrigin) (entries : List (String × Node))
  /-- Tables under one name, each with its own header. -/
  | tables (items : List (List (String × Node)))

/-- The content of a table under construction. -/
abbrev Entries := List (String × Node)

/-- Change what stands under a key, or put something there. -/
def updateEntry (key : String) (change : Option Node → Option Node) : Entries → Option Entries
  | [] => (change none).map fun node => [(key, node)]
  | entry :: rest =>
    if entry.1 = key then (change (some entry.2)).map fun node => (key, node) :: rest
    else (updateEntry key change rest).map (entry :: ·)

/-- Change the last of several tables. -/
def updateLast (change : Entries → Option Entries) : List Entries → Option (List Entries)
  | [] => none
  | [last] => (change last).map ([·])
  | first :: others => (updateLast change others).map (first :: ·)

/-- Go down a path of keys from a table, and change the table at its end.  Tables that are not there
are made on the way.  A dotted path must not enter a table that has a header. -/
def descend (dotted : Bool) (change : TableOrigin → Entries → Option Entries) :
    List String → TableOrigin → Entries → Option Entries
  | [], origin, entries => change origin entries
  | key :: path, _, entries =>
    updateEntry key
      (fun
        | none =>
          let origin := if dotted then TableOrigin.dotted else TableOrigin.implied
          (descend dotted change path origin []).map (.table origin)
        | some (.value _) => none
        | some (.table origin inner) =>
          if dotted && origin == .header then none
          else (descend dotted change path origin inner).map (.table origin)
        | some (.tables items) =>
          (updateLast (descend dotted change path .header) items).map .tables)
      entries

/-- Put a value under a key that is not taken. -/
def addValue (key : String) (value : Value) (entries : Entries) : Option Entries :=
  updateEntry key
    (fun
      | none => some (.value value)
      | some _ => none)
    entries

/-- Put a value under a dotted key of a table.  A key of several parts must end in a table that was
made by dotted keys. -/
def assign (path : List String) (key : String) (value : Value) (entries : Entries) :
    Option Entries :=
  descend true
    (fun origin inner =>
      if (origin == .dotted) == path.isEmpty then none else addValue key value inner)
    path .header entries

/-- Define a table by its header.  It may have come up as part of other headers before. -/
def defineTable (path : List String) (key : String) (entries : Entries) : Option Entries :=
  descend false
    (fun _ inner =>
      updateEntry key
        (fun
          | none => some (.table .header [])
          | some (.table .implied content) => some (.table .header content)
          | some _ => none)
        inner)
    path .header entries

/-- Add a table to the tables under a header in double brackets. -/
def appendTable (path : List String) (key : String) (entries : Entries) : Option Entries :=
  descend false
    (fun _ inner =>
      updateEntry key
        (fun
          | none => some (.tables [[]])
          | some (.tables items) => some (.tables (items ++ [[]]))
          | some _ => none)
        inner)
    path .header entries

mutual

/-- The finished value of a node. -/
def Node.finish : Node → Value
  | .value value => value
  | .table _ entries => .record (finishEntries entries) true
  | .tables items => .sequence (finishTables items)

/-- The finished values of a table. -/
def finishEntries : List (String × Node) → List (String × Value)
  | [] => []
  | (key, node) :: rest => (key, node.finish) :: finishEntries rest

/-- The finished values of several tables. -/
def finishTables : List (List (String × Node)) → List Value
  | [] => []
  | entries :: rest => .record (finishEntries entries) true :: finishTables rest

end

end Toml
end DataLayer
