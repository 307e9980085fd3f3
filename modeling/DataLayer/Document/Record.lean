import DataLayer.Document.Value

/-!
# Reading records

A record of a document is read field by field.  Every field must be a known one, no field may come
twice, and each value must have the right shape; the first field at fault is the one reported.  Only
then are missing fields looked for, in the order in which the record declares its fields.

TOML fields are visited in the order of their names, JSON fields in document order.  A sequence may
stand for a record: its items are the fields in the order of declaration.
-/

namespace DataLayer

/-- A field of a record: its name, and how its value becomes an entry of the record. -/
structure RecordField (Entry : Type) where
  /-- The name of the field. -/
  name : String
  /-- Read the value of the field. -/
  read : Value → Except DocumentProblem Entry

/-- The fields of a kind of record. -/
structure RecordShape (Entry : Type) where
  /-- The name of the kind of record in messages. -/
  label : String
  /-- The fields, in the order of declaration. -/
  fields : List (RecordField Entry)

/-- How a record is written down. -/
inductive RecordStyle where
  /-- By names. -/
  | named
  /-- As a sequence. -/
  | positional
  deriving Repr, DecidableEq

/-- Named values in the order of their names; equal names keep their order. -/
def sortByName {α : Type} (entries : List (String × α)) : List (String × α) :=
  entries.mergeSort fun first second => first.1 ≤ second.1

/-- The order in which the fields of a record are visited. -/
def DocumentFormat.visitOrder {α : Type} (format : DocumentFormat)
    (entries : List (String × α)) : List (String × α) :=
  match format with
  | .toml => sortByName entries
  | .json => entries

namespace RecordShape

variable {Entry α : Type}

/-- The names of the fields. -/
def fieldNames (shape : RecordShape Entry) : List String :=
  shape.fields.map (·.name)

/-- Read named values in order, given the names that came before. -/
def readNamed (shape : RecordShape Entry) :
    List String → List (String × Value) → Except DocumentProblem (List Entry)
  | _, [] => .ok []
  | seen, (name, value) :: rest => do
    match shape.fields.find? (·.name == name) with
    | none => .error (.unknownField name shape.fieldNames)
    | some field =>
      if seen.contains name then .error (.duplicateField name)
      else
        let entry ← field.read value
        let entries ← shape.readNamed (name :: seen) rest
        return entry :: entries

/-- Read values in order of declaration. -/
def readPositional :
    List (RecordField Entry) → List Value → Except DocumentProblem (List Entry)
  | field :: fields, value :: values => do
    let entry ← field.read value
    let entries ← readPositional fields values
    return entry :: entries
  | _, _ => .ok []

/-- Items beyond the last field break a JSON document; in TOML they do not count. -/
def checkSurplus (shape : RecordShape Entry) (format : DocumentFormat) (items : List Value) :
    Except DocumentProblem Unit :=
  if format = .json ∧ shape.fields.length < items.length then .error .malformed else .ok ()

/-- The problem with a field that is not there. -/
def missing (shape : RecordShape Entry) (style : RecordStyle) (name : String) : DocumentProblem :=
  match style with
  | .named => .missingField name
  | .positional => .wrongLength (shape.fieldNames.idxOf name) shape.label shape.fields.length

/-- The value of a field that must be there. -/
def required (shape : RecordShape Entry) (style : RecordStyle) (name : String)
    (found : Option α) : Except DocumentProblem α :=
  match found with
  | some value => .ok value
  | none => .error (shape.missing style name)

/-- The value of a field that may be left out, but only where the record is written by names. -/
def optional (shape : RecordShape Entry) (style : RecordStyle) (name : String)
    (found : Option α) : Except DocumentProblem (Option α) :=
  match found, style with
  | some value, _ => .ok (some value)
  | none, .named => .ok none
  | none, .positional => .error (shape.missing style name)

/-- Read a record, and put its entries together. -/
def read (shape : RecordShape Entry) (format : DocumentFormat)
    (assemble : RecordStyle → List Entry → Except DocumentProblem α) :
    Value → Except DocumentProblem α
  | .record entries closed => do
    let found ← shape.readNamed [] (format.visitOrder entries)
    if closed then assemble .named found else .error .malformed
  | .sequence items => do
    let found ← readPositional shape.fields items
    let result ← assemble .positional found
    shape.checkSurplus format items
    return result
  | other => .error (other.mismatch ("struct " ++ shape.label))

end RecordShape
end DataLayer
