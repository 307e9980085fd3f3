import DataLayer.Text.Uppercase

/-!
# Storage types

Storage type names fall into families; a name of no family is unrecognised and passes through
unchanged.  A type mapper names a type of the target language for each family.
-/

namespace DataLayer

/-- The families of storage types. -/
inductive StorageFamily where
  /-- Text with a declared length. -/
  | variableText
  /-- Text of any length. -/
  | longText
  /-- Points in time. -/
  | dateTime
  /-- Integers of at most two bytes. -/
  | smallInteger
  /-- Globally unique identifiers. -/
  | uniqueIdentifier
  /-- Truth values. -/
  | flag
  /-- Amounts of money. -/
  | currency
  /-- All other integers. -/
  | integer
  deriving Repr, DecidableEq

namespace StorageFamily

/-- The storage type names of each family, in lowercase. -/
def spellings : List (String × StorageFamily) :=
  [("varchar", variableText), ("nvarchar", variableText), ("ntext", longText), ("text", longText),
    ("datetime", dateTime), ("smalldatetime", dateTime), ("smallint", smallInteger),
    ("tinyint", smallInteger), ("uniqueidentifier", uniqueIdentifier), ("bit", flag),
    ("money", currency), ("int", integer), ("bigint", integer)]

/-- The family of a storage type name, whatever the case of its ASCII letters. -/
def classify? (storageType : String) : Option StorageFamily :=
  spellings.lookup (Text.foldCase storageType)

/-- Values of the family are references, which can be null as they are. -/
def isReference : StorageFamily → Bool
  | variableText | longText => true
  | _ => false

/-- The family carries a declared length. -/
def isVariableCharacter : StorageFamily → Bool
  | variableText => true
  | _ => false

/-- The family is text of any length. -/
def isLongText : StorageFamily → Bool
  | longText => true
  | _ => false

end StorageFamily

/-- The types of a target language. -/
structure TypeMapper where
  /-- Name of the target language. -/
  language : String
  /-- Type of the values of a family. -/
  familyType : StorageFamily → String
  /-- The type that also holds null, made from a type that does not. -/
  nullableType : String → String := fun type => type ++ "?"
  /-- The types of columns by storage type and nullability, where families do not decide them. -/
  ownRule : Option (String → Bool → String) := none

namespace TypeMapper

/-- The type of a column by its family.  Only values that are not references need another type to be
nullable, and a type of no family is taken over as it is. -/
def mapByFamily (mapper : TypeMapper) (storageType : String) (nullable : Bool) : String :=
  match StorageFamily.classify? storageType with
  | none => storageType
  | some family =>
    if nullable && !family.isReference then mapper.nullableType (mapper.familyType family)
    else mapper.familyType family

/-- The type of a column, by its family unless the mapper has a rule of its own. -/
def map (mapper : TypeMapper) (storageType : String) (nullable : Bool) : String :=
  match mapper.ownRule with
  | some rule => rule storageType nullable
  | none => mapper.mapByFamily storageType nullable

/-- The C# type of a family. -/
def csharpFamilyType : StorageFamily → String
  | .variableText | .longText => "string"
  | .dateTime => "DateTime"
  | .smallInteger => "short"
  | .uniqueIdentifier => "Guid"
  | .flag => "bool"
  | .currency => "decimal"
  | .integer => "int"

/-- The types of C#. -/
def csharp : TypeMapper where
  language := "csharp"
  familyType := csharpFamilyType

end TypeMapper
end DataLayer
