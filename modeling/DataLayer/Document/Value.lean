import DataLayer.Text.Quoted

/-!
# Documents as values

A document in TOML or JSON is read as a tree of values.  A document may stop making sense at some
place; the tree then holds everything before that place and marks the break, so that a reader that
goes through the tree in order notices whichever problem comes first.
-/

namespace DataLayer

/-- The notations of a document. -/
inductive DocumentFormat where
  /-- TOML. -/
  | toml
  /-- JSON. -/
  | json
  deriving Repr, DecidableEq

/-- A value in a document. -/
inductive Value where
  /-- No value. -/
  | null
  /-- A truth value. -/
  | boolean (value : Bool)
  /-- A whole number. -/
  | integer (value : Int)
  /-- A number that is not written as a whole number, by its decimal text. -/
  | decimal (text : String)
  /-- A text. -/
  | text (value : String)
  /-- Values one after another. -/
  | sequence (items : List Value)
  /-- Values under names, in document order.  The record is not closed if the document breaks after
  the last of them. -/
  | record (entries : List (String × Value)) (closed : Bool)
  /-- The place where the document breaks. -/
  | broken

/-- What is wrong with a document. -/
inductive DocumentProblem where
  /-- The text does not follow the rules of its notation. -/
  | malformed
  /-- A record lacks a field that it must have. -/
  | missingField (name : String)
  /-- A record has a field twice. -/
  | duplicateField (name : String)
  /-- A record has a field that it must not have. -/
  | unknownField (name : String) (expected : List String)
  /-- A value has another kind than the wanted one. -/
  | wrongKind (found wanted : String)
  /-- A whole number lies outside the wanted range. -/
  | outOfRange (found : Int) (wanted : String)
  /-- A sequence that stands for a record is too short. -/
  | wrongLength (found : Nat) (record : String) (fields : Nat)
  deriving Repr, DecidableEq

namespace DocumentProblem

/-- A name in back quotes. -/
def mark (name : String) : String :=
  "`" ++ name ++ "`"

/-- A choice of names in words. -/
def choice : List String → String
  | [name] => mark name
  | [first, second] => mark first ++ " or " ++ mark second
  | names => "one of " ++ ", ".intercalate (names.map mark)

/-- The problem in words. -/
def message : DocumentProblem → String
  | malformed => "syntax"
  | missingField name => "missing field " ++ mark name
  | duplicateField name => "duplicate field " ++ mark name
  | unknownField name expected =>
    "unknown field " ++ mark name ++ ", expected " ++ choice expected
  | wrongKind found wanted => "invalid type: " ++ found ++ ", expected " ++ wanted
  | outOfRange found wanted =>
    "invalid value: integer " ++ mark (toString found) ++ ", expected " ++ wanted
  | wrongLength found record fields =>
    "invalid length " ++ toString found ++ ", expected struct " ++ record ++ " with " ++
      toString fields ++ (if fields = 1 then " element" else " elements")

end DocumentProblem

namespace Value

mutual

/-- Whether two values are the same. -/
def same : Value → Value → Bool
  | null, null => true
  | boolean value, boolean other => value == other
  | integer value, integer other => value == other
  | decimal written, decimal other => written == other
  | text value, text other => value == other
  | sequence items, sequence others => sameItems items others
  | record entries closed, record others otherClosed =>
    sameEntries entries others && closed == otherClosed
  | broken, broken => true
  | _, _ => false

/-- Whether two sequences have the same items. -/
def sameItems : List Value → List Value → Bool
  | [], [] => true
  | item :: items, other :: others => same item other && sameItems items others
  | _, _ => false

/-- Whether two records have the same named values in the same order. -/
def sameEntries : List (String × Value) → List (String × Value) → Bool
  | [], [] => true
  | (name, value) :: entries, (otherName, other) :: others =>
    name == otherName && same value other && sameEntries entries others
  | _, _ => false

end

mutual

theorem same_iff : ∀ first second : Value, same first second = true ↔ first = second
  | sequence items, second => by cases second <;> simp [same, sameItems_iff]
  | record entries closed, second => by cases second <;> simp [same, sameEntries_iff]
  | null, second => by cases second <;> simp [same]
  | boolean value, second => by cases second <;> simp [same]
  | integer value, second => by cases second <;> simp [same]
  | decimal written, second => by cases second <;> simp [same]
  | text value, second => by cases second <;> simp [same]
  | broken, second => by cases second <;> simp [same]

theorem sameItems_iff : ∀ items others : List Value,
    sameItems items others = true ↔ items = others
  | [], others => by cases others <;> simp [sameItems]
  | item :: items, others => by cases others <;> simp [sameItems, same_iff, sameItems_iff]

theorem sameEntries_iff : ∀ entries others : List (String × Value),
    sameEntries entries others = true ↔ entries = others
  | [], others => by cases others <;> simp [sameEntries]
  | (name, value) :: entries, others => by
    cases others <;> simp [sameEntries, same_iff, sameEntries_iff, Prod.ext_iff, and_assoc]

end

instance : DecidableEq Value := fun first second => decidable_of_iff _ (same_iff first second)

/-- The kind of a value in words, with the value itself where it is simple. -/
def describe : Value → String
  | null => "null"
  | boolean value => "boolean " ++ DocumentProblem.mark (if value then "true" else "false")
  | integer value => "integer " ++ DocumentProblem.mark (toString value)
  | decimal figures => "floating point " ++ DocumentProblem.mark figures
  | text value => "string " ++ Text.quoted value
  | sequence _ => "sequence"
  | record _ _ => "map"
  | broken => "nothing"

/-- The problem with a value that should have been of another kind. -/
def mismatch (value : Value) (wanted : String) : DocumentProblem :=
  match value with
  | broken => .malformed
  | other => .wrongKind other.describe wanted

/-- A point in time, which reads as a record with one reserved field. -/
def dateTime (written : String) : Value :=
  record [("$__toml_private_datetime", text written)] true

/-- Read a text. -/
def asText : Value → Except DocumentProblem String
  | text value => .ok value
  | other => .error (other.mismatch "a string")

/-- Read a path. -/
def asPath : Value → Except DocumentProblem String
  | text value => .ok value
  | other => .error (other.mismatch "path string")

/-- Read a truth value. -/
def asBoolean : Value → Except DocumentProblem Bool
  | boolean value => .ok value
  | other => .error (other.mismatch "a boolean")

/-- Read a whole number of 32 bits. -/
def asInt32 : Value → Except DocumentProblem Int
  | integer value =>
    if -2147483648 ≤ value ∧ value ≤ 2147483647 then .ok value
    else .error (.outOfRange value "i32")
  | other => .error (other.mismatch "i32")

/-- Read a value that may be null. -/
def asOptional {α : Type} (read : Value → Except DocumentProblem α) :
    Value → Except DocumentProblem (Option α)
  | null => .ok none
  | other => (read other).map some

/-- Read values one after another. -/
def asSequence {α : Type} (read : Value → Except DocumentProblem α) :
    Value → Except DocumentProblem (List α)
  | sequence items => items.mapM read
  | other => .error (other.mismatch "a sequence")

end Value
end DataLayer
