import DataLayer.Document.Toml.Quoted
import DataLayer.Document.Toml.Scalar
import DataLayer.Document.Toml.Tree

/-!
# Statements of a TOML document

A TOML document is a sequence of statements, one to a line: headers of tables and values under keys.
Reading a statement returns the text behind it, or nothing if the text does not follow the grammar.
-/

namespace DataLayer
namespace Toml

/-- A statement of a document. -/
inductive Statement where
  /-- The header of a table. -/
  | header (path : List String) (key : String)
  /-- The header of one more of several tables. -/
  | element (path : List String) (key : String)
  /-- A value under a key. -/
  | assignment (path : List String) (key : String) (value : Value)

/-- The character is a blank within a line. -/
def isInlineBlank (c : Char) : Bool :=
  c == ' ' || c == '\t'

/-- The text from its first character that is no blank within a line. -/
def skipInline (text : List Char) : List Char :=
  text.dropWhile isInlineBlank

/-- The text from its first character that is neither blank nor line end nor part of a comment.  The
flag tells that the text starts inside a comment. -/
def skipLines : Bool → List Char → Option (List Char)
  | _, [] => some []
  | _, '\n' :: rest => skipLines false rest
  | _, '\r' :: '\n' :: rest => skipLines false rest
  | true, c :: rest => if isForbidden c then none else skipLines true rest
  | false, c :: rest =>
    if isInlineBlank c then skipLines false rest
    else if c = '#' then skipLines true rest
    else some (c :: rest)

/-- Nothing but a comment stands before the end of the line. -/
def atLineEnd (text : List Char) : Bool :=
  match skipInline text with
  | [] => true
  | '\n' :: _ => true
  | '\r' :: '\n' :: _ => true
  | '#' :: _ => true
  | _ => false

/-- The character can stand in a key without quotes. -/
def isKeyChar (c : Char) : Bool :=
  c.isAlphanum || c == '_' || c == '-'

/-- Read one part of a key. -/
def simpleKey? (text : List Char) : Option (String × List Char) :=
  match text with
  | '"' :: rest => (basicBody 0 rest).map fun found => (String.ofList found.1, found.2)
  | '\'' :: rest => (literalBody rest).map fun found => (String.ofList found.1, found.2)
  | text =>
    let name := text.takeWhile isKeyChar
    if name.isEmpty then none else some (String.ofList name, text.dropWhile isKeyChar)

/-- A key: the parts in front and the last part. -/
abbrev Key := List String × String

/-- Read a key of several parts, and the blanks behind it.  The first argument bounds the number of
parts. -/
def key? : Nat → List Char → Option (Key × List Char)
  | 0, _ => none
  | fuel + 1, text =>
    match simpleKey? text with
    | none => none
    | some (name, rest) =>
      match skipInline rest with
      | '.' :: rest =>
        (key? fuel (skipInline rest)).map fun found => ((name :: found.1.1, found.1.2), found.2)
      | rest => some (([], name), rest)

/-- Read a key from a text. -/
def readKey? (text : List Char) : Option (Key × List Char) :=
  key? (text.length + 1) text

/-- How many sequences and records may stand inside each other. -/
def depthLimit : Nat := 80

mutual

/-- Read a value.  The first argument bounds the depth of the calls, the second counts how many
sequences and records may still be opened. -/
def value? : Nat → Nat → List Char → Option (Value × List Char)
  | 0, _, _ => none
  | fuel + 1, depth, text =>
    match text with
    | '"' :: _ =>
      (quotedText? text).map fun found => (.text (String.ofList found.1), found.2)
    | '\'' :: _ =>
      (quotedText? text).map fun found => (.text (String.ofList found.1), found.2)
    | '[' :: rest =>
      if depth = 0 then none
      else (elements? fuel (depth - 1) rest).map fun found => (.sequence found.1, found.2)
    | '\x7b' :: rest =>
      if depth = 0 then none
      else (fields? fuel (depth - 1) [] rest).map fun found =>
        (.record (finishEntries found.1) true, found.2)
    | text => (plainValue? (plainRun text).1).map fun value => (value, (plainRun text).2)

/-- Read the values of a sequence up to its closing bracket. -/
def elements? : Nat → Nat → List Char → Option (List Value × List Char)
  | 0, _, _ => none
  | fuel + 1, depth, text =>
    match skipLines false text with
    | none => none
    | some (']' :: rest) => some ([], rest)
    | some text =>
      match value? fuel depth text with
      | none => none
      | some (first, rest) =>
        match skipLines false rest with
        | some (',' :: rest) =>
          (elements? fuel depth rest).map fun found => (first :: found.1, found.2)
        | some (']' :: rest) => some ([first], rest)
        | _ => none

/-- Read the fields of a record up to its closing brace, given those in front. -/
def fields? : Nat → Nat → Entries → List Char → Option (Entries × List Char)
  | 0, _, _, _ => none
  | fuel + 1, depth, entries, text =>
    match skipLines false text with
    | none => none
    | some ('\x7d' :: rest) => some (entries, rest)
    | some text =>
      match readKey? text with
      | some (key, '=' :: rest) =>
        match value? fuel depth (skipInline rest) with
        | none => none
        | some (value, rest) =>
          match assign key.1 key.2 value entries, skipLines false rest with
          | some entries, some (',' :: rest) => fields? fuel depth entries rest
          | some entries, some ('\x7d' :: rest) => some (entries, rest)
          | _, _ => none
      | _ => none

end

/-- Read a value from a text. -/
def readValue? (text : List Char) : Option (Value × List Char) :=
  value? (2 * text.length + 2) depthLimit text

/-- Read a statement, up to what must be the end of its line. -/
def statement? (text : List Char) : Option (Statement × List Char) :=
  match text with
  | '[' :: '[' :: rest =>
    match readKey? (skipInline rest) with
    | some (key, ']' :: ']' :: rest) => some (.element key.1 key.2, rest)
    | _ => none
  | '[' :: rest =>
    match readKey? (skipInline rest) with
    | some (key, ']' :: rest) => some (.header key.1 key.2, rest)
    | _ => none
  | text =>
    match readKey? text with
    | some (key, '=' :: rest) =>
      (readValue? (skipInline rest)).map fun found =>
        (.assignment key.1 key.2 found.1, found.2)
    | _ => none

/-- Read the statements of a text.  The first argument bounds their number. -/
def statements? : Nat → List Char → Option (List Statement)
  | 0, _ => none
  | fuel + 1, text =>
    match skipLines false text with
    | none => none
    | some [] => some []
    | some text =>
      match statement? text with
      | none => none
      | some (statement, rest) =>
        if atLineEnd rest then (statements? fuel rest).map (statement :: ·) else none

end Toml
end DataLayer
