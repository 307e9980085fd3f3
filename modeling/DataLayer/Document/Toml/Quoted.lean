import DataLayer.Document.Number

/-!
# Quoted text in TOML

TOML writes a text between double quotes, with escapes, or between single quotes, as it stands; both
forms can span lines when the quotes are tripled.  Each reader here starts behind the opening quotes
and returns the text and what follows the closing quotes.
-/

namespace DataLayer
namespace Toml

/-- The character must not stand in a document: a control character other than a tab. -/
def isForbidden (c : Char) : Bool :=
  (c.toNat < 0x20 && c != '\t') || c.toNat == 0x7F

/-- Put a character in front of a text that may have failed to be read. -/
def pushChar (c : Char) (read : Option (List Char × List Char)) :
    Option (List Char × List Char) :=
  read.map fun found => (c :: found.1, found.2)

/-- The character of an escape by number, of a given count of figures behind the letter. -/
def numberedEscape? (count : Nat) (rest : List Char) : Option (Char × Nat) :=
  let figures := rest.take count
  if figures.length = count then
    ((numberOfFigures? 16 figures).bind charOfCode?).map fun c => (c, count + 1)
  else none

/-- The character of an escape, and how many characters it takes behind the backslash. -/
def escape? : List Char → Option (Char × Nat)
  | [] => none
  | c :: rest =>
    match c with
    | 'b' => some ('\x08', 1)
    | 't' => some ('\t', 1)
    | 'n' => some ('\n', 1)
    | 'f' => some ('\x0c', 1)
    | 'r' => some ('\r', 1)
    | 'e' => some ('\x1b', 1)
    | '"' => some ('"', 1)
    | '\\' => some ('\\', 1)
    | 'x' => numberedEscape? 2 rest
    | 'u' => numberedEscape? 4 rest
    | 'U' => numberedEscape? 8 rest
    | _ => none

/-- The text up to a double quote.  The first argument counts characters that belong to an escape
already read. -/
def basicBody : Nat → List Char → Option (List Char × List Char)
  | _, [] => none
  | skip + 1, _ :: rest => basicBody skip rest
  | 0, c :: rest =>
    if c = '"' then some ([], rest)
    else if c = '\\' then
      match escape? rest with
      | some (escaped, taken) => pushChar escaped (basicBody taken rest)
      | none => none
    else if isForbidden c then none
    else pushChar c (basicBody 0 rest)

/-- The text up to a single quote. -/
def literalBody : List Char → Option (List Char × List Char)
  | [] => none
  | c :: rest =>
    if c = '\'' then some ([], rest)
    else if isForbidden c then none
    else pushChar c (literalBody rest)

/-- Closing quotes of a text over several lines: up to two more quotes belong to the text. -/
def closeMultiline (quote : Char) (rest : List Char) : List Char × List Char :=
  match rest with
  | first :: second :: tail =>
    if first = quote then
      if second = quote then ([quote, quote], tail) else ([quote], second :: tail)
    else ([], rest)
  | [first] => if first = quote then ([quote], []) else ([], rest)
  | [] => ([], [])

/-- Do two more quotes follow? -/
def closesMultiline (quote : Char) (rest : List Char) : Bool :=
  [quote, quote].isPrefixOf rest

/-- Length of the run of blanks and line ends that a text starts with. -/
def blankRun : List Char → Nat
  | [] => 0
  | '\r' :: '\n' :: rest => blankRun rest + 2
  | c :: rest => if c == ' ' || c == '\t' || c == '\n' then blankRun rest + 1 else 0

/-- Does nothing but blanks stand before the end of the line? -/
def restOfLineIsBlank (rest : List Char) : Bool :=
  match rest.dropWhile fun c => c == ' ' || c == '\t' with
  | '\n' :: _ => true
  | '\r' :: '\n' :: _ => true
  | _ => false

/-- The text up to three double quotes.  A backslash at the end of a line joins it to the next text,
without the blanks and line ends between. -/
def multilineBasicBody : Nat → List Char → Option (List Char × List Char)
  | _, [] => none
  | skip + 1, _ :: rest => multilineBasicBody skip rest
  | 0, c :: rest =>
    if c = '"' then
      if closesMultiline '"' rest then some (closeMultiline '"' (rest.drop 2))
      else pushChar c (multilineBasicBody 0 rest)
    else if c = '\\' then
      if restOfLineIsBlank rest then multilineBasicBody (blankRun rest) rest
      else
        match escape? rest with
        | some (escaped, taken) => pushChar escaped (multilineBasicBody taken rest)
        | none => none
    else if c = '\n' || (c == '\r' && rest.head? == some '\n') then
      pushChar c (multilineBasicBody 0 rest)
    else if isForbidden c then none
    else pushChar c (multilineBasicBody 0 rest)

/-- The text up to three single quotes. -/
def multilineLiteralBody : List Char → Option (List Char × List Char)
  | [] => none
  | c :: rest =>
    if c = '\'' then
      if closesMultiline '\'' rest then some (closeMultiline '\'' (rest.drop 2))
      else pushChar c (multilineLiteralBody rest)
    else if c = '\n' || (c == '\r' && rest.head? == some '\n') then
      pushChar c (multilineLiteralBody rest)
    else if isForbidden c then none
    else pushChar c (multilineLiteralBody rest)

/-- A line end right behind the opening quotes does not belong to the text. -/
def dropFirstLineEnd : List Char → List Char
  | '\n' :: rest => rest
  | '\r' :: '\n' :: rest => rest
  | text => text

/-- Read a quoted text, on one line or several, from its opening quotes on. -/
def quotedText? : List Char → Option (List Char × List Char)
  | '"' :: rest =>
    if closesMultiline '"' rest then multilineBasicBody 0 (dropFirstLineEnd (rest.drop 2))
    else basicBody 0 rest
  | '\'' :: rest =>
    if closesMultiline '\'' rest then multilineLiteralBody (dropFirstLineEnd (rest.drop 2))
    else literalBody rest
  | _ => none

end Toml
end DataLayer
