/-!
# Parts, lines and blocks

A text falls into the parts between the occurrences of a character, and it may be blank.  Generated
code is handled in blocks of lines: blocks are joined by one blank line, a file ends in exactly one
line feed, and a text is read back as lines with either kind of line end.
-/

namespace DataLayer
namespace Text

/-- The code points with the property White_Space. -/
def blankCodes : List Nat :=
  [0x9, 0xA, 0xB, 0xC, 0xD, 0x20, 0x85, 0xA0, 0x1680, 0x2000, 0x2001, 0x2002, 0x2003, 0x2004,
    0x2005, 0x2006, 0x2007, 0x2008, 0x2009, 0x200A, 0x2028, 0x2029, 0x202F, 0x205F, 0x3000]

/-- The character has the property White_Space. -/
def isBlankChar (c : Char) : Bool :=
  blankCodes.contains c.toNat

/-- The text has no character that is not blank; the empty text is blank. -/
def isBlank (text : String) : Bool :=
  text.toList.all isBlankChar

theorem isBlank_empty : isBlank "" := by
  simp [isBlank]

/-- The parts of a text between the occurrences of a character. -/
def splitChars (separator : Char) : List Char → List (List Char)
  | [] => [[]]
  | c :: rest =>
    if c = separator then [] :: splitChars separator rest
    else
      match splitChars separator rest with
      | [] => [[c]]
      | part :: parts => (c :: part) :: parts

/-- The parts of a text between the occurrences of a character. -/
def splitAtChar (separator : Char) (text : String) : List String :=
  (splitChars separator text.toList).map String.ofList

theorem splitChars_ne_nil (separator : Char) (text : List Char) :
    splitChars separator text ≠ [] := by
  cases text with
  | nil => simp [splitChars]
  | cons c rest =>
    simp only [splitChars]
    split
    · simp
    · split <;> simp

/-- The character ends a line: line feed or carriage return. -/
def isLineEnd (c : Char) : Bool :=
  c == '\n' || c == '\r'

/-- Drop the line ends at the end of a text. -/
def dropLineEnds (text : List Char) : List Char :=
  (text.reverse.dropWhile isLineEnd).reverse

/-- The text without the line ends at its end. -/
def stripLineEnds (text : String) : String :=
  String.ofList (dropLineEnds text.toList)

/-- The text with exactly one line feed in place of the line ends at its end. -/
def ensureTrailingNewline (text : String) : String :=
  stripLineEnds text ++ "\n"

/-- Join blocks by one blank line.  Line ends at the end of a block do not count, and blocks that
hold nothing else are left out. -/
def joinBlocks (blocks : List String) : String :=
  "\n\n".intercalate ((blocks.map stripLineEnds).filter (· ≠ ""))

/-- The text of lines, each ended by one line feed. -/
def unlines (texts : List String) : String :=
  String.join (texts.map (· ++ "\n"))

/-- The lines of a text, each without its end.  A line ends with a line feed and a carriage return
right before it, if there is one; a line feed at the very end of the text starts no further line. -/
def lineList : List Char → List (List Char)
  | [] => []
  | '\n' :: rest => [] :: lineList rest
  | '\r' :: '\n' :: rest => [] :: lineList rest
  | c :: rest =>
    match lineList rest with
    | [] => [[c]]
    | line :: others => (c :: line) :: others

/-- The lines of a text, each without its end. -/
def lines (text : String) : List String :=
  (lineList text.toList).map String.ofList

end Text
end DataLayer
