/-!
# Places in a text

A span names a stretch of a text by byte offset and byte length.  The span of a value is found by
looking for the value between quotes.
-/

namespace DataLayer
namespace Text

/-- A stretch of a text, counted in bytes of its UTF-8 form. -/
structure Span where
  /-- Bytes before the stretch. -/
  offset : Nat
  /-- Bytes in the stretch. -/
  length : Nat
  deriving Repr, DecidableEq

/-- What stands before the first occurrence of a word. -/
def beforeFirst? (word : List Char) : List Char → Option (List Char)
  | [] => if word.isEmpty then some [] else none
  | c :: rest =>
    if word.isPrefixOf (c :: rest) then some []
    else (beforeFirst? word rest).map (c :: ·)

/-- Bytes that characters take in UTF-8. -/
def byteLength : List Char → Nat
  | [] => 0
  | c :: rest => c.utf8Size + byteLength rest

/-- Place of the first occurrence of a value between two copies of a quote character. -/
def quotedSpan? (quote : Char) (source value : List Char) : Option Span :=
  (beforeFirst? (quote :: value ++ [quote]) source).map fun before =>
    ⟨byteLength before + 1, byteLength value⟩

/-- Place of a value in a text: its first occurrence between double quotes, or else its first
occurrence between single quotes. -/
def valueSpan? (source value : String) : Option Span :=
  (quotedSpan? '"' source.toList value.toList).or (quotedSpan? '\'' source.toList value.toList)

end Text
end DataLayer
