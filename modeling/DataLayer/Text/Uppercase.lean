import DataLayer.Text.CaseTable
import DataLayer.Text.Lines

/-!
# Letter case

Storage types, table names and file extensions are compared without regard to the case of ASCII
letters; other letters count as they stand.  Type names are made from storage names by capitalising
a first letter.  The uppercase form of a letter is the full one: it does not depend on a language,
and it may take several characters.
-/

namespace DataLayer
namespace Text

/-- The text with its ASCII letters in lowercase. -/
def foldCase (text : String) : String :=
  String.ofList (text.toList.map Char.toLower)

/-- The texts are the same but for the case of ASCII letters. -/
def sameLetters (left right : String) : Bool :=
  foldCase left == foldCase right

/-- The code points of a character's uppercase form. -/
def upperCodes (code : Nat) : List Nat :=
  match caseExpansions.lookup code with
  | some codes => codes
  | none =>
    match caseRuns.find? (·.covers code) with
    | some run => [run.shift code]
    | none => [code]

/-- The uppercase form of a character. -/
def upperChar (c : Char) : List Char :=
  (upperCodes c.toNat).map Char.ofNat

/-- Put the first character in uppercase and keep the others. -/
def capitalizeChars : List Char → List Char
  | [] => []
  | c :: rest => upperChar c ++ rest

/-- Put the first character in uppercase and keep the others; a blank text stays as it is. -/
def upperFirst (text : String) : String :=
  if isBlank text then text else String.ofList (capitalizeChars text.toList)

/-- The characters between two words of a name. -/
def isWordSeparator (c : Char) : Bool :=
  c == '_' || c == '-' || c == ' '

/-- Drop the separators and capitalise what follows one.  The flag tells that a word starts. -/
def joinCapitalized : Bool → List Char → List Char
  | _, [] => []
  | wordStart, c :: rest =>
    if isWordSeparator c then joinCapitalized true rest
    else if wordStart then upperChar c ++ joinCapitalized false rest
    else c :: joinCapitalized false rest

/-- The words of a name, each capitalised, without what separates them. -/
def pascalCase (text : String) : String :=
  String.ofList (joinCapitalized true text.toList)

end Text
end DataLayer
