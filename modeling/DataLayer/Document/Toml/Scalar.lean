import DataLayer.Document.Number
import DataLayer.Document.Value

/-!
# Plain values in TOML

Truth values, numbers, dates and times are written without quotes, as one run of characters; only a
date and its time may be parted by a space.
-/

namespace DataLayer
namespace Toml

/-- The character can stand in a plain value. -/
def isPlainChar (c : Char) : Bool :=
  c.isAlphanum || c == '+' || c == '-' || c == '_' || c == '.' || c == ':'

/-- The figures of a number.  An underscore may stand between two figures and is dropped. -/
def groupedFigures? (base : Nat) : List Char → Option (List Char)
  | [] => none
  | [c] => if isFigure base c then some [c] else none
  | c :: '_' :: rest =>
    if isFigure base c then (groupedFigures? base rest).map (c :: ·) else none
  | c :: rest =>
    if isFigure base c then (groupedFigures? base rest).map (c :: ·) else none

/-- Decimal figures without needless zeros in front. -/
def leadingFigures? (run : List Char) : Option (List Char) :=
  (groupedFigures? 10 run).filter fun figures => figures.length == 1 || figures.head? != some '0'

/-- A whole number, if it fits into 64 bits with sign. -/
def wholeNumber? (value : Int) : Option Value :=
  if -9223372036854775808 ≤ value ∧ value ≤ 9223372036854775807 then some (.integer value)
  else none

/-- The sign in front of a number, true for a minus, and the number behind it. -/
def splitSign : List Char → Bool × List Char
  | '-' :: rest => (true, rest)
  | '+' :: rest => (false, rest)
  | run => (false, run)

/-- A number with a sign. -/
def signed (negative : Bool) (size : Nat) : Int :=
  if negative then -(size : Int) else size

/-- Read a whole number. -/
def integer? (run : List Char) : Option Value :=
  match run with
  | '0' :: 'x' :: figures =>
    ((groupedFigures? 16 figures).bind (numberOfFigures? 16)).bind (wholeNumber? ·)
  | '0' :: 'o' :: figures =>
    ((groupedFigures? 8 figures).bind (numberOfFigures? 8)).bind (wholeNumber? ·)
  | '0' :: 'b' :: figures =>
    ((groupedFigures? 2 figures).bind (numberOfFigures? 2)).bind (wholeNumber? ·)
  | run =>
    let parts := splitSign run
    ((leadingFigures? parts.2).bind (numberOfFigures? 10)).bind fun size =>
      wholeNumber? (signed parts.1 size)

/-- The sign of a decimal text. -/
def signText (negative : Bool) : String :=
  if negative then "-" else ""

/-- Read an exponent behind its letter. -/
def power? (run : List Char) : Option Int :=
  let parts := splitSign run
  ((groupedFigures? 10 parts.2).bind (numberOfFigures? 10)).map (signed parts.1 ·)

/-- The value of a number with fraction and exponent, unless it is too large. -/
def decimal? (negative : Bool) (whole fraction : List Char) (power : Int) : Option Value :=
  ((numberOfFigures? 10 (whole ++ fraction)).bind fun digits =>
    Binary64.ofDecimal digits (power - fraction.length)).map fun number =>
      .decimal (signText negative ++ number.text)

/-- The character marks an exponent. -/
def isPowerMark (c : Char) : Bool :=
  c == 'e' || c == 'E'

/-- Read a number with a fraction or an exponent. -/
def float? (run : List Char) : Option Value :=
  let parts := splitSign run
  match parts.2 with
  | ['i', 'n', 'f'] => some (.decimal (signText parts.1 ++ "inf"))
  | ['n', 'a', 'n'] => some (.decimal "NaN")
  | body =>
    let mantissa := body.takeWhile (!isPowerMark ·)
    let tail := body.dropWhile (!isPowerMark ·)
    let whole := mantissa.takeWhile (· != '.')
    match mantissa.dropWhile (· != '.'), tail with
    | [], [] => none
    | [], _ :: power => do
      decimal? parts.1 (← leadingFigures? whole) [] (← power? power)
    | _ :: fraction, [] => do
      decimal? parts.1 (← leadingFigures? whole) (← groupedFigures? 10 fraction) 0
    | _ :: fraction, _ :: power => do
      decimal? parts.1 (← leadingFigures? whole) (← groupedFigures? 10 fraction) (← power? power)

/-- Read a number of exactly `count` decimal figures that lies between two bounds. -/
def boundedNumber? (count low high : Nat) (text : List Char) : Option (Nat × List Char) :=
  let figures := text.take count
  if figures.length = count && figures.all Char.isDigit then
    (numberOfFigures? 10 figures).bind fun value =>
      if low ≤ value ∧ value ≤ high then some (value, text.drop count) else none
  else none

/-- Drop a character that must be there. -/
def expectChar (expected : Char) : List Char → Option (List Char)
  | c :: rest => if c = expected then some rest else none
  | [] => none

/-- Days of a month. -/
def daysInMonth (year month : Nat) : Nat :=
  if month = 2 then
    if year % 4 = 0 ∧ (year % 100 ≠ 0 ∨ year % 400 = 0) then 29 else 28
  else if month = 4 ∨ month = 6 ∨ month = 9 ∨ month = 11 then 30
  else 31

/-- Read a date, and return what follows it. -/
def date? (text : List Char) : Option (List Char) := do
  let (year, text) ← boundedNumber? 4 0 9999 text
  let text ← expectChar '-' text
  let (month, text) ← boundedNumber? 2 1 12 text
  let text ← expectChar '-' text
  let (_, text) ← boundedNumber? 2 1 (daysInMonth year month) text
  return text

/-- Read the seconds of a time, which may be left out, with their fraction. -/
def seconds? : List Char → Option (List Char)
  | ':' :: text => do
    let (_, text) ← boundedNumber? 2 0 60 text
    match text with
    | '.' :: fraction =>
      if (fraction.takeWhile Char.isDigit).isEmpty then none
      else some (fraction.dropWhile Char.isDigit)
    | text => some text
  | text => some text

/-- Read a time of day, and return what follows it. -/
def time? (text : List Char) : Option (List Char) := do
  let (_, text) ← boundedNumber? 2 0 23 text
  let text ← expectChar ':' text
  let (_, text) ← boundedNumber? 2 0 59 text
  seconds? text

/-- Read the distance from universal time behind a time, which may be left out. -/
def zone? : List Char → Option (List Char)
  | [] => some []
  | c :: text =>
    if c == 'Z' || c == 'z' then some text
    else if c == '+' || c == '-' then do
      let (_, text) ← boundedNumber? 2 0 23 text
      let text ← expectChar ':' text
      let (_, text) ← boundedNumber? 2 0 59 text
      return text
    else none

/-- The run is a date, a time, or both. -/
def isDateTime (run : List Char) : Bool :=
  match date? run with
  | some [] => true
  | some (c :: rest) =>
    (c == 'T' || c == 't' || c == ' ') && ((time? rest).bind zone?) == some []
  | none => time? run == some []

/-- Read a plain value from the whole of a run. -/
def plainValue? (run : List Char) : Option Value :=
  if run = ['t', 'r', 'u', 'e'] then some (.boolean true)
  else if run = ['f', 'a', 'l', 's', 'e'] then some (.boolean false)
  else if isDateTime run then some (.dateTime (String.ofList run))
  else (integer? run).or (float? run)

/-- The run of a plain value that a text starts with, and what follows.  A space after a date
belongs to the run if a figure follows it. -/
def plainRun (text : List Char) : List Char × List Char :=
  let run := text.takeWhile isPlainChar
  let rest := text.dropWhile isPlainChar
  match rest with
  | ' ' :: c :: tail =>
    if date? run = some [] ∧ c.isDigit then
      (run ++ ' ' :: (c :: tail).takeWhile isPlainChar, (c :: tail).dropWhile isPlainChar)
    else (run, rest)
  | _ => (run, rest)

end Toml
end DataLayer
