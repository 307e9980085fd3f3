import DataLayer.Document.Number
import DataLayer.Document.Value

/-!
# Reading JSON

The text of a JSON document becomes a tree of values.  Where the text stops following the grammar
the tree is cut off with a mark, and nothing behind that place is looked at.
-/

namespace DataLayer
namespace Json

/-- The blank characters of JSON. -/
def isBlank (c : Char) : Bool :=
  c == ' ' || c == '\t' || c == '\n' || c == '\r'

/-- The text from its first character that is not blank. -/
def skipBlanks (text : List Char) : List Char :=
  text.dropWhile isBlank

/-- The character of a one-letter escape. -/
def shortEscape? : Char → Option Char
  | '"' => some '"'
  | '\\' => some '\\'
  | '/' => some '/'
  | 'b' => some '\x08'
  | 'f' => some '\x0c'
  | 'n' => some '\n'
  | 'r' => some '\r'
  | 't' => some '\t'
  | _ => none

/-- The code unit opens a surrogate pair. -/
def isLeadingSurrogate (unit : Nat) : Bool :=
  0xD800 ≤ unit && unit < 0xDC00

/-- The code unit closes a surrogate pair. -/
def isTrailingSurrogate (unit : Nat) : Bool :=
  0xDC00 ≤ unit && unit < 0xE000

/-- Put a character in front of a text that may have failed to be read. -/
def prepend (c : Char) (read : Option (List Char × List Char)) : Option (List Char × List Char) :=
  read.map fun found => (c :: found.1, found.2)

/-- The text of a string up to its closing quote, and what follows the quote. -/
def stringBody : List Char → Option (List Char × List Char)
  | [] => none
  | '"' :: rest => some ([], rest)
  | '\\' :: 'u' :: a :: b :: c :: d :: rest =>
    match numberOfFigures? 16 [a, b, c, d] with
    | none => none
    | some unit =>
      if isLeadingSurrogate unit then
        match rest with
        | '\\' :: 'u' :: e :: f :: g :: h :: tail =>
          match numberOfFigures? 16 [e, f, g, h] with
          | none => none
          | some second =>
            if isTrailingSurrogate second then
              prepend (Char.ofNat (0x10000 + (unit - 0xD800) * 0x400 + (second - 0xDC00)))
                (stringBody tail)
            else none
        | _ => none
      else if isTrailingSurrogate unit then none
      else prepend (Char.ofNat unit) (stringBody rest)
  | '\\' :: c :: rest =>
    match shortEscape? c with
    | none => none
    | some escaped => prepend escaped (stringBody rest)
  | c :: rest => if c.toNat < 0x20 then none else prepend c (stringBody rest)

/-- Take in decimal figures as long as the number fits into 64 bits, and count them. -/
def takeFigures : Nat → List Char → Nat × Nat
  | value, [] => (value, 0)
  | value, c :: rest =>
    let next := 10 * value + (c.toNat - '0'.toNat)
    if next < Nat.pow 2 64 then
      let taken := takeFigures next rest
      (taken.1, taken.2 + 1)
    else (value, 0)

/-- A power of ten, rounded. -/
def powerOfTen (power : Nat) : Binary64 :=
  (Binary64.ofRatio (Nat.pow 10 power) 1).getD Binary64.zero

/-- Scale a number by a power of ten in steps that are rounded one by one.  After three steps down
nothing is left of a number of 64 bits. -/
def scaleByTen : Nat → Binary64 → Int → Option Binary64
  | 0, _, _ => some Binary64.zero
  | steps + 1, number, power =>
    if number.significand = 0 then some number
    else if 308 < power then none
    else if 0 ≤ power then number.mul (powerOfTen power.toNat)
    else if -308 ≤ power then number.div (powerOfTen (-power).toNat)
    else (number.div (powerOfTen 308)).bind (scaleByTen steps · (power + 308))

/-- The number with the given figures before and after the point and the given exponent.  The
figures that fit into 64 bits are rounded on their own and scaled then. -/
def decimalNumber (whole fraction : List Char) (exponent : Int) : Option Binary64 :=
  let before := takeFigures 0 whole
  let after := takeFigures before.1 fraction
  let power : Int := (whole.length : Int) - before.2 - after.2 + exponent
  (Binary64.ofRatio after.1 1).bind (scaleByTen 5 · power)

/-- The value of a number that is not a whole number of 64 bits; one that is too large breaks the
document. -/
def decimalValue (negative : Bool) (whole fraction : List Char) (exponent : Int) : Value :=
  match decimalNumber whole fraction exponent with
  | some number => .decimal ((if negative then "-" else "") ++ number.text)
  | none => .broken

/-- The value of a number without fraction and exponent. -/
def wholeValue (negative : Bool) (figures : List Char) : Value :=
  let size := (takeFigures 0 figures).1
  let fits := (takeFigures 0 figures).2 = figures.length
  if negative then
    if fits ∧ 0 < size ∧ size ≤ Nat.pow 2 63 then .integer (-(size : Int))
    else decimalValue true figures [] 0
  else if fits then .integer size
  else decimalValue false figures [] 0

/-- A value that was read, and the text behind it unless the document breaks there. -/
abbrev Reading := Value × Option (List Char)

/-- The reading of a value that makes no sense. -/
def breakHere : Reading :=
  (.broken, none)

/-- A reading goes on behind its value unless the value is broken. -/
def continueWith (value : Value) (rest : List Char) : Reading :=
  match value with
  | .broken => breakHere
  | value => (value, some rest)

/-- The exponent of a number, if it has one: its value and what follows, or nothing if it lacks
figures. -/
def exponent? (text : List Char) : Option (Option Int × List Char) :=
  match text with
  | c :: rest =>
    if c == 'e' || c == 'E' then
      let signed := match rest with
        | '+' :: tail => (false, tail)
        | '-' :: tail => (true, tail)
        | tail => (false, tail)
      let figures := signed.2.takeWhile Char.isDigit
      if figures.isEmpty then none
      else
        let size : Int := figures.foldl (fun value f => 10 * value + (f.toNat - '0'.toNat)) 0
        some (some (if signed.1 then -size else size), signed.2.dropWhile Char.isDigit)
    else some (none, text)
  | [] => some (none, [])

/-- Read a number behind its sign. -/
def number (negative : Bool) (text : List Char) : Reading :=
  let whole := text.takeWhile Char.isDigit
  let rest := text.dropWhile Char.isDigit
  if whole.isEmpty || (whole.head? == some '0' && whole.length != 1) then breakHere
  else
    match rest with
    | '.' :: tail =>
      let fraction := tail.takeWhile Char.isDigit
      if fraction.isEmpty then breakHere
      else
        match exponent? (tail.dropWhile Char.isDigit) with
        | none => breakHere
        | some (power, rest) =>
          continueWith (decimalValue negative whole fraction (power.getD 0)) rest
    | rest =>
      match exponent? rest with
      | none => breakHere
      | some (some power, rest) => continueWith (decimalValue negative whole [] power) rest
      | some (none, rest) => continueWith (wholeValue negative whole) rest

/-- Read one of the words of JSON. -/
def word (spelling : List Char) (value : Value) (text : List Char) : Reading :=
  if spelling.isPrefixOf text then (value, some (text.drop spelling.length)) else breakHere

mutual

/-- Read a value at the start of a text.  The first argument bounds the depth of the calls. -/
def value : Nat → List Char → Reading
  | 0, _ => breakHere
  | fuel + 1, text =>
    match text with
    | '"' :: rest =>
      match stringBody rest with
      | some (body, rest) => (.text (String.ofList body), some rest)
      | none => breakHere
    | '[' :: rest =>
      match skipBlanks rest with
      | ']' :: rest => (.sequence [], some rest)
      | rest =>
        let found := items fuel rest
        (.sequence found.1, found.2)
    | '\x7b' :: rest =>
      match skipBlanks rest with
      | '\x7d' :: rest => (.record [] true, some rest)
      | rest =>
        let found := members fuel rest
        (.record found.1 found.2.isSome, found.2)
    | 'n' :: _ => word ['n', 'u', 'l', 'l'] .null text
    | 't' :: _ => word ['t', 'r', 'u', 'e'] (.boolean true) text
    | 'f' :: _ => word ['f', 'a', 'l', 's', 'e'] (.boolean false) text
    | '-' :: rest => number true rest
    | text => number false text

/-- Read the values of a sequence, from one value on. -/
def items : Nat → List Char → List Value × Option (List Char)
  | 0, _ => ([.broken], none)
  | fuel + 1, text =>
    match value fuel text with
    | (first, none) => ([first], none)
    | (first, some rest) =>
      match skipBlanks rest with
      | ']' :: rest => ([first], some rest)
      | ',' :: rest =>
        let others := items fuel (skipBlanks rest)
        (first :: others.1, others.2)
      | _ => ([first, .broken], none)

/-- Read the fields of a record, from one name on. -/
def members : Nat → List Char → List (String × Value) × Option (List Char)
  | 0, _ => ([], none)
  | fuel + 1, text =>
    match text with
    | '"' :: rest =>
      match stringBody rest with
      | none => ([], none)
      | some (name, rest) =>
        match skipBlanks rest with
        | ':' :: rest =>
          match value fuel (skipBlanks rest) with
          | (first, none) => ([(String.ofList name, first)], none)
          | (first, some rest) =>
            match skipBlanks rest with
            | '\x7d' :: rest => ([(String.ofList name, first)], some rest)
            | ',' :: rest =>
              let others := members fuel (skipBlanks rest)
              ((String.ofList name, first) :: others.1, others.2)
            | _ => ([(String.ofList name, first)], none)
        | _ => ([(String.ofList name, .broken)], none)
    | _ => ([], none)

end

/-- Read a document: its value, and whether the document ends behind it. -/
def document (text : String) : Value × Bool :=
  let chars := text.toList
  let found := value (2 * chars.length + 2) (skipBlanks chars)
  (found.1, found.2.any fun rest => (skipBlanks rest).isEmpty)

end Json
end DataLayer
