/-!
# Numbers in documents

Numbers are written in figures of base two, eight, ten or sixteen.  Those that are not integers are
kept with the precision of 64-bit binary floating point, and error messages show them by the
shortest decimal text that reads back.  Everything is computed exactly on natural numbers.  Signs,
infinities and undefined results stay outside.
-/

namespace DataLayer

/-- The value of a figure; letters of either case continue the decimal figures. -/
def figureValue? (c : Char) : Option Nat :=
  if c.isDigit then some (c.toNat - '0'.toNat)
  else if 'a' ≤ c ∧ c ≤ 'f' then some (c.toNat - 'a'.toNat + 10)
  else if 'A' ≤ c ∧ c ≤ 'F' then some (c.toNat - 'A'.toNat + 10)
  else none

/-- The character is a figure of the base. -/
def isFigure (base : Nat) (c : Char) : Bool :=
  (figureValue? c).any (· < base)

/-- The number that figures write in a base. -/
def numberOfFigures? (base : Nat) (figures : List Char) : Option Nat :=
  figures.foldlM
    (fun value c => (figureValue? c).bind fun figure =>
      if figure < base then some (base * value + figure) else none)
    0

/-- The character with a code point, if there is one. -/
def charOfCode? (code : Nat) : Option Char :=
  if code.isValidChar then some (Char.ofNat code) else none

/-- A finite number `significand * 2 ^ exponent` of 64-bit binary floating point, without sign. -/
structure Binary64 where
  /-- Significand of at most 53 bits. -/
  significand : Nat
  /-- Exponent, from -1074 to 971. -/
  exponent : Int
  deriving Repr, DecidableEq

namespace Binary64

/-- The number zero. -/
def zero : Binary64 :=
  ⟨0, -1074⟩

/-- The whole number nearest to a ratio; of two that are equally near, the even one. -/
def roundRatio (num den : Nat) : Nat :=
  let quotient := num / den
  let twice := 2 * (num % den)
  if twice < den then quotient
  else if den < twice then quotient + 1
  else quotient + quotient % 2

/-- Numerator and denominator after scaling a ratio by a power of two. -/
def scaleBinary (num den : Nat) (power : Int) : Nat × Nat :=
  if 0 ≤ power then (num * Nat.pow 2 power.toNat, den) else (num, den * Nat.pow 2 (-power).toNat)

/-- Numerator and denominator after scaling a ratio by a power of ten. -/
def scaleDecimal (num den : Nat) (power : Int) : Nat × Nat :=
  if 0 ≤ power then (num * Nat.pow 10 power.toNat, den) else (num, den * Nat.pow 10 (-power).toNat)

/-- The number nearest to a ratio, at the finest exponent that leaves 53 bits, if it is finite. -/
def roundAt (num den : Nat) (exponent : Int) : Option Binary64 :=
  let scaled := scaleBinary num den (-exponent)
  let significand := roundRatio scaled.1 scaled.2
  let rounded : Binary64 :=
    if significand = Nat.pow 2 53 then ⟨Nat.pow 2 52, exponent + 1⟩ else ⟨significand, exponent⟩
  if rounded.exponent ≤ 971 then some rounded else none

/-- The number nearest to a ratio, or nothing if it is too large. -/
def ofRatio (num den : Nat) : Option Binary64 :=
  if num = 0 then some zero
  else
    let estimate : Int := (num.log2 : Int) - (den.log2 : Int) - 52
    let scaled := scaleBinary num den (-estimate)
    let exponent := if scaled.1 < scaled.2 * Nat.pow 2 52 then estimate - 1 else estimate
    roundAt num den (max exponent (-1074))

/-- The value as a ratio of whole numbers. -/
def ratio (number : Binary64) : Nat × Nat :=
  scaleBinary number.significand 1 number.exponent

/-- The product, if it is finite. -/
def mul (left right : Binary64) : Option Binary64 :=
  ofRatio (left.ratio.1 * right.ratio.1) (left.ratio.2 * right.ratio.2)

/-- The quotient, if it is finite.  The divisor must not be zero. -/
def div (left right : Binary64) : Option Binary64 :=
  ofRatio (left.ratio.1 * right.ratio.2) (left.ratio.2 * right.ratio.1)

/-- The number nearest to `digits * 10 ^ power`, if it is finite.  The power is looked at only as
far as it can matter. -/
def ofDecimal (digits : Nat) (power : Int) : Option Binary64 :=
  if digits = 0 then some zero
  else if 310 < power then none
  else if power + (Nat.toDigits 10 digits).length < -330 then some zero
  else
    let scaled := scaleDecimal digits 1 power
    ofRatio scaled.1 scaled.2

/-- Number of decimal digits, none for zero. -/
def digitCount (n : Nat) : Nat :=
  if n = 0 then 0 else (Nat.toDigits 10 n).length

/-- The power of ten right above a ratio: `10 ^ (magnitude - 1) ≤ num / den < 10 ^ magnitude`. -/
def magnitude (num den : Nat) : Int :=
  if den ≤ num then digitCount (num / den)
  else 1 - (digitCount ((den + num - 1) / num - 1) : Int)

/-- Does `digits * 10 ^ power` round to this number?  The test compares with the middle between the
number and its neighbours; the middle itself belongs to the even significand. -/
def roundsFrom (number : Binary64) (digits : Nat) (power : Int) : Bool :=
  -- The significand and its neighbours in quarters, so that every middle is whole.
  let quarters := 4 * number.significand
  let below := if number.significand = Nat.pow 2 52 ∧ number.exponent ≠ -1074 then 1 else 2
  let unit := scaleBinary 1 4 number.exponent
  let candidate := scaleDecimal digits 1 power
  -- Compare `candidate` with `(quarters - below) * unit` and `(quarters + 2) * unit`.
  let middle := candidate.1 * unit.2
  let low := (quarters - below) * unit.1 * candidate.2
  let high := (quarters + 2) * unit.1 * candidate.2
  if number.significand % 2 = 0 then low ≤ middle && middle ≤ high
  else low < middle && middle < high

/-- The shortest digits that read back, at a given number of digits or more, with the power of ten
of the last digit.  Of two candidates with the same number of digits the nearer one is taken. -/
def shortestFrom (number : Binary64) (num den : Nat) (top : Int) :
    (tries count : Nat) → Nat × Int
  | 0, count =>
    let power := top - count
    let scaled := scaleDecimal num den (-power)
    (roundRatio scaled.1 scaled.2, power)
  | tries + 1, count =>
    let power := top - count
    let scaled := scaleDecimal num den (-power)
    let lower := scaled.1 / scaled.2
    let lowerFits := number.roundsFrom lower power
    let upperFits := number.roundsFrom (lower + 1) power
    let nearerUpper := scaled.2 ≤ 2 * (scaled.1 % scaled.2)
    if lowerFits && (!upperFits || !nearerUpper) then (lower, power)
    else if upperFits then (lower + 1, power)
    else shortestFrom number num den top tries (count + 1)

/-- Take zeros off the end of digits, as far as the tries go, and count them into the power. -/
def dropZeros : (tries : Nat) → Nat × Int → Nat × Int
  | 0, number => number
  | tries + 1, (digits, power) =>
    if digits % 10 = 0 then dropZeros tries (digits / 10, power + 1) else (digits, power)

/-- Decimal text of `digits * 10 ^ power` without exponent and with at least one place after the
point. -/
def positional (digits : Nat) (power : Int) : String :=
  let figures := Nat.toDigits 10 digits
  if 0 ≤ power then
    String.ofList (figures ++ List.replicate power.toNat '0' ++ ['.', '0'])
  else
    let places := (-power).toNat
    let padded := List.replicate (places + 1 - figures.length) '0' ++ figures
    let whole := padded.length - places
    String.ofList (padded.take whole ++ '.' :: padded.drop whole)

/-- The shortest decimal text that reads back as the number. -/
def text (number : Binary64) : String :=
  if number.significand = 0 then "0.0"
  else
    let value := number.ratio
    let found := shortestFrom number value.1 value.2 (magnitude value.1 value.2) 17 1
    -- A candidate that was rounded up to the next power of ten ends in zeros.
    let shortest := dropZeros 17 found
    positional shortest.1 shortest.2

end Binary64

end DataLayer
