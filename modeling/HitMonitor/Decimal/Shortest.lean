import HitMonitor.Decimal.Fixed

/-!
# Shortest decimals

The shortest decimal of a binary64 number has the fewest digits among all decimals that round back
to the number, and is the nearest of those.

For each number of digits the two neighbours of the value on that decimal grid are tried in exact
arithmetic; the first grid with a neighbour that rounds back wins.  How the digits are then written
is given by a `Notation` record.
-/

namespace HitMonitor

/-- The decimal `digits * 10 ^ scale`. -/
structure Decimal where
  digits : Nat
  scale : Int
  deriving DecidableEq, Repr

/-- The numbers between two fractions over one denominator, with or without the ends. -/
structure RoundingRange where
  low : Nat
  high : Nat
  denominator : Nat
  closed : Bool

namespace RoundingRange

/-- Whether `count` steps of `stepNumerator / stepDenominator` lie in the range. -/
def contains (range : RoundingRange) (count stepNumerator stepDenominator : Nat) : Bool :=
  let position := count * stepNumerator * range.denominator
  let low := range.low * stepDenominator
  let high := range.high * stepDenominator
  if range.closed then low ≤ position && position ≤ high
  else low < position && position < high

/-- The numbers that round to a positive binary64 number.  Below a power of two the neighbour is
only half as far away. -/
def ofDyadic (value : Dyadic) : RoundingRange :=
  let below :=
    if value.mantissa = Dyadic.leadingBit ∧ value.exponent ≠ Dyadic.lowestExponent then 1 else 2
  let scale := Nat.pow 2 value.exponent.toNat
  { low := (4 * value.mantissa - below) * scale
    high := (4 * value.mantissa + 2) * scale
    denominator := 4 * value.denominator
    closed := value.mantissa % 2 = 0 }

end RoundingRange

namespace Decimal

/-- The number of decimal digits of a number, at least one. -/
def digitCount (number : Nat) : Nat := (toString number).length

/-- The least `shift` from `start` on with `denominator ≤ numerator * 10 ^ shift`, among `fuel`
many. -/
def leadingShift (numerator denominator : Nat) : (fuel start : Nat) → Nat
  | 0, start => start
  | fuel + 1, start =>
      if denominator ≤ numerator * Nat.pow 10 start then start
      else leadingShift numerator denominator fuel (start + 1)

/-- The exponent of the first digit of a positive fraction. -/
def leadingExponent (numerator denominator : Nat) : Int :=
  if denominator ≤ numerator then (digitCount (numerator / denominator) : Int) - 1
  else -(leadingShift numerator denominator 400 1 : Nat)

/-- The neighbour of a positive binary64 number on the grid of step `10 ^ scale` that rounds back to
it, the nearer one if both do. -/
def neighbour? (value : Dyadic) (scale : Int) : Option Nat :=
  let range := RoundingRange.ofDyadic value
  let stepNumerator := Nat.pow 10 scale.toNat
  let stepDenominator := Nat.pow 10 (-scale).toNat
  let numerator := value.numerator * stepDenominator
  let denominator := value.denominator * stepNumerator
  let below := numerator / denominator
  let belowFits := range.contains below stepNumerator stepDenominator
  let aboveFits := range.contains (below + 1) stepNumerator stepDenominator
  if belowFits && aboveFits then some (roundHalfEven numerator denominator)
  else if belowFits then some below
  else if aboveFits then some (below + 1)
  else none

/-- The first of the grids from `count` digits on with a neighbour that rounds back. -/
def search (value : Dyadic) (leading : Int) : (fuel count : Nat) → Decimal
  | 0, count =>
      let scale := leading - count + 1
      ⟨(neighbour? value scale).getD 0, scale⟩
  | fuel + 1, count =>
      let scale := leading - count + 1
      match neighbour? value scale with
      | some digits => ⟨digits, scale⟩
      | none => search value leading fuel (count + 1)

/-- The shortest decimal that rounds to a positive binary64 number.  Seventeen digits are always
enough. -/
def shortest (value : Dyadic) : Decimal :=
  search value (leadingExponent value.numerator value.denominator) 16 1

end Decimal

/-- How a decimal is written. -/
structure Notation where
  /-- The least exponent of the first digit that is written without an exponent. -/
  positionalFrom : Int
  /-- The greatest such exponent. -/
  positionalTo : Int
  /-- The least number of digits of a written exponent. -/
  exponentDigits : Nat

namespace Notation

/-- Write digits whose first one has the given exponent.  A whole number keeps `.0`. -/
def writeDigits (style : Notation) (digits : List Char) (leading : Int) : String :=
  if style.positionalFrom ≤ leading ∧ leading ≤ style.positionalTo then
    if leading < 0 then
      "0." ++ String.ofList (List.replicate ((-leading).toNat - 1) '0' ++ digits)
    else
      let whole := leading.toNat + 1
      let filled := digits ++ List.replicate (whole - digits.length) '0'
      let fraction := filled.drop whole
      String.ofList (filled.take whole) ++ "." ++
        (if fraction.isEmpty then "0" else String.ofList fraction)
  else
    let mark := if leading < 0 then "e-" else "e+"
    let fraction := digits.drop 1
    String.ofList (digits.take 1) ++
      (if fraction.isEmpty then "" else "." ++ String.ofList fraction) ++
      mark ++ paddedDigits style.exponentDigits leading.natAbs

/-- Write a decimal without the zeros at the end of its digits. -/
def writeDecimal (style : Notation) (decimal : Decimal) : String :=
  let digits := (toString decimal.digits).toList
  let significant := (digits.reverse.dropWhile (· == '0')).reverse
  style.writeDigits significant (decimal.scale + digits.length - 1)

/-- Write a binary64 number with its shortest decimal. -/
def writeFloat (style : Notation) (value : Float) : String :=
  match Dyadic.ofFloat? value with
  | none => if value.isNaN then "NaN" else if value < 0 then "-inf" else "inf"
  | some dyadic =>
      let sign := if dyadic.negative then "-" else ""
      if dyadic.mantissa = 0 then sign ++ "0.0"
      else sign ++ style.writeDecimal (.shortest dyadic)

end Notation

end HitMonitor
