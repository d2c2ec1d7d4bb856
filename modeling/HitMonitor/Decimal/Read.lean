import HitMonitor.Decimal.Shortest

/-!
# Reading numbers

Numbers as they are written in command lines: digits behind an optional sign, and for floats also a
fraction, an exponent and the names of infinity and NaN.
-/

namespace HitMonitor

/-- The number that some digits stand for. -/
def digitsValue (digits : List Char) : Nat :=
  digits.foldl (fun value digit => 10 * value + (digit.toNat - '0'.toNat)) 0

/-- One or more digits. -/
def readDigits? (characters : List Char) : Option Nat :=
  if characters ≠ [] ∧ characters.all Char.isDigit then some (digitsValue characters) else none

/-- Whether a minus sign leads, and what follows the sign. -/
def splitSign : List Char → Bool × List Char
  | '-' :: rest => (true, rest)
  | '+' :: rest => (false, rest)
  | characters => (false, characters)

/-- An integer with an optional sign. -/
def readInteger? (text : String) : Option Int :=
  let (negative, rest) := splitSign text.toList
  (readDigits? rest).map fun value => if negative then -(value : Int) else value

/-- A natural number up to a limit.  Only a plus sign may lead. -/
def readNatural? (limit : Nat) (text : String) : Option Nat :=
  let digits := match text.toList with
    | '+' :: rest => rest
    | characters => characters
  (readDigits? digits).filter (· ≤ limit)

/-- An integer between two bounds. -/
def readWithin? (low high : Nat) (text : String) : Option Nat :=
  (readInteger? text).bind fun value =>
    if (low : Int) ≤ value ∧ value ≤ high then some value.toNat else none

/-- The exponent behind the digits of a number, zero where there is none. -/
def readExponent? : List Char → Option Int
  | [] => some 0
  | letter :: rest =>
      if letter = 'e' ∨ letter = 'E' then
        let (negative, digits) := splitSign rest
        (readDigits? digits).map fun value => if negative then -(value : Int) else value
      else none

/-- Decimals of at least this many digits before the point are infinite, and decimals with as many
zeros behind it are zero. -/
def floatDigits : Int := 400

/-- The nearest binary64 number to a decimal. -/
def Decimal.toFloat (decimal : Decimal) : Float :=
  let leading := decimal.scale + digitCount decimal.digits
  if decimal.digits = 0 ∨ leading < -floatDigits then 0
  else if floatDigits < leading then 1 / 0
  else if decimal.scale < 0 then
    Float.ofScientific decimal.digits true decimal.scale.natAbs
  else
    Float.ofScientific decimal.digits false decimal.scale.natAbs

/-- Digits with an optional fraction and an optional exponent.  There is at least one digit before
or behind the point. -/
def readDecimal? (characters : List Char) : Option Decimal :=
  let whole := characters.takeWhile Char.isDigit
  let rest := characters.dropWhile Char.isDigit
  let (fraction, rest) := match rest with
    | '.' :: rest => (rest.takeWhile Char.isDigit, rest.dropWhile Char.isDigit)
    | rest => ([], rest)
  let digits := whole ++ fraction
  if digits.isEmpty then none
  else (readExponent? rest).map fun exponent =>
    ⟨digitsValue digits, exponent - fraction.length⟩

/-- A binary64 number. -/
def readFloat? (text : String) : Option Float :=
  let (negative, rest) := splitSign text.toList
  let name := (String.ofList rest).toLower
  let magnitude :=
    if name = "inf" ∨ name = "infinity" then some (1 / 0)
    else if name = "nan" then some (0 / 0)
    else (readDecimal? rest).map Decimal.toFloat
  magnitude.map fun value => if negative then -value else value

end HitMonitor
