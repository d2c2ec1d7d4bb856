import HitMonitor.Decimal.Dyadic

/-!
# Fixed decimal places

A number is rounded to a fixed number of decimal places from its exact value; a half goes to the
even neighbour.
-/

namespace HitMonitor

/-- The whole number nearest to a quotient, a half going to the even neighbour. -/
def roundHalfEven (numerator denominator : Nat) : Nat :=
  let quotient := numerator / denominator
  let twice := 2 * (numerator % denominator)
  if twice < denominator then quotient
  else if denominator < twice then quotient + 1
  else if quotient % 2 = 0 then quotient
  else quotient + 1

/-- A number in decimal digits, filled up with zeros on the left to a least width. -/
def paddedDigits (width number : Nat) : String :=
  let digits := toString number
  String.ofList (List.replicate (width - digits.length) '0') ++ digits

/-- A quotient with a fixed number of decimal places, at least one. -/
def fixedPlaces (places numerator denominator : Nat) : String :=
  let unit := Nat.pow 10 places
  let scaled := roundHalfEven (numerator * unit) denominator
  toString (scaled / unit) ++ "." ++ paddedDigits places (scaled % unit)

/-- A binary64 number with a fixed number of decimal places, at least one. -/
def fixedFloat (places : Nat) (value : Float) : String :=
  match Dyadic.ofFloat? value with
  | some dyadic =>
      (if dyadic.negative then "-" else "") ++
        fixedPlaces places dyadic.numerator dyadic.denominator
  | none =>
      if value.isNaN then "NaN" else if value < 0 then "-inf" else "inf"

end HitMonitor
