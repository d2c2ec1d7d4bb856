/-!
# Binary64 numbers as fractions

A finite binary64 number is a whole number times a power of two.  Everything printed about such a
number is worked out on that exact value.
-/

namespace HitMonitor

/-- The number `mantissa * 2 ^ exponent`, negated where the sign says so. -/
structure Dyadic where
  negative : Bool
  mantissa : Nat
  exponent : Int
  deriving DecidableEq, Repr

namespace Dyadic

/-- The lowest exponent of a binary64 number. -/
def lowestExponent : Int := -1074

/-- The mantissa of a binary64 number has its top bit here, unless the number is subnormal. -/
def leadingBit : Nat := Nat.pow 2 52

/-- The exact value of a binary64 number; infinities and NaN have none. -/
def ofFloat? (value : Float) : Option Dyadic :=
  let bits := value.toBits.toNat
  let negative := bits / Nat.pow 2 63 = 1
  let biased := bits / leadingBit % 2048
  let fraction := bits % leadingBit
  if biased = 2047 then none
  else if biased = 0 then some ⟨negative, fraction, lowestExponent⟩
  else some ⟨negative, leadingBit + fraction, lowestExponent + (biased - 1 : Nat)⟩

/-- Numerator of the absolute value over `denominator`. -/
def numerator (value : Dyadic) : Nat := value.mantissa * Nat.pow 2 value.exponent.toNat

/-- A power of two. -/
def denominator (value : Dyadic) : Nat := Nat.pow 2 (-value.exponent).toNat

end Dyadic

end HitMonitor
