import TelemetryRelay.Decimal.Shortest

/-!
# The nearest floating-point number

A decimal, given by its digits as one whole number and a power of ten, is
rounded to the nearest floating-point number, a tie to the even neighbour.
The quotient that becomes the mantissa and what it leaves over are computed
exactly, so that nothing is rounded twice.
-/

namespace TelemetryRelay
namespace Decimal

/-- The exponent of the grid of floating-point numbers around a fraction: the
mantissa has 53 bits there, or fewer on the finest grid of all. -/
def gridExponent (numerator denominator : Nat) : Int :=
  let estimate : Int := (numerator.log2 : Int) - denominator.log2 - 53
  let mantissa :=
    numerator * Nat.pow 2 (-estimate).toNat / (denominator * Nat.pow 2 estimate.toNat)
  max (-1074) (if Nat.pow 2 53 ≤ mantissa then estimate + 1 else estimate)

def infinityBits : Nat :=
  2047 * Nat.pow 2 52

/-- The bits of the number nearest to a positive fraction.  A mantissa that is
rounded up to the next power of two carries into the exponent, and an exponent
that is too large means infinity. -/
def nearestBits (numerator denominator : Nat) : Nat :=
  let exponent := gridExponent numerator denominator
  let mantissa := roundedQuotient .toEven (numerator * Nat.pow 2 (-exponent).toNat)
    (denominator * Nat.pow 2 exponent.toNat)
  min infinityBits ((exponent + 1074).toNat * Nat.pow 2 52 + mantissa)

/-- The number nearest to `significand * 10 ^ exponent`.  Decimals that are far
beyond all finite numbers, or far closer to zero than to any other number, are
recognised by their size. -/
def nearest (significand : Nat) (exponent : Int) : Float :=
  let point := exponent + digitCount significand
  if significand = 0 ∨ point < -330 then 0.0
  else if 310 < point then Float.ofBits infinityBits.toUInt64
  else
    Float.ofBits
      (nearestBits (significand * Nat.pow 10 exponent.toNat)
        (Nat.pow 10 (-exponent).toNat)).toUInt64

end Decimal
end TelemetryRelay
