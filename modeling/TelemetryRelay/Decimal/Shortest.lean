import TelemetryRelay.Text.Digit

/-!
# The fewest digits that read back

A finite floating-point number stands for every real number that rounds to
it.  Among the decimals in that interval the shortest ones are wanted, and
among those the one nearest to the number itself.  The search looks at the
grids with one, two, ... seventeen significant digits.  On each grid only the
two neighbours of the number have to be tested, and all comparisons are exact
ones between natural numbers.
-/

namespace TelemetryRelay
namespace Decimal

/-- The decimal 0.d₁d₂... times a power of ten.  The first and the last digit
are not zero. -/
structure Digits where
  digits : List Char
  /-- Position of the decimal point, counted from the first digit. -/
  point : Int
deriving DecidableEq, Repr

/-- Which of two equally near neighbours is taken. -/
inductive Tie where
  | toEven
  | upward
deriving DecidableEq, Repr

def roundedQuotient (tie : Tie) (numerator denominator : Nat) : Nat :=
  let below := numerator / denominator
  match compare (2 * (numerator % denominator)) denominator with
  | .lt => below
  | .gt => below + 1
  | .eq =>
      match tie with
      | .toEven => below + below % 2
      | .upward => below + 1

/-- A positive floating-point number `mantissa * 2 ^ exponent`. -/
structure Magnitude where
  mantissa : Nat
  exponent : Int
  /-- The neighbour below is half as far away as the one above. -/
  narrowBelow : Bool
deriving DecidableEq, Repr

/-- The magnitude of a finite number other than zero. -/
def Magnitude.ofFloat? (number : Float) : Option Magnitude :=
  let bits := number.toBits.toNat
  let biased : Nat := bits / Nat.pow 2 52 % Nat.pow 2 11
  let fraction : Nat := bits % Nat.pow 2 52
  if biased = Nat.pow 2 11 - 1 then none
  else if biased = 0 then
    if fraction = 0 then none else some ⟨fraction, -1074, false⟩
  else
    some ⟨Nat.pow 2 52 + fraction, (biased : Int) - 1075, fraction == 0 && 1 < biased⟩

namespace Magnitude

/-- Numerators of the number and of the ends of its interval, and their common
denominator. -/
structure Interval where
  low : Nat
  value : Nat
  high : Nat
  denominator : Nat
  /-- The ends themselves read back as the number. -/
  closed : Bool

/-- All reals that round to the number: half way to each neighbour. -/
def interval (magnitude : Magnitude) : Interval :=
  let quarter := Nat.pow 2 (magnitude.exponent - 2).toNat
  let below := if magnitude.narrowBelow then 1 else 2
  { low := (4 * magnitude.mantissa - below) * quarter
    value := 4 * magnitude.mantissa * quarter
    high := (4 * magnitude.mantissa + 2) * quarter
    denominator := Nat.pow 2 (2 - magnitude.exponent).toNat
    closed := magnitude.mantissa % 2 == 0 }

end Magnitude

/-- Number of decimal digits; zero has none. -/
def digitCount (number : Nat) : Nat :=
  if number = 0 then 0 else (Nat.toDigits 10 number).length

/-- The position of the decimal point of a positive fraction `p`: the number
`k` with `10 ^ (k - 1) ≤ p < 10 ^ k`. -/
def pointOf (numerator denominator : Nat) : Int :=
  if denominator ≤ numerator then
    digitCount (numerator / denominator)
  else
    1 - digitCount ((denominator - 1) / numerator)

/-- Write `count * 10 ^ exponent` as digits without trailing zeros. -/
def Digits.ofGrid (count : Nat) (exponent : Int) : Digits :=
  let written := Nat.toDigits 10 count
  { digits := dropLastZeros written
    point := exponent + written.length }

/-- Whether a point on the grid of a power of ten lies in the interval. -/
def Magnitude.Interval.holds (span : Magnitude.Interval) (exponent : Int) (count : Nat) : Bool :=
  let finer := Nat.pow 10 (-exponent).toNat
  let exact := count * (span.denominator * Nat.pow 10 exponent.toNat)
  if span.closed then span.low * finer ≤ exact && exact ≤ span.high * finer
  else span.low * finer < exact && exact < span.high * finer

/-- The nearest whole number to a fraction, if only some of them are accepted.
Only the two next to the fraction come into question. -/
def nearestAccepted? (tie : Tie) (numerator denominator : Nat) (accepted : Nat -> Bool) :
    Option Nat :=
  let below := numerator / denominator
  match accepted below, accepted (below + 1) with
  | false, false => none
  | true, false => some below
  | false, true => some (below + 1)
  | true, true => some (roundedQuotient tie numerator denominator)

def Magnitude.point (magnitude : Magnitude) : Int :=
  pointOf magnitude.interval.value magnitude.interval.denominator

/-- The point of a grid below the number. -/
def Magnitude.belowOnGrid (magnitude : Magnitude) (exponent : Int) : Nat :=
  magnitude.interval.value * Nat.pow 10 (-exponent).toNat /
    (magnitude.interval.denominator * Nat.pow 10 exponent.toNat)

/-- The nearest point of a grid that reads back as the number.  There may be
none. -/
def Magnitude.nearestOnGrid? (tie : Tie) (magnitude : Magnitude) (exponent : Int) : Option Nat :=
  nearestAccepted? tie (magnitude.interval.value * Nat.pow 10 (-exponent).toNat)
    (magnitude.interval.denominator * Nat.pow 10 exponent.toNat)
    (magnitude.interval.holds exponent)

/-- The nearest decimal with so many digits that reads back as the number. -/
def Magnitude.withPlaces? (tie : Tie) (magnitude : Magnitude) (places : Nat) : Option Digits :=
  let exponent := magnitude.point - places
  (magnitude.nearestOnGrid? tie exponent).map fun count => Digits.ofGrid count exponent

/-- The shortest decimal that reads back as the number.  Seventeen digits
always suffice; the last alternative is the number itself, cut off there. -/
def Magnitude.shortest (tie : Tie) (magnitude : Magnitude) : Digits :=
  match (List.range 17).findSome? fun shorter => magnitude.withPlaces? tie (shorter + 1) with
  | some digits => digits
  | none =>
      let exponent := magnitude.point - 17
      Digits.ofGrid (magnitude.belowOnGrid exponent) exponent

end Decimal
end TelemetryRelay
