import TelemetryRelay.Decimal.Shortest

/-!
# Layout of floating-point numbers

The digits of a number are chosen once and written in one of several layouts.
A layout says which numbers are written positionally, whether a whole number
keeps a fractional zero, and which way a tie between two shortest decimals
goes.  Everything else is common: a minus sign for negative numbers and for
negative zero, and an exponent with its sign.
-/

namespace TelemetryRelay
namespace Decimal

/-- How the digits of a number are set out. -/
structure Layout where
  tie : Tie
  /-- A whole number written positionally ends in `.0`. -/
  pointZero : Bool
  /-- Positions of the decimal point, first and last, for which the number is
  written without an exponent; every position if absent. -/
  positional : Option (Int × Int)

/-- The layout of numbers inside a document: an exponent from `1e16` on and
below `1e-5`, and a fractional zero on whole numbers. -/
def Layout.document : Layout :=
  { tie := .toEven, pointZero := true, positional := some (-4, 16) }

/-- The layout of a number that becomes a text: never an exponent, and no
needless fraction. -/
def Layout.plain : Layout :=
  { tie := .upward, pointZero := false, positional := none }

/-- The layout of a number cited in a message: never an exponent, and always a
fraction. -/
def Layout.cited : Layout :=
  { tie := .upward, pointZero := true, positional := none }

def Layout.isPositional (layout : Layout) (point : Int) : Bool :=
  match layout.positional with
  | none => true
  | some (first, last) => first ≤ point && point ≤ last

def Layout.positionalText (layout : Layout) (number : Digits) : List Char :=
  let whole := number.digits.length
  let places := number.point.toNat
  if number.point ≤ 0 then
    '0' :: '.' :: (List.replicate (-number.point).toNat '0' ++ number.digits)
  else if whole ≤ places then
    number.digits ++ List.replicate (places - whole) '0' ++
      (if layout.pointZero then ['.', '0'] else [])
  else
    number.digits.take places ++ '.' :: number.digits.drop places

/-- Set digits out with one of them before the point, and an exponent. -/
def scientificText (number : Digits) : List Char :=
  let exponent := number.point - 1
  let mantissa :=
    match number.digits with
    | [] => ['0']
    | [digit] => [digit]
    | digit :: rest => digit :: '.' :: rest
  mantissa ++ ['e', if exponent < 0 then '-' else '+'] ++ Nat.toDigits 10 exponent.natAbs

def zeroDigits : Digits :=
  { digits := ['0'], point := 1 }

def Layout.render (layout : Layout) (number : Float) : String :=
  if number.isNaN then
    "NaN"
  else
    let sign := if number.toBits >>> 63 = 1 then "-" else ""
    if number.isInf then
      sign ++ "inf"
    else
      let digits :=
        match Magnitude.ofFloat? number with
        | some magnitude => magnitude.shortest layout.tie
        | none => zeroDigits
      sign ++ String.ofList
        (if layout.isPositional digits.point then layout.positionalText digits
          else scientificText digits)

end Decimal
end TelemetryRelay
