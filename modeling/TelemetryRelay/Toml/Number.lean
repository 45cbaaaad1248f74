import TelemetryRelay.Decimal.Nearest
import TelemetryRelay.Text.Scan
import TelemetryRelay.Toml.Text
import TelemetryRelay.Toml.Value

/-!
# Numbers in a document

Whole numbers of 64 bits with a sign, in base ten or, without a sign, in base
sixteen, eight or two; and floating-point numbers.  Single underscores may
stand between digits.  A decimal whole part has no needless zero in front.  A
floating-point number too large for any finite one is refused; below all
negative ones it becomes negative infinity.
-/

namespace TelemetryRelay
namespace Toml

/-- The digits behind a first one, underscores between them left out. -/
def laterDigits (accept : Char -> Bool) : List Char -> List Char × List Char
  | [] => ([], [])
  | '_' :: char :: rest =>
      if accept char then
        (char :: (laterDigits accept rest).1, (laterDigits accept rest).2)
      else ([], '_' :: char :: rest)
  | char :: rest =>
      if accept char then
        (char :: (laterDigits accept rest).1, (laterDigits accept rest).2)
      else ([], char :: rest)

/-- At least one digit. -/
def digits (accept : Char -> Bool) : List Char -> Option (List Char × List Char)
  | [] => none
  | char :: rest =>
      if accept char then
        some (char :: (laterDigits accept rest).1, (laterDigits accept rest).2)
      else none

/-- A decimal whole part: a single zero, or digits that begin with another one. -/
def wholePart : List Char -> Option (List Char × List Char)
  | '0' :: rest => some (['0'], rest)
  | chars => digits Char.isDigit chars

/-- A whole number within 64 bits. -/
def integerOf? (negative : Bool) (magnitude : Nat) : Option Value :=
  if magnitude < UInt64.size / 2 + (if negative then 1 else 0) then
    some (.integer (if negative then -(magnitude : Int) else magnitude))
  else none

def baseOf? (letter : Char) : Option Nat :=
  if letter = 'x' then some 16
  else if letter = 'o' then some 8
  else if letter = 'b' then some 2
  else none

/-- The digits behind a decimal point; none if there is no point. -/
def fractionPart : List Char -> Option (List Char × List Char)
  | '.' :: rest => digits Char.isDigit rest
  | chars => some ([], chars)

/-- The power of ten behind an `e`; zero if there is none. -/
def exponentPart : List Char -> Option (Int × List Char)
  | [] => some (0, [])
  | char :: rest =>
      if char = 'e' ∨ char = 'E' then
        let (negative, unsigned) := signPart rest
        (digits Char.isDigit unsigned).map fun (read, behind) =>
          (if negative then -(valueInBase 10 read : Int) else valueInBase 10 read, behind)
      else some (0, char :: rest)

def realOf? (negative : Bool) (significand : Nat) (exponent : Int) : Option Value :=
  let magnitude := Decimal.nearest significand exponent
  if negative then some (.real (-magnitude))
  else if magnitude.isInf then none
  else some (.real magnitude)

/-- A decimal number behind its sign. -/
def decimalNumber (negative : Bool) (chars : List Char) : Option (Value × List Char) := do
  let (whole, afterWhole) <- wholePart chars
  let (fraction, afterFraction) <- fractionPart afterWhole
  let (exponent, rest) <- exponentPart afterFraction
  let value <-
    if rest.length = afterWhole.length then integerOf? negative (valueInBase 10 whole)
    else realOf? negative (valueInBase 10 (whole ++ fraction)) (exponent - fraction.length)
  return (value, rest)

/-- A number, or one of the words for infinity and for no number. -/
def number (chars : List Char) : Option (Value × List Char) :=
  let (negative, unsigned) := signPart chars
  let signed (value : Float) : Value := .real (if negative then -value else value)
  if unsigned.take 3 = ['i', 'n', 'f'] then some (signed (1.0 / 0.0), unsigned.drop 3)
  else if unsigned.take 3 = ['n', 'a', 'n'] then some (signed (0.0 / 0.0), unsigned.drop 3)
  else
    match chars with
    | '0' :: letter :: rest =>
        match baseOf? letter with
        | none => decimalNumber negative unsigned
        | some base => do
            let (read, behind) <- digits (isDigitInBase base) rest
            return (<- integerOf? false (valueInBase base read), behind)
    | _ => decimalNumber negative unsigned

end Toml
end TelemetryRelay
