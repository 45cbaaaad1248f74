import TelemetryRelay.Decimal.Nearest
import TelemetryRelay.Text.Scan

/-!
# Numbers that a text spells

A text spells a whole number if it consists of decimal digits, with a sign in
front or not.  It spells a floating-point number if it is a decimal fraction,
with a digit on one side of the point at least and perhaps an exponent, or a
word for infinity or for no number.  Nothing else may be in the text, not even
blanks.
-/

namespace TelemetryRelay
namespace Decimal

/-- The natural number that a text spells.  A plus sign is allowed. -/
def naturalOfText? (text : String) : Option Nat :=
  let digits :=
    match text.toList with
    | '+' :: rest => rest
    | chars => chars
  if digits.isEmpty || !digits.all Char.isDigit then none else some (valueInBase 10 digits)

def integerOfText? (text : String) : Option Int :=
  let (negative, digits) := signPart text.toList
  if digits.isEmpty || !digits.all Char.isDigit then none
  else some (if negative then -(valueInBase 10 digits : Int) else valueInBase 10 digits)

/-- The power of ten behind an `e`; zero at the end of the text. -/
def exponentOfChars? : List Char -> Option Int
  | [] => some 0
  | char :: rest =>
      if char = 'e' ∨ char = 'E' then
        let (negative, digits) := signPart rest
        if digits.isEmpty || !digits.all Char.isDigit then none
        else some (if negative then -(valueInBase 10 digits : Int) else valueInBase 10 digits)
      else none

/-- The size of the number that a text without a sign spells. -/
def magnitudeOfChars? (chars : List Char) : Option Float :=
  let word := String.ofList (chars.map Char.toLower)
  if word = "inf" ∨ word = "infinity" then some (1.0 / 0.0)
  else if word = "nan" then some (0.0 / 0.0)
  else
    let whole := chars.takeWhile Char.isDigit
    let (fraction, rest) :=
      match chars.dropWhile Char.isDigit with
      | '.' :: behind => (behind.takeWhile Char.isDigit, behind.dropWhile Char.isDigit)
      | behind => ([], behind)
    if whole.isEmpty && fraction.isEmpty then none
    else
      (exponentOfChars? rest).map fun exponent =>
        nearest (valueInBase 10 (whole ++ fraction)) (exponent - fraction.length)

def realOfText? (text : String) : Option Float :=
  let (negative, chars) := signPart text.toList
  (magnitudeOfChars? chars).map fun magnitude => if negative then -magnitude else magnitude

end Decimal
end TelemetryRelay
