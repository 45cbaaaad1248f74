/-!
# Digits

The values of decimal and hexadecimal digits, letters in either case, and the
characters of code points that are given by their digits.
-/

namespace TelemetryRelay

def decimalValue? (char : Char) : Option Nat :=
  if char.isDigit then some (char.toNat - '0'.toNat) else none

def hexValue? (char : Char) : Option Nat :=
  if char.isDigit then some (char.toNat - '0'.toNat)
  else if 'a' ≤ char ∧ char ≤ 'f' then some (char.toNat - 'a'.toNat + 10)
  else if 'A' ≤ char ∧ char ≤ 'F' then some (char.toNat - 'A'.toNat + 10)
  else none

/-- Whether a character is a digit in a base of at most sixteen. -/
def isDigitInBase (base : Nat) (char : Char) : Bool :=
  ((hexValue? char).filter (· < base)).isSome

/-- The natural number that digits in a base of at most sixteen stand for. -/
def valueInBase (base : Nat) (digits : List Char) : Nat :=
  digits.foldl (fun value digit => value * base + (hexValue? digit).getD 0) 0

/-- The natural number that a text of digits in a base stands for.  No digits
stand for none. -/
def naturalInBase? (base : Nat) (digits : List Char) : Option Nat :=
  if digits.isEmpty || !digits.all (isDigitInBase base) then none
  else some (valueInBase base digits)

/-- Leave out the zeros at the end of digits. -/
def dropLastZeros (digits : List Char) : List Char :=
  (digits.reverse.dropWhile (· == '0')).reverse

/-- The number that so many hexadecimal digits stand for, and what follows them. -/
def hexNumber? (count : Nat) (chars : List Char) : Option (Nat × List Char) :=
  let digits := chars.take count
  if digits.length = count then
    (naturalInBase? 16 digits).map fun number => (number, chars.drop count)
  else none

/-- The character of a code point, if there is one. -/
def charOfCode? (code : Nat) : Option Char :=
  if code.isValidChar then some (Char.ofNat code) else none

end TelemetryRelay
