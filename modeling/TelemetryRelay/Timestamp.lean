import TelemetryRelay.Calendar
import TelemetryRelay.Text.Blank
import TelemetryRelay.Text.Digit

/-!
# Points in time

A point in time is a number of seconds since 1970 and a fraction of a second.
During a leap second the fraction goes beyond one second, in the last second
of a minute.

Times are written in universal time, with as many groups of three fraction
digits as the fraction needs.  A year of more or less than four digits has a
sign.  Reading accepts more: blanks in some places, missing leading zeros, a
fraction of any length and any difference to universal time of less than a
day.
-/

namespace TelemetryRelay

/-- A point in time, in universal time. -/
structure Timestamp where
  /-- Whole seconds since the beginning of 1970. -/
  seconds : Int
  /-- Nanoseconds in the second; a billion or more in a leap second. -/
  nanos : Nat
deriving DecidableEq, Repr

namespace Timestamp

/-! ## Writing -/

def padded (width number : Nat) : List Char :=
  let digits := Nat.toDigits 10 number
  List.replicate (width - digits.length) '0' ++ digits

/-- A year of four digits, with a sign if it is out of their range. -/
def yearText (year : Int) : List Char :=
  if 0 ≤ year ∧ year ≤ 9999 then padded 4 year.toNat
  else (if year < 0 then '-' else '+') :: padded 4 year.natAbs

/-- The fraction of a second, in the fewest groups of three digits. -/
def fractionText (nanos : Nat) : List Char :=
  if nanos = 0 then []
  else if nanos % 1000000 = 0 then '.' :: padded 3 (nanos / 1000000)
  else if nanos % 1000 = 0 then '.' :: padded 6 (nanos / 1000)
  else '.' :: padded 9 nanos

def text (time : Timestamp) : String :=
  let date := Date.ofDayNumber (time.seconds / 86400)
  let inDay := (time.seconds % 86400).toNat
  let leap := time.nanos / 1000000000
  String.ofList
    (yearText date.year ++ '-' :: padded 2 date.month ++ '-' :: padded 2 date.day ++
      'T' :: padded 2 (inDay / 3600) ++ ':' :: padded 2 (inDay / 60 % 60) ++
      ':' :: padded 2 (inDay % 60 + leap) ++ fractionText (time.nanos % 1000000000) ++ ['Z'])

/-! ## Reading -/

inductive Fault where
  | outOfRange
  | impossible
  | invalid
  | premature
  | trailing
deriving DecidableEq, Repr

def Fault.message : Fault -> String
  | outOfRange => "input is out of range"
  | impossible => "no possible date and time matching input"
  | invalid => "input contains invalid characters"
  | premature => "premature end of input"
  | trailing => "trailing input"

/-- Digits, at most so many of them, behind what has been read of a number. -/
def moreDigits : (most value : Nat) -> List Char -> Nat × List Char
  | 0, value, chars => (value, chars)
  | _ + 1, value, [] => (value, [])
  | most + 1, value, char :: rest =>
      match decimalValue? char with
      | some digit => moreDigits most (value * 10 + digit) rest
      | none => (value, char :: rest)

/-- A number of at least one and at most so many digits. -/
def number (most : Nat) : List Char -> Except Fault (Nat × List Char)
  | [] => .error .premature
  | char :: rest =>
      match decimalValue? char with
      | some digit => .ok (moreDigits (most - 1) digit rest)
      | none => .error .invalid

/-- A number of one or two digits within bounds, behind blanks. -/
def bounded (least most : Nat) (chars : List Char) : Except Fault (Nat × List Char) := do
  let (value, rest) <- number 2 (dropBlanks chars)
  if least ≤ value ∧ value ≤ most then
    return (value, rest)
  else
    throw .outOfRange

/-- A year behind blanks: up to four digits, or any number of them behind a
sign. -/
def yearPart (chars : List Char) : Except Fault (Int × List Char) :=
  match dropBlanks chars with
  | '-' :: rest => (number rest.length rest).map fun (value, behind) => (-(value : Int), behind)
  | '+' :: rest => (number rest.length rest).map fun (value, behind) => ((value : Int), behind)
  | rest => (number 4 rest).map fun (value, behind) => ((value : Int), behind)

def separator (wanted : Char) (chars : List Char) : Except Fault (List Char) :=
  match dropBlanks chars with
  | [] => .error .premature
  | char :: rest => if char = wanted then .ok rest else .error .invalid

/-- What stands between a date and a time. -/
def dateEnd : List Char -> Except Fault (List Char)
  | [] => .error .premature
  | char :: rest =>
      if char = 'T' ∨ char = 't' ∨ char = ' ' then .ok rest else .error .invalid

/-- The fraction of a second in nanoseconds, if there is one.  Digits behind
the ninth are dropped. -/
def fractionPart (chars : List Char) : Except Fault (Nat × List Char) :=
  match chars with
  | '.' :: rest =>
      match number 9 rest with
      | .error fault => .error fault
      | .ok (value, behind) =>
          .ok (value * Nat.pow 10 (9 - (rest.length - behind.length)), behind.dropWhile Char.isDigit)
  | _ => .ok (0, chars)

/-- A two-digit number below sixty, the minutes of a difference. -/
def offsetMinutes : List Char -> Except Fault (Nat × List Char)
  | [] => .error .premature
  | [char] => .error (if char.utf8Size = 1 then .premature else .invalid)
  | tens :: ones :: rest =>
      match decimalValue? tens, decimalValue? ones with
      | some high, some low =>
          if high < 6 then .ok (high * 10 + low, rest) else .error .outOfRange
      | _, _ => .error .invalid

/-- A two-digit number, the hours of a difference. -/
def offsetHours : List Char -> Except Fault (Nat × List Char)
  | [] => .error .premature
  | [char] => .error (if char.utf8Size = 1 then .premature else .invalid)
  | tens :: ones :: rest =>
      match decimalValue? tens, decimalValue? ones with
      | some high, some low => .ok (high * 10 + low, rest)
      | _, _ => .error .invalid

/-- The seconds that a local time is ahead of universal time, given by hours
and minutes. -/
def offsetDigits (chars : List Char) : Except Fault (Nat × List Char) := do
  let (hours, rest) <- offsetHours chars
  let (minutes, rest) <- offsetMinutes (rest.dropWhile fun char => char == ':' || isBlank char)
  return (hours * 3600 + minutes * 60, rest)

def offsetPart (chars : List Char) : Except Fault (Int × List Char) :=
  if (chars.take 3).map Char.toUpper = ['U', 'T', 'C'] then .ok (0, chars.drop 3)
  else
    match chars with
    | [] => .error .premature
    | sign :: rest =>
        if sign = 'Z' ∨ sign = 'z' then .ok (0, rest)
        else if sign = '+' then
          (offsetDigits rest).map fun (value, behind) => ((value : Int), behind)
        else if sign = '-' ∨ sign = '−' then
          (offsetDigits rest).map fun (value, behind) => (-(value : Int), behind)
        else .error .invalid

/-- A time of the day: seconds since midnight, and nanoseconds. -/
def clockPart (chars : List Char) : Except Fault ((Nat × Nat) × List Char) := do
  let (hour, rest) <- bounded 0 23 chars
  let (minute, rest) <- bounded 0 59 (<- separator ':' rest)
  let (second, rest) <- bounded 0 60 (<- separator ':' rest)
  let (fraction, rest) <- fractionPart rest
  let leap := second / 60
  return ((hour * 3600 + minute * 60 + (second - leap), leap * 1000000000 + fraction), rest)

/-- A date, not yet checked against the calendar. -/
def datePart (chars : List Char) : Except Fault (Date × List Char) := do
  let (year, rest) <- yearPart chars
  if year < -2147483648 ∨ 2147483648 ≤ year then
    throw .outOfRange
  let (month, rest) <- bounded 1 12 (<- separator '-' rest)
  let (day, rest) <- bounded 1 31 (<- separator '-' rest)
  return ({ year, month, day }, rest)

/-- First and last day that can be represented. -/
def firstDay : Int :=
  Date.dayNumber { year := -262143, month := 1, day := 1 }

@[inherit_doc firstDay]
def lastDay : Int :=
  Date.dayNumber { year := 262142, month := 12, day := 31 }

/-- The point in time that a local time stands for. -/
def ofLocal (date : Date) (clock nanos : Nat) (offset : Int) : Except Fault Timestamp :=
  let day := date.dayNumber
  if !date.exists? || day < firstDay || lastDay < day then .error .outOfRange
  else if offset ≤ -86400 ∨ 86400 ≤ offset then .error .outOfRange
  else
    let seconds := day * 86400 + clock - offset
    if seconds / 86400 < firstDay ∨ lastDay < seconds / 86400 then .error .impossible
    else .ok { seconds, nanos }

def ofText (text : String) : Except Fault Timestamp := do
  let (date, rest) <- datePart text.toList
  let ((clock, nanos), rest) <- clockPart (<- dateEnd rest)
  let (offset, rest) <- offsetPart (dropBlanks rest)
  if (dropBlanks rest).isEmpty then
    ofLocal date clock nanos offset
  else
    throw .trailing

end Timestamp
end TelemetryRelay
