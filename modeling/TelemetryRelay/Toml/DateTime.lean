import TelemetryRelay.Calendar
import TelemetryRelay.Text.Digit
import TelemetryRelay.Text.Scan
import TelemetryRelay.Toml.Value

/-!
# Dates and times in a document

A date, a time of the day, or a date with a time and perhaps a difference to
universal time.  The normal form puts a `T` between date and time, a `Z` for
universal time, and keeps at most nine fraction digits without trailing
zeros.
-/

namespace TelemetryRelay
namespace Toml
namespace DateTime

def fixedDigits : (count : Nat) -> List Char -> Option (List Char × List Char)
  | 0, chars => some ([], chars)
  | _ + 1, [] => none
  | count + 1, char :: rest =>
      if char.isDigit then
        (fixedDigits count rest).map fun (read, behind) => (char :: read, behind)
      else none

/-- Two digits for a number up to a bound. -/
def twoDigits (most : Nat) (chars : List Char) : Option (List Char × List Char) := do
  let (read, rest) <- fixedDigits 2 chars
  if valueInBase 10 read ≤ most then
    return (read, rest)
  else
    none

def date (chars : List Char) : Option (List Char × List Char) := do
  let (year, rest) <- fixedDigits 4 chars
  let (month, rest) <- fixedDigits 2 (<- expect '-' rest)
  let (day, rest) <- fixedDigits 2 (<- expect '-' rest)
  let read : Date :=
    { year := valueInBase 10 year, month := valueInBase 10 month, day := valueInBase 10 day }
  if read.exists? then
    return (year ++ '-' :: month ++ '-' :: day, rest)
  else
    none

def fraction (chars : List Char) : Option (List Char × List Char) :=
  match chars with
  | '.' :: rest =>
      let read := rest.takeWhile Char.isDigit
      let kept := dropLastZeros (read.take 9)
      if read.isEmpty then none
      else some (if kept.isEmpty then [] else '.' :: kept, rest.dropWhile Char.isDigit)
  | _ => some ([], chars)

def time (chars : List Char) : Option (List Char × List Char) := do
  let (hour, rest) <- twoDigits 23 chars
  let (minute, rest) <- twoDigits 59 (<- expect ':' rest)
  let (second, rest) <- twoDigits 60 (<- expect ':' rest)
  let (part, rest) <- fraction rest
  return (hour ++ ':' :: minute ++ ':' :: second ++ part, rest)

/-- A difference to universal time.  No difference has a plus sign. -/
def offset (chars : List Char) : Option (List Char × List Char) :=
  match chars with
  | [] => none
  | sign :: rest =>
      if sign = 'Z' ∨ sign = 'z' then some (['Z'], rest)
      else if sign = '+' ∨ sign = '-' then do
        let (hour, rest) <- twoDigits 23 rest
        let (minute, rest) <- twoDigits 59 (<- expect ':' rest)
        let same := valueInBase 10 hour = 0 ∧ valueInBase 10 minute = 0
        return ((if same then '+' else sign) :: hour ++ ':' :: minute, rest)
      else none

/-- A time behind a date, with a difference to universal time if there is one. -/
def timeBehindDate (chars : List Char) : Option (List Char × List Char) :=
  match chars with
  | [] => none
  | char :: rest =>
      if char = 'T' ∨ char = 't' ∨ char = ' ' then
        (time rest).map fun (clock, behind) =>
          match offset behind with
          | some (difference, last) => ('T' :: clock ++ difference, last)
          | none => ('T' :: clock, behind)
      else none

/-- A date, a time or both. -/
def read (chars : List Char) : Option (Value × List Char) :=
  match date chars with
  | some (day, rest) =>
      match timeBehindDate rest with
      | some (clock, behind) => some (.dateTime (String.ofList (day ++ clock)), behind)
      | none => some (.dateTime (String.ofList day), rest)
  | none => (time chars).map fun (clock, rest) => (.dateTime (String.ofList clock), rest)

end DateTime
end Toml
end TelemetryRelay
