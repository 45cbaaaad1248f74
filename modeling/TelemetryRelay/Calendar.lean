/-!
# Days of the calendar

Dates of the Gregorian calendar, continued without bounds in both directions,
and the number of days between them.  Years are counted from March here, so
that the day of a leap year comes last.  Four hundred years are always
146097 days, each of the first three of their centuries 36524 days, each full
cycle of four years 1461 days.
-/

namespace TelemetryRelay

/-- A day, given by its year, month and day of the month. -/
structure Date where
  year : Int
  month : Nat
  day : Nat
deriving DecidableEq, Repr

namespace Date

def isLeap (year : Int) : Bool :=
  year % 4 == 0 && (year % 100 != 0 || year % 400 == 0)

def monthLength (year : Int) (month : Nat) : Nat :=
  if month = 2 then (if isLeap year then 29 else 28)
  else if month = 4 ∨ month = 6 ∨ month = 9 ∨ month = 11 then 30
  else 31

def exists? (date : Date) : Bool :=
  1 ≤ date.month && date.month ≤ 12 && 1 ≤ date.day &&
    date.day ≤ monthLength date.year date.month

/-- Number of days from the first of January 1970 to a date. -/
def dayNumber (date : Date) : Int :=
  let year := if date.month ≤ 2 then date.year - 1 else date.year
  let month := (date.month + 9) % 12
  365 * year + year / 4 - year / 100 + year / 400 +
    ((153 * month + 2) / 5 + date.day : Nat) - 719469

/-- The date so many days after the first of January 1970. -/
def ofDayNumber (number : Int) : Date :=
  let shifted := number + 719468
  let era := shifted / 146097
  let inEra := (shifted % 146097).toNat
  let century := min (inEra / 36524) 3
  let inCentury := inEra - 36524 * century
  let cycle := inCentury / 1461
  let inCycle := inCentury % 1461
  let single := min (inCycle / 365) 3
  let inYear := inCycle - 365 * single
  let year := 400 * era + (100 * century + 4 * cycle + single : Nat)
  let month := (5 * inYear + 2) / 153
  let day := inYear - (153 * month + 2) / 5 + 1
  if month < 10 then { year, month := month + 3, day }
  else { year := year + 1, month := month - 9, day }

/-- The days before a year that is given by its place in the cycles. -/
theorem daysBefore_cycles (era : Int) {century cycle single : Nat}
    (century_le : century ≤ 3) (cycle_le : cycle ≤ 24) (single_le : single ≤ 3) :
    365 * (400 * era + ((100 * century + 4 * cycle + single : Nat) : Int)) +
        (400 * era + ((100 * century + 4 * cycle + single : Nat) : Int)) / 4 -
        (400 * era + ((100 * century + 4 * cycle + single : Nat) : Int)) / 100 +
        (400 * era + ((100 * century + 4 * cycle + single : Nat) : Int)) / 400 =
      146097 * era + 36524 * century + 1461 * cycle + 365 * single := by
  omega

/-- Counting the days of the date that a number of days leads to gives the
number back. -/
theorem dayNumber_ofDayNumber (number : Int) : dayNumber (ofDayNumber number) = number := by
  unfold ofDayNumber
  dsimp only
  have eraDays : number = 146097 * ((number + 719468) / 146097) +
      ((number + 719468) % 146097).toNat - 719468 := by omega
  have inEra_lt : ((number + 719468) % 146097).toNat < 146097 := by omega
  generalize (number + 719468) / 146097 = era at *
  generalize ((number + 719468) % 146097).toNat = inEra at *
  have century_le : min (inEra / 36524) 3 ≤ 3 := by omega
  have centuryDays : inEra = 36524 * min (inEra / 36524) 3 +
      (inEra - 36524 * min (inEra / 36524) 3) := by omega
  have inCentury_le : inEra - 36524 * min (inEra / 36524) 3 ≤ 36524 := by omega
  generalize min (inEra / 36524) 3 = century at *
  generalize inEra - 36524 * century = inCentury at *
  have cycle_le : inCentury / 1461 ≤ 24 := by omega
  have cycleDays : inCentury = 1461 * (inCentury / 1461) + inCentury % 1461 := by omega
  have inCycle_lt : inCentury % 1461 < 1461 := by omega
  generalize inCentury / 1461 = cycle at *
  generalize inCentury % 1461 = inCycle at *
  have single_le : min (inCycle / 365) 3 ≤ 3 := by omega
  have singleDays : inCycle = 365 * min (inCycle / 365) 3 +
      (inCycle - 365 * min (inCycle / 365) 3) := by omega
  have inYear_le : inCycle - 365 * min (inCycle / 365) 3 ≤ 365 := by omega
  generalize min (inCycle / 365) 3 = single at *
  generalize inCycle - 365 * single = inYear at *
  have yearDays := daysBefore_cycles era century_le cycle_le single_le
  have month_le : (5 * inYear + 2) / 153 ≤ 11 := by omega
  have monthDays : (153 * ((5 * inYear + 2) / 153) + 2) / 5 ≤ inYear := by omega
  generalize (5 * inYear + 2) / 153 = month at *
  split
  · have late : ¬ month + 3 ≤ 2 := by omega
    have shifted : (month + 3 + 9) % 12 = month := by omega
    simp only [dayNumber, if_neg late, shifted]
    rw [yearDays]
    omega
  · have early : month - 9 ≤ 2 := by omega
    have shifted : (month - 9 + 9) % 12 = month := by omega
    simp only [dayNumber, if_pos early, shifted, Int.add_sub_cancel]
    rw [yearDays]
    omega

end Date
end TelemetryRelay
