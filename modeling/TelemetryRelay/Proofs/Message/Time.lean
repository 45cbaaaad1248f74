import Mathlib.Tactic.IntervalCases
import TelemetryRelay.Proofs.Text.Digit
import TelemetryRelay.Timestamp

/-!
# Points in time are read back

A point in time of a year with four digits is written in digits of a fixed
number, each field behind a separator of its own.  The reader takes no more
digits than a field has, so what follows a field does not matter; only the
fraction of a second is ended by the letter behind it.
-/

namespace TelemetryRelay

/-! ## Dates -/

namespace Date

/-- A number of days leads to a day of the calendar.  The last day of a year
that is counted from March is its 366th only if four years are complete, and
if with them a century is complete, so are four centuries. -/
theorem exists_ofDayNumber (number : Int) : (ofDayNumber number).exists? = true := by
  unfold ofDayNumber
  dsimp only
  have inEra_lt : ((number + 719468) % 146097).toNat < 146097 := by omega
  generalize (number + 719468) / 146097 = era at *
  generalize ((number + 719468) % 146097).toNat = inEra at *
  have century_le : min (inEra / 36524) 3 ≤ 3 := by omega
  have inCentury_le : inEra - 36524 * min (inEra / 36524) 3 ≤ 36524 := by omega
  have longCentury : inEra - 36524 * min (inEra / 36524) 3 = 36524 ->
      min (inEra / 36524) 3 = 3 := by omega
  generalize min (inEra / 36524) 3 = century at *
  generalize inEra - 36524 * century = inCentury at *
  have cycleDays : inCentury = 1461 * (inCentury / 1461) + inCentury % 1461 := by omega
  have cycle_le : inCentury / 1461 ≤ 24 := by omega
  have inCycle_lt : inCentury % 1461 < 1461 := by omega
  generalize inCentury / 1461 = cycle at *
  generalize inCentury % 1461 = inCycle at *
  have single_le : min (inCycle / 365) 3 ≤ 3 := by omega
  have inYear_le : inCycle - 365 * min (inCycle / 365) 3 ≤ 365 := by omega
  have longYear : inCycle - 365 * min (inCycle / 365) 3 = 365 ->
      min (inCycle / 365) 3 = 3 ∧ inCycle = 1460 := by omega
  generalize min (inCycle / 365) 3 = single at *
  generalize inCycle - 365 * single = inYear at *
  have month_le : (5 * inYear + 2) / 153 ≤ 11 := by omega
  have leap : inYear = 365 ->
      isLeap (400 * era + ((100 * century + 4 * cycle + single : Nat) : Int) + 1) = true := by
    intro last
    obtain ⟨fourth, complete⟩ := longYear last
    have closing : cycle = 24 -> century = 3 := fun cycles => longCentury (by omega)
    have byFour : (400 * era + ((100 * century + 4 * cycle + single : Nat) : Int) + 1) % 4 = 0 := by
      omega
    rw [isLeap, Bool.and_eq_true, Bool.or_eq_true, beq_iff_eq, bne_iff_ne, beq_iff_eq]
    refine ⟨byFour, ?_⟩
    by_cases cycles : cycle = 24
    · exact Or.inr (by have centuries := closing cycles; omega)
    · exact Or.inl (by omega)
  generalize month_eq : (5 * inYear + 2) / 153 = month at *
  generalize 400 * era + ((100 * century + 4 * cycle + single : Nat) : Int) = year at *
  have exists_iff (year : Int) (month day : Nat) :
      exists? { year, month, day } = true ↔
        ((1 ≤ month ∧ month ≤ 12) ∧ 1 ≤ day) ∧ day ≤ monthLength year month := by
    simp only [exists?, Bool.and_eq_true, decide_eq_true_iff]
  split
  · rw [exists_iff]
    refine ⟨by omega, ?_⟩
    interval_cases month <;> simp [monthLength] <;> omega
  · rw [exists_iff]
    refine ⟨by omega, ?_⟩
    interval_cases month
    · change _ ≤ 31
      omega
    · change _ ≤ if isLeap (year + 1) = true then 29 else 28
      split
      · omega
      · have notLast : inYear ≠ 365 := fun last => absurd (leap last) ‹_›
        omega

theorem bounds_of_exists {date : Date} (exists_date : date.exists? = true) :
    1 ≤ date.month ∧ date.month ≤ 12 ∧ 1 ≤ date.day ∧ date.day ≤ 31 := by
  simp only [exists?, Bool.and_eq_true, decide_eq_true_iff] at exists_date
  obtain ⟨⟨⟨first, last⟩, positive⟩, inMonth⟩ := exists_date
  have atMost : monthLength date.year date.month ≤ 31 := by
    unfold monthLength
    split_ifs <;> omega
  exact ⟨first, last, positive, Nat.le_trans inMonth atMost⟩

end Date

namespace Timestamp

/-! ## Digits -/

theorem length_padded {width number : Nat} (positive : 0 < width) (fits : number < 10 ^ width) :
    (padded width number).length = width := by
  have atMost := (Nat.length_toDigits_le_iff (b := 10) (by decide) positive).mpr fits
  rw [padded, List.length_append, List.length_replicate]
  exact Nat.sub_add_cancel atMost

theorem isDigit_padded {width number : Nat} {char : Char} (member : char ∈ padded width number) :
    char.isDigit = true := by
  rcases List.mem_append.mp member with zero | digit
  · rw [List.eq_of_mem_replicate zero]
    rfl
  · exact Nat.isDigit_of_mem_toDigits (by decide) (by decide) digit

theorem padded_cons {width number : Nat} (positive : 0 < width) (fits : number < 10 ^ width) :
    exists first later, padded width number = first :: later ∧ first.isDigit = true := by
  have length := length_padded positive fits
  cases digits : padded width number with
  | nil =>
      rw [digits] at length
      exact absurd length (Nat.ne_of_lt positive)
  | cons first later =>
      refine ⟨first, later, rfl, isDigit_padded (?_ : first ∈ padded width number)⟩
      rw [digits]
      exact List.mem_cons_self

theorem ofDigitChars_padded (width number : Nat) :
    Nat.ofDigitChars 10 (padded width number) 0 = number := by
  rw [padded, Nat.ofDigitChars_append, Nat.ofDigitChars_replicate_zero, Nat.mul_zero,
    Nat.ofDigitChars_ten_toDigits]

/-- What follows digits that may be followed by more of them. -/
def EndsDigits (rest : List Char) : Prop :=
  forall char, rest.head? = some char -> char.isDigit = false

/-- Digits are read up to the last one that may be read, or up to what is none. -/
theorem moreDigits_written {digits rest : List Char}
    (decimal : forall digit, digit ∈ digits -> digit.isDigit = true) {most : Nat}
    (within : digits.length = most ∨ digits.length ≤ most ∧ EndsDigits rest) (value : Nat) :
    moreDigits most value (digits ++ rest) = (Nat.ofDigitChars 10 digits value, rest) := by
  induction digits generalizing most value with
  | nil =>
      cases most with
      | zero => rfl
      | succ most =>
          have ends := (within.resolve_left (Nat.succ_ne_zero most).symm).2
          cases rest with
          | nil => rfl
          | cons char rest =>
              have stops : decimalValue? char = none := by
                rw [decimalValue?, ends char rfl]
                rfl
              change moreDigits (most + 1) value (char :: rest) = _
              rw [moreDigits, stops]
              rfl
  | cons digit digits inductionHypothesis =>
      cases most with
      | zero => exact absurd within (by simp)
      | succ most =>
          obtain ⟨first, later⟩ := List.forall_mem_cons.mp decimal
          rw [List.cons_append, moreDigits, decimalValue_digit first, Nat.ofDigitChars_cons,
            Nat.mul_comm 10 value]
          rw [List.length_cons] at within
          apply inductionHypothesis later
          exact within.imp Nat.succ.inj (And.imp_left Nat.le_of_succ_le_succ)

theorem number_padded {width most number : Nat} {rest : List Char} (positive : 0 < width)
    (fits : number < 10 ^ width) (within : width = most ∨ width ≤ most ∧ EndsDigits rest) :
    Timestamp.number most (padded width number ++ rest) = .ok (number, rest) := by
  have length := length_padded positive fits
  have decimal : forall digit, digit ∈ padded width number -> digit.isDigit = true :=
    fun digit member => isDigit_padded member
  have value := ofDigitChars_padded width number
  generalize padded width number = digits at length decimal value
  cases digits with
  | nil => exact absurd length (Nat.ne_of_lt positive)
  | cons digit digits =>
      obtain ⟨first, later⟩ := List.forall_mem_cons.mp decimal
      rw [List.length_cons] at length
      rw [Nat.ofDigitChars_cons, Nat.mul_zero, Nat.zero_add] at value
      rw [List.cons_append, Timestamp.number, decimalValue_digit first]
      dsimp only
      rw [moreDigits_written later, value]
      subst length
      exact within.imp (fun same => by omega) (And.imp_left fun le => by omega)

theorem dropBlanks_padded {width number : Nat} (positive : 0 < width)
    (fits : number < 10 ^ width) (rest : List Char) :
    dropBlanks (padded width number ++ rest) = padded width number ++ rest := by
  obtain ⟨first, later, digits, digit⟩ := padded_cons positive fits
  have visible : ¬ isBlank first = true := by
    have code := toNat_of_isDigit digit
    simp only [isBlank, Bool.or_eq_true, Bool.and_eq_true, decide_eq_true_iff, beq_iff_eq]
    omega
  rw [digits, dropBlanks, List.cons_append, List.dropWhile_cons_of_neg visible]

/-! ## Fields -/

theorem bounded_padded {least most number : Nat} (atLeast : least ≤ number)
    (atMost : number ≤ most) (fits : number < 100) (rest : List Char) :
    bounded least most (padded 2 number ++ rest) = .ok (number, rest) := by
  rw [bounded, dropBlanks_padded (by decide) fits,
    number_padded (by decide) fits (Or.inl rfl)]
  change (if least ≤ number ∧ number ≤ most then _ else _) = _
  rw [if_pos ⟨atLeast, atMost⟩]
  rfl

theorem yearPart_written {year : Int} (first : 0 ≤ year) (last : year ≤ 9999)
    (rest : List Char) : yearPart (yearText year ++ rest) = .ok (year, rest) := by
  have fits : year.toNat < 10 ^ 4 := by omega
  have restored : ((year.toNat : Nat) : Int) = year := Int.toNat_of_nonneg first
  obtain ⟨digit, later, digits, decimal⟩ := padded_cons (by decide) fits
  have read : Timestamp.number 4 (padded 4 year.toNat ++ rest) = .ok (year.toNat, rest) :=
    number_padded (by decide) fits (Or.inl rfl)
  have unsigned (sign : Char) (notDigit : sign.isDigit = false) : digit ≠ sign := by
    rintro rfl
    rw [notDigit] at decimal
    cases decimal
  rw [yearText, if_pos ⟨first, last⟩]
  unfold yearPart
  rw [dropBlanks_padded (by decide) fits]
  rw [digits, List.cons_append] at read ⊢
  split
  · rename_i signed
    exact absurd (List.cons.inj signed).1 (unsigned '-' rfl)
  · rename_i signed
    exact absurd (List.cons.inj signed).1 (unsigned '+' rfl)
  · rw [read]
    change Except.ok (((year.toNat : Nat) : Int), rest) = _
    rw [restored]

/-- The fraction of a second, ended by the letter for universal time. -/
theorem fractionPart_padded {width number : Nat} (positive : 0 < width) (atMost : width ≤ 9)
    (fits : number < 10 ^ width) :
    fractionPart ('.' :: (padded width number ++ ['Z'])) =
      .ok (number * Nat.pow 10 (9 - width), ['Z']) := by
  have ends : EndsDigits ['Z'] := by
    rintro char ⟨⟩
    rfl
  have length := length_padded positive fits
  have consumed : (padded width number ++ ['Z']).length - ['Z'].length = width := by
    rw [List.length_append, length, Nat.add_sub_cancel]
  simp only [fractionPart, number_padded positive fits (Or.inr ⟨atMost, ends⟩), consumed]
  rfl

theorem fractionPart_written {nanos : Nat} (fits : nanos < 10 ^ 9) :
    fractionPart (fractionText nanos ++ ['Z']) = .ok (nanos, ['Z']) := by
  unfold fractionText
  split_ifs with none thousandths millionths
  · rw [none]
    rfl
  · rw [List.cons_append, fractionPart_padded (by decide) (by decide) (by omega)]
    have whole : nanos / 1000000 * Nat.pow 10 (9 - 3) = nanos := by
      change nanos / 1000000 * 1000000 = nanos
      omega
    rw [whole]
  · rw [List.cons_append, fractionPart_padded (by decide) (by decide) (by omega)]
    have whole : nanos / 1000 * Nat.pow 10 (9 - 6) = nanos := by
      change nanos / 1000 * 1000 = nanos
      omega
    rw [whole]
  · rw [List.cons_append, fractionPart_padded (by decide) (by decide) fits]
    change Except.ok (nanos * 1, ['Z']) = _
    rw [Nat.mul_one]

/-! ## Date and time of the day -/

theorem ok_bind {α β ε : Type} (value : α) (next : α -> Except ε β) :
    (Except.ok value >>= next) = next value :=
  rfl

theorem separator_written {wanted : Char} (visible : isBlank wanted = false) (rest : List Char) :
    separator wanted (wanted :: rest) = .ok rest := by
  have shown : ¬ isBlank wanted = true := by
    rw [visible]
    decide
  unfold separator
  rw [dropBlanks, List.dropWhile_cons_of_neg shown]
  dsimp only
  rw [if_pos rfl]

theorem datePart_written {date : Date} (first : 0 ≤ date.year) (last : date.year ≤ 9999)
    (exists_date : date.exists? = true) (rest : List Char) :
    datePart (yearText date.year ++ '-' :: (padded 2 date.month ++ '-' ::
      (padded 2 date.day ++ rest))) = .ok (date, rest) := by
  obtain ⟨firstMonth, lastMonth, firstDay, lastDay⟩ := Date.bounds_of_exists exists_date
  have inRange : ¬ (date.year < -2147483648 ∨ 2147483648 ≤ date.year) := by omega
  have month := bounded_padded firstMonth lastMonth (by omega)
  have day := bounded_padded firstDay lastDay (by omega)
  have hyphen := separator_written (show isBlank '-' = false by decide)
  unfold datePart
  simp only [yearPart_written first last, ok_bind, if_neg inRange, hyphen, month, day]
  rfl

theorem clockPart_written {inDay nanos : Nat} (day : inDay < 86400) (fits : nanos < 10 ^ 9) :
    clockPart (padded 2 (inDay / 3600) ++ ':' :: (padded 2 (inDay / 60 % 60) ++
      ':' :: (padded 2 (inDay % 60) ++ (fractionText nanos ++ ['Z'])))) =
      .ok ((inDay, nanos), ['Z']) := by
  have noLeap : inDay % 60 / 60 = 0 := by omega
  have total : inDay / 3600 * 3600 + inDay / 60 % 60 * 60 + inDay % 60 = inDay := by omega
  have hour := @bounded_padded 0 23 (inDay / 3600) (Nat.zero_le _) (by omega) (by omega)
  have minute := @bounded_padded 0 59 (inDay / 60 % 60) (Nat.zero_le _) (by omega) (by omega)
  have second := @bounded_padded 0 60 (inDay % 60) (Nat.zero_le _) (by omega) (by omega)
  have colon := separator_written (show isBlank ':' = false by decide)
  unfold clockPart
  simp only [hour, minute, second, colon, ok_bind, fractionPart_written fits, noLeap]
  rw [Nat.sub_zero, total, Nat.zero_mul, Nat.zero_add]
  rfl

/-! ## Points in time -/

def year (time : Timestamp) : Int :=
  (Date.ofDayNumber (time.seconds / 86400)).year

/-- The days of four-digit years are days that can be represented. -/
theorem dayNumber_bounds {date : Date} (first : 0 ≤ date.year) (last : date.year ≤ 9999)
    (exists_date : date.exists? = true) :
    firstDay ≤ date.dayNumber ∧ date.dayNumber ≤ lastDay := by
  obtain ⟨firstMonth, lastMonth, dayPositive, dayLast⟩ := Date.bounds_of_exists exists_date
  have earliest : firstDay = -96465292 := by decide +kernel
  have latest : lastDay = 95026236 := by decide +kernel
  rw [earliest, latest]
  unfold Date.dayNumber
  dsimp only
  split <;> omega

/-- A local time without a difference to universal time is that point in time. -/
theorem ofLocal_of_exists {date : Date} (first : 0 ≤ date.year) (last : date.year ≤ 9999)
    (exists_date : date.exists? = true) {clock : Nat} (inDay : clock < 86400) (nanos : Nat) :
    ofLocal date clock nanos 0 = .ok { seconds := date.dayNumber * 86400 + clock, nanos } := by
  obtain ⟨least, greatest⟩ := dayNumber_bounds first last exists_date
  have day : (date.dayNumber * 86400 + (clock : Int) - 0) / 86400 = date.dayNumber := by omega
  unfold ofLocal
  dsimp only
  rw [exists_date, day, if_neg, if_neg (by decide), if_neg (by omega), Int.sub_zero]
  simp only [Bool.not_true, Bool.false_or, Bool.or_eq_true, decide_eq_true_iff]
  omega

/-- A point in time is read back from its written form, if its year has four
digits and it lies in no leap second. -/
theorem ofText_text {time : Timestamp} (first : 0 ≤ time.year) (last : time.year ≤ 9999)
    (fraction : time.nanos < 10 ^ 9) : ofText time.text = .ok time := by
  obtain ⟨seconds, nanos⟩ := time
  unfold year at first last
  dsimp only at first last fraction
  have exists_date := Date.exists_ofDayNumber (seconds / 86400)
  have day := Date.dayNumber_ofDayNumber (seconds / 86400)
  have inDay_lt : (seconds % 86400).toNat < 86400 := by omega
  have total : seconds / 86400 * 86400 + ((seconds % 86400).toNat : Int) = seconds := by omega
  have noLeap : nanos / 1000000000 = 0 := Nat.div_eq_of_lt fraction
  have whole : nanos % 1000000000 = nanos := Nat.mod_eq_of_lt fraction
  unfold ofText text
  dsimp only
  rw [String.toList_ofList, noLeap, whole, Nat.add_zero]
  generalize Date.ofDayNumber (seconds / 86400) = date at *
  generalize (seconds % 86400).toNat = inDay at *
  have letter (rest : List Char) : dateEnd ('T' :: rest) = .ok rest := rfl
  have zone : offsetPart (dropBlanks ['Z']) = .ok (0, []) := rfl
  simp only [List.append_assoc, List.cons_append, datePart_written first last exists_date,
    ok_bind, letter, clockPart_written inDay_lt fraction, zone]
  change ofLocal date inDay nanos 0 = _
  rw [ofLocal_of_exists first last exists_date inDay_lt, day, total]

end Timestamp
end TelemetryRelay
