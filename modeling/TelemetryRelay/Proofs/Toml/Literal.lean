import Mathlib.Tactic.IntervalCases
import TelemetryRelay.Proofs.Decimal.Reading
import TelemetryRelay.Proofs.Toml.Text

/-!
# Literals of a document are read back

A setting is given by a whole number, a truth value or a text.  Each of them is
read back from its written form up to the end of the line.  Digits could begin
a date or a time too, but the end of the line comes where these want a hyphen
or a colon.
-/

namespace TelemetryRelay

/-- A value by which a setting is given. -/
inductive Literal where
  | whole (number : Nat)
  | truth (value : Bool)
  | text (value : String)
deriving DecidableEq, Repr

namespace Literal

def datum : Literal -> Datum
  | whole number => .integer number
  | truth value => .boolean value
  | text value => .text value

def Fits : Literal -> Prop
  | whole number => number < 2 ^ 63
  | truth _ => True
  | text _ => True

end Literal

namespace Toml

def literalValue : Literal -> Value
  | .whole number => .integer number
  | .truth value => .boolean value
  | .text value => .text value

def writtenLiteral : Literal -> List Char
  | .whole number => Nat.toDigits 10 number
  | .truth value => (toString value).toList
  | .text value => writtenText value

/-! ## Digits are no date and no time -/

namespace DateTime

/-- Behind some digits come the others, and then the end of the line. -/
theorem fixedDigits_behind {count : Nat} {digits rest read behind : List Char}
    (decimal : digits.all Char.isDigit = true)
    (taken : fixedDigits count (digits ++ '\n' :: rest) = some (read, behind)) :
    exists left, left.all Char.isDigit = true ∧ behind = left ++ '\n' :: rest := by
  induction count generalizing digits read with
  | zero =>
      cases taken
      exact ⟨digits, decimal, rfl⟩
  | succ count inductionHypothesis =>
      cases digits with
      | nil => cases taken
      | cons digit digits =>
          rw [List.all_cons, Bool.and_eq_true] at decimal
          rw [List.cons_append, fixedDigits, if_pos decimal.1, Option.map_eq_some_iff] at taken
          obtain ⟨⟨later, left⟩, taken, parts⟩ := taken
          cases parts
          exact inductionHypothesis decimal.2 taken

theorem expect_behind {wanted : Char} (apart : wanted.isDigit = false ∧ wanted ≠ '\n')
    {left rest : List Char} (decimal : left.all Char.isDigit = true) :
    expect wanted (left ++ '\n' :: rest) = none := by
  cases left with
  | nil => exact if_neg apart.2.symm
  | cons digit left =>
      rw [List.all_cons, Bool.and_eq_true] at decimal
      refine if_neg ?_
      rintro rfl
      exact absurd decimal.1 (Bool.eq_false_iff.mp apart.1)

theorem date_digits {digits : List Char} (decimal : digits.all Char.isDigit = true)
    (rest : List Char) : date (digits ++ '\n' :: rest) = none := by
  unfold date
  cases taken : fixedDigits 4 (digits ++ '\n' :: rest) with
  | none => rfl
  | some parts =>
      obtain ⟨left, leftDecimal, behind⟩ := fixedDigits_behind decimal taken
      dsimp only [bind, Option.bind]
      rw [behind, expect_behind (by decide) leftDecimal]

theorem time_digits {digits : List Char} (decimal : digits.all Char.isDigit = true)
    (rest : List Char) : time (digits ++ '\n' :: rest) = none := by
  unfold time twoDigits
  cases taken : fixedDigits 2 (digits ++ '\n' :: rest) with
  | none => rfl
  | some parts =>
      obtain ⟨left, leftDecimal, behind⟩ := fixedDigits_behind decimal taken
      dsimp only [bind, Option.bind]
      split
      · rfl
      · rename_i hour small
        split at small
        · cases small
          dsimp only
          rw [behind, expect_behind (by decide) leftDecimal]
        · cases small

theorem read_digits {digits : List Char} (decimal : digits.all Char.isDigit = true)
    (rest : List Char) : read (digits ++ '\n' :: rest) = none := by
  rw [read, date_digits decimal, time_digits decimal]
  rfl

end DateTime

/-! ## Whole numbers -/

theorem laterDigits_digits {digits : List Char} (decimal : digits.all Char.isDigit = true)
    (rest : List Char) :
    laterDigits Char.isDigit (digits ++ '\n' :: rest) = (digits, '\n' :: rest) := by
  induction digits with
  | nil => rfl
  | cons digit digits inductionHypothesis =>
      rw [List.all_cons, Bool.and_eq_true] at decimal
      rw [List.cons_append]
      unfold laterDigits
      split
      · rename_i equal
        cases equal
      · rename_i equal
        cases (List.cons.inj equal).1
        exact absurd decimal.1 (by decide)
      · rename_i equal
        cases equal
        rw [if_pos decimal.1, inductionHypothesis decimal.2]

/-- The digits of a number are a single zero or begin with another one. -/
theorem wholePart_toDigits (number : Nat) (rest : List Char) :
    wholePart (Nat.toDigits 10 number ++ '\n' :: rest) =
      some (Nat.toDigits 10 number, '\n' :: rest) := by
  obtain rfl | positive := Nat.eq_zero_or_pos number
  · rfl
  · have decimal := all_isDigit_toDigits number
    obtain ⟨first, later, chars, nonzero, small⟩ := toDigits_of_pos positive
    rw [chars] at decimal ⊢
    rw [List.all_cons, Bool.and_eq_true] at decimal
    have noZero : Nat.digitChar first ≠ '0' := by
      interval_cases first <;> decide
    unfold wholePart
    split
    · rename_i equal
      exact absurd (List.cons.inj equal).1 noZero
    · rw [List.cons_append, digits, if_pos decimal.1, laterDigits_digits decimal.2]

/-- A number behind which the line ends has no fraction and no exponent. -/
theorem decimalNumber_whole {number : Nat} (fits : number < 2 ^ 63) (rest : List Char) :
    decimalNumber false (Nat.toDigits 10 number ++ '\n' :: rest) =
      some (.integer number, '\n' :: rest) := by
  have value : valueInBase 10 (Nat.toDigits 10 number) = number := by
    rw [valueInBase_ten (all_isDigit_toDigits number)]
    exact Nat.ofDigitChars_ten_toDigits
  have noFraction : fractionPart ('\n' :: rest) = some ([], '\n' :: rest) := rfl
  have noExponent : exponentPart ('\n' :: rest) = some (0, '\n' :: rest) := by
    rw [exponentPart, if_neg (by decide)]
  have inRange : integerOf? false number = some (.integer number) := if_pos fits
  simp only [decimalNumber, wholePart_toDigits, noFraction, noExponent, value, inRange,
    Option.bind_eq_bind, Option.bind_some, if_true, Option.pure_def]

/-- No word and no other base begins like the digits of a number. -/
theorem number_whole {number : Nat} (fits : number < 2 ^ 63) (rest : List Char) :
    Toml.number (Nat.toDigits 10 number ++ '\n' :: rest) =
      some (.integer number, '\n' :: rest) := by
  have read := decimalNumber_whole fits rest
  obtain rfl | positive := Nat.eq_zero_or_pos number
  · exact read
  · obtain ⟨first, later, chars, nonzero, small⟩ := toDigits_of_pos positive
    rw [chars, List.cons_append] at read ⊢
    interval_cases first <;> exact read

/-! ## Values -/

/-- A value that begins with a digit is a number, unless it is a date or a time. -/
theorem value_digit {digit : Char} (decimal : digit.isDigit = true) {rest : List Char}
    (noDate : DateTime.read (digit :: rest) = none) :
    value nestingLimit (digit :: rest) = Toml.number (digit :: rest) := by
  have apart (other : Char) (foreign : other.isDigit = false) : digit ≠ other := by
    rintro rfl
    exact absurd decimal (Bool.eq_false_iff.mp foreign)
  rw [nestingLimit, value]
  unfold valueWith
  split
  · rename_i equal _
    exact absurd (List.cons.inj equal).1 (apart '[' (by decide))
  · rename_i equal _
    exact absurd (List.cons.inj equal).1 (apart '\x7b' (by decide))
  · rename_i equal _
    exact absurd (List.cons.inj equal).1 (apart '[' (by decide))
  · rename_i equal _
    exact absurd (List.cons.inj equal).1 (apart '\x7b' (by decide))
  · simp only [scalar, apart '"' (by decide), apart '\'' (by decide), apart 't' (by decide),
      apart 'f' (by decide), or_self, if_false, noDate]

theorem value_writtenLiteral {literal : Literal} (fits : literal.Fits) (rest : List Char) :
    value nestingLimit (writtenLiteral literal ++ '\n' :: rest) =
      some (literalValue literal, '\n' :: rest) := by
  cases literal with
  | whole number =>
      have decimal := all_isDigit_toDigits number
      have noDate := DateTime.read_digits decimal rest
      have read := number_whole fits rest
      rw [writtenLiteral]
      obtain ⟨first, later, digits⟩ := List.exists_cons_of_ne_nil (Nat.toDigits_ne_nil (b := 10))
      rw [digits, List.cons_append] at noDate read ⊢
      rw [digits, List.all_cons, Bool.and_eq_true] at decimal
      rw [value_digit decimal.1 noDate]
      exact read
  | truth value => cases value <;> rfl
  | text value =>
      exact value_writtenText value fun quote => absurd (Option.some.inj quote) (by decide)

end Toml
end TelemetryRelay
