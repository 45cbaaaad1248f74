import Mathlib.Algebra.Group.Int.Defs
import Mathlib.Algebra.Group.Nat.Defs
import TelemetryRelay.Json.Reader
import TelemetryRelay.Json.Writer
import TelemetryRelay.Proofs.Text.Digit
import TelemetryRelay.Proofs.Text.Encoding

/-!
# Whole numbers of a document are read back

The digits of a number that fits 64 bits are collected without overflow, and
what follows them must not go on with the number.  A first digit of zero stands
alone, so that the reader does not refuse it.
-/

namespace TelemetryRelay
namespace Json

open Utf8 (encodeChars)

/-! ## Decimal digits -/

theorem encodeChars_digit {char : Char} (digit : char.isDigit = true) (chars : List Char) :
    encodeChars (char :: chars) = char.toNat.toUInt8 :: encodeChars chars := by
  have bounds := toNat_of_isDigit digit
  rw [Utf8.encodeChars_cons, Utf8.encodeChar_of_lt (by omega)]
  rfl

theorem decimalDigit_toUInt8 {char : Char} (digit : char.isDigit = true) :
    decimalDigit? char.toNat.toUInt8 = some (char.toNat - 0x30) := by
  have bounds := toNat_of_isDigit digit
  have code : char.toNat.toUInt8.toNat = char.toNat := Utf8.toNat_toUInt8 (by omega)
  have inRange : (0x30 : UInt8) ≤ char.toNat.toUInt8 ∧ char.toNat.toUInt8 ≤ 0x39 := by
    rw [UInt8.le_iff_toNat_le, UInt8.le_iff_toNat_le, code]
    exact bounds
  rw [decimalDigit?, if_pos inRange, code]

theorem le_ofDigitChars (digits : List Char) (number : Nat) :
    number ≤ Nat.ofDigitChars 10 digits number := by
  induction digits generalizing number with
  | nil => exact Nat.le_refl number
  | cons digit digits inductionHypothesis =>
      rw [Nat.ofDigitChars_cons]
      have further := inductionHypothesis (10 * number + (digit.toNat - '0'.toNat))
      omega

/-! ## The end of a number -/

/-- What comes next does not continue a number. -/
def EndsNumber (rest : List UInt8) : Prop :=
  forall byte, rest.head? = some byte ->
    decimalDigit? byte = none ∧ byte ≠ 0x2E ∧ byte ≠ 0x65 ∧ byte ≠ 0x45

theorem endsNumber_nil : EndsNumber [] := by
  intro byte impossible
  cases impossible

theorem collectDigits_end {limit significand taken : Nat} {rest : List UInt8}
    (ends : EndsNumber rest) :
    collectDigits limit significand taken rest = ⟨significand, taken, false, rest⟩ := by
  cases rest with
  | nil => rfl
  | cons byte rest => rw [collectDigits, (ends byte rfl).1]

theorem collectDigits_written {limit : Nat} {rest : List UInt8} (ends : EndsNumber rest)
    {digits : List Char} (decimal : forall digit, digit ∈ digits -> digit.isDigit = true)
    {significand : Nat} (fits : Nat.ofDigitChars 10 digits significand ≤ limit) (taken : Nat) :
    collectDigits limit significand taken (encodeChars digits ++ rest) =
      ⟨Nat.ofDigitChars 10 digits significand, taken + digits.length, false, rest⟩ := by
  induction digits generalizing significand taken with
  | nil => exact collectDigits_end ends
  | cons digit digits inductionHypothesis =>
      obtain ⟨first, later⟩ := List.forall_mem_cons.mp decimal
      rw [Nat.ofDigitChars_cons] at fits ⊢
      have value : significand * 10 + (digit.toNat - 0x30) =
          10 * significand + (digit.toNat - '0'.toNat) := by
        rw [Nat.mul_comm]
        rfl
      have small := Nat.le_trans (le_ofDigitChars digits _) fits
      rw [encodeChars_digit first, List.cons_append, collectDigits, decimalDigit_toUInt8 first]
      dsimp only
      rw [value, if_neg (Nat.not_lt_of_le small), inductionHypothesis later fits,
        List.length_cons, Nat.add_right_comm, Nat.add_assoc]

/-! ## Numbers -/

theorem number_written {negative : Bool} {value : Nat} (fits : value < 2 ^ 64)
    {rest : List UInt8} (ends : EndsNumber rest) :
    number negative (encodeChars (Nat.toDigits 10 value) ++ rest) =
      afterWhole negative value rest := by
  by_cases zero : value = 0
  · subst zero
    have single : decimalDigit? 0x30 = some 0 := rfl
    change number negative (0x30 :: rest) = _
    unfold number
    dsimp only
    rw [single]
    cases rest with
    | nil => rfl
    | cons next behind =>
        dsimp only
        rw [(ends next rfl).1]
        rfl
  · obtain ⟨first, later, digits, positive, small⟩ := toDigits_of_pos (Nat.pos_of_ne_zero zero)
    have decimal : forall digit, digit ∈ Nat.digitChar first :: later -> digit.isDigit = true := by
      intro digit member
      rw [← digits] at member
      exact Nat.isDigit_of_mem_toDigits (by decide) (by decide) member
    obtain ⟨firstDigit, laterDigits⟩ := List.forall_mem_cons.mp decimal
    have firstValue : (Nat.digitChar first).toNat - 0x30 = first := by
      rw [Nat.toNat_digitChar_of_lt_ten small]
      exact Nat.add_sub_cancel_left 48 first
    have total : Nat.ofDigitChars 10 later first = value := by
      have whole : Nat.ofDigitChars 10 (Nat.toDigits 10 value) 0 = value :=
        Nat.ofDigitChars_ten_toDigits
      rw [digits, Nat.ofDigitChars_cons] at whole
      change Nat.ofDigitChars 10 later (10 * 0 + ((Nat.digitChar first).toNat - 0x30)) = _ at whole
      rwa [firstValue, Nat.mul_zero, Nat.zero_add] at whole
    have inLimit : Nat.ofDigitChars 10 later first ≤ significandLimit := by
      rw [total]
      exact Nat.le_sub_one_of_lt fits
    have collected := collectDigits_written ends laterDigits inLimit 1
    rw [digits, encodeChars_digit firstDigit, List.cons_append]
    unfold number
    dsimp only
    rw [decimalDigit_toUInt8 firstDigit, firstValue]
    split
    · rename_i equal
      cases equal
    · rename_i equal
      injection equal with none
      omega
    · rename_i digit _ equal
      injection equal with same
      subst same
      rw [collected, total]
      rfl

theorem afterWhole_of_ends {negative : Bool} {value : Nat} {rest : List UInt8}
    (ends : EndsNumber rest) :
    afterWhole negative value rest =
      if !negative then .ok (.whole value, rest)
      else if value = 0 ∨ UInt64.size / 2 < value then
        .ok (.real (-value.toUInt64.toFloat), rest)
      else .ok (.whole (-(value : Int)), rest) := by
  unfold afterWhole
  split
  · exact absurd rfl (ends _ rfl).2.1
  · exact absurd rfl (ends _ rfl).2.2.1
  · exact absurd rfl (ends _ rfl).2.2.2
  · rfl

/-- A whole number of 64 bits, with a sign or without. -/
def FitsWord (value : Int) : Prop :=
  -2 ^ 63 ≤ value ∧ value < 2 ^ 64

theorem number_natural {value : Nat} (fits : FitsWord value) {rest : List UInt8}
    (ends : EndsNumber rest) :
    number false (encodeChars (Nat.toDigits 10 value) ++ rest) = .ok (.whole value, rest) := by
  have small : value < 2 ^ 64 := by
    have bound := fits.2
    omega
  rw [number_written small ends, afterWhole_of_ends ends]
  rfl

theorem number_negative {value : Nat} (fits : FitsWord (-value)) (nonzero : value ≠ 0)
    {rest : List UInt8} (ends : EndsNumber rest) :
    number true (encodeChars (Nat.toDigits 10 value) ++ rest) =
      .ok (.whole (-(value : Int)), rest) := by
  have bound := fits.1
  have inRange : ¬ (value = 0 ∨ UInt64.size / 2 < value) := by
    change ¬ (value = 0 ∨ 2 ^ 63 < value)
    omega
  rw [number_written (by omega) ends, afterWhole_of_ends ends, if_neg inRange]
  rfl

/-- The written form of a whole number: digits, behind a minus sign if it is
below zero. -/
theorem toList_toString (value : Int) :
    (toString value).toList =
      if 0 ≤ value then Nat.toDigits 10 value.toNat else '-' :: Nat.toDigits 10 (-value).toNat := by
  rw [Int.toString_eq_repr, Int.repr_eq_if]
  split
  · exact Nat.toList_repr
  · rw [String.toList_append, Nat.toList_repr]
    rfl

end Json
end TelemetryRelay
