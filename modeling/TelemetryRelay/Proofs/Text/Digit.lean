import Mathlib.Data.List.Induction
import Mathlib.Tactic.IntervalCases
import TelemetryRelay.Text.Digit

/-!
# Decimal digits and what they stand for

The digits of a number stand for it, and digits of which the first one is not
zero are those of the number they stand for.
-/

namespace TelemetryRelay

/-! ## Characters -/

theorem toNat_of_isDigit {char : Char} (digit : char.isDigit = true) :
    0x30 ≤ char.toNat ∧ char.toNat ≤ 0x39 := by
  rw [Char.isDigit, Bool.and_eq_true, decide_eq_true_iff, decide_eq_true_iff] at digit
  exact digit

theorem decimalValue_digit {char : Char} (digit : char.isDigit = true) :
    decimalValue? char = some (char.toNat - '0'.toNat) := by
  rw [decimalValue?, if_pos digit]

theorem digitChar_toNat {char : Char} (digit : char.isDigit = true) :
    Nat.digitChar (char.toNat - '0'.toNat) = char := by
  have bounds := toNat_of_isDigit digit
  have zero : '0'.toNat = 48 := rfl
  apply Char.toNat_inj.mp
  rw [Nat.toNat_digitChar_of_lt_ten (by omega)]
  omega

/-! ## Values -/

section

variable {digits : List Char}

theorem valueInBase_ten (decimal : digits.all Char.isDigit = true) :
    valueInBase 10 digits = Nat.ofDigitChars 10 digits 0 := by
  have continued (start : Nat) :
      digits.foldl (fun value digit => value * 10 + (hexValue? digit).getD 0) start =
        Nat.ofDigitChars 10 digits start := by
    induction digits generalizing start with
    | nil => rfl
    | cons digit digits inductionHypothesis =>
        rw [List.all_cons, Bool.and_eq_true] at decimal
        rw [List.foldl_cons, inductionHypothesis decimal.2, Nat.ofDigitChars_cons, hexValue?,
          if_pos decimal.1, Option.getD_some, Nat.mul_comm]
  exact continued 0

theorem ofDigitChars_cons_eq (digit : Char) (later : List Char) :
    Nat.ofDigitChars 10 (digit :: later) 0 =
      10 ^ later.length * (digit.toNat - '0'.toNat) + Nat.ofDigitChars 10 later 0 := by
  rw [Nat.ofDigitChars_cons, Nat.ofDigitChars_eq_ofDigitChars_zero, Nat.mul_zero, Nat.zero_add]

theorem ofDigitChars_append_eq (digits later : List Char) :
    Nat.ofDigitChars 10 (digits ++ later) 0 =
      10 ^ later.length * Nat.ofDigitChars 10 digits 0 + Nat.ofDigitChars 10 later 0 := by
  rw [Nat.ofDigitChars_append, Nat.ofDigitChars_eq_ofDigitChars_zero]

theorem ofDigitChars_lt (decimal : digits.all Char.isDigit = true) :
    Nat.ofDigitChars 10 digits 0 < 10 ^ digits.length := by
  induction digits using List.reverseRecOn with
  | nil => exact Nat.one_pos
  | append_singleton digits digit inductionHypothesis =>
      rw [List.all_append, Bool.and_eq_true] at decimal
      have less := inductionHypothesis decimal.1
      have isDigit := List.all_eq_true.mp decimal.2 digit (List.mem_singleton_self _)
      have bounds := toNat_of_isDigit isDigit
      have zero : '0'.toNat = 48 := rfl
      rw [ofDigitChars_append_eq, Nat.ofDigitChars_cons, Nat.ofDigitChars_nil, List.length_append,
        List.length_singleton, Nat.pow_succ]
      omega

end

/-! ## Zeros at the end -/

theorem dropLastZeros_append (digits : List Char) :
    exists zeros, digits = dropLastZeros digits ++ List.replicate zeros '0' := by
  have zeros : (digits.reverse.takeWhile (· == '0')).reverse =
      List.replicate (digits.reverse.takeWhile (· == '0')).length '0' := by
    rw [← List.length_reverse]
    refine List.eq_replicate_of_mem fun digit member => ?_
    exact beq_iff_eq.mp (List.all_eq_true.mp List.all_takeWhile digit (List.mem_reverse.mp member))
  refine ⟨(digits.reverse.takeWhile (· == '0')).length, ?_⟩
  rw [← zeros, dropLastZeros, ← List.reverse_append, List.takeWhile_append_dropWhile,
    List.reverse_reverse]

theorem getLast_dropLastZeros (digits : List Char) :
    (dropLastZeros digits).getLast? ≠ some '0' := by
  rw [dropLastZeros, List.getLast?_reverse]
  intro zero
  have kept := List.head?_dropWhile_not (· == '0') digits.reverse
  rw [zero] at kept
  exact absurd kept (by decide)

/-! ## Written numbers -/

theorem all_isDigit_toDigits (number : Nat) :
    (Nat.toDigits 10 number).all Char.isDigit = true := by
  rw [List.all_eq_true]
  intro digit member
  exact Nat.isDigit_of_mem_toDigits (by decide) (by decide) member

theorem toDigits_of_pos {number : Nat} (positive : 0 < number) :
    exists first later, Nat.toDigits 10 number = Nat.digitChar first :: later ∧
      0 < first ∧ first < 10 := by
  induction number using Nat.strongRecOn with
  | ind number inductionHypothesis =>
      by_cases single : number < 10
      · exact ⟨number, [], Nat.toDigits_of_lt_base single, positive, single⟩
      · obtain ⟨first, later, digits, bounds⟩ :=
          inductionHypothesis (number / 10) (by omega) (by omega)
        refine ⟨first, later ++ [Nat.digitChar (number % 10)], ?_, bounds⟩
        rw [Nat.toDigits_of_base_le (by decide) (by omega), digits]
        rfl

theorem head_toDigits_ne_zero {number : Nat} (positive : 0 < number) :
    (Nat.toDigits 10 number).head? ≠ some '0' := by
  obtain ⟨first, later, digits, nonzero, small⟩ := toDigits_of_pos positive
  rw [digits, List.head?_cons]
  interval_cases first <;> decide

theorem ofDigitChars_pos {digits : List Char} (decimal : digits.all Char.isDigit = true)
    (nonempty : digits ≠ []) (first : digits.head? ≠ some '0') :
    0 < Nat.ofDigitChars 10 digits 0 := by
  cases digits with
  | nil => exact absurd rfl nonempty
  | cons digit later =>
      rw [List.all_cons, Bool.and_eq_true] at decimal
      have bounds := toNat_of_isDigit decimal.1
      have zero : '0'.toNat = 48 := rfl
      have nonzero : digit.toNat ≠ '0'.toNat := by
        intro same
        rw [Char.toNat_inj.mp same] at first
        exact first rfl
      have positive : 0 < 10 ^ later.length * (digit.toNat - '0'.toNat) :=
        Nat.mul_pos (Nat.pow_pos (by decide)) (by omega)
      rw [ofDigitChars_cons_eq]
      omega

/-- Digits without needless zeros in front are those of the number they stand
for. -/
theorem toDigits_ofDigitChars {digits : List Char} (decimal : digits.all Char.isDigit = true)
    (nonempty : digits ≠ []) (first : digits.head? ≠ some '0') :
    Nat.toDigits 10 (Nat.ofDigitChars 10 digits 0) = digits := by
  induction digits using List.reverseRecOn with
  | nil => exact absurd rfl nonempty
  | append_singleton digits digit inductionHypothesis =>
      rw [List.all_append, Bool.and_eq_true] at decimal
      have isDigit := List.all_eq_true.mp decimal.2 digit (List.mem_singleton_self _)
      have bounds := toNat_of_isDigit isDigit
      have zero : '0'.toNat = 48 := rfl
      rw [ofDigitChars_append_eq, Nat.ofDigitChars_cons, Nat.ofDigitChars_nil,
        List.length_singleton, Nat.pow_one, Nat.mul_zero, Nat.zero_add]
      cases digits with
      | nil =>
          rw [Nat.ofDigitChars_nil, Nat.mul_zero, Nat.zero_add,
            Nat.toDigits_of_lt_base (by omega), digitChar_toNat isDigit]
          rfl
      | cons front later =>
          have positive := ofDigitChars_pos decimal.1 (List.cons_ne_nil _ _) first
          rw [Nat.toDigits_of_base_le (by decide) (by omega), Nat.mul_add_div (by decide),
            Nat.mul_add_mod, Nat.div_eq_of_lt (by omega), Nat.mod_eq_of_lt (by omega),
            Nat.add_zero, inductionHypothesis decimal.1 (List.cons_ne_nil _ _) first,
            digitChar_toNat isDigit]

end TelemetryRelay
