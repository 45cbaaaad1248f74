import TelemetryRelay.Decimal.Layout
import TelemetryRelay.Proofs.Decimal.Search
import TelemetryRelay.Proofs.Text.Digit

/-!
# Plain decimal notation

A fraction in plain notation is a whole number and, behind a point, the digits
of what is left, of which the last one is not zero.  Every fraction has one
such notation at most.  The plain text of a floating-point number is that of
the shortest decimal which stands for it.
-/

namespace TelemetryRelay
namespace Decimal

/-! ## Digits behind a point -/

/-- The fraction that digits behind a point stand for. -/
def behindPoint (places : List Char) : ℚ :=
  Nat.ofDigitChars 10 places 0 / 10 ^ places.length

theorem behindPoint_nil : behindPoint [] = 0 := by
  rw [behindPoint, Nat.ofDigitChars_nil, Nat.cast_zero, zero_div]

theorem behindPoint_cons (digit : Char) (places : List Char) :
    behindPoint (digit :: places) =
      ((digit.toNat - '0'.toNat : Nat) + behindPoint places) / 10 := by
  rw [behindPoint, behindPoint, ofDigitChars_cons_eq, List.length_cons, pow_succ]
  push_cast
  field_simp

theorem behindPoint_nonneg (places : List Char) : 0 ≤ behindPoint places := by
  rw [behindPoint]
  positivity

theorem behindPoint_lt_one {places : List Char} (decimal : places.all Char.isDigit = true) :
    behindPoint places < 1 := by
  rw [behindPoint, div_lt_one (by positivity)]
  exact_mod_cast ofDigitChars_lt decimal

/-- Whole numbers and fractions below one do not mix. -/
theorem add_fraction_inj {whole other : Nat} {fraction rest : ℚ}
    (same : whole + fraction = other + rest) (least : 0 ≤ fraction) (bound : fraction < 1)
    (leastToo : 0 ≤ rest) (boundToo : rest < 1) :
    whole = other ∧ fraction = rest := by
  have below : (whole : ℚ) < (other + 1 : Nat) := by
    push_cast
    linarith
  have above : (other : ℚ) < (whole + 1 : Nat) := by
    push_cast
    linarith
  have equal : whole = other :=
    Nat.le_antisymm (Nat.le_of_lt_succ (by exact_mod_cast below))
      (Nat.le_of_lt_succ (by exact_mod_cast above))
  rw [equal] at same
  exact ⟨equal, add_left_cancel same⟩

theorem getLast_tail {digit : Char} {places : List Char}
    (last : (digit :: places).getLast? ≠ some '0') : places.getLast? ≠ some '0' := by
  cases places with
  | nil => nofun
  | cons next later => rwa [List.getLast?_cons_cons] at last

theorem behindPoint_pos {places : List Char} (decimal : places.all Char.isDigit = true)
    (nonempty : places ≠ []) (last : places.getLast? ≠ some '0') : 0 < behindPoint places := by
  induction places with
  | nil => exact absurd rfl nonempty
  | cons digit places inductionHypothesis =>
      rw [List.all_cons, Bool.and_eq_true] at decimal
      rw [behindPoint_cons]
      cases places with
      | nil =>
          have alone : [digit].all Char.isDigit = true := by
            rw [List.all_cons, decimal.1]
            rfl
          have positive := ofDigitChars_pos alone (List.cons_ne_nil _ _) last
          rw [ofDigitChars_cons_eq, Nat.ofDigitChars_nil, List.length_nil, Nat.pow_zero,
            Nat.one_mul, Nat.add_zero] at positive
          have positive : (0 : ℚ) < (digit.toNat - '0'.toNat : Nat) := by exact_mod_cast positive
          have rest := behindPoint_nonneg []
          positivity
      | cons next later =>
          have rest := inductionHypothesis decimal.2 (List.cons_ne_nil _ _) (getLast_tail last)
          positivity

theorem behindPoint_inj {places others : List Char} (decimal : places.all Char.isDigit = true)
    (decimalToo : others.all Char.isDigit = true) (last : places.getLast? ≠ some '0')
    (lastToo : others.getLast? ≠ some '0') (same : behindPoint places = behindPoint others) :
    places = others := by
  induction places generalizing others with
  | nil =>
      cases others with
      | nil => rfl
      | cons digit others =>
          have positive := behindPoint_pos decimalToo (List.cons_ne_nil _ _) lastToo
          rw [← same, behindPoint_nil] at positive
          exact absurd positive (lt_irrefl 0)
  | cons digit places inductionHypothesis =>
      cases others with
      | nil =>
          have positive := behindPoint_pos decimal (List.cons_ne_nil _ _) last
          rw [same, behindPoint_nil] at positive
          exact absurd positive (lt_irrefl 0)
      | cons other others =>
          rw [List.all_cons, Bool.and_eq_true] at decimal decimalToo
          rw [behindPoint_cons, behindPoint_cons, div_left_inj' (by norm_num)] at same
          obtain ⟨first, rest⟩ := add_fraction_inj same (behindPoint_nonneg _)
            (behindPoint_lt_one decimal.2) (behindPoint_nonneg _) (behindPoint_lt_one decimalToo.2)
          have equal : digit = other := by
            rw [← digitChar_toNat decimal.1, ← digitChar_toNat decimalToo.1, first]
          rw [equal, inductionHypothesis decimal.2 decimalToo.2 (getLast_tail last)
            (getLast_tail lastToo) rest]

/-! ## Plain notation -/

/-- Whether characters are a fraction in plain notation. -/
inductive IsPlain : List Char -> ℚ -> Prop where
  | whole (number : Nat) : IsPlain (Nat.toDigits 10 number) number
  | fraction (number : Nat) {places : List Char} (decimal : places.all Char.isDigit = true)
      (nonempty : places ≠ []) (last : places.getLast? ≠ some '0') :
      IsPlain (Nat.toDigits 10 number ++ '.' :: places) (number + behindPoint places)

/-- Both forms in one, with digits behind the point or without. -/
theorem IsPlain.parts {chars : List Char} {value : ℚ} (plain : IsPlain chars value) :
    exists (number : Nat) (places : List Char), places.all Char.isDigit = true ∧
      places.getLast? ≠ some '0' ∧ value = number + behindPoint places ∧
      chars = Nat.toDigits 10 number ++ if places = [] then [] else '.' :: places := by
  cases plain with
  | whole number =>
      exact ⟨number, [], rfl, nofun, by rw [behindPoint_nil, add_zero],
        by rw [if_pos rfl, List.append_nil]⟩
  | @fraction number places decimal nonempty last =>
      exact ⟨number, places, decimal, last, rfl, by rw [if_neg nonempty]⟩

/-- A fraction has one plain notation. -/
theorem IsPlain.unique {chars others : List Char} {value : ℚ} (plain : IsPlain chars value)
    (plainToo : IsPlain others value) : chars = others := by
  obtain ⟨number, places, decimal, last, equal, rfl⟩ := plain.parts
  obtain ⟨other, rest, decimalToo, lastToo, equalToo, rfl⟩ := plainToo.parts
  obtain ⟨same, sameFraction⟩ := add_fraction_inj (equal.symm.trans equalToo)
    (behindPoint_nonneg _) (behindPoint_lt_one decimal) (behindPoint_nonneg _)
    (behindPoint_lt_one decimalToo)
  rw [same, behindPoint_inj decimal decimalToo last lastToo sameFraction]

theorem IsPlain.ne_nil {chars : List Char} {value : ℚ} (plain : IsPlain chars value) :
    chars ≠ [] := by
  cases plain with
  | whole number => exact Nat.toDigits_ne_nil
  | fraction number _ _ _ => exact List.append_ne_nil_of_left_ne_nil Nat.toDigits_ne_nil _

/-! ## Digits that are set out -/

/-- The decimal that digits with a point stand for. -/
def Digits.value (number : Digits) : ℚ :=
  Nat.ofDigitChars 10 number.digits 0 * 10 ^ (number.point - number.digits.length)

/-- Whether neither the first nor the last digit is a needless zero. -/
structure Digits.IsTight (number : Digits) : Prop where
  decimal : number.digits.all Char.isDigit = true
  nonempty : number.digits ≠ []
  first : number.digits.head? ≠ some '0'
  last : number.digits.getLast? ≠ some '0'

/-- The digits of a grid begin and end as those of a number. -/
theorem isTight_ofGrid {count : Nat} (positive : 0 < count) (exponent : ℤ) :
    (Digits.ofGrid count exponent).IsTight := by
  obtain ⟨zeros, split⟩ := dropLastZeros_append (Nat.toDigits 10 count)
  have decimal := all_isDigit_toDigits count
  have first := head_toDigits_ne_zero positive
  have nonempty : dropLastZeros (Nat.toDigits 10 count) ≠ [] := by
    intro empty
    have value := Nat.ofDigitChars_ten_toDigits (n := count)
    rw [split, empty, List.nil_append, Nat.ofDigitChars_replicate_zero, Nat.mul_zero] at value
    exact positive.ne value
  rw [split, List.all_append, Bool.and_eq_true] at decimal
  rw [split, List.head?_append_of_ne_nil _ nonempty] at first
  exact ⟨decimal.1, nonempty, first, getLast_dropLastZeros _⟩

/-- Without the zeros at its end, the digits of a number still stand for it. -/
theorem value_ofGrid (count : Nat) (exponent : ℤ) :
    (Digits.ofGrid count exponent).value = count * 10 ^ exponent := by
  obtain ⟨zeros, split⟩ := dropLastZeros_append (Nat.toDigits 10 count)
  have written := Nat.ofDigitChars_ten_toDigits (n := count)
  have length := congrArg List.length split
  rw [List.length_append, List.length_replicate] at length
  rw [split, Nat.ofDigitChars_append, Nat.ofDigitChars_replicate_zero] at written
  have point : exponent + ((Nat.toDigits 10 count).length : ℤ) -
      (dropLastZeros (Nat.toDigits 10 count)).length = zeros + exponent := by
    omega
  calc (Digits.ofGrid count exponent).value
      = Nat.ofDigitChars 10 (dropLastZeros (Nat.toDigits 10 count)) 0 *
          10 ^ ((zeros : ℤ) + exponent) := by
        rw [← point]
        rfl
    _ = (10 ^ zeros * Nat.ofDigitChars 10 (dropLastZeros (Nat.toDigits 10 count)) 0 : Nat) *
          10 ^ exponent := by
        rw [zpow_add₀ (by norm_num), zpow_natCast]
        push_cast
        ring
    _ = count * 10 ^ exponent := by rw [written]

theorem isPlain_whole {chars : List Char} {value : ℚ} (decimal : chars.all Char.isDigit = true)
    (nonempty : chars ≠ []) (first : chars.head? ≠ some '0')
    (same : value = Nat.ofDigitChars 10 chars 0) : IsPlain chars value := by
  have plain := IsPlain.whole (Nat.ofDigitChars 10 chars 0)
  rwa [toDigits_ofDigitChars decimal nonempty first, ← same] at plain

/-- A point in front of the digits has zeros between it and them. -/
theorem Digits.value_front {number : Digits} (front : number.point ≤ 0) :
    number.value =
      behindPoint (List.replicate (-number.point).toNat '0' ++ number.digits) := by
  have point : number.point - number.digits.length =
      -(((-number.point).toNat + number.digits.length : Nat) : ℤ) := by omega
  rw [behindPoint, Nat.ofDigitChars_append, Nat.ofDigitChars_replicate_zero, Nat.mul_zero,
    List.length_append, List.length_replicate, div_eq_mul_inv, ← zpow_natCast, ← zpow_neg, ← point]
  rfl

/-- A point behind the digits makes them a whole number, with zeros at its end. -/
theorem Digits.value_whole {number : Digits} (behind : ¬number.point ≤ 0)
    (whole : number.digits.length ≤ number.point.toNat) :
    number.value = Nat.ofDigitChars 10
      (number.digits ++ List.replicate (number.point.toNat - number.digits.length) '0') 0 := by
  have point : number.point - number.digits.length =
      (number.point.toNat - number.digits.length : Nat) := by omega
  rw [Nat.ofDigitChars_append, Nat.ofDigitChars_replicate_zero, Nat.cast_mul, Nat.cast_pow,
    Nat.cast_ofNat, ← zpow_natCast, ← point, mul_comm]
  rfl

/-- A point among the digits parts them into a whole number and a fraction. -/
theorem Digits.value_inside {number : Digits} (behind : ¬number.point ≤ 0)
    (inside : ¬number.digits.length ≤ number.point.toNat) :
    number.value = Nat.ofDigitChars 10 (number.digits.take number.point.toNat) 0 +
      behindPoint (number.digits.drop number.point.toNat) := by
  have parts := ofDigitChars_append_eq (number.digits.take number.point.toNat)
    (number.digits.drop number.point.toNat)
  rw [List.take_append_drop] at parts
  have point : number.point - number.digits.length =
      -((number.digits.drop number.point.toNat).length : ℤ) := by
    rw [List.length_drop]
    omega
  rw [Digits.value, point, zpow_neg, zpow_natCast, parts, behindPoint]
  push_cast
  field_simp

/-- Digits that are set out without an exponent are in plain notation. -/
theorem Digits.IsTight.isPlain {number : Digits} (tight : number.IsTight) :
    IsPlain (Layout.plain.positionalText number) number.value := by
  obtain ⟨decimal, nonempty, first, last⟩ := tight
  have zeros (count : Nat) : (List.replicate count '0').all Char.isDigit = true := by
    rw [List.all_replicate]
    simp
  unfold Layout.positionalText
  dsimp only
  split
  · rename_i front
    have plain := @IsPlain.fraction 0 (List.replicate (-number.point).toNat '0' ++ number.digits)
      (by rw [List.all_append, zeros, decimal]; rfl)
      (List.append_ne_nil_of_right_ne_nil _ nonempty)
      (by rwa [List.getLast?_append_of_ne_nil _ nonempty])
    rwa [Nat.cast_zero, zero_add, ← Digits.value_front front] at plain
  · rename_i behind
    split
    · rename_i whole
      rw [if_neg (show ¬Layout.plain.pointZero = true from Bool.false_ne_true), List.append_nil]
      exact isPlain_whole (by rw [List.all_append, decimal, zeros]; rfl)
        (List.append_ne_nil_of_left_ne_nil nonempty _)
        (by rwa [List.head?_append_of_ne_nil _ nonempty]) (Digits.value_whole behind whole)
    · rename_i inside
      have decimals := decimal
      rw [← List.take_append_drop number.point.toNat number.digits, List.all_append,
        Bool.and_eq_true] at decimals
      have front : (number.digits.take number.point.toNat).head? ≠ some '0' := by
        rwa [List.head?_take, if_neg (by omega)]
      have plain := IsPlain.fraction (Nat.ofDigitChars 10 (number.digits.take number.point.toNat) 0)
        decimals.2 (List.ne_nil_of_length_pos (by rw [List.length_drop]; omega))
        (by rwa [List.getLast?_drop, if_neg (by omega)])
      rwa [toDigits_ofDigitChars decimals.1
        (List.ne_nil_of_length_pos (by rw [List.length_take]; omega)) front,
        ← Digits.value_inside behind inside] at plain

/-! ## The plain text of a number -/

/-- Whether a text is that of a floating-point number in plain notation. -/
inductive PlainText (number : Float) : String -> Prop where
  | undefined (notNumber : number.isNaN = true) : PlainText number "NaN"
  | infinite {negative : Bool} (has : HasBits number negative infinityBits) :
      PlainText number ((if negative then "-" else "") ++ "inf")
  | finite {negative : Bool} {bits places : Nat} {value : ℚ} {chars : List Char}
      (has : HasBits number negative bits) (finite : bits < infinityBits)
      (shortest : IsShortest .upward bits places value) (plain : IsPlain chars value) :
      PlainText number ((if negative then "-" else "") ++ String.ofList chars)

def digitsOf (tie : Tie) (number : Float) : Digits :=
  match Magnitude.ofFloat? number with
  | some magnitude => magnitude.shortest tie
  | none => zeroDigits

section

variable {number : Float} {negative : Bool} {bits : Nat}

theorem render_undefined (layout : Layout) (notNumber : number.isNaN = true) :
    layout.render number = "NaN" := by
  rw [Layout.render, if_pos notNumber]

theorem render_infinite (layout : Layout) (has : HasBits number negative infinityBits) :
    layout.render number = (if negative then "-" else "") ++ "inf" := by
  have isNumber := has.isNaN_eq_false (le_refl _)
  simp only [Layout.render, isNumber, has.isInf, has.sign_iff (le_refl _), if_true,
    Bool.false_eq_true, if_false]

theorem render_finite (layout : Layout) (has : HasBits number negative bits)
    (finite : bits < infinityBits) :
    layout.render number = (if negative then "-" else "") ++
      String.ofList (if layout.isPositional (digitsOf layout.tie number).point then
        layout.positionalText (digitsOf layout.tie number)
      else scientificText (digitsOf layout.tie number)) := by
  have isNumber := has.isNaN_eq_false finite.le
  have isFinite := has.isInf_eq_false finite
  simp only [Layout.render, isNumber, isFinite, has.sign_iff finite.le, Bool.false_eq_true,
    if_false]
  rfl

/-- The digits of a finite number are those of its shortest decimal. -/
theorem exists_isShortest_digitsOf (tie : Tie) (has : HasBits number negative bits)
    (finite : bits < infinityBits) :
    (bits = 0 ∧ digitsOf tie number = zeroDigits) ∨
      (digitsOf tie number).IsTight ∧
        exists places, IsShortest tie bits places (digitsOf tie number).value := by
  rcases Nat.eq_zero_or_pos bits with rfl | positive
  · left
    rw [digitsOf, ofFloat_zero has]
    exact ⟨rfl, rfl⟩
  · right
    obtain ⟨magnitude, found, represents⟩ := exists_represents has positive finite
    obtain ⟨count, exponent, places, some, digits, shortest⟩ := represents.shortest_spec tie
    rw [digitsOf, found]
    dsimp only
    rw [digits, value_ofGrid]
    exact ⟨isTight_ofGrid some exponent, places, shortest⟩

/-- Every number has its plain text. -/
theorem plainText_render (number : Float) : PlainText number (Layout.plain.render number) := by
  cases isNumber : number.isNaN with
  | true =>
      rw [render_undefined _ isNumber]
      exact .undefined isNumber
  | false =>
      obtain ⟨negative, bits, has, bound⟩ := exists_hasBits isNumber
      rcases Nat.lt_or_eq_of_le bound with finite | rfl
      · rw [render_finite _ has finite, if_pos (show Layout.plain.isPositional _ = true from rfl)]
        rcases exists_isShortest_digitsOf .upward has finite with
          ⟨rfl, digits⟩ | ⟨tight, places, shortest⟩
        · have zero : IsPlain ['0'] 0 := by exact_mod_cast IsPlain.whole 0
          rw [show Layout.plain.tie = .upward from rfl, digits]
          exact .finite has finite (isShortest_zero _) zero
        · exact .finite has finite shortest tight.isPlain
      · rw [render_infinite _ has]
        exact .infinite has

theorem PlainText.unique {text other : String} (plain : PlainText number text)
    (plainToo : PlainText number other) : text = other := by
  have isNumber {sign : Bool} {digits : Nat} (has : HasBits number sign digits)
      (bound : digits ≤ infinityBits) (notNumber : number.isNaN = true) : False := by
    rw [has.isNaN_eq_false bound] at notNumber
    cases notNumber
  cases plain with
  | undefined notNumber =>
      cases plainToo with
      | undefined _ => rfl
      | infinite has => exact (isNumber has (le_refl _) notNumber).elim
      | finite has finite _ _ => exact (isNumber has finite.le notNumber).elim
  | infinite has =>
      cases plainToo with
      | undefined notNumber => exact (isNumber has (le_refl _) notNumber).elim
      | infinite hasToo => rw [(has.inj hasToo (le_refl _) (le_refl _)).1]
      | finite hasToo finite _ _ =>
          exact absurd (has.inj hasToo (le_refl _) finite.le).2.symm finite.ne
  | finite has finite shortest plain =>
      cases plainToo with
      | undefined notNumber => exact (isNumber has finite.le notNumber).elim
      | infinite hasToo => exact absurd (has.inj hasToo finite.le (le_refl _)).2 finite.ne
      | finite hasToo finiteToo shortestToo plainToo =>
          obtain ⟨rfl, rfl⟩ := has.inj hasToo finite.le finiteToo.le
          obtain rfl := shortest.unique shortestToo
          rw [plain.unique plainToo]

theorem PlainText.ne_empty {text : String} (plain : PlainText number text) : text ≠ "" := by
  cases plain with
  | undefined _ => decide
  | infinite _ =>
      intro empty
      exact absurd (String.append_eq_empty_iff.mp empty).2 (by decide)
  | finite _ _ _ plain =>
      intro empty
      exact plain.ne_nil (String.ofList_eq.mp (String.append_eq_empty_iff.mp empty).2)

/-- What is written for a number is its plain text. -/
theorem plainText_iff {text : String} :
    PlainText number text ↔ Layout.plain.render number = text := by
  constructor
  · exact fun plain => (plainText_render number).unique plain
  · rintro rfl
    exact plainText_render number

-- The number is a whole one, but a decimal with fewer digits stands for it, too.
example : PlainText (nearest 9223372036854775808 0) "9223372036854776000" :=
  plainText_iff.mpr (by decide +kernel)

end

end Decimal
end TelemetryRelay
