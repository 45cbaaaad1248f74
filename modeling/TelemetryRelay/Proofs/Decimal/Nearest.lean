import TelemetryRelay.Proofs.Decimal.Binary
import TelemetryRelay.Proofs.Decimal.Bits

/-!
# Decimals are rounded to the nearest number

The exponent of the grid is the one for which the quotient has 53 bits, or the
least one.  So the fraction lies between two neighbours in the order of all
values, and the rounded quotient is the nearer one of them.
-/

namespace TelemetryRelay
namespace Decimal

/-! ## Quotients -/

section

variable {numerator denominator : Nat}

theorem div_eq_quotient_add (positive : 0 < denominator) :
    (numerator : ℚ) / denominator =
      (numerator / denominator : Nat) + ((numerator % denominator : Nat) : ℚ) / denominator := by
  have parts : (denominator : ℚ) * (numerator / denominator : Nat) +
      (numerator % denominator : Nat) = numerator := by
    exact_mod_cast Nat.div_add_mod numerator denominator
  have nonzero : (denominator : ℚ) ≠ 0 := by positivity
  rw [← parts]
  field_simp

/-- Powers that would make a fraction of an exponent are on its other side. -/
theorem scaled_div (numerator denominator : Nat) {base : Nat} (positive : 0 < base)
    (exponent : ℤ) :
    ((numerator * Nat.pow base (-exponent).toNat : Nat) : ℚ) /
        (denominator * Nat.pow base exponent.toNat : Nat) =
      numerator / denominator / (base : ℚ) ^ exponent := by
  have nonzero : (base : ℚ) ≠ 0 := by positivity
  have power (count : Nat) : ((Nat.pow base count : Nat) : ℚ) = (base : ℚ) ^ (count : ℤ) := by
    rw [zpow_natCast]
    exact Nat.cast_pow base count
  have parts : exponent = (exponent.toNat : ℤ) - ((-exponent).toNat : ℤ) := by omega
  rw [Nat.cast_mul, Nat.cast_mul, power, power]
  conv_rhs => rw [parts, zpow_sub₀ nonzero]
  rw [div_div_eq_mul_div, div_mul_eq_mul_div, div_div]

theorem le_scaled_iff (numerator : Nat) {base : Nat} (positive : 0 < base)
    (divisor : 0 < denominator) (count : Nat) (exponent : ℤ) :
    count * (denominator * Nat.pow base exponent.toNat) ≤
        numerator * Nat.pow base (-exponent).toNat ↔
      (count : ℚ) * base ^ exponent ≤ numerator / denominator := by
  have unit : (0 : ℚ) < (base : ℚ) ^ exponent := by positivity
  have scaled : 0 < denominator * Nat.pow base exponent.toNat :=
    Nat.mul_pos divisor (Nat.pow_pos positive)
  rw [← le_div_iff₀ unit, ← scaled_div numerator denominator positive,
    le_div_iff₀ (by exact_mod_cast scaled)]
  exact_mod_cast Iff.rfl

theorem scaled_le_iff (numerator : Nat) {base : Nat} (positive : 0 < base)
    (divisor : 0 < denominator) (count : Nat) (exponent : ℤ) :
    numerator * Nat.pow base (-exponent).toNat ≤
        count * (denominator * Nat.pow base exponent.toNat) ↔
      (numerator : ℚ) / denominator ≤ count * base ^ exponent := by
  have unit : (0 : ℚ) < (base : ℚ) ^ exponent := by positivity
  have scaled : 0 < denominator * Nat.pow base exponent.toNat :=
    Nat.mul_pos divisor (Nat.pow_pos positive)
  rw [← div_le_iff₀ unit, ← scaled_div numerator denominator positive,
    div_le_iff₀ (by exact_mod_cast scaled)]
  exact_mod_cast Iff.rfl

/-- The rounded quotient is one of the two whole numbers around the fraction. -/
theorem roundedQuotient_cases (tie : Tie) (numerator denominator : Nat) :
    (roundedQuotient tie numerator denominator = numerator / denominator ∧
        (2 * (numerator % denominator) < denominator ∨
          2 * (numerator % denominator) = denominator ∧ tie = .toEven ∧
            numerator / denominator % 2 = 0)) ∨
      (roundedQuotient tie numerator denominator = numerator / denominator + 1 ∧
        (denominator < 2 * (numerator % denominator) ∨
          2 * (numerator % denominator) = denominator ∧
            (tie = .toEven -> numerator / denominator % 2 = 1))) := by
  unfold roundedQuotient
  dsimp only
  split
  · rename_i less
    exact .inl ⟨rfl, .inl (Nat.compare_eq_lt.mp less)⟩
  · rename_i greater
    exact .inr ⟨rfl, .inl (Nat.compare_eq_gt.mp greater)⟩
  · rename_i equal
    have half := Nat.compare_eq_eq.mp equal
    cases tie with
    | upward => exact .inr ⟨rfl, .inr ⟨half, nofun⟩⟩
    | toEven =>
        rcases Nat.mod_two_eq_zero_or_one (numerator / denominator) with even | odd
        · exact .inl ⟨by rw [even, Nat.add_zero], .inr ⟨half, rfl, even⟩⟩
        · exact .inr ⟨by rw [odd], .inr ⟨half, fun _ => odd⟩⟩

end

/-! ## Between two neighbours -/

section

variable {fraction : ℚ} {lower : Nat}

theorem isNearest_lower (above : binaryValue lower ≤ fraction)
    (near : BelowEnd fraction lower) : IsNearest fraction lower := by
  refine isNearest_iff.mpr ⟨?_, near⟩
  rintro below rfl
  exact .inl (lt_of_lt_of_le (midpoint_lt_binaryValue below) above)

theorem isNearest_upper (below : fraction < binaryValue (lower + 1))
    (near : midpoint lower < fraction ∨ midpoint lower = fraction ∧ (lower + 1) % 2 = 0) :
    IsNearest fraction (lower + 1) :=
  isNearest_iff.mpr ⟨aboveBeginning_succ.mpr near,
    .inl (below.trans (binaryValue_lt_midpoint (lower + 1)))⟩

/-- The quotient on a grid, rounded to a whole number, is the nearest value. -/
theorem isNearest_grid (grid numerator : Nat) {denominator : Nat} (positive : 0 < denominator)
    (normal : grid = 0 ∨ 2 ^ 52 ≤ numerator / denominator)
    (bound : numerator / denominator < 2 ^ 53) :
    IsNearest ((numerator : ℚ) / denominator * 2 ^ ((grid : ℤ) - 1074))
      (grid * 2 ^ 52 + roundedQuotient .toEven numerator denominator) := by
  have unit : (0 : ℚ) < 2 ^ ((grid : ℤ) - 1074) := by positivity
  have divisor : (0 : ℚ) < denominator := by exact_mod_cast positive
  have next : grid = 0 ∨ 2 ^ 52 ≤ numerator / denominator + 1 := normal.imp_right (by omega)
  have low := binaryValue_grid normal (Nat.le_of_lt bound)
  have high := binaryValue_grid next bound
  have half := midpoint_grid normal bound
  rw [div_eq_quotient_add positive]
  rcases roundedQuotient_cases .toEven numerator denominator with
    ⟨rounded, near⟩ | ⟨rounded, near⟩
  · rw [rounded]
    refine isNearest_lower ?_ ?_
    · rw [low, mul_le_mul_iff_left₀ unit]
      exact le_add_of_nonneg_right (by positivity)
    · rw [BelowEnd, half, mul_lt_mul_iff_left₀ unit, mul_left_inj' unit.ne', add_lt_add_iff_left,
        add_right_inj, div_lt_div_iff₀ divisor two_pos, div_eq_div_iff divisor.ne' two_ne_zero]
      refine near.imp (fun less => ?_) fun equal => ⟨?_, by omega⟩
      · exact_mod_cast (by omega : numerator % denominator * 2 < 1 * denominator)
      · exact_mod_cast (by omega : numerator % denominator * 2 = 1 * denominator)
  · rw [rounded, ← Nat.add_assoc]
    refine isNearest_upper ?_ ?_
    · rw [Nat.add_assoc, high, mul_lt_mul_iff_left₀ unit, Nat.cast_add, Nat.cast_one,
        add_lt_add_iff_left, div_lt_one divisor]
      exact_mod_cast Nat.mod_lt numerator positive
    · rw [half, mul_lt_mul_iff_left₀ unit, mul_left_inj' unit.ne', add_lt_add_iff_left,
        add_right_inj, div_lt_div_iff₀ two_pos divisor, div_eq_div_iff two_ne_zero divisor.ne']
      rcases near with greater | ⟨equal, odd⟩
      · exact .inl (by exact_mod_cast (by omega : 1 * denominator < numerator % denominator * 2))
      · have odd := odd rfl
        exact .inr ⟨by exact_mod_cast (by omega : 1 * denominator = numerator % denominator * 2),
          by omega⟩

end

/-! ## The grid around a fraction -/

section

variable {numerator denominator : Nat}

/-- The first guess at the exponent is right or one too small. -/
theorem estimate_spec (above : 0 < numerator) (positive : 0 < denominator) :
    let estimate : ℤ := (numerator.log2 : ℤ) - denominator.log2 - 53
    (2 : ℚ) ^ 52 * 2 ^ estimate ≤ numerator / denominator ∧
      (numerator : ℚ) / denominator < 2 ^ 54 * 2 ^ estimate := by
  intro estimate
  have divisor : (0 : ℚ) < denominator := by exact_mod_cast positive
  have power (exponent count : ℤ) (sum : exponent = count + estimate) :
      (2 : ℚ) ^ count * 2 ^ estimate = 2 ^ exponent := by
    rw [sum, zpow_add₀ two_ne_zero]
  have numeratorLeast : (2 : ℚ) ^ (numerator.log2 : ℤ) ≤ numerator := by
    exact_mod_cast Nat.log2_self_le above.ne'
  have numeratorBound : (numerator : ℚ) < 2 ^ ((numerator.log2 : ℤ) + 1) := by
    exact_mod_cast Nat.lt_log2_self (n := numerator)
  have denominatorLeast : (2 : ℚ) ^ (denominator.log2 : ℤ) ≤ denominator := by
    exact_mod_cast Nat.log2_self_le positive.ne'
  have denominatorBound : (denominator : ℚ) < 2 ^ ((denominator.log2 : ℤ) + 1) := by
    exact_mod_cast Nat.lt_log2_self (n := denominator)
  constructor
  · have split : (2 : ℚ) ^ (52 : ℤ) * 2 ^ estimate * 2 ^ ((denominator.log2 : ℤ) + 1) =
        2 ^ (numerator.log2 : ℤ) := by
      rw [power _ 52 rfl, ← zpow_add₀ two_ne_zero]
      congr 1
      omega
    rw [le_div_iff₀ divisor]
    refine le_trans ?_ numeratorLeast
    rw [← split]
    exact mul_le_mul_of_nonneg_left denominatorBound.le (by positivity)
  · have split : (2 : ℚ) ^ (54 : ℤ) * 2 ^ estimate * 2 ^ (denominator.log2 : ℤ) =
        2 ^ ((numerator.log2 : ℤ) + 1) := by
      rw [power _ 54 rfl, ← zpow_add₀ two_ne_zero]
      congr 1
      omega
    rw [div_lt_iff₀ divisor]
    refine lt_of_lt_of_le numeratorBound ?_
    rw [← split]
    exact mul_le_mul_of_nonneg_left denominatorLeast (by positivity)

/-- What a scaled quotient is at least, as a statement on the fraction. -/
theorem le_scaled_quotient_iff (numerator : Nat) (positive : 0 < denominator) (least : Nat)
    (exponent : ℤ) :
    least ≤ numerator * Nat.pow 2 (-exponent).toNat /
        (denominator * Nat.pow 2 exponent.toNat) ↔
      (least : ℚ) * 2 ^ exponent ≤ numerator / denominator := by
  have divisor : 0 < denominator * Nat.pow 2 exponent.toNat :=
    Nat.mul_pos positive (Nat.two_pow_pos _)
  rw [Nat.le_div_iff_mul_le divisor, le_scaled_iff numerator two_pos positive, Nat.cast_two]

/-- The quotient on the grid around a fraction has 53 bits, or fewer on the
least grid. -/
theorem gridExponent_spec (above : 0 < numerator) (positive : 0 < denominator) :
    -1074 ≤ gridExponent numerator denominator ∧
      (numerator : ℚ) / denominator < 2 ^ 53 * 2 ^ gridExponent numerator denominator ∧
      (-1074 < gridExponent numerator denominator ->
        (2 : ℚ) ^ 52 * 2 ^ gridExponent numerator denominator ≤ numerator / denominator) := by
  obtain ⟨least, bound⟩ := estimate_spec above positive
  let estimate : ℤ := (numerator.log2 : ℤ) - denominator.log2 - 53
  have carries := le_scaled_quotient_iff numerator positive (2 ^ 53) estimate
  have exact : exists exponent, gridExponent numerator denominator = max (-1074) exponent ∧
      (2 : ℚ) ^ 52 * 2 ^ exponent ≤ numerator / denominator ∧
      (numerator : ℚ) / denominator < 2 ^ 53 * 2 ^ exponent := by
    rw [gridExponent]
    split
    · rename_i carry
      have reached := carries.mp carry
      refine ⟨estimate + 1, rfl, ?_, ?_⟩
      · rw [zpow_add_one₀ two_ne_zero]
        push_cast at reached
        linarith
      · rw [zpow_add_one₀ two_ne_zero]
        linarith
    · rename_i noCarry
      have missed := lt_of_not_ge fun reached => noCarry (carries.mpr reached)
      push_cast at missed
      exact ⟨estimate, rfl, least, missed⟩
  obtain ⟨exponent, equal, least, bound⟩ := exact
  rw [equal]
  refine ⟨le_max_left _ _, bound.trans_le ?_, fun larger => ?_⟩
  · exact mul_le_mul_of_nonneg_left (zpow_le_zpow_right₀ one_le_two (le_max_right _ _))
      (by positivity)
  · rwa [max_eq_right (by omega)]

/-- The bits of a fraction are those of the nearest value, or of infinity if
this value is beyond all finite ones. -/
theorem exists_isNearest_nearestBits (above : 0 < numerator) (positive : 0 < denominator) :
    exists bits, IsNearest ((numerator : ℚ) / denominator) bits ∧
      nearestBits numerator denominator = min infinityBits bits := by
  obtain ⟨least, bound, normal⟩ := gridExponent_spec above positive
  generalize exponentEq : gridExponent numerator denominator = exponent at least bound normal
  have divisor : 0 < denominator * Nat.pow 2 exponent.toNat :=
    Nat.mul_pos positive (Nat.two_pow_pos _)
  have unit : (2 : ℚ) ^ exponent ≠ 0 := by positivity
  have grid : (((exponent + 1074).toNat : Nat) : ℤ) - 1074 = exponent := by omega
  have nearest := isNearest_grid (exponent + 1074).toNat
    (numerator * Nat.pow 2 (-exponent).toNat) divisor ?_ ?_
  · rw [scaled_div _ _ two_pos, grid, Nat.cast_two, div_mul_cancel₀ _ unit] at nearest
    refine ⟨_, nearest, ?_⟩
    rw [nearestBits, exponentEq]
    rfl
  · rcases eq_or_lt_of_le least with lowest | larger
    · left
      omega
    · right
      rw [le_scaled_quotient_iff numerator positive]
      exact_mod_cast normal larger
  · rw [← not_le, le_scaled_quotient_iff numerator positive, not_le]
    exact_mod_cast bound

end

/-! ## Decimals -/

/-- Whether a floating-point number is what a fraction without a sign is rounded
to.  The values beyond all finite numbers are infinity. -/
def Rounded (fraction : ℚ) (number : Float) : Prop :=
  exists bits, IsNearest fraction bits ∧ HasBits number false (min infinityBits bits)

theorem Rounded.unique {fraction : ℚ} {number other : Float} (rounded : Rounded fraction number)
    (roundedToo : Rounded fraction other) : number = other := by
  obtain ⟨bits, nearest, has⟩ := rounded
  obtain ⟨others, nearestToo, hasToo⟩ := roundedToo
  rw [nearest.unique nearestToo] at has
  exact has.unique hasToo

theorem digitCount_spec {number : Nat} (positive : 0 < number) :
    (10 : ℚ) ^ ((digitCount number : ℤ) - 1) ≤ number ∧
      (number : ℚ) < 10 ^ (digitCount number : ℤ) := by
  rw [digitCount, if_neg positive.ne']
  have count : 0 < (Nat.toDigits 10 number).length := Nat.length_toDigits_pos
  obtain ⟨fewer, equal⟩ := Nat.exists_eq_add_one_of_ne_zero count.ne'
  have bound := (Nat.length_toDigits_le_iff (by decide) count).mp (le_refl _)
  have least : 10 ^ fewer ≤ number := by
    rcases Nat.eq_zero_or_pos fewer with none | some
    · rw [none]
      exact positive
    · refine Nat.le_of_not_lt fun less => ?_
      have shorter := (Nat.length_toDigits_le_iff (b := 10) (by decide) some).mpr less
      omega
  rw [equal] at bound ⊢
  constructor
  · rw [Nat.cast_succ, add_sub_cancel_right]
    exact_mod_cast least
  · exact_mod_cast bound

theorem decimal_eq_div (significand : Nat) (exponent : ℤ) :
    ((significand * Nat.pow 10 exponent.toNat : Nat) : ℚ) / (Nat.pow 10 (-exponent).toNat : Nat) =
      significand * 10 ^ exponent := by
  have scaled := scaled_div significand 1 (by decide : 0 < 10) (-exponent)
  rw [neg_neg, Nat.one_mul, Nat.cast_one, div_one, zpow_neg, div_inv_eq_mul] at scaled
  exact_mod_cast scaled

/-- The nearest value to a decimal that is at least as large as infinity is
beyond all finite numbers. -/
theorem infinityBits_le {fraction : ℚ} {bits : Nat} (nearest : IsNearest fraction bits)
    (large : (2 : ℚ) ^ (1024 : ℤ) ≤ fraction) : infinityBits ≤ bits := by
  by_contra finite
  have infinite : binaryValue infinityBits = 2 ^ (1024 : ℤ) := by
    have grid := @binaryValue_grid 2046 (2 ^ 52) (.inr (le_refl _)) (by norm_num)
    have split : infinityBits = 2046 * 2 ^ 52 + 2 ^ 52 := rfl
    rw [split, grid, Nat.cast_pow, Nat.cast_two, ← zpow_natCast, ← zpow_add₀ two_ne_zero]
    rfl
  have ends : fraction ≤ midpoint bits := nearest.belowEnd.elim le_of_lt fun same => same.1.le
  have next := midpoint_lt_binaryValue bits
  have order : binaryValue (bits + 1) ≤ binaryValue infinityBits :=
    binaryValue_strictMono.monotone (Nat.lt_of_not_le finite)
  linarith

theorem decimal_size {significand : Nat} (positive : 0 < significand) (exponent : ℤ) :
    (10 : ℚ) ^ (exponent + digitCount significand - 1) ≤ significand * 10 ^ exponent ∧
      (significand : ℚ) * 10 ^ exponent < 10 ^ (exponent + digitCount significand) := by
  obtain ⟨least, bound⟩ := digitCount_spec positive
  have unit : (0 : ℚ) < 10 ^ exponent := by positivity
  rw [add_sub_assoc, zpow_add₀ (by norm_num), zpow_add₀ (by norm_num), mul_comm (10 ^ exponent),
    mul_comm (10 ^ exponent), mul_le_mul_iff_left₀ unit, mul_lt_mul_iff_left₀ unit]
  exact ⟨least, bound⟩

/-- What is less than this power of ten is nearer to zero than to any other
value. -/
theorem tiny_lt_midpoint : (10 : ℚ) ^ (-331 : ℤ) < midpoint 0 := by
  have powers : (2 : Nat) ^ 1075 < 10 ^ 331 := by decide +kernel
  have half : midpoint 0 = 2 ^ (-1075 : ℤ) := by
    have least := @binaryValue_grid 0 1 (.inl rfl) (by norm_num)
    rw [Nat.zero_mul] at least
    rw [midpoint, binaryValue_zero, zero_add, least, Nat.cast_one, one_mul,
      show ((0 : Nat) : ℤ) - 1074 = -1075 + 1 from rfl, zpow_add_one₀ two_ne_zero]
    exact mul_div_cancel_right₀ _ two_ne_zero
  rw [half, zpow_neg, zpow_neg]
  refine inv_strictAnti₀ (by positivity) ?_
  exact_mod_cast powers

/-- A decimal is rounded to the nearest number. -/
theorem rounded_nearest (significand : Nat) (exponent : ℤ) :
    Rounded ((significand : ℚ) * 10 ^ exponent) (nearest significand exponent) := by
  rw [nearest]
  split
  · rename_i small
    refine ⟨0, isNearest_iff.mpr ⟨nofun, ?_⟩, hasBits_zero⟩
    rw [BelowEnd]
    left
    rcases Nat.eq_zero_or_pos significand with zero | positive
    · rw [zero, Nat.cast_zero, zero_mul, ← binaryValue_zero]
      exact binaryValue_lt_midpoint 0
    · refine (decimal_size positive exponent).2.trans (lt_of_le_of_lt ?_ tiny_lt_midpoint)
      exact zpow_le_zpow_right₀ (by norm_num) (by omega)
  · rename_i notSmall
    have positive : 0 < significand := by omega
    obtain ⟨bits, isNearest, equal⟩ := @exists_isNearest_nearestBits
      (significand * Nat.pow 10 exponent.toNat) (Nat.pow 10 (-exponent).toNat)
      (Nat.mul_pos positive (Nat.pow_pos (by decide))) (Nat.pow_pos (by decide))
    rw [decimal_eq_div] at isNearest
    refine ⟨bits, isNearest, ?_⟩
    split
    · rename_i large
      have beyond : infinityBits ≤ bits := by
        refine infinityBits_le isNearest (le_trans ?_ (decimal_size positive exponent).1)
        have powers : (2 : Nat) ^ 1024 ≤ 10 ^ 310 := by decide +kernel
        refine le_trans (b := (10 : ℚ) ^ (310 : ℤ)) (by exact_mod_cast powers) ?_
        exact zpow_le_zpow_right₀ (by norm_num) (by omega)
      rw [min_eq_left beyond]
      exact hasBits_ofBits (le_refl _)
    · rw [← equal]
      exact hasBits_ofBits (equal.trans_le (min_le_left _ _))

end Decimal
end TelemetryRelay
