import TelemetryRelay.Proofs.Decimal.Nearest

/-!
# The shortest decimals that read back

A decimal with few digits stands for a floating-point number if this number is
the nearest one to it.  The shortest decimal of a number has fewer digits than
all others that stand for it, or else it is nearer to the number, or else it is
the greater one.  Of all decimals with so many digits that stand for a number,
one of the two next to it on its own grid is the nearest.
-/

namespace TelemetryRelay
namespace Decimal

/-! ## Competing fractions -/

/-- Whether a fraction is as near to a value as another one.  Of two that are
equally near, the greater one is better if ties go upward. -/
def NoWorse (tie : Tie) (value fraction other : ℚ) : Prop :=
  |fraction - value| ≤ |other - value| ∧
    (tie = .upward -> |other - value| = |fraction - value| -> other ≤ fraction)

section

variable {tie : Tie} {value fraction other worst unit : ℚ}

theorem NoWorse.refl (tie : Tie) (value fraction : ℚ) : NoWorse tie value fraction fraction :=
  ⟨le_refl _, fun _ _ => le_refl _⟩

theorem NoWorse.trans (better : NoWorse tie value fraction other)
    (betterToo : NoWorse tie value other worst) : NoWorse tie value fraction worst := by
  refine ⟨better.1.trans betterToo.1, fun upward same => ?_⟩
  have lower := better.1
  have upper := betterToo.1
  exact (betterToo.2 upward (by linarith)).trans (better.2 upward (by linarith))

theorem NoWorse.mul_right (better : NoWorse tie value fraction other) (positive : 0 < unit) :
    NoWorse tie (value * unit) (fraction * unit) (other * unit) := by
  have distance (one : ℚ) : |one * unit - value * unit| = |one - value| * unit := by
    rw [← sub_mul, abs_mul, abs_of_pos positive]
  rw [NoWorse, distance, distance, mul_le_mul_iff_left₀ positive, mul_le_mul_iff_left₀ positive,
    mul_left_inj' positive.ne']
  exact better

/-- Beyond a value, what is nearer lies between. -/
theorem noWorse_of_le (above : value < fraction) (further : fraction ≤ other) :
    NoWorse tie value fraction other := by
  rw [NoWorse, abs_of_nonneg (by linarith), abs_of_nonneg (by linarith)]
  exact ⟨by linarith, fun _ same => by linarith⟩

theorem noWorse_of_ge (below : fraction ≤ value) (further : other ≤ fraction) :
    NoWorse tie value fraction other := by
  rw [NoWorse, abs_of_nonpos (by linarith), abs_of_nonpos (by linarith)]
  exact ⟨by linarith, fun _ _ => further⟩

end

/-! ## Decimals with few digits -/

/-- Whether a fraction is a decimal with at most so many significant digits. -/
def HasPlaces (places : Nat) (fraction : ℚ) : Prop :=
  exists (count : Nat) (exponent : ℤ), count < 10 ^ places ∧ fraction = count * 10 ^ exponent

/-- Whether a decimal stands for the number with these bits, and no other one
with so many digits does so better. -/
structure IsBest (tie : Tie) (bits places : Nat) (fraction : ℚ) : Prop where
  readsBack : IsNearest fraction bits
  expressible : HasPlaces places fraction
  noWorse : forall other, HasPlaces places other -> IsNearest other bits ->
    NoWorse tie (binaryValue bits) fraction other

/-- Whether, in addition, none with fewer digits stands for the number. -/
structure IsShortest (tie : Tie) (bits places : Nat) (fraction : ℚ) : Prop
    extends IsBest tie bits places fraction where
  fewest : forall fewer other, fewer < places -> HasPlaces fewer other -> ¬IsNearest other bits

/-- If ties go upward, a number has one shortest decimal. -/
theorem IsShortest.unique {bits places others : Nat} {fraction other : ℚ}
    (shortest : IsShortest .upward bits places fraction)
    (shortestToo : IsShortest .upward bits others other) : fraction = other := by
  obtain rfl : places = others := by
    rcases lt_trichotomy places others with fewer | same | more
    · exact absurd shortest.readsBack
        (shortestToo.fewest places fraction fewer shortest.expressible)
    · exact same
    · exact absurd shortestToo.readsBack
        (shortest.fewest others other more shortestToo.expressible)
  have better := shortest.noWorse other shortestToo.expressible shortestToo.readsBack
  have betterToo := shortestToo.noWorse fraction shortest.expressible shortest.readsBack
  have same := le_antisymm better.1 betterToo.1
  exact le_antisymm (betterToo.2 rfl same) (better.2 rfl same.symm)

theorem HasPlaces.eq_zero {fraction : ℚ} (places : HasPlaces 0 fraction) : fraction = 0 := by
  obtain ⟨count, exponent, bound, rfl⟩ := places
  obtain rfl : count = 0 := by omega
  rw [Nat.cast_zero, zero_mul]

/-- A power of ten needs one digit only. -/
theorem hasPlaces_of_le {count places : Nat} (some : 0 < places) (bound : count ≤ 10 ^ places)
    (exponent : ℤ) : HasPlaces places (count * 10 ^ exponent) := by
  rcases Nat.lt_or_eq_of_le bound with less | power
  · exact ⟨count, exponent, less, rfl⟩
  · refine ⟨1, places + exponent, Nat.one_lt_pow some.ne' (by decide), ?_⟩
    rw [power, Nat.cast_one, one_mul, zpow_add₀ (by norm_num)]
    push_cast
    rfl

theorem isShortest_zero (tie : Tie) : IsShortest tie 0 0 0 := by
  have readsBack := isNearest_binaryValue 0
  rw [binaryValue_zero] at readsBack
  refine ⟨⟨readsBack, ⟨0, 0, by norm_num, by norm_num⟩, ?_⟩, nofun⟩
  intro other places _
  rw [places.eq_zero]
  exact .refl _ _ _

/-! ## On one grid -/

section

variable {bits below places : Nat} {point : ℤ} {unit other : ℚ}

/-- Of the points of a grid that read back, one next to the number is the
nearest. -/
theorem exists_neighbour (tie : Tie) (positive : 0 < unit)
    (least : below * unit ≤ binaryValue bits) (bound : binaryValue bits < (below + 1 : Nat) * unit)
    {count : Nat} (readsBack : IsNearest (count * unit) bits) :
    exists neighbour, (neighbour = below ∨ neighbour = below + 1) ∧
      IsNearest (neighbour * unit) bits ∧
      NoWorse tie (binaryValue bits) (neighbour * unit) (count * unit) := by
  have itself := isNearest_binaryValue bits
  rcases Nat.lt_or_ge below count with above | notAbove
  · have order : ((below + 1 : Nat) : ℚ) * unit ≤ count * unit :=
      mul_le_mul_of_nonneg_right (by exact_mod_cast above) positive.le
    exact ⟨below + 1, .inr rfl, itself.convex readsBack bound.le order, noWorse_of_le bound order⟩
  · have order : (count : ℚ) * unit ≤ below * unit :=
      mul_le_mul_of_nonneg_right (by exact_mod_cast notAbove) positive.le
    exact ⟨below, .inl rfl, readsBack.convex itself order least, noWorse_of_ge least order⟩

/-- Decimals with so many digits are on the grid of a number with the same
point, or there is a nearer one that is. -/
theorem exists_onGrid (tie : Tie) (some : 0 < places)
    (least : (10 : ℚ) ^ (point - 1) ≤ binaryValue bits) (few : HasPlaces places other)
    (readsBack : IsNearest other bits) :
    exists count : Nat, IsNearest (count * 10 ^ (point - places)) bits ∧
      NoWorse tie (binaryValue bits) (count * 10 ^ (point - places)) other := by
  obtain ⟨count, exponent, bound, rfl⟩ := few
  rcases le_or_gt (point - places) exponent with coarser | finer
  · have split : (10 : ℚ) ^ exponent =
        10 ^ (exponent - (point - places)).toNat * 10 ^ (point - places) := by
      rw [← zpow_natCast, Int.toNat_of_nonneg (by omega), ← zpow_add₀ (by norm_num)]
      congr 1
      omega
    have equal : (count : ℚ) * 10 ^ exponent =
        (count * 10 ^ (exponent - (point - places)).toNat : Nat) * 10 ^ (point - places) := by
      rw [split, Nat.cast_mul, Nat.cast_pow, Nat.cast_ofNat, mul_assoc]
    rw [equal] at readsBack ⊢
    exact ⟨_, readsBack, .refl _ _ _⟩
  · -- Such a decimal is less than the power of ten in front of the number.
    have power : ((10 ^ (places - 1) : Nat) : ℚ) * 10 ^ (point - places) = 10 ^ (point - 1) := by
      rw [Nat.cast_pow, Nat.cast_ofNat, ← zpow_natCast, ← zpow_add₀ (by norm_num)]
      congr 1
      omega
    have less : (count : ℚ) * 10 ^ exponent < 10 ^ (point - 1) := by
      have small : (count : ℚ) < 10 ^ (places : ℤ) := by exact_mod_cast bound
      calc (count : ℚ) * 10 ^ exponent
          < 10 ^ (places : ℤ) * 10 ^ exponent := by
            exact mul_lt_mul_of_pos_right small (by positivity)
        _ = 10 ^ ((places : ℤ) + exponent) := (zpow_add₀ (by norm_num) _ _).symm
        _ ≤ 10 ^ (point - 1) := zpow_le_zpow_right₀ (by norm_num) (by omega)
    refine ⟨10 ^ (places - 1), ?_⟩
    rw [power]
    exact ⟨readsBack.convex (isNearest_binaryValue bits) less.le least,
      noWorse_of_ge least less.le⟩

end

end Decimal
end TelemetryRelay
