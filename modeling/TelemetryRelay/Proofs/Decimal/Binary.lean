import Mathlib.Algebra.Order.Field.Power
import Mathlib.Data.Rat.Cast.Order
import Mathlib.Order.Monotone.Basic
import Mathlib.Tactic.Linarith
import Mathlib.Tactic.NormNum
import Mathlib.Tactic.Positivity
import Mathlib.Tactic.Ring

/-!
# Floating-point numbers in order

A floating-point number of 64 bits without its sign is a natural number, and
these natural numbers are in the order of the values.  The values continue
behind the last finite one as if exponents had no end, so that a fraction is
too large for a finite number exactly if the nearest value is one of those.

What a fraction is rounded to is defined by distances alone.  As the values
ascend, only the two neighbours of a value compete with it, and the fractions
that are rounded to it form an interval that ends half way to them.
-/

namespace TelemetryRelay
namespace Decimal

/-! ## Values -/

/-- The value of a floating-point number without a sign, given by its bits: a
multiple of the least one below `2 ^ 52`, and else 53 bits and an exponent. -/
def binaryValue (bits : Nat) : ℚ :=
  if bits < 2 ^ 52 then (bits : ℚ) * 2 ^ (-1074 : ℤ)
  else ((2 ^ 52 + bits % 2 ^ 52 : Nat) : ℚ) * 2 ^ (((bits / 2 ^ 52 : Nat) : ℤ) - 1075)

/-- Bits as a multiple on a grid.  A multiple that is one too large for the grid
is the first one on the next grid. -/
theorem binaryValue_grid {grid mantissa : Nat} (normal : grid = 0 ∨ 2 ^ 52 ≤ mantissa)
    (bound : mantissa ≤ 2 ^ 53) :
    binaryValue (grid * 2 ^ 52 + mantissa) = (mantissa : ℚ) * 2 ^ ((grid : ℤ) - 1074) := by
  rw [binaryValue]
  by_cases small : grid * 2 ^ 52 + mantissa < 2 ^ 52
  · have lowest : grid = 0 := by omega
    rw [if_pos small, lowest]
    norm_num
  · rw [if_neg small]
    rcases Nat.lt_or_eq_of_le bound with below | last
    · have least : 2 ^ 52 ≤ mantissa := by omega
      have fraction : (grid * 2 ^ 52 + mantissa) % 2 ^ 52 = mantissa - 2 ^ 52 := by omega
      have biased : (grid * 2 ^ 52 + mantissa) / 2 ^ 52 = grid + 1 := by omega
      rw [fraction, biased, Nat.add_sub_cancel' least]
      congr 2
      push_cast
      ring
    · have fraction : (grid * 2 ^ 52 + mantissa) % 2 ^ 52 = 0 := by omega
      have biased : (grid * 2 ^ 52 + mantissa) / 2 ^ 52 = grid + 2 := by omega
      have exponent : ((grid + 2 : Nat) : ℤ) - 1075 = (grid : ℤ) - 1074 + 1 := by
        push_cast
        ring
      rw [fraction, biased, last, exponent, zpow_add_one₀ two_ne_zero]
      norm_num
      ring

/-- All bits are a multiple on a grid, and not the last one of this grid. -/
theorem exists_grid (bits : Nat) :
    exists grid mantissa, bits = grid * 2 ^ 52 + mantissa ∧ mantissa < 2 ^ 53 ∧
      (grid = 0 ∨ 2 ^ 52 ≤ mantissa) := by
  by_cases small : bits < 2 ^ 52
  · exact ⟨0, bits, by omega, by omega, .inl rfl⟩
  · exact ⟨bits / 2 ^ 52 - 1, 2 ^ 52 + bits % 2 ^ 52, by omega, by omega, .inr (by omega)⟩

theorem binaryValue_lt_succ (bits : Nat) : binaryValue bits < binaryValue (bits + 1) := by
  obtain ⟨grid, mantissa, rfl, bound, normal⟩ := exists_grid bits
  have next : grid = 0 ∨ 2 ^ 52 ≤ mantissa + 1 := normal.imp_right (by omega)
  rw [Nat.add_assoc, binaryValue_grid normal (Nat.le_of_lt bound), binaryValue_grid next bound]
  have unit : (0 : ℚ) < 2 ^ ((grid : ℤ) - 1074) := by positivity
  push_cast
  linarith

theorem binaryValue_strictMono : StrictMono binaryValue :=
  strictMono_nat_of_lt_succ binaryValue_lt_succ

theorem binaryValue_zero : binaryValue 0 = 0 := by
  rw [binaryValue, if_pos (by norm_num)]
  norm_num

/-! ## The nearest value -/

/-- Whether a fraction is rounded to these bits: no others have a nearer value,
and if others have one equally near, these are the even ones. -/
structure IsNearest (fraction : ℚ) (bits : Nat) : Prop where
  closest : forall other, |binaryValue bits - fraction| ≤ |binaryValue other - fraction|
  even_of_tie : forall other, other ≠ bits ->
    |binaryValue other - fraction| = |binaryValue bits - fraction| -> bits % 2 = 0

def midpoint (bits : Nat) : ℚ :=
  (binaryValue bits + binaryValue (bits + 1)) / 2

theorem binaryValue_lt_midpoint (bits : Nat) : binaryValue bits < midpoint bits := by
  have ascending := binaryValue_lt_succ bits
  rw [midpoint]
  linarith

theorem midpoint_lt_binaryValue (bits : Nat) : midpoint bits < binaryValue (bits + 1) := by
  have ascending := binaryValue_lt_succ bits
  rw [midpoint]
  linarith

theorem midpoint_grid {grid mantissa : Nat} (normal : grid = 0 ∨ 2 ^ 52 ≤ mantissa)
    (bound : mantissa < 2 ^ 53) :
    midpoint (grid * 2 ^ 52 + mantissa) =
      ((mantissa : ℚ) + 1 / 2) * 2 ^ ((grid : ℤ) - 1074) := by
  have next : grid = 0 ∨ 2 ^ 52 ≤ mantissa + 1 := normal.imp_right (by omega)
  rw [midpoint, binaryValue_grid normal bound.le, Nat.add_assoc, binaryValue_grid next bound]
  push_cast
  ring

/-- Below the first value on a grid the values are twice as near to each other. -/
theorem midpoint_before {grid mantissa below : Nat} (normal : grid = 0 ∨ 2 ^ 52 ≤ mantissa)
    (bound : mantissa < 2 ^ 53) (next : grid * 2 ^ 52 + mantissa = below + 1) :
    midpoint below =
      ((mantissa : ℚ) - if mantissa = 2 ^ 52 ∧ 0 < grid then 1 / 4 else 1 / 2) *
        2 ^ ((grid : ℤ) - 1074) := by
  split
  · rename_i first
    obtain ⟨coarser, rfl⟩ := Nat.exists_eq_add_one_of_ne_zero first.2.ne'
    have last : below = coarser * 2 ^ 52 + (2 ^ 53 - 1) := by omega
    have exponent : ((coarser + 1 : Nat) : ℤ) - 1074 = (coarser : ℤ) - 1074 + 1 := by
      push_cast
      ring
    rw [last, midpoint_grid (.inr (by norm_num)) (by norm_num), first.1, exponent,
      zpow_add_one₀ two_ne_zero]
    push_cast
    norm_num
    ring
  · rename_i notFirst
    have equal : below = grid * 2 ^ 52 + (mantissa - 1) := by omega
    have normalToo : grid = 0 ∨ 2 ^ 52 ≤ mantissa - 1 := by omega
    rw [equal, midpoint_grid normalToo (by omega), Nat.cast_sub (by omega)]
    push_cast
    ring

/-- Whether a fraction lies below the end of the interval of these bits. -/
def BelowEnd (fraction : ℚ) (bits : Nat) : Prop :=
  fraction < midpoint bits ∨ fraction = midpoint bits ∧ bits % 2 = 0

/-- Whether a fraction lies above the beginning of the interval of these bits,
if it has one. -/
def AboveBeginning (fraction : ℚ) (bits : Nat) : Prop :=
  forall below, bits = below + 1 ->
    midpoint below < fraction ∨ midpoint below = fraction ∧ bits % 2 = 0

section

variable {fraction other : ℚ} {bits below : Nat}

theorem IsNearest.belowEnd (nearest : IsNearest fraction bits) : BelowEnd fraction bits := by
  have ascending := binaryValue_lt_succ bits
  have closest := nearest.closest (bits + 1)
  have tie := nearest.even_of_tie (bits + 1) (Nat.succ_ne_self bits)
  rw [BelowEnd, midpoint]
  rcases lt_trichotomy fraction ((binaryValue bits + binaryValue (bits + 1)) / 2) with
    before | same | behind
  · exact .inl before
  · refine .inr ⟨same, tie ?_⟩
    rw [abs_of_nonneg (by linarith), abs_of_nonpos (by linarith)]
    linarith
  · rw [abs_of_nonpos (by linarith), le_abs] at closest
    rcases closest with closest | closest <;> linarith

theorem IsNearest.aboveBeginning (nearest : IsNearest fraction bits) :
    AboveBeginning fraction bits := by
  rintro below rfl
  have ascending := binaryValue_lt_succ below
  have closest := nearest.closest below
  have tie := nearest.even_of_tie below (Nat.succ_ne_self below).symm
  rw [midpoint]
  rcases lt_trichotomy fraction ((binaryValue below + binaryValue (below + 1)) / 2) with
    before | same | behind
  · rw [abs_of_nonneg (by linarith), le_abs] at closest
    rcases closest with closest | closest <;> linarith
  · refine .inr ⟨same.symm, tie ?_⟩
    rw [abs_of_nonpos (by linarith), abs_of_nonneg (by linarith)]
    linarith
  · exact .inl behind

theorem closest_of_belowEnd {behind : Nat} (ends : BelowEnd fraction bits) (later : bits < behind) :
    |binaryValue bits - fraction| ≤ |binaryValue behind - fraction| ∧
      (|binaryValue behind - fraction| = |binaryValue bits - fraction| -> bits % 2 = 0) := by
  have ascending := binaryValue_lt_succ bits
  have beyond : binaryValue (bits + 1) ≤ binaryValue behind :=
    binaryValue_strictMono.monotone later
  have half : fraction ≤ (binaryValue bits + binaryValue (bits + 1)) / 2 :=
    ends.elim le_of_lt fun same => le_of_eq same.1
  have distance : |binaryValue behind - fraction| = binaryValue behind - fraction :=
    abs_of_nonneg (by linarith)
  constructor
  · rw [distance, abs_le]
    constructor <;> linarith
  · intro tie
    rcases ends with before | same
    · rw [midpoint] at before
      rw [distance] at tie
      rcases abs_cases (binaryValue bits - fraction) with apart | apart <;> linarith
    · exact same.2

theorem closest_of_aboveBeginning {before : Nat} (begins : AboveBeginning fraction bits)
    (earlier : before < bits) :
    |binaryValue bits - fraction| ≤ |binaryValue before - fraction| ∧
      (|binaryValue before - fraction| = |binaryValue bits - fraction| -> bits % 2 = 0) := by
  obtain ⟨below, rfl⟩ := Nat.exists_eq_add_one_of_ne_zero (Nat.ne_zero_of_lt earlier)
  have ascending := binaryValue_lt_succ below
  have beyond : binaryValue before ≤ binaryValue below :=
    binaryValue_strictMono.monotone (Nat.le_of_lt_succ earlier)
  have half : (binaryValue below + binaryValue (below + 1)) / 2 ≤ fraction :=
    (begins below rfl).elim le_of_lt fun same => le_of_eq same.1
  have distance : |binaryValue before - fraction| = fraction - binaryValue before := by
    rw [abs_of_nonpos (by linarith), neg_sub]
  constructor
  · rw [distance, abs_le]
    constructor <;> linarith
  · intro tie
    rcases begins below rfl with behind | same
    · rw [midpoint] at behind
      rw [distance] at tie
      rcases abs_cases (binaryValue (below + 1) - fraction) with apart | apart <;> linarith
    · exact same.2

/-- The fractions that are rounded to some bits form an interval.  Its ends
belong to it if the bits are even. -/
theorem isNearest_iff :
    IsNearest fraction bits ↔ AboveBeginning fraction bits ∧ BelowEnd fraction bits := by
  constructor
  · exact fun nearest => ⟨nearest.aboveBeginning, nearest.belowEnd⟩
  · rintro ⟨begins, ends⟩
    constructor
    · intro other
      rcases lt_trichotomy other bits with earlier | rfl | later
      · exact (closest_of_aboveBeginning begins earlier).1
      · exact le_refl _
      · exact (closest_of_belowEnd ends later).1
    · intro other apart
      rcases Nat.lt_or_gt_of_ne apart with earlier | later
      · exact (closest_of_aboveBeginning begins earlier).2
      · exact (closest_of_belowEnd ends later).2

theorem aboveBeginning_succ : AboveBeginning fraction (below + 1) ↔
    midpoint below < fraction ∨ midpoint below = fraction ∧ (below + 1) % 2 = 0 := by
  constructor
  · exact fun begins => begins below rfl
  · intro begins before same
    obtain rfl : below = before := Nat.succ.inj same
    exact begins

/-- What lies between two neighbouring midpoints is rounded to the value there. -/
theorem isNearest_between (behind : midpoint below < fraction)
    (before : fraction < midpoint (below + 1)) : IsNearest fraction (below + 1) :=
  isNearest_iff.mpr ⟨aboveBeginning_succ.mpr (.inl behind), .inl before⟩

/-- A fraction is rounded in one way only. -/
theorem IsNearest.unique {others : Nat} (nearest : IsNearest fraction bits)
    (nearestToo : IsNearest fraction others) : bits = others := by
  -- Two neighbours would be equally near, but only one of them is even.
  have apart {lower upper : Nat} (below : IsNearest fraction lower)
      (above : IsNearest fraction upper) : ¬lower < upper := by
    intro earlier
    have ends : fraction ≤ midpoint lower := below.belowEnd.elim le_of_lt fun same => same.1.le
    obtain ⟨before, rfl⟩ := Nat.exists_eq_add_one_of_ne_zero (Nat.ne_zero_of_lt earlier)
    have order : midpoint lower ≤ midpoint before := by
      have lowers := binaryValue_strictMono.monotone (Nat.le_of_lt_succ earlier)
      have uppers := binaryValue_strictMono.monotone earlier
      rw [midpoint, midpoint]
      linarith
    rcases above.aboveBeginning before rfl with behind | ⟨same, even⟩
    · linarith
    · rcases below.belowEnd with inside | ⟨sameToo, evenToo⟩
      · linarith
      · have neighbours : lower = before := by
          by_contra different
          have earlier : lower < before := by omega
          have lowers := binaryValue_strictMono earlier
          have uppers := binaryValue_strictMono.monotone (Nat.succ_le_succ earlier.le)
          rw [midpoint] at same sameToo
          linarith
        omega
  exact Nat.le_antisymm (Nat.le_of_not_lt (apart nearestToo nearest))
    (Nat.le_of_not_lt (apart nearest nearestToo))

/-- What lies between two fractions that are rounded to the same bits is rounded
to them, too. -/
theorem IsNearest.convex {lower upper : ℚ} (begins : IsNearest lower bits)
    (ends : IsNearest upper bits) (above : lower ≤ fraction) (below : fraction ≤ upper) :
    IsNearest fraction bits := by
  refine isNearest_iff.mpr ⟨fun before same => ?_, ?_⟩
  · rcases begins.aboveBeginning before same with inside | ⟨equal, even⟩
    · exact .inl (lt_of_lt_of_le inside above)
    · rcases lt_or_eq_of_le (equal.le.trans above) with inside | equal
      · exact .inl inside
      · exact .inr ⟨equal, even⟩
  · rcases ends.belowEnd with inside | ⟨equal, even⟩
    · exact .inl (lt_of_le_of_lt below inside)
    · rcases lt_or_eq_of_le (below.trans equal.le) with inside | equal
      · exact .inl inside
      · exact .inr ⟨equal, even⟩

theorem isNearest_binaryValue (bits : Nat) : IsNearest (binaryValue bits) bits := by
  refine isNearest_iff.mpr ⟨?_, .inl (binaryValue_lt_midpoint bits)⟩
  rintro below rfl
  exact .inl (midpoint_lt_binaryValue below)

end

end Decimal
end TelemetryRelay
