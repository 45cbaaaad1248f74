import TelemetryRelay.Proofs.Decimal.Shortest

/-!
# The search finds the shortest decimal

The search computes with whole numbers that have a common denominator.  Its
interval is the one of the fractions that are rounded to the number, and its
grids are those around the point of the number.  A grid without a decimal that
reads back rules out all decimals with so many digits.  With seventeen digits
two neighbours are nearer to each other than the ends of the interval, so that
this grid is never without one.
-/

namespace TelemetryRelay
namespace Decimal

/-! ## The point of a fraction -/

section

variable {numerator denominator : Nat}

theorem lt_quotient_succ (positive : 0 < denominator) :
    (numerator : ℚ) / denominator < (numerator / denominator + 1 : Nat) := by
  rw [div_lt_iff₀ (by exact_mod_cast positive)]
  exact_mod_cast Nat.lt_mul_of_div_lt (Nat.lt_add_one _) positive

theorem succ_le_power {number count : Nat} (bound : (number : ℚ) < 10 ^ (count : ℤ)) :
    ((number + 1 : Nat) : ℚ) ≤ 10 ^ (count : ℤ) := by
  have whole : number < 10 ^ count := by exact_mod_cast bound
  exact_mod_cast Nat.succ_le_of_lt whole

theorem pointOf_spec (above : 0 < numerator) (positive : 0 < denominator) :
    (10 : ℚ) ^ (pointOf numerator denominator - 1) ≤ numerator / denominator ∧
      (numerator : ℚ) / denominator < 10 ^ pointOf numerator denominator := by
  have dividend : (0 : ℚ) < numerator := by exact_mod_cast above
  have divisor : (0 : ℚ) < denominator := by exact_mod_cast positive
  rw [pointOf]
  split
  · rename_i large
    obtain ⟨least, bound⟩ := digitCount_spec (Nat.div_pos large positive)
    exact ⟨least.trans Nat.cast_div_le, (lt_quotient_succ positive).trans_le (succ_le_power bound)⟩
  · -- The inverse of the fraction is greater than one.
    rename_i small
    obtain ⟨least, bound⟩ := digitCount_spec
      (Nat.div_pos (by omega) above : 0 < (denominator - 1) / numerator)
    have below : (denominator - 1) / numerator * numerator < denominator :=
      (Nat.div_mul_le_self _ _).trans_lt (by omega)
    have next : denominator ≤ ((denominator - 1) / numerator + 1) * numerator := by
      have less := Nat.lt_mul_of_div_lt (Nat.lt_add_one ((denominator - 1) / numerator)) above
      omega
    generalize (denominator - 1) / numerator = inverse at least bound below next
    have power (exponent : ℤ) : (0 : ℚ) < 10 ^ exponent := by positivity
    constructor
    · rw [show (1 : ℤ) - digitCount inverse - 1 = -(digitCount inverse : ℤ) by ring, zpow_neg,
        le_div_iff₀ divisor, inv_mul_le_iff₀ (power _)]
      refine le_trans ?_ (mul_le_mul_of_nonneg_right (succ_le_power bound) dividend.le)
      exact_mod_cast next
    · rw [← neg_sub, zpow_neg, div_lt_iff₀ divisor, lt_inv_mul_iff₀ (power _)]
      refine lt_of_le_of_lt (mul_le_mul_of_nonneg_right least dividend.le) ?_
      exact_mod_cast below

end

/-! ## The interval -/

/-- Whether the search has the number with these bits before it. -/
structure Magnitude.Represents (magnitude : Magnitude) (bits : Nat) : Prop where
  positive : 0 < bits
  value : (magnitude.interval.value : ℚ) / magnitude.interval.denominator = binaryValue bits
  low : forall below, bits = below + 1 ->
    (magnitude.interval.low : ℚ) / magnitude.interval.denominator = midpoint below
  high : (magnitude.interval.high : ℚ) / magnitude.interval.denominator = midpoint bits
  closed : magnitude.interval.closed = true ↔ bits % 2 = 0

theorem Magnitude.denominator_pos (magnitude : Magnitude) : 0 < magnitude.interval.denominator :=
  Nat.two_pow_pos _

/-- The numbers of the interval are quarters on the grid of the number. -/
theorem quarters_div (quarters : Nat) (exponent : ℤ) :
    ((quarters * Nat.pow 2 (exponent - 2).toNat : Nat) : ℚ) /
        (Nat.pow 2 (2 - exponent).toNat : Nat) = quarters / 4 * 2 ^ exponent := by
  have scaled := scaled_div quarters 1 two_pos (2 - exponent)
  rw [neg_sub, Nat.one_mul, Nat.cast_one, div_one, Nat.cast_two, zpow_sub₀ two_ne_zero] at scaled
  rw [scaled]
  field_simp
  norm_num

theorem represents_grid {bits : Nat} (grid mantissa : Nat) {exponent : ℤ} {narrow : Bool}
    (split : bits = grid * 2 ^ 52 + mantissa) (scale : exponent = (grid : ℤ) - 1074)
    (first : narrow = true ↔ mantissa = 2 ^ 52 ∧ 0 < grid)
    (normal : grid = 0 ∨ 2 ^ 52 ≤ mantissa) (bound : mantissa < 2 ^ 53) (positive : 0 < mantissa) :
    Magnitude.Represents ⟨mantissa, exponent, narrow⟩ bits := by
  subst split scale
  constructor
  · omega
  · rw [binaryValue_grid normal bound.le]
    refine (quarters_div (4 * mantissa) _).trans ?_
    push_cast
    ring
  · intro below next
    rw [midpoint_before normal bound next]
    refine (quarters_div (4 * mantissa - if narrow then 1 else 2) _).trans ?_
    by_cases narrowed : narrow = true
    · rw [if_pos narrowed, if_pos (first.mp narrowed), Nat.cast_sub (by omega)]
      push_cast
      ring
    · rw [if_neg narrowed, if_neg (mt first.mpr narrowed), Nat.cast_sub (by omega)]
      push_cast
      ring
  · rw [midpoint_grid normal bound]
    refine (quarters_div (4 * mantissa + 2) _).trans ?_
    push_cast
    ring
  · change (mantissa % 2 == 0) = true ↔ _
    rw [beq_iff_eq]
    omega

/-- The fields of the bits, as the search takes them apart. -/
theorem HasBits.fields {number : Float} {negative : Bool} {bits : Nat}
    (has : HasBits number negative bits) (isNumber : bits ≤ infinityBits) :
    number.toBits.toNat / Nat.pow 2 52 % Nat.pow 2 11 = bits / 2 ^ 52 ∧
      number.toBits.toNat % Nat.pow 2 52 = bits % 2 ^ 52 := by
  change number.toBits.toNat / 2 ^ 52 % 2 ^ 11 = _ ∧ number.toBits.toNat % 2 ^ 52 = _
  rw [infinityBits_eq] at isNumber
  rw [has]
  split <;> omega

/-- The search is given every finite number other than zero. -/
theorem exists_represents {number : Float} {negative : Bool} {bits : Nat}
    (has : HasBits number negative bits) (positive : 0 < bits) (finite : bits < infinityBits) :
    exists magnitude, Magnitude.ofFloat? number = some magnitude ∧ magnitude.Represents bits := by
  obtain ⟨biased, fraction⟩ := has.fields finite.le
  rw [infinityBits_eq] at finite
  rw [Magnitude.ofFloat?, biased, fraction, if_neg (show bits / 2 ^ 52 ≠ Nat.pow 2 11 - 1 by
    change _ ≠ 2 ^ 11 - 1
    omega)]
  split
  · rename_i subnormal
    rw [if_neg (by omega)]
    exact ⟨_, rfl, represents_grid 0 _ (by omega) rfl (by simp) (.inl rfl) (by omega)
      (by omega)⟩
  · rename_i normal
    refine ⟨_, rfl, represents_grid (bits / 2 ^ 52 - 1) (2 ^ 52 + bits % 2 ^ 52)
      (by omega) (by omega) ?_ (.inr (Nat.le_add_right _ _)) (by omega) (by omega)⟩
    rw [Bool.and_eq_true, beq_iff_eq, decide_eq_true_iff]
    omega

theorem ofFloat_zero {number : Float} {negative : Bool} (has : HasBits number negative 0) :
    Magnitude.ofFloat? number = none := by
  obtain ⟨biased, fraction⟩ := has.fields (Nat.zero_le _)
  rw [Magnitude.ofFloat?, biased, fraction]
  rfl

/-! ## One grid -/

section

variable {tie : Tie} {numerator denominator count : Nat} {accepted : Nat -> Bool}

/-- Neither whole number around a fraction is nearer than the rounded quotient. -/
theorem noWorse_roundedQuotient (tie : Tie) (positive : 0 < denominator) {other : Nat}
    (next : other = numerator / denominator ∨ other = numerator / denominator + 1) :
    NoWorse tie (numerator / denominator) (roundedQuotient tie numerator denominator) other := by
  have divisor : (0 : ℚ) < denominator := by exact_mod_cast positive
  have less : ((numerator % denominator : Nat) : ℚ) < denominator := by
    exact_mod_cast Nat.mod_lt numerator positive
  have lower : |((numerator / denominator : Nat) : ℚ) - numerator / denominator| =
      ((numerator % denominator : Nat) : ℚ) / denominator := by
    rw [div_eq_quotient_add positive, sub_add_cancel_left, abs_neg]
    exact abs_of_nonneg (by positivity)
  have upper : |((numerator / denominator + 1 : Nat) : ℚ) - numerator / denominator| =
      (denominator - (numerator % denominator : Nat)) / denominator := by
    rw [div_eq_quotient_add positive, Nat.cast_succ, add_sub_add_left_eq_sub, sub_div,
      div_self divisor.ne']
    exact abs_of_nonneg (by rw [sub_nonneg, div_le_one divisor]; exact less.le)
  rcases roundedQuotient_cases tie numerator denominator with
    ⟨rounded, near⟩ | ⟨rounded, near⟩
  · rw [rounded]
    rcases next with rfl | rfl
    · exact .refl _ _ _
    · rw [NoWorse, lower, upper, div_le_div_iff_of_pos_right divisor, div_left_inj' divisor.ne']
      have half : 2 * ((numerator % denominator : Nat) : ℚ) ≤ denominator := by
        exact_mod_cast near.elim le_of_lt fun equal => equal.1.le
      refine ⟨by linarith, fun upward same => ?_⟩
      have equal : 2 * (numerator % denominator) = denominator := by
        exact_mod_cast (by linarith : 2 * ((numerator % denominator : Nat) : ℚ) = denominator)
      rcases near with less | ⟨_, toEven, _⟩
      · omega
      · rw [toEven] at upward
        cases upward
  · rw [rounded]
    rcases next with rfl | rfl
    · rw [NoWorse, lower, upper, div_le_div_iff_of_pos_right divisor]
      have half : (denominator : ℚ) ≤ 2 * (numerator % denominator : Nat) := by
        exact_mod_cast near.elim le_of_lt fun equal => equal.1.ge
      exact ⟨by linarith, fun _ _ => by exact_mod_cast Nat.le_succ _⟩
    · exact .refl _ _ _

theorem nearestAccepted_eq_none
    (nothing : nearestAccepted? tie numerator denominator accepted = none) {other : Nat}
    (next : other = numerator / denominator ∨ other = numerator / denominator + 1) :
    accepted other = false := by
  unfold nearestAccepted? at nothing
  dsimp only at nothing
  split at nothing
  · rename_i lower upper
    rcases next with rfl | rfl
    · exact lower
    · exact upper
  · cases nothing
  · cases nothing
  · cases nothing

theorem nearestAccepted_eq_some (positive : 0 < denominator)
    (found : nearestAccepted? tie numerator denominator accepted = some count) :
    (count = numerator / denominator ∨ count = numerator / denominator + 1) ∧
      accepted count = true ∧
      forall other : Nat,
        (other = numerator / denominator ∨ other = numerator / denominator + 1) ->
        accepted other = true -> NoWorse tie (numerator / denominator) count other := by
  unfold nearestAccepted? at found
  dsimp only at found
  split at found
  · cases found
  · rename_i lower upper
    cases found
    refine ⟨.inl rfl, lower, ?_⟩
    rintro other (rfl | rfl) isAccepted
    · exact .refl _ _ _
    · rw [upper] at isAccepted
      cases isAccepted
  · rename_i lower upper
    cases found
    refine ⟨.inr rfl, upper, ?_⟩
    rintro other (rfl | rfl) isAccepted
    · rw [lower] at isAccepted
      cases isAccepted
    · exact .refl _ _ _
  · rename_i lower upper
    cases found
    have between : roundedQuotient tie numerator denominator = numerator / denominator ∨
        roundedQuotient tie numerator denominator = numerator / denominator + 1 :=
      (roundedQuotient_cases tie numerator denominator).imp And.left And.left
    refine ⟨between, ?_, fun other next _ => noWorse_roundedQuotient tie positive next⟩
    rcases between with same | same
    · rw [same, lower]
    · rw [same, upper]

end

section

variable {magnitude : Magnitude} {bits places : Nat} {tie : Tie}

/-- The search accepts a point of a grid if it reads back. -/
theorem Magnitude.Represents.holds_iff (represents : magnitude.Represents bits) (exponent : ℤ)
    (count : Nat) :
    magnitude.interval.holds exponent count = true ↔ IsNearest (count * 10 ^ exponent) bits := by
  have divisor := magnitude.denominator_pos
  obtain ⟨below, rfl⟩ := Nat.exists_eq_add_one_of_ne_zero represents.positive.ne'
  have atLeast := scaled_le_iff magnitude.interval.low (by decide : 0 < 10) divisor count exponent
  have atMost := le_scaled_iff magnitude.interval.high (by decide : 0 < 10) divisor count exponent
  have less := le_scaled_iff magnitude.interval.low (by decide : 0 < 10) divisor count exponent
  have more := scaled_le_iff magnitude.interval.high (by decide : 0 < 10) divisor count exponent
  rw [represents.low below rfl, Nat.cast_ofNat] at atLeast less
  rw [represents.high, Nat.cast_ofNat] at atMost more
  rw [isNearest_iff, aboveBeginning_succ, BelowEnd, Interval.holds]
  split
  · rename_i closed
    have even := represents.closed.mp closed
    rw [Bool.and_eq_true, decide_eq_true_iff, decide_eq_true_iff, atLeast, atMost,
      le_iff_lt_or_eq, le_iff_lt_or_eq, and_iff_left even, and_iff_left even]
  · rename_i opened
    have odd := mt represents.closed.mpr opened
    rw [Bool.and_eq_true, decide_eq_true_iff, decide_eq_true_iff, ← not_le, ← not_le, less, more,
      not_le, not_le, or_iff_left (fun tie => odd tie.2), or_iff_left (fun tie => odd tie.2)]

theorem Magnitude.Represents.value_pos (represents : magnitude.Represents bits) :
    0 < binaryValue bits := by
  rw [← binaryValue_zero]
  exact binaryValue_strictMono represents.positive

theorem Magnitude.Represents.point_spec (represents : magnitude.Represents bits) :
    (10 : ℚ) ^ (magnitude.point - 1) ≤ binaryValue bits ∧
      binaryValue bits < 10 ^ magnitude.point := by
  have positive : 0 < magnitude.interval.value := by
    rw [Nat.pos_iff_ne_zero]
    intro zero
    have value := represents.value
    rw [zero, Nat.cast_zero, zero_div] at value
    exact represents.value_pos.ne value
  rw [← represents.value]
  exact pointOf_spec positive magnitude.denominator_pos

theorem Magnitude.Represents.scaled_value (represents : magnitude.Represents bits) (exponent : ℤ) :
    ((magnitude.interval.value * Nat.pow 10 (-exponent).toNat : Nat) : ℚ) /
        (magnitude.interval.denominator * Nat.pow 10 exponent.toNat : Nat) =
      binaryValue bits / 10 ^ exponent := by
  rw [scaled_div _ _ (by decide), represents.value, Nat.cast_ofNat]

/-- The number lies between two points of a grid. -/
theorem Magnitude.Represents.between (represents : magnitude.Represents bits) (exponent : ℤ) :
    (magnitude.belowOnGrid exponent : ℚ) * 10 ^ exponent ≤ binaryValue bits ∧
      binaryValue bits < (magnitude.belowOnGrid exponent + 1 : Nat) * 10 ^ exponent := by
  have unit : (0 : ℚ) < 10 ^ exponent := by positivity
  have divisor : 0 < magnitude.interval.denominator * Nat.pow 10 exponent.toNat :=
    Nat.mul_pos magnitude.denominator_pos (Nat.pow_pos (by decide))
  rw [← le_div_iff₀ unit, ← div_lt_iff₀ unit, ← represents.scaled_value]
  exact ⟨Nat.cast_div_le, lt_quotient_succ divisor⟩

/-- The point below the number has as many digits as the grid. -/
theorem Magnitude.Represents.belowOnGrid_spec (represents : magnitude.Represents bits)
    (some : 0 < places) :
    10 ^ (places - 1) ≤ magnitude.belowOnGrid (magnitude.point - places) ∧
      magnitude.belowOnGrid (magnitude.point - places) < 10 ^ places := by
  obtain ⟨least, bound⟩ := represents.point_spec
  obtain ⟨below, above⟩ := represents.between (magnitude.point - places)
  have unit : (0 : ℚ) < 10 ^ (magnitude.point - places) := by positivity
  have power (count : Nat) :
      ((10 ^ count : Nat) : ℚ) * 10 ^ (magnitude.point - places) =
        10 ^ (count + (magnitude.point - places)) := by
    rw [Nat.cast_pow, Nat.cast_ofNat, ← zpow_natCast, ← zpow_add₀ (by norm_num)]
  constructor
  · have first : ((10 ^ (places - 1) : Nat) : ℚ) * 10 ^ (magnitude.point - places) ≤
        binaryValue bits := by
      rw [power, show ((places - 1 : Nat) : ℤ) + (magnitude.point - places) =
        magnitude.point - 1 by omega]
      exact least
    have less := lt_of_mul_lt_mul_right (first.trans_lt above) unit.le
    exact Nat.le_of_lt_succ (by exact_mod_cast less)
  · have last : binaryValue bits < ((10 ^ places : Nat) : ℚ) * 10 ^ (magnitude.point - places) := by
      rw [power, add_sub_cancel]
      exact bound
    exact_mod_cast lt_of_mul_lt_mul_right (below.trans_lt last) unit.le

/-- If nothing is found, no decimal with so many digits reads back. -/
theorem Magnitude.Represents.not_isNearest (represents : magnitude.Represents bits)
    (some : 0 < places) (nothing : magnitude.withPlaces? tie places = none) {other : ℚ}
    (few : HasPlaces places other) : ¬IsNearest other bits := by
  intro readsBack
  obtain ⟨least, bound⟩ := represents.between (magnitude.point - places)
  obtain ⟨count, onGrid, -⟩ := exists_onGrid tie some represents.point_spec.1 few readsBack
  obtain ⟨neighbour, next, accepted, -⟩ :=
    exists_neighbour tie (by positivity) least bound onGrid
  have rejected := nearestAccepted_eq_none (Option.map_eq_none_iff.mp nothing) next
  rw [(represents.holds_iff _ _).mpr accepted] at rejected
  cases rejected

/-- What is found is the best decimal with so many digits. -/
theorem Magnitude.Represents.isBest (represents : magnitude.Represents bits) (some : 0 < places)
    {digits : Digits} (found : magnitude.withPlaces? tie places = .some digits) :
    exists (count : Nat) (exponent : ℤ), 0 < count ∧ digits = .ofGrid count exponent ∧
      IsBest tie bits places (count * 10 ^ exponent) := by
  obtain ⟨count, chosen, rfl⟩ := Option.map_eq_some_iff.mp found
  have divisor : 0 < magnitude.interval.denominator *
      Nat.pow 10 (magnitude.point - places).toNat :=
    Nat.mul_pos magnitude.denominator_pos (Nat.pow_pos (by decide))
  obtain ⟨next, accepted, better⟩ := nearestAccepted_eq_some divisor chosen
  change count = magnitude.belowOnGrid (magnitude.point - places) ∨
    count = magnitude.belowOnGrid (magnitude.point - places) + 1 at next
  obtain ⟨first, last⟩ := represents.belowOnGrid_spec some
  obtain ⟨least, bound⟩ := represents.between (magnitude.point - places)
  have positive : 0 < 10 ^ (places - 1) := Nat.pow_pos (by decide)
  have unit : (0 : ℚ) < 10 ^ (magnitude.point - places) := by positivity
  refine ⟨count, magnitude.point - places, by omega, rfl, (represents.holds_iff _ _).mp accepted,
    hasPlaces_of_le some (by omega) _, fun other few readsBack => ?_⟩
  obtain ⟨rival, rivalReadsBack, rivalBetter⟩ :=
    exists_onGrid tie some represents.point_spec.1 few readsBack
  obtain ⟨neighbour, nextToo, neighbourReadsBack, neighbourBetter⟩ :=
    exists_neighbour tie unit least bound rivalReadsBack
  have chosenBetter := (better neighbour nextToo ((represents.holds_iff _ _).mpr
    neighbourReadsBack)).mul_right unit
  rw [represents.scaled_value, div_mul_cancel₀ _ unit.ne'] at chosenBetter
  exact (chosenBetter.trans neighbourBetter).trans rivalBetter

/-! ## Seventeen digits -/

/-- The interval of a number is wider than its sixteenth decimal place. -/
theorem value_lt_width (below : Nat) :
    binaryValue (below + 1) < 10 ^ 16 * (midpoint (below + 1) - midpoint below) := by
  obtain ⟨grid, mantissa, same, bound, normal⟩ := exists_grid (below + 1)
  have unit : (0 : ℚ) < 2 ^ ((grid : ℤ) - 1074) := by positivity
  rw [midpoint_before normal bound same.symm, same, binaryValue_grid normal bound.le,
    midpoint_grid normal bound, ← sub_mul, ← mul_assoc, mul_lt_mul_iff_left₀ unit]
  split
  · rename_i first
    rw [first.1]
    norm_num
  · have less : (mantissa : ℚ) < 2 ^ 53 := by exact_mod_cast bound
    linarith

/-- With seventeen digits the search always finds a decimal. -/
theorem Magnitude.Represents.withPlaces_seventeen (represents : magnitude.Represents bits) :
    magnitude.withPlaces? tie 17 ≠ none := by
  intro nothing
  have rejected (count : Nat) (next : count ≤ magnitude.belowOnGrid (magnitude.point - 17) + 1) :
      ¬IsNearest (count * 10 ^ (magnitude.point - 17)) bits :=
    represents.not_isNearest (by decide) nothing (hasPlaces_of_le (by decide)
      (next.trans (represents.belowOnGrid_spec (by decide : 0 < 17)).2) _)
  obtain ⟨least, bound⟩ := represents.between (magnitude.point - 17)
  have ends := binaryValue_lt_midpoint bits
  obtain ⟨below, rfl⟩ := Nat.exists_eq_add_one_of_ne_zero represents.positive.ne'
  have begins := midpoint_lt_binaryValue below
  have width := value_lt_width below
  -- Neither neighbour reads back, so that both lie outside of the interval.
  have lower : (magnitude.belowOnGrid (magnitude.point - 17) : ℚ) * 10 ^ (magnitude.point - 17) ≤
      midpoint below := by
    by_contra inside
    exact rejected _ (Nat.le_succ _) (isNearest_between (lt_of_not_ge inside) (by linarith))
  have upper : midpoint (below + 1) ≤
      (magnitude.belowOnGrid (magnitude.point - 17) + 1 : Nat) * 10 ^ (magnitude.point - 17) := by
    by_contra inside
    exact rejected _ (le_refl _) (isNearest_between (by linarith) (lt_of_not_ge inside))
  have unit : 10 ^ 16 * (10 : ℚ) ^ (magnitude.point - 17) ≤ binaryValue (below + 1) := by
    have power : (10 : ℚ) ^ (16 : ℤ) * 10 ^ (magnitude.point - 17) =
        10 ^ (magnitude.point - 1) := by
      rw [← zpow_add₀ (by norm_num)]
      congr 1
      ring
    refine le_trans (le_of_eq ?_) represents.point_spec.1
    exact_mod_cast power
  push_cast at upper
  linarith

end

/-! ## The shortest decimal -/

theorem findSome_range {α : Type} {result : α} {find : Nat -> Option α} {count : Nat}
    (found : (List.range count).findSome? find = some result) :
    exists first, first < count ∧ find first = some result ∧
      forall earlier, earlier < first -> find earlier = none := by
  induction count with
  | zero => cases found
  | succ count inductionHypothesis =>
      rw [List.range_succ, List.findSome?_append] at found
      cases before : (List.range count).findSome? find with
      | some other =>
          rw [before] at found
          cases found
          obtain ⟨first, bound, here, earlier⟩ := inductionHypothesis before
          exact ⟨first, Nat.lt_succ_of_lt bound, here, earlier⟩
      | none =>
          rw [before, Option.none_or, List.findSome?_singleton] at found
          exact ⟨count, Nat.lt_succ_self count, found, fun earlier bound =>
            List.findSome?_eq_none_iff.mp before earlier (List.mem_range.mpr bound)⟩

/-- The search finds the shortest decimal of the number. -/
theorem Magnitude.Represents.shortest_spec {magnitude : Magnitude} {bits : Nat}
    (represents : magnitude.Represents bits) (tie : Tie) :
    exists (count : Nat) (exponent : ℤ) (places : Nat), 0 < count ∧
      magnitude.shortest tie = .ofGrid count exponent ∧
      IsShortest tie bits places (count * 10 ^ exponent) := by
  rw [shortest]
  split
  · rename_i digits found
    obtain ⟨first, -, here, earlier⟩ := findSome_range found
    obtain ⟨count, exponent, positive, rfl, best⟩ := represents.isBest (Nat.succ_pos first) here
    refine ⟨count, exponent, first + 1, positive, rfl, best, fun fewer other less few => ?_⟩
    cases fewer with
    | zero =>
        -- Zero is rounded to zero and not to this number.
        intro readsBack
        have zero := isNearest_binaryValue 0
        rw [binaryValue_zero, ← few.eq_zero] at zero
        exact represents.positive.ne (zero.unique readsBack)
    | succ fewer =>
        exact represents.not_isNearest (Nat.succ_pos fewer) (earlier fewer (by omega)) few
  · rename_i nothing
    have last := List.findSome?_eq_none_iff.mp nothing 16 (List.mem_range.mpr (by decide))
    exact absurd last represents.withPlaces_seventeen

end Decimal
end TelemetryRelay
