import PrecheckLoad.Proofs.Decimal.Rounding

/-!
# Shortest digits round to their float

A point that the search takes from a grid lies in the interval of its float, so it rounds to it. A
grid whose points are less than the interval apart has a point in it, next to the float or just
above. The search ends at a grid of that kind: the power of ten it starts from does not exceed the
float, and the interval of a float is wider than its seventeenth digit counts.
-/
namespace PrecheckLoad.Decimal

variable {m n d num den fuel : Nat} {q e k l : Int} {tie : Tie} {i : Interval} {found : Digits}

/-- The number that digits stand for. -/
def Digits.value (found : Digits) : ℚ := found.digits * 10 ^ found.exponent

theorem Interval.den_pos (m : Nat) (q : Int) : 0 < (Interval.of m q).den :=
  scaleTwo_pos 1 Nat.one_pos (q - 2)

/-- The parts of an interval are counted in quarters of the last place. -/
theorem quarters_div (n : Nat) (q : Int) :
    ((n * (scaleTwo 1 1 (q - 2)).1 : Nat) : ℚ) / (scaleTwo 1 1 (q - 2)).2 = n / 4 * 2 ^ q := by
  rw [Nat.cast_mul, mul_div_assoc, scaleTwo_div, zpow_sub₀ two_ne_zero]
  norm_num
  ring

theorem Interval.mid_div (m : Nat) (q : Int) :
    ((Interval.of m q).mid : ℚ) / (Interval.of m q).den = m * 2 ^ q := by
  refine (quarters_div _ q).trans ?_
  push_cast
  ring

theorem Interval.lo_div (pos : 0 < m) (q : Int) :
    ((Interval.of m q).lo : ℚ) / (Interval.of m q).den = (m - gapBelow m q) * 2 ^ q := by
  refine (quarters_div _ q).trans ?_
  rw [gapBelow, Nat.pow_eq]
  split
  · rw [Nat.cast_sub (by omega)]
    push_cast
    ring
  · rw [Nat.cast_sub (by omega)]
    push_cast
    ring

theorem Interval.hi_div (m : Nat) (q : Int) :
    ((Interval.of m q).hi : ℚ) / (Interval.of m q).den = (m + 1 / 2) * 2 ^ q := by
  refine (quarters_div _ q).trans ?_
  push_cast
  ring

theorem mul_le_mul_iff_div {a b c d : Nat} (pos_b : 0 < b) (pos_d : 0 < d) :
    a * d ≤ c * b ↔ (a : ℚ) / b ≤ c / d := by
  have pos_b' : (0 : ℚ) < b := by exact_mod_cast pos_b
  have pos_d' : (0 : ℚ) < d := by exact_mod_cast pos_d
  rw [div_le_div_iff₀ pos_b' pos_d']
  exact_mod_cast Iff.rfl

theorem mul_lt_mul_iff_div {a b c d : Nat} (pos_b : 0 < b) (pos_d : 0 < d) :
    a * d < c * b ↔ (a : ℚ) / b < c / d := by
  rw [← not_le, mul_le_mul_iff_div pos_d pos_b, not_le]

/-- What an interval holds are the numbers that round to its float. -/
theorem Interval.holds_iff (pos : 0 < m) (pos_d : 0 < d) :
    (Interval.of m q).holds n d = true ↔ RoundsTo m q (n / d) := by
  have pos_den := Interval.den_pos m q
  have low := Interval.lo_div pos q
  have high := Interval.hi_div m q
  have closed : (Interval.of m q).closed = true ↔ m % 2 = 0 := decide_eq_true_iff
  generalize Interval.of m q = i at *
  unfold Interval.holds
  dsimp only
  by_cases even : m % 2 = 0
  · rw [if_pos (closed.mpr even), Bool.and_eq_true, decide_eq_true_eq, decide_eq_true_eq,
      mul_le_mul_iff_div pos_den pos_d, mul_le_mul_iff_div pos_d pos_den, low, high]
    exact ⟨fun within => ⟨within.1, within.2, fun _ => even⟩, fun r => ⟨r.low, r.high⟩⟩
  · rw [if_neg (mt closed.mp even), Bool.and_eq_true, decide_eq_true_eq, decide_eq_true_eq,
      mul_lt_mul_iff_div pos_den pos_d, mul_lt_mul_iff_div pos_d pos_den, low, high]
    constructor
    · rintro ⟨above, below⟩
      refine ⟨above.le, below.le, ?_⟩
      rintro (tie | tie)
      · exact absurd tie above.ne'
      · exact absurd tie below.ne
    · intro r
      refine ⟨lt_of_le_of_ne r.low fun tie => even (r.ends (.inl tie.symm)), ?_⟩
      exact lt_of_le_of_ne r.high fun tie => even (r.ends (.inr tie))

theorem Interval.holds_tenPower_iff (pos : 0 < m) :
    (Interval.of m q).holds (n * (tenPower e).1) (tenPower e).2 = true ↔
      RoundsTo m q (n * 10 ^ e) := by
  rw [Interval.holds_iff pos (tenPower_pos e), Nat.cast_mul, mul_div_assoc, tenPower_div]

/-- The digits of the last point of a grid that is not above the middle of an interval. -/
def Interval.below (i : Interval) (e : Int) : Nat :=
  i.mid * (tenPower e).2 / (i.den * (tenPower e).1)

theorem gridPoint_spec (some_point : gridPoint tie i e = some found) : found.exponent = e ∧
    i.holds (found.digits * (tenPower e).1) (tenPower e).2 = true := by
  unfold gridPoint at some_point
  dsimp only at some_point
  split at some_point
  · cases some_point
  · next low high =>
    cases some_point
    exact ⟨rfl, low⟩
  · next low high =>
    cases some_point
    exact ⟨rfl, high⟩
  · next low high =>
    split at some_point
    · cases some_point
      exact ⟨rfl, low⟩
    · split at some_point
      · cases some_point
        exact ⟨rfl, high⟩
      · split at some_point
        · cases some_point
          exact ⟨rfl, high⟩
        · cases some_point
          refine ⟨rfl, ?_⟩
          dsimp only
          split
          · exact low
          · exact high

theorem gridPoint_eq_none (no_point : gridPoint tie i e = none) :
    i.holds (i.below e * (tenPower e).1) (tenPower e).2 = false ∧
      i.holds ((i.below e + 1) * (tenPower e).1) (tenPower e).2 = false := by
  unfold gridPoint at no_point
  dsimp only at no_point
  split at no_point
  · next low high => exact ⟨low, high⟩
  · cases no_point
  · cases no_point
  · split at no_point
    · cases no_point
    · split at no_point
      · cases no_point
      · split at no_point
        · cases no_point
        · cases no_point

/-- The float lies between neighbours on the grid. -/
theorem Interval.below_bounds (m : Nat) (q e : Int) :
    (((Interval.of m q).below e : Nat) : ℚ) * 10 ^ e ≤ m * 2 ^ q ∧
      (m : ℚ) * 2 ^ q < ((Interval.of m q).below e + 1) * 10 ^ e := by
  have mid := Interval.mid_div m q
  have pos_den := Interval.den_pos m q
  have ten := tenPower_div e
  have pos_ten := tenPower_pos e
  unfold Interval.below
  generalize Interval.of m q = i at *
  generalize tenPower e = p at *
  have pos_den' : (0 : ℚ) < i.den := by exact_mod_cast pos_den
  have pos_ten' : (0 : ℚ) < p.2 := by exact_mod_cast pos_ten
  have pos_num : 0 < p.1 := by
    refine Nat.pos_of_ne_zero fun zero => ?_
    rw [zero, Nat.cast_zero, zero_div] at ten
    exact absurd ten (ten_zpow_pos e).ne
  have cells := Nat.div_add_mod (i.mid * p.2) (i.den * p.1)
  have rest := Nat.mod_lt (i.mid * p.2) (Nat.mul_pos pos_den pos_num)
  rw [← mid, ← ten]
  generalize i.mid * p.2 / (i.den * p.1) = b at *
  have low : b * p.1 * i.den ≤ i.mid * p.2 := by
    rw [← cells, Nat.mul_right_comm, Nat.mul_assoc, Nat.mul_comm b]
    exact Nat.le_add_right _ _
  have high : i.mid * p.2 < (b + 1) * p.1 * i.den := by
    calc i.mid * p.2 < i.den * p.1 * b + i.den * p.1 := by omega
      _ = (b + 1) * p.1 * i.den := by ring
  rw [mul_le_mul_iff_div pos_ten pos_den] at low
  rw [mul_lt_mul_iff_div pos_den pos_ten] at high
  push_cast at low high
  rw [mul_div_assoc] at low high
  exact ⟨low, high⟩

/-- A grid finer than the interval of a float has a point in it. -/
theorem gridPoint_isSome (pos : 0 < m) (fine : (10 : ℚ) ^ e < (gapBelow m q + 1 / 2) * 2 ^ q) :
    gridPoint tie (Interval.of m q) e ≠ none := by
  intro no_point
  obtain ⟨low_out, high_out⟩ := gridPoint_eq_none no_point
  rw [Bool.eq_false_iff, Ne, Interval.holds_tenPower_iff pos] at low_out high_out
  obtain ⟨low, high⟩ := Interval.below_bounds m q e
  generalize (Interval.of m q).below e = b at *
  push_cast at high_out
  have unit := two_zpow_pos q
  have gap := gapBelow_pos m q
  have wide : 0 < gapBelow m q * 2 ^ q := mul_pos gap unit
  -- Either neighbour is beyond its end of the interval, so the step between them is too wide.
  have low_far : (b : ℚ) * 10 ^ e ≤ (m - gapBelow m q) * 2 ^ q := by
    by_contra inside
    refine low_out ⟨(not_le.mp inside).le, by linarith, ?_⟩
    rintro (tie | tie)
    · exact absurd tie.le inside
    · linarith
  have high_far : (m + 1 / 2) * (2 : ℚ) ^ q ≤ (b + 1) * 10 ^ e := by
    by_contra inside
    refine high_out ⟨by linarith, (not_le.mp inside).le, ?_⟩
    rintro (tie | tie)
    · linarith
    · exact absurd tie.ge inside
  linarith

/-- One step of the count: either this power fits, or the next one down is looked at. -/
theorem floorLog10_succ (pos_den : 0 < den) (fuel : Nat) (k : Int) :
    floorLog10 num den (fuel + 1) k = k ∧ (10 : ℚ) ^ k ≤ num / den ∨
      floorLog10 num den (fuel + 1) k = floorLog10 num den fuel (k - 1) := by
  have pos' : (0 : ℚ) < den := by exact_mod_cast pos_den
  cases k with
  | ofNat j =>
    by_cases fits : den * Nat.pow 10 j ≤ num
    · refine .inl ⟨if_pos (decide_eq_true fits), ?_⟩
      rw [Int.ofNat_eq_natCast, zpow_natCast, le_div_iff₀ pos', mul_comm]
      exact_mod_cast fits
    · exact .inr (if_neg (mt of_decide_eq_true fits))
  | negSucc j =>
    by_cases fits : den ≤ num * Nat.pow 10 (j + 1)
    · have pos_ten : (0 : ℚ) < 10 ^ (j + 1) := by positivity
      refine .inl ⟨if_pos (decide_eq_true fits), ?_⟩
      rw [zpow_negSucc, le_div_iff₀ pos', inv_mul_le_iff₀ pos_ten, mul_comm]
      exact_mod_cast fits
    · exact .inr (if_neg (mt of_decide_eq_true fits))

/-- Counting down ends at a power of ten that fits, if the last one looked at does. -/
theorem floorLog10_le (pos_den : 0 < den) (last : (10 : ℚ) ^ (k - fuel) ≤ num / den) :
    (10 : ℚ) ^ floorLog10 num den fuel k ≤ num / den := by
  induction fuel generalizing k with
  | zero =>
    rw [Nat.cast_zero, sub_zero] at last
    exact last
  | succ fuel ih =>
    rcases floorLog10_succ pos_den fuel k with ⟨stop, fits⟩ | next
    · rw [stop]
      exact fits
    · rw [next]
      refine ih ?_
      rwa [sub_sub, add_comm, ← Nat.cast_succ]

/-- `10^3` is a little less than `2^10`, and `10^28` a little more than `2^93`. -/
theorem ten_zpow_le_two_zpow (up : 0 ≤ k → 10 * k ≤ 3 * l) (down : k < 0 → 93 * k ≤ 28 * l) :
    (10 : ℚ) ^ k ≤ 2 ^ l := by
  by_cases sign : 0 ≤ k
  · refine (pow_le_pow_iff_left₀ (ten_zpow_pos k).le (two_zpow_pos l).le three_ne_zero).mp ?_
    calc ((10 : ℚ) ^ k) ^ 3 = (10 ^ 3) ^ k := by rw [← zpow_natCast, ← zpow_natCast, zpow_comm]
      _ ≤ (2 ^ 10) ^ k := zpow_le_zpow_left₀ sign (by norm_num) (by norm_num)
      _ = 2 ^ (10 * k) := by rw [← zpow_natCast, ← zpow_mul, Nat.cast_ofNat]
      _ ≤ 2 ^ (3 * l) := zpow_le_zpow_right₀ one_le_two (up sign)
      _ = (2 ^ l) ^ 3 := by rw [← zpow_natCast, ← zpow_mul, Nat.cast_ofNat, mul_comm]
  · have below : k < 0 := not_le.mp sign
    have inverted : (2 : ℚ) ^ (-l) ≤ 10 ^ (-k) := by
      refine (pow_le_pow_iff_left₀ (two_zpow_pos _).le (ten_zpow_pos _).le
        (show 28 ≠ 0 by decide)).mp ?_
      calc ((2 : ℚ) ^ (-l)) ^ 28 = 2 ^ (28 * -l) := by
            rw [← zpow_natCast, ← zpow_mul, Nat.cast_ofNat, mul_comm]
        _ ≤ 2 ^ (93 * -k) := zpow_le_zpow_right₀ one_le_two (by have := down below; omega)
        _ = (2 ^ 93) ^ (-k) := by rw [← zpow_natCast, ← zpow_mul, Nat.cast_ofNat]
        _ ≤ (10 ^ 28) ^ (-k) := zpow_le_zpow_left₀ (by omega) (by norm_num) (by norm_num)
        _ = (10 ^ (-k)) ^ 28 := by rw [← zpow_natCast, ← zpow_natCast, zpow_comm]
    rw [zpow_neg, zpow_neg] at inverted
    exact (inv_le_inv₀ (two_zpow_pos l) (ten_zpow_pos k)).mp inverted

/-- A point that is taken from a grid rounds to the float. -/
theorem gridPoint_roundsTo (pos : 0 < m)
    (some_point : gridPoint tie (Interval.of m q) e = some found) : RoundsTo m q found.value := by
  obtain ⟨same, held⟩ := gridPoint_spec some_point
  rw [Interval.holds_tenPower_iff pos, ← same] at held
  exact held

/-- The search ends at a point that rounds to the float, if the last grid is fine enough. -/
theorem searchGrids_roundsTo (pos : 0 < m)
    (fine : (10 : ℚ) ^ (k - ((n + fuel : Nat) : Int)) < (gapBelow m q + 1 / 2) * 2 ^ q) :
    RoundsTo m q (searchGrids tie (Interval.of m q) k (fuel + 1) n).value := by
  induction fuel generalizing n with
  | zero =>
    rw [searchGrids]
    split
    · next d some_point => exact gridPoint_roundsTo pos some_point
    · next no_point => exact absurd no_point (gridPoint_isSome pos fine)
  | succ fuel ih =>
    rw [searchGrids]
    split
    · next d some_point => exact gridPoint_roundsTo pos some_point
    · refine ih ?_
      rwa [Nat.add_right_comm]

theorem Canonical.value_bounds (c : Canonical m q) : (2 : ℚ) ^ q ≤ m * 2 ^ q ∧
    (m : ℚ) * 2 ^ q < 2 ^ (53 + q) := by
  have unit := two_zpow_pos q
  have whole : (1 : ℚ) ≤ m := by exact_mod_cast c.pos
  have short : (m : ℚ) < 2 ^ (53 : Int) := by exact_mod_cast c.lt
  refine ⟨le_mul_of_one_le_left unit.le whole, ?_⟩
  rw [zpow_add₀ two_ne_zero]
  exact mul_lt_mul_of_pos_right short unit

/-- From where the count starts, its last power of ten is not above the float. -/
theorem start_le {l : Int} (greatest : l < 1024) (least : -1076 < l) :
    (10 : ℚ) ^ (l * 30103 / 100000 + 1 - (4 : Nat)) ≤ 2 ^ l := by
  refine ten_zpow_le_two_zpow (fun up => ?_) (fun down => ?_)
  · omega
  · omega

/-- The seventeenth digit of a float is worth less than its interval is wide. -/
theorem seventeenth_lt (c : Canonical m q) (power : (10 : ℚ) ^ k ≤ m * 2 ^ q) :
    (10 : ℚ) ^ (k - 16) < (gapBelow m q + 1 / 2) * 2 ^ q := by
  have unit := two_zpow_pos q
  have narrow : (m : ℚ) / 10 ^ 16 < gapBelow m q + 1 / 2 := by
    have whole : (m : ℚ) < 2 ^ 53 := by exact_mod_cast c.lt
    unfold gapBelow
    split
    · next dense =>
      rw [dense.1]
      norm_num
    · rw [div_lt_iff₀ (by norm_num)]
      norm_num at whole ⊢
      linarith
  calc (10 : ℚ) ^ (k - 16) = 10 ^ k / 10 ^ 16 := zpow_sub₀ (by norm_num) _ _
    _ ≤ m * 2 ^ q / 10 ^ 16 := div_le_div_of_nonneg_right power (by norm_num)
    _ = m / 10 ^ 16 * 2 ^ q := by ring
    _ < (gapBelow m q + 1 / 2) * 2 ^ q := mul_lt_mul_of_pos_right narrow unit

/-- The shortest digits of a float round to it. -/
theorem shortest_roundsTo (c : Canonical m q) (tie : Tie) :
    RoundsTo m q (shortest tie m q).value := by
  have pos_den := Interval.den_pos m q
  have mid := Interval.mid_div m q
  have pos_mid : 0 < (Interval.of m q).mid := by
    refine Nat.pos_of_ne_zero fun zero => ?_
    have positive : (0 : ℚ) < m * 2 ^ q := mul_pos (by exact_mod_cast c.pos) (two_zpow_pos q)
    rw [zero, Nat.cast_zero, zero_div] at mid
    exact absurd mid positive.ne
  obtain ⟨low, high⟩ := floorLog2_bounds pos_mid pos_den
  unfold shortest
  dsimp only
  generalize floorLog2 (Interval.of m q).mid (Interval.of m q).den = l at low high ⊢
  rw [mid] at low high
  obtain ⟨least_le, lt_greatest⟩ := c.value_bounds
  have upper : l < 53 + q :=
    (zpow_lt_zpow_iff_right₀ one_lt_two).mp (low.trans_lt lt_greatest)
  have lower : q < l + 1 := (zpow_lt_zpow_iff_right₀ one_lt_two).mp (least_le.trans_lt high)
  have least := c.least
  have greatest := c.greatest
  have started := (start_le (by omega) (by omega)).trans low
  rw [← mid] at started
  have power := floorLog10_le pos_den started
  generalize floorLog10 _ _ _ _ = k at power ⊢
  rw [mid] at power
  refine searchGrids_roundsTo c.pos ?_
  have fine := seventeenth_lt c power
  rwa [show k + 1 - ((0 + 17 : Nat) : Int) = k - 16 by omega]

end PrecheckLoad.Decimal
