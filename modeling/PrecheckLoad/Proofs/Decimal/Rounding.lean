import Mathlib.Algebra.Order.Field.Power
import Mathlib.Algebra.Order.Ring.Rat
import Mathlib.Data.Rat.Cast.Order
import Mathlib.Tactic.FieldSimp
import Mathlib.Tactic.Linarith
import Mathlib.Tactic.NormNum
import Mathlib.Tactic.Positivity
import Mathlib.Tactic.Ring
import PrecheckLoad.Decimal

/-!
# Rounding to floats

A positive float is `m · 2^q`. The reals that round to it lie between the middles to its neighbours,
and the middles belong to the one of even significand. What is read from a fraction in that interval
is that float: scaled to the exponent of the fraction, the nearest whole number is its significand,
or the next power of two below, where the binade ends.
-/
namespace PrecheckLoad.Decimal

/-- A significand and an exponent as floats have them. -/
structure Canonical (m : Nat) (q : Int) : Prop where
  pos : 0 < m
  lt : m < 2 ^ 53
  least : -1074 ≤ q
  greatest : q ≤ 971
  normal : 2 ^ 52 ≤ m ∨ q = -1074

/-- How far the middle to the next float below is away, in units of the last place. Below the least
significand of a binade floats are twice as dense. -/
def gapBelow (m : Nat) (q : Int) : ℚ :=
  if m = 2 ^ 52 ∧ q > -1074 then 1 / 4 else 1 / 2

/-- The numbers that round to `m · 2^q`. -/
structure RoundsTo (m : Nat) (q : Int) (x : ℚ) : Prop where
  low : (m - gapBelow m q) * 2 ^ q ≤ x
  high : x ≤ (m + 1 / 2) * 2 ^ q
  ends : x = (m - gapBelow m q) * 2 ^ q ∨ x = (m + 1 / 2) * 2 ^ q → m % 2 = 0

variable {m n d num den : Nat} {q e : Int} {x : ℚ}

theorem two_zpow_pos (q : Int) : (0 : ℚ) < 2 ^ q := zpow_pos (by norm_num) q

theorem ten_zpow_pos (e : Int) : (0 : ℚ) < 10 ^ e := zpow_pos (by norm_num) e

theorem scaleTwo_pos (num : Nat) (pos : 0 < den) (q : Int) : 0 < (scaleTwo num den q).2 := by
  cases q with
  | ofNat k => exact pos
  | negSucc k => exact Nat.mul_pos pos (Nat.pow_pos (by decide))

theorem scaleTwo_div (num den : Nat) (q : Int) :
    ((scaleTwo num den q).1 : ℚ) / (scaleTwo num den q).2 = num / den * 2 ^ q := by
  cases q with
  | ofNat k =>
    rw [scaleTwo, Int.ofNat_eq_natCast, zpow_natCast, Nat.pow_eq]
    push_cast
    ring
  | negSucc k =>
    rw [scaleTwo, zpow_negSucc, Nat.pow_eq]
    push_cast
    field_simp

theorem tenPower_pos (e : Int) : 0 < (tenPower e).2 := by
  cases e with
  | ofNat k => exact Nat.one_pos
  | negSucc k => exact Nat.pow_pos (by decide)

theorem tenPower_div (e : Int) : ((tenPower e).1 : ℚ) / (tenPower e).2 = 10 ^ e := by
  cases e with
  | ofNat k =>
    rw [tenPower, Int.ofNat_eq_natCast, zpow_natCast, Nat.pow_eq]
    push_cast
    ring
  | negSucc k =>
    rw [tenPower, zpow_negSucc, Nat.pow_eq]
    push_cast
    field_simp

theorem lt_iff_div_lt_one (pos : 0 < d) : n < d ↔ (n : ℚ) / d < 1 := by
  have pos' : (0 : ℚ) < d := by exact_mod_cast pos
  rw [div_lt_one pos', Nat.cast_lt]

/-- The logarithms of both parts leave two places for that of a fraction. -/
theorem div_bounds (pos : 0 < num) (pos_den : 0 < den) :
    (2 : ℚ) ^ ((num.log2 : Int) - den.log2 - 1) ≤ num / den ∧
      (num / den : ℚ) < 2 ^ ((num.log2 : Int) - den.log2 + 1) := by
  have num_low : (2 : ℚ) ^ (num.log2 : Int) ≤ num := by
    rw [zpow_natCast]
    exact_mod_cast Nat.log2_self_le (Nat.pos_iff_ne_zero.mp pos)
  have num_high : (num : ℚ) < 2 ^ ((num.log2 : Int) + 1) := by
    rw [← Nat.cast_one, ← Nat.cast_add, zpow_natCast]
    exact_mod_cast Nat.lt_log2_self
  have den_low : (2 : ℚ) ^ (den.log2 : Int) ≤ den := by
    rw [zpow_natCast]
    exact_mod_cast Nat.log2_self_le (Nat.pos_iff_ne_zero.mp pos_den)
  have den_high : (den : ℚ) < 2 ^ ((den.log2 : Int) + 1) := by
    rw [← Nat.cast_one, ← Nat.cast_add, zpow_natCast]
    exact_mod_cast Nat.lt_log2_self
  have pos' : (0 : ℚ) < den := by exact_mod_cast pos_den
  constructor
  · rw [le_div_iff₀ pos']
    calc (2 : ℚ) ^ ((num.log2 : Int) - den.log2 - 1) * den
        ≤ 2 ^ ((num.log2 : Int) - den.log2 - 1) * 2 ^ ((den.log2 : Int) + 1) := by
          gcongr
      _ = 2 ^ (num.log2 : Int) := by
          rw [← zpow_add₀ two_ne_zero]
          congr 1
          ring
      _ ≤ num := num_low
  · rw [div_lt_iff₀ pos']
    calc (num : ℚ) < 2 ^ ((num.log2 : Int) + 1) := num_high
      _ = 2 ^ ((num.log2 : Int) - den.log2 + 1) * 2 ^ (den.log2 : Int) := by
          rw [← zpow_add₀ two_ne_zero]
          congr 1
          ring
      _ ≤ 2 ^ ((num.log2 : Int) - den.log2 + 1) * den := by
          gcongr

/-- The greatest power of two that is not above a fraction. -/
theorem floorLog2_bounds (pos : 0 < num) (pos_den : 0 < den) :
    (2 : ℚ) ^ floorLog2 num den ≤ num / den ∧ (num / den : ℚ) < 2 ^ (floorLog2 num den + 1) := by
  obtain ⟨low, high⟩ := div_bounds pos pos_den
  unfold floorLog2
  generalize (num.log2 : Int) - den.log2 = k at low high ⊢
  have below : (scaleTwo num den (-k)).1 < (scaleTwo num den (-k)).2 ↔ (num / den : ℚ) < 2 ^ k := by
    rw [lt_iff_div_lt_one (scaleTwo_pos num pos_den _), scaleTwo_div, zpow_neg,
      ← div_eq_mul_inv, div_lt_one (two_zpow_pos k)]
  dsimp only
  split
  · next small =>
    rw [sub_add_cancel]
    exact ⟨low, below.mp small⟩
  · next large => exact ⟨not_lt.mp (mt below.mpr large), high⟩

/-- A fraction within a half of a whole number is rounded to it, where a tie needs it even. -/
theorem roundEven_eq (pos : 0 < d) (low : (m : ℚ) - 1 / 2 ≤ n / d) (high : (n : ℚ) / d ≤ m + 1 / 2)
    (ends : (n : ℚ) / d = m - 1 / 2 ∨ (n : ℚ) / d = m + 1 / 2 → m % 2 = 0) : roundEven n d = m := by
  have pos' : (0 : ℚ) < d := by exact_mod_cast pos
  have low' : 2 * (d * m) ≤ 2 * n + d := by
    rw [le_div_iff₀ pos'] at low
    have : (2 * (d * m) : ℚ) ≤ 2 * n + d := by linarith
    exact_mod_cast this
  have high' : 2 * n ≤ 2 * (d * m) + d := by
    rw [div_le_iff₀ pos'] at high
    have : (2 * n : ℚ) ≤ 2 * (d * m) + d := by linarith
    exact_mod_cast this
  have ends' : 2 * n + d = 2 * (d * m) ∨ 2 * n = 2 * (d * m) + d → m % 2 = 0 := by
    rintro (tie | tie)
    · have : (2 * n + d : ℚ) = 2 * (d * m) := by exact_mod_cast tie
      refine ends (.inl ?_)
      rw [div_eq_iff (ne_of_gt pos')]
      linarith
    · have : (2 * n : ℚ) = 2 * (d * m) + d := by exact_mod_cast tie
      refine ends (.inr ?_)
      rw [div_eq_iff (ne_of_gt pos')]
      linarith
  have parts : d * (n / d) + n % d = n := Nat.div_add_mod n d
  have rest : n % d < d := Nat.mod_lt n pos
  unfold roundEven
  generalize n / d = k at parts ⊢
  generalize n % d = r at parts rest ⊢
  dsimp only
  -- The quotient is the whole number or the one below it, as all others are too far away.
  obtain far | rfl | rfl | far : m + 1 ≤ k ∨ m = k ∨ m = k + 1 ∨ k + 2 ≤ m := by omega
  · have := Nat.mul_le_mul_left d far
    rw [Nat.mul_add] at this
    omega
  · split
    · rfl
    · split
      · omega
      · rw [if_pos (ends' (by omega))]
  · rw [Nat.mul_add] at low' high' ends'
    split
    · omega
    · split
      · rfl
      · have := ends' (by omega)
        rw [if_neg (by omega)]
  · have := Nat.mul_le_mul_left d far
    rw [Nat.mul_add] at this
    omega

theorem nearestBits_eq (pos : 0 < num) (pos_den : 0 < den)
    (exponent : max (-1074) (floorLog2 num den - 52) = q)
    (low : (m : ℚ) - 1 / 2 ≤ num / den * 2 ^ (-q)) (high : (num / den * 2 ^ (-q) : ℚ) ≤ m + 1 / 2)
    (ends : (num / den * 2 ^ (-q) : ℚ) = m - 1 / 2 ∨ (num / den * 2 ^ (-q) : ℚ) = m + 1 / 2 →
      m % 2 = 0)
    (fits : (q + 1074).toNat * 2 ^ 52 + m ≤ 2047 * 2 ^ 52) :
    nearestBits num den = (q + 1074).toNat * 2 ^ 52 + m := by
  rw [← scaleTwo_div] at low high ends
  have rounded := roundEven_eq (scaleTwo_pos num pos_den (-q)) low high ends
  unfold nearestBits
  rw [if_neg (by omega)]
  dsimp only
  rw [exponent, rounded, Nat.pow_eq]
  exact Nat.min_eq_left fits

theorem gapBelow_le (m : Nat) (q : Int) : gapBelow m q ≤ 1 / 2 := by
  unfold gapBelow
  split
  · norm_num
  · exact le_refl _

theorem gapBelow_pos (m : Nat) (q : Int) : 0 < gapBelow m q := by
  unfold gapBelow
  split
  · norm_num
  · norm_num

theorem lt_zpow_add_iff {k : Int} : x < 2 ^ (k + q) ↔ x * 2 ^ (-q) < 2 ^ k := by
  rw [zpow_neg, ← div_eq_mul_inv, div_lt_iff₀ (two_zpow_pos q), ← zpow_add₀ two_ne_zero]

namespace RoundsTo

theorem pos (c : Canonical m q) (r : RoundsTo m q x) : 0 < x := by
  have whole : (1 : ℚ) ≤ m := by exact_mod_cast c.pos
  have gap := gapBelow_le m q
  have positive : 0 < (m - gapBelow m q) * (2 : ℚ) ^ q :=
    mul_pos (by linarith) (two_zpow_pos q)
  exact positive.trans_le r.low

/-- In units of the last place. -/
theorem scaled (r : RoundsTo m q x) : (m : ℚ) - gapBelow m q ≤ x * 2 ^ (-q) ∧
    x * 2 ^ (-q) ≤ (m : ℚ) + 1 / 2 ∧
    (x * 2 ^ (-q) = (m : ℚ) - gapBelow m q ∨ x * 2 ^ (-q) = (m : ℚ) + 1 / 2 → m % 2 = 0) := by
  have unit := two_zpow_pos q
  rw [zpow_neg, ← div_eq_mul_inv]
  refine ⟨(le_div_iff₀ unit).mpr r.low, (div_le_iff₀ unit).mpr r.high, fun tie => r.ends ?_⟩
  rwa [div_eq_iff (ne_of_gt unit), div_eq_iff (ne_of_gt unit)] at tie

theorem lt_binade (c : Canonical m q) (r : RoundsTo m q x) : x < 2 ^ (53 + q) := by
  obtain ⟨-, high, -⟩ := r.scaled
  have whole : (m : ℚ) + 1 ≤ 2 ^ (53 : Int) := by exact_mod_cast c.lt
  rw [lt_zpow_add_iff]
  linarith

/-- A number that rounds up into the next binade rounds to where that begins. -/
theorem of_below_binade (c : Canonical m q) (r : RoundsTo m q x) (below : x < 2 ^ (52 + q))
    (inner : -1074 < q) : m = 2 ^ 52 ∧ (2 : ℚ) ^ (52 : Int) - 1 / 4 ≤ x * 2 ^ (-q) := by
  have normal : 2 ^ 52 ≤ m := c.normal.resolve_right (by omega)
  obtain ⟨low, -, -⟩ := r.scaled
  rw [lt_zpow_add_iff] at below
  have gap := gapBelow_le m q
  have least : m = 2 ^ 52 := by
    by_contra other
    have more : 2 ^ 52 + 1 ≤ m := by omega
    have more' : (2 : ℚ) ^ (52 : Int) + 1 ≤ m := by exact_mod_cast more
    linarith
  refine ⟨least, ?_⟩
  rw [gapBelow, if_pos ⟨least, inner⟩, least] at low
  exact_mod_cast low

end RoundsTo

theorem exponent_eq {k l : Int} (low : (2 : ℚ) ^ k ≤ x) (high : x < 2 ^ (k + 1)) (low' : 2 ^ l ≤ x)
    (high' : x < 2 ^ (l + 1)) : k = l := by
  have lt : k < l + 1 := (zpow_lt_zpow_iff_right₀ one_lt_two).mp (low.trans_lt high')
  have gt : l < k + 1 := (zpow_lt_zpow_iff_right₀ one_lt_two).mp (low'.trans_lt high)
  omega

/-- Below the binade the exponent is one less, and the significand is rounded to a power of two. -/
theorem nearestBits_of_below_binade (c : Canonical m q) (pos : 0 < num) (pos_den : 0 < den)
    (r : RoundsTo m q (num / den)) (below : (num / den : ℚ) < 2 ^ (52 + q)) (inner : -1074 < q) :
    nearestBits num den = (q + 1074).toNat * 2 ^ 52 + m := by
  obtain ⟨low, high⟩ := floorLog2_bounds pos pos_den
  obtain ⟨rfl, near⟩ := r.of_below_binade c below inner
  have short := lt_zpow_add_iff.mp below
  have greatest := c.greatest
  have exponent : floorLog2 num den = 51 + q := by
    refine exponent_eq low high ?_ ?_
    · rw [← not_lt, lt_zpow_add_iff, not_lt]
      refine le_trans ?_ near
      norm_num
    · rw [show 51 + q + 1 = 52 + q by ring]
      exact below
  have doubled : (num / den * 2 ^ (-(q - 1)) : ℚ) = 2 * (num / den * 2 ^ (-q)) := by
    rw [show -(q - 1) = 1 + -q by ring, zpow_add₀ two_ne_zero, zpow_one]
    ring
  generalize (num / den * 2 ^ (-q) : ℚ) = u at near short doubled
  have near' : (2 ^ 53 : Nat) - (1 : ℚ) / 2 ≤ 2 * u := by
    norm_num at near ⊢
    linarith
  have short' : 2 * u ≤ (2 ^ 53 : Nat) + (1 : ℚ) / 2 := by
    norm_num at short ⊢
    linarith
  rw [← doubled] at near' short'
  rw [nearestBits_eq pos pos_den (by omega) near' short' (fun _ => by decide) (by omega)]
  omega

/-- A fraction that rounds to a float is read as that float. -/
theorem nearestBits_of_roundsTo (c : Canonical m q) (pos_den : 0 < den)
    (r : RoundsTo m q (num / den)) : nearestBits num den = (q + 1074).toNat * 2 ^ 52 + m := by
  have positive := r.pos c
  have pos : 0 < num := by
    refine Nat.pos_of_ne_zero fun zero => ?_
    rw [zero, Nat.cast_zero, zero_div] at positive
    exact lt_irrefl _ positive
  by_cases below : (num / den : ℚ) < 2 ^ (52 + q) ∧ -1074 < q
  · exact nearestBits_of_below_binade c pos pos_den r below.1 below.2
  · obtain ⟨low, high⟩ := floorLog2_bounds pos pos_den
    obtain ⟨scaled_low, scaled_high, ends⟩ := r.scaled
    have m_lt := c.lt
    have least := c.least
    have greatest := c.greatest
    have exponent : max (-1074) (floorLog2 num den - 52) = q := by
      have upper : floorLog2 num den < 53 + q :=
        (zpow_lt_zpow_iff_right₀ one_lt_two).mp (low.trans_lt (r.lt_binade c))
      rcases not_and_or.mp below with above | outer
      · have lower : 52 + q < floorLog2 num den + 1 :=
          (zpow_lt_zpow_iff_right₀ one_lt_two).mp ((not_lt.mp above).trans_lt high)
        omega
      · omega
    have gap := gapBelow_le m q
    refine nearestBits_eq pos pos_den exponent (by linarith) scaled_high (fun tie => ?_) (by omega)
    rcases tie with low_end | high_end
    · by_cases dense : m = 2 ^ 52 ∧ q > -1074
      · rw [dense.1]
        decide
      · refine ends (.inl ?_)
        rw [low_end, gapBelow, if_neg dense]
    · exact ends (.inr high_end)

theorem lt_ten_pow_length (n : Nat) : (n : ℚ) < 10 ^ ((Nat.toDigits 10 n).length : Int) := by
  rw [zpow_natCast]
  exact_mod_cast (Nat.length_toDigits_le_iff (by decide) Nat.length_toDigits_pos).mp (Nat.le_refl _)

theorem greatest_lt : (2 : ℚ) ^ (1024 : Int) ≤ 10 ^ (401 : Int) := by
  have whole : 2 ^ 1024 ≤ 10 ^ 401 := by decide +kernel
  exact_mod_cast whole

theorem least_gt : (10 : ℚ) ^ (-401 : Int) ≤ 1 / 2 * 2 ^ (-1074 : Int) := by
  have whole : 2 ^ 1075 ≤ 10 ^ 401 := by decide +kernel
  have whole' : (2 : ℚ) ^ (1075 : Int) ≤ 10 ^ (401 : Int) := by exact_mod_cast whole
  calc (10 : ℚ) ^ (-401 : Int) = (10 ^ (401 : Int))⁻¹ := zpow_neg _ _
    _ ≤ (2 ^ (1075 : Int))⁻¹ := inv_anti₀ (two_zpow_pos _) whole'
    _ = 2 ^ (-1 : Int) * 2 ^ (-1074 : Int) := by
        rw [← zpow_neg, ← zpow_add₀ two_ne_zero]
        rfl
    _ = 1 / 2 * 2 ^ (-1074 : Int) := by rw [zpow_neg_one, one_div]

/-- No float is beyond `10^400`. -/
theorem exponent_le (c : Canonical m q) (r : RoundsTo m q (n * 10 ^ e)) (pos : n ≠ 0) :
    e ≤ 400 := by
  have whole : (1 : ℚ) ≤ n := by exact_mod_cast Nat.one_le_iff_ne_zero.mpr pos
  have greatest := c.greatest
  have short : (10 : ℚ) ^ e < 10 ^ (401 : Int) := by
    calc (10 : ℚ) ^ e ≤ n * 10 ^ e := le_mul_of_one_le_left (ten_zpow_pos e).le whole
      _ < 2 ^ (53 + q) := r.lt_binade c
      _ ≤ 2 ^ (1024 : Int) := zpow_le_zpow_right₀ one_le_two (by omega)
      _ ≤ 10 ^ (401 : Int) := greatest_lt
  have lt := (zpow_lt_zpow_iff_right₀ (by norm_num)).mp short
  omega

/-- No float but zero is below `10^-400`. -/
theorem length_add_exponent_ge (c : Canonical m q) (r : RoundsTo m q (n * 10 ^ e)) :
    -400 ≤ ((Nat.toDigits 10 n).length : Int) + e := by
  have whole : (1 : ℚ) ≤ m := by exact_mod_cast c.pos
  have gap := gapBelow_le m q
  have least := c.least
  have long : (10 : ℚ) ^ (-401 : Int) < 10 ^ ((Nat.toDigits 10 n).length + e) := by
    calc (10 : ℚ) ^ (-401 : Int) ≤ 1 / 2 * 2 ^ (-1074 : Int) := least_gt
      _ ≤ 1 / 2 * 2 ^ q := by gcongr; norm_num
      _ ≤ (m - gapBelow m q) * 2 ^ q := by gcongr; linarith
      _ ≤ n * 10 ^ e := r.low
      _ < 10 ^ ((Nat.toDigits 10 n).length : Int) * 10 ^ e :=
          mul_lt_mul_of_pos_right (lt_ten_pow_length n) (ten_zpow_pos e)
      _ = 10 ^ ((Nat.toDigits 10 n).length + e) := (zpow_add₀ (by norm_num) _ _).symm
  have lt := (zpow_lt_zpow_iff_right₀ (by norm_num)).mp long
  omega

/-- A decimal fraction that rounds to a float is read as that float. -/
theorem nearestTen_of_roundsTo (c : Canonical m q) (r : RoundsTo m q (n * 10 ^ e))
    (negative : Bool) : nearestTen negative n e =
      withSign negative ((q + 1074).toNat * 2 ^ 52 + m) := by
  have pos : n ≠ 0 := by
    rintro rfl
    have := r.pos c
    rw [Nat.cast_zero, zero_mul] at this
    exact lt_irrefl _ this
  have upper := exponent_le c r pos
  have lower := length_add_exponent_ge c r
  unfold nearestTen
  rw [if_neg pos, if_neg (by omega)]
  dsimp only
  rw [if_neg (by omega)]
  cases e with
  | ofNat k =>
    have same : ((n * Nat.pow 10 k : Nat) : ℚ) / (1 : Nat) = n * 10 ^ Int.ofNat k := by
      rw [Int.ofNat_eq_natCast, zpow_natCast, Nat.pow_eq]
      push_cast
      ring
    dsimp only
    rw [nearest, nearestBits_of_roundsTo c Nat.one_pos (same ▸ r)]
  | negSucc k =>
    have same : (n : ℚ) / (Nat.pow 10 (k + 1) : Nat) = n * 10 ^ Int.negSucc k := by
      rw [zpow_negSucc, Nat.pow_eq]
      push_cast
      rw [div_eq_mul_inv]
    have pos_den : 0 < Nat.pow 10 (k + 1) := Nat.pow_pos (by decide)
    dsimp only
    rw [nearest, nearestBits_of_roundsTo c pos_den (same ▸ r)]

end PrecheckLoad.Decimal
